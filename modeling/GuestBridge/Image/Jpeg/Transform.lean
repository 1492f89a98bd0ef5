import GuestBridge.Image.Jpeg.Block

/-!
# From coefficients to samples

The inverse transform works in integers of 32 bits, first on the columns of a block, which keep two
extra bits, and then on its rows. A block that has only its first coefficient is even.
-/

namespace GuestBridge.Image.Jpeg

def clampByte (v : Int32) : UInt8 :=
  if v < 0 then 0 else if 255 < v then 255 else UInt8.ofNat v.toInt.toNat

/-- Eight numbers through the inverse transform, before the final shift. -/
def transform (round : Int32) (c : Nat → Int32) : List Int32 :=
  let p1 := (c 2 + c 6) * 2217
  let t2 := p1 + c 6 * -7567
  let t3 := p1 + c 2 * 3135
  let t0 := (c 0 + c 4) * 4096
  let t1 := (c 0 - c 4) * 4096
  let x0 := t0 + t3 + round
  let x3 := t0 - t3 + round
  let x1 := t1 + t2 + round
  let x2 := t1 - t2 + round
  let p3 := c 7 + c 3
  let p4 := c 5 + c 1
  let p5 := (p3 + p4) * 4816
  let p1 := p5 + (c 7 + c 1) * -3685
  let p2 := p5 + (c 5 + c 3) * -10497
  let p3 := p3 * -8034
  let p4 := p4 * -1597
  let y3 := c 1 * 6149 + p1 + p4
  let y2 := c 3 * 12586 + p2 + p3
  let y1 := c 5 * 8410 + p2 + p4
  let y0 := c 7 * 1223 + p1 + p3
  [x0 + y3, x1 + y2, x2 + y1, x3 + y0, x3 - y0, x2 - y1, x1 - y2, x0 - y3]

/-- The samples of a block, row by row. -/
def Block.samples (b : Block) : ByteArray :=
  if b.all (· == 0) 1 then uniform 64 (clampByte ((b.get 0 + 1028) >>> (3 : Int32)))
  else
    let columns := (List.range 8).flatMap fun x =>
      (transform 512 fun i => b.get (x + 8 * i)).map fun v => v >>> (10 : Int32)
    let columns : Block := columns.toArray
    let rows := (List.range 8).flatMap fun y =>
      (transform (512 + 65536 + 128 * 131072) fun x => columns.get (8 * x + y)).map fun v =>
        clampByte (v >>> (17 : Int32))
    rows.toByteArray

end GuestBridge.Image.Jpeg
