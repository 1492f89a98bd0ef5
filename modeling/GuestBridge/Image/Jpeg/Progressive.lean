import GuestBridge.Image.Jpeg.Sequential

/-!
# Progressive scans

The scans of a progressive image bring first the first coefficients of all blocks and then, for one
component at a time, some of the others. Later scans add one more bit to the coefficients that are
there. A damaged scan is the last one; the picture is made of what has been read.
-/

namespace GuestBridge.Image.Jpeg

/-- The coefficients of a component, block after block. -/
abbrev Coefficients := Array Int32

namespace Block

/-- Adds the next bit to a coefficient, away from zero, unless it is there. -/
def extend (bit v : Int32) : Int32 :=
  if v &&& bit = 0 then short (if 0 ≤ v then v + bit else v - bit) else v

/-- Whether a coefficient other than the first one is there. -/
def hasFurther (base : Nat) (cs : Coefficients) : Bool :=
  (List.range 63).any fun i => get cs (base + i + 1) != 0

/-- Fills the window if there is no bit to read. -/
def refillOne (s : CodedBits) : Option CodedBits := if s.count = 0 then s.refill else some s

end Block

/-- Reads into the coefficients of a component. What has been written stays when reading fails. -/
abbrev Filling (α : Type) := OptionT (StateM Coefficients) α

namespace Filling

/-- Fails if there is no value. -/
def ofOption {α : Type} (value : Option α) : Filling α := OptionT.mk (pure value)

def read (i : Nat) : Filling Int32 := return Block.get (← get) i

def write (i : Nat) (v : Int32) : Filling Unit := modify fun cs => cs.setIfInBounds i v

/-- Reads the further coefficients of the block at `base` from number `k` to the scan's last. -/
def readFurther (code : PrefixCode) (scan : Scan) (base : Nat) :
    (fuel : Nat) → (k : Nat) → CodedBits → Filling CodedBits
  | 0, _, s => return s
  | fuel + 1, k, s => do
    match ← ofOption (Block.readItem code k s) with
    | (.finish run, s) =>
      let (v, s) := s.number run
      return { s with emptyBlocks := (1 <<< run) + v - 1 }
    | (.zeros, s) =>
      if scan.last < k + 16 then return s else readFurther code scan base fuel (k + 16) s
    | (.coefficient place value, s) =>
      write (base + zigzagPlace place) (Block.short (value <<< Int32.ofNat scan.low))
      if scan.last < place + 1 then return s else readFurther code scan base fuel (place + 1) s

/-- Reads one more bit of a coefficient that is there. -/
def refine (bit : Int32) (i : Nat) (v : Int32) (s : CodedBits) : Filling CodedBits := do
  let (isSet, s) := s.flag
  if isSet then write i (Block.extend bit v)
  ofOption (Block.refillOne s)

/-- Reads one more bit of the coefficients from number `k` on, until `zeros` that are still zero
have been passed and the next one comes, or the last one of the scan. -/
def refineRun (bit : Int32) (scan : Scan) (base : Nat) :
    (fuel : Nat) → (k zeros : Nat) → CodedBits → Filling (Nat × CodedBits)
  | 0, k, _, s => return (k, s)
  | fuel + 1, k, zeros, s => do
    let i := base + zigzagPlace k
    let v ← read i
    if v = 0 then
      if zeros = 0 || k = scan.last then return (k, s)
      refineRun bit scan base fuel (k + 1) (zeros - 1) s
    else
      let s ← refine bit i v s
      if s.count = 0 then failure
      if k = scan.last then return (k, s)
      refineRun bit scan base fuel (k + 1) zeros s

/-- Reads one more bit of all coefficients from number `k` to the last of the scan. -/
def refineRest (bit : Int32) (scan : Scan) (base : Nat) :
    (fuel : Nat) → (k : Nat) → CodedBits → Filling CodedBits
  | 0, _, s => return s
  | fuel + 1, k, s => do
    if scan.last < k then return s
    let i := base + zigzagPlace k
    let v ← read i
    let s ← if v = 0 then ofOption (Block.refillOne s) else refine bit i v s
    refineRest bit scan base fuel (k + 1) s

/-- Reads new coefficients of one bit, and one more bit of those that are there, from `k` on. -/
def refineItems (code : PrefixCode) (bit : Int32) (scan : Scan) (base : Nat) :
    (fuel : Nat) → (k : Nat) → CodedBits → Filling (Nat × CodedBits)
  | 0, k, s => return (k, s)
  | fuel + 1, k, s => do
    let s ← ofOption s.refill
    let (symbol, s) ← ofOption (s.symbol code)
    let run := symbol / 16
    let size := symbol % 16
    if size = 0 && run ≠ 15 then
      let (v, s) := s.number run
      return (k, { s with emptyBlocks := (1 <<< run) + v })
    let (value, s) : Int32 × CodedBits :=
      if size = 0 then (0, s)
      else
        let (isPositive, s) := s.flag
        (if isPositive then bit else -bit, s)
    let (k, s) ← if k ≤ scan.last then refineRun bit scan base 64 k run s else pure (k, s)
    if value ≠ 0 then write (base + zigzagPlace k) value
    if scan.last < k + 1 then return (k + 1, s)
    refineItems code bit scan base fuel (k + 1) s

/-- Reads one more bit of the further coefficients of the block at `base`. -/
def refineBlock (code : PrefixCode) (scan : Scan) (base : Nat) (s : CodedBits) :
    Filling CodedBits := do
  let bit : Int32 := 1 <<< Int32.ofNat scan.low
  let (k, s) ←
    if s.emptyBlocks = 0 then refineItems code bit scan base 65 scan.first s
    else pure (scan.first, s)
  if s.emptyBlocks = 0 then return s
  let s ←
    if Block.hasFurther base (← get) then refineRest bit scan base 65 k (← ofOption s.refill)
    else pure s
  return { s with emptyBlocks := s.emptyBlocks - 1 }

/-- The code for the first coefficients of a component. Of its number, a scan of one component only
regards the last two bits. -/
def firstCode (r : Reading) (place : Nat) : Option PrefixCode := do
  let number := (← r.component? place).dcCode
  r.setup.dcCodes.lookup (if r.setup.scan.components.length = 1 then number % 4 else number)

/-- The code for the further coefficients of a component. -/
def furtherCode (r : Reading) (place : Nat) : Option PrefixCode := do
  r.setup.acCodes.lookup (← r.component? place).acCode

/-- Reads what a scan brings of the first coefficient of the block at `base`. -/
def readFirst (r : Reading) (place base : Nat) : Filling Reading := do
  let scan := r.setup.scan
  let code ← ofOption (firstCode r place)
  if scan.high = 0 then
    let (difference, bits) ← ofOption (Block.readDifference code r.bits)
    let dc := (r.predictions[place]?).getD 0 + difference
    write base (Block.short (dc <<< Int32.ofNat scan.low))
    return { r with bits, predictions := r.predictions.setIfInBounds place dc }
  else
    let bits ← ofOption (Block.refillOne r.bits)
    if bits.count = 0 then failure
    let (isSet, bits) := bits.flag
    if isSet then write base (Block.short ((← read base) + (1 <<< Int32.ofNat scan.low)))
    return { r with bits }

/-- Reads what a scan brings of the block at `base`. A scan of several components only has first
coefficients. -/
def readBlock (r : Reading) (place base : Nat) : Filling Reading := do
  let scan := r.setup.scan
  if scan.first = 0 || 1 < scan.components.length then readFirst r place base
  else
    let code ← ofOption (furtherCode r place)
    let s := r.bits
    let bits ←
      if scan.high ≠ 0 then refineBlock code scan base s
      else if s.emptyBlocks ≠ 0 then pure { s with emptyBlocks := s.emptyBlocks - 1 }
      else readFurther code scan base 65 scan.first s
    return { r with bits }

end Filling

namespace Layout

/-- Blocks in a row of all units. -/
def blocksAcross (c : Channel) : Nat := c.stride / 8

/-- Reads what a scan brings of a block, which has to be one of the image. -/
def readCoefficients (r : Reading) (place base : Nat) (all : Array Coefficients) :
    Option Reading × Array Coefficients :=
  let cs := (all[place]?).getD #[]
  if cs.size < base + 64 then (none, all)
  else
    let all := all.setIfInBounds place #[]
    let (r, cs) := (Filling.readBlock r place base).run.run cs
    (r, all.setIfInBounds place cs)

/-- Reads what a scan brings of the blocks at some places. -/
def readAll (r : Reading) : List (Nat × Nat) → Array Coefficients →
    Option Reading × Array Coefficients
  | [], all => (some r, all)
  | (place, base) :: blocks, all =>
    match readCoefficients r place base all with
    | (some r, all) => readAll r blocks all
    | (none, all) => (none, all)

/-- Reads what a scan brings of the units with these blocks; none if the scan is damaged. -/
def readScanUnits (r : Reading) : List (List (Nat × Nat)) → Array Coefficients →
    Option Reading × Array Coefficients
  | [], all => (some r, all)
  | unit :: units, all =>
    match readAll r unit all with
    | (none, all) => (none, all)
    | (some r, all) =>
      match if r.isLastOfInterval then r.countUnit.seekRestart else some r.countUnit with
      | some r => readScanUnits r units all
      | none => (none, all)

/-- The units of a scan of one component are the blocks that cover it. -/
def singleUnits (l : Layout) (place : Nat) : List (List (Nat × Nat)) :=
  let c := l.channel place
  (List.range (l.blockRows c)).flatMap fun y => (List.range (l.blockColumns c)).map fun x =>
    [(place, 64 * (x + y * blocksAcross c))]

/-- The units of a scan of several components. -/
def sharedUnits (l : Layout) (s : Scan) : List (List (Nat × Nat)) :=
  (List.range l.rows).flatMap fun y => (List.range l.columns).map fun x =>
    s.components.flatMap fun place =>
      let c := l.channel place
      (List.range c.vertical).flatMap fun v => (List.range c.horizontal).map fun h =>
        (place, 64 * (x * c.horizontal + h + (y * c.vertical + v) * blocksAcross c))

/-- Reads a scan; none if it is damaged. First coefficients do not come together with others. -/
def readProgressiveScan (l : Layout) (r : Reading) (all : Array Coefficients) :
    Option Reading × Array Coefficients :=
  let s := r.setup.scan
  let r := Reading.forget
    { r with
      bits := r.bits.reset
      setup := { r.setup with untilRestart := r.setup.restartInterval } }
  if l.model.components < s.components.length then (none, all)
  else
    match s.components with
    | [place] =>
      if s.first = 0 && s.last ≠ 0 then (none, all)
      else readScanUnits r (l.singleUnits place) all
    | places =>
      if s.last ≠ 0 || places.any fun place => (Filling.firstCode r place).isNone then (none, all)
      else readScanUnits r (l.sharedUnits s) all

/-- The most scans that a progressive image may have. -/
def mostScans : Nat := 100

/-- Reads scans and the segments between them; `m` is the marker that comes next, and `count` scans
have been read. Restart markers are passed over. -/
def readScans (l : Layout) : (fuel count : Nat) → (m : Marker) → Reading → Array Coefficients →
    Result (Array Coefficients)
  | 0, _, _, _, all => return all
  | fuel + 1, count, m, r, all => do
    if m = Marker.endOfImage then return all
    let r ← if Marker.isRestart m then pure r else r.readSegment m
    if m = Marker.startOfScan then
      match l.readProgressiveScan r all with
      | (none, all) => return all
      | (some r, all) =>
        let (some m, bits) := r.bits.nextMarker | return all
        if mostScans ≤ count then reject (.tooManyScans mostScans)
        l.readScans fuel (count + 1) m { r with bits := bits.reset } all
    else
      let (some m, bits) := r.bits.nextMarker | return all
      l.readScans fuel count m { r with bits } all

/-- Reads all scans. Behind the first one the bits have to end at a marker. -/
def readAllScans (l : Layout) (r : Reading) (blank : Array Coefficients) :
    Result (Array Coefficients) := do
  match l.readProgressiveScan r blank with
  | (none, all) => return all
  | (some r, all) =>
    let some m := r.bits.marker | reject .missingMarker
    l.readScans (r.bits.file.size + 1) 1 m { r with bits := { r.bits with marker := none } } all

/-- The band of a component in row `y` of the units. -/
def bandOf (l : Layout) (place y : Nat) (cs : Coefficients) : ByteArray :=
  let c := l.channel place
  let across := blocksAcross c
  (List.range c.vertical).foldl (fun plane v =>
    (List.range across).foldl (fun plane x =>
      let base := 64 * (x + (y * c.vertical + v) * across)
      let block : Block := (Array.range 64).map fun i =>
        Block.get cs (base + i) * Block.get c.table i
      placeBlock block.samples c.stride (8 * x) (8 * v) plane) plane) c.blankBand

/-- Whether the samples of a component are looked at. -/
def isShown (l : Layout) (place : Nat) : Bool :=
  place < 3 || l.model = .cmyk || l.model = .inkLuminance

/-- Reads the scans of a progressive image. Each row of a component has to be covered by blocks. -/
def readProgressive (l : Layout) (r : Reading) : Result Picture := do
  let blank : Array Coefficients := (l.channels.extract 0 l.model.components).map fun c =>
    Array.replicate (64 * l.bandBlocks c * l.rows) 0
  let all ← l.readAllScans r blank
  let places := Array.range l.channels.size
  let isCovered (place : Nat) : Bool :=
    let c := l.channel place
    blocksAcross c * c.vertical ≤ l.bandBlocks c
  if places.any fun place => l.isShown place && !isCovered place then reject .missingCoefficients
  let band (y : Nat) : Band := places.map fun place =>
    if l.isShown place then l.bandOf place y ((all[place]?).getD #[]) else .empty
  return ⟨(Array.range l.rows).map fun y => (y, band y), .grey 0⟩

end Layout

end GuestBridge.Image.Jpeg
