import GuestBridge.Floating.Arithmetic

/-!
# Sine, cosine and tangent

The angle is reduced by multiples of half of π in fixed-point integer arithmetic. The number of
fraction bits grows with the size of the angle, so that the remainder has far more correct bits
than the result needs; the power series then run on integers and the result is rounded once.
-/

namespace GuestBridge.Floating.Trigonometry

/-- One, at `bits` fraction bits. -/
def one (bits : Nat) : Nat := 1 <<< bits

/-- The sum of `x / (k (k + 1))`-style series terms: each next term is the last one times
`-square / (k (k + 1))`, at `bits` fraction bits, until the terms vanish. -/
def alternating (bits : Nat) (square : Int) : Nat → Nat → Int → Int
  | 0, _, _ => 0
  | fuel + 1, k, term =>
    if term = 0 then 0
    else term + alternating bits square fuel (k + 2) (-(term * square) / (k * (k + 1) * one bits))

/-- `arctan (1 / n)` with `2 ^ bits` units to one: the sum of `± 1 / (k n ^ k)` over odd `k`. -/
def arctanInverse (n : Nat) (bits : Nat) : Int :=
  go bits 1 (one bits / n) true
where
  go : Nat → Nat → Nat → Bool → Int
    | 0, _, _, _ => 0
    | fuel + 1, k, power, positive =>
      if power = 0 then 0
      else
        let term : Int := power / k
        (if positive then term else -term) + go fuel (k + 2) (power / (n * n)) (!positive)

/-- π with `2 ^ bits` units to one, by the identity `π = 16 arctan (1/5) - 4 arctan (1/239)`. -/
def pi (bits : Nat) : Int :=
  let spare := 32
  (16 * arctanInverse 5 (bits + spare) - 4 * arctanInverse 239 (bits + spare)) / one spare

/-- An angle taken apart: `quarter` right angles and a rest of at most half a right angle. -/
structure Reduced where
  quarter : Nat
  rest : Int
  bits : Nat

/-- Takes `± m * 2 ^ e` apart. -/
def reduce (negative : Bool) (m : Nat) (e : Int) : Reduced :=
  let bits := 256
  let wide := bits + (max e 0).toNat + 64
  let right := pi wide / 2
  let angle : Int := Format.signed negative
    (if 0 ≤ e + wide then m <<< (e + wide).toNat else m >>> (-(e + wide)).toNat)
  let turns := (2 * angle + right) / (2 * right)
  { quarter := (turns % 4).toNat
    rest := (angle - turns * right) / one (wide - bits)
    bits := bits }

namespace Reduced

def sinRest (r : Reduced) : Int :=
  alternating r.bits (r.rest * r.rest / one r.bits) r.bits 2 r.rest

def cosRest (r : Reduced) : Int :=
  alternating r.bits (r.rest * r.rest / one r.bits) r.bits 1 (one r.bits)

def sin (r : Reduced) : Int :=
  match r.quarter with
  | 0 => r.sinRest
  | 1 => r.cosRest
  | 2 => -r.sinRest
  | _ => -r.cosRest

def cos (r : Reduced) : Int :=
  match r.quarter with
  | 0 => r.cosRest
  | 1 => -r.sinRest
  | 2 => -r.cosRest
  | _ => r.sinRest

end Reduced

/-- An angle so small that its sine and tangent round to itself and its cosine to one. -/
def isTiny (f : Format) (m : Nat) (e : Int) : Bool :=
  e + Format.bitLength m < -(f.precision : Int) / 2 - 1

/-- Rounds a fixed-point number that stands for an irrational one. -/
def roundFixed (f : Format) (value : Int) (bits : Nat) : Nat :=
  f.round (value < 0) value.natAbs (-bits) true

def sin (f : Format) (a : Nat) : Nat :=
  match f.decode a with
  | .nan _ _ => f.quiet a
  | .infinite _ => f.defaultNaN
  | .finite s m e =>
    if isTiny f m e then a
    else
      let r := reduce s m e
      roundFixed f r.sin r.bits

def cos (f : Format) (a : Nat) : Nat :=
  match f.decode a with
  | .nan _ _ => f.quiet a
  | .infinite _ => f.defaultNaN
  | .finite s m e =>
    if isTiny f m e then f.ofInt 1
    else
      let r := reduce s m e
      roundFixed f r.cos r.bits

def tan (f : Format) (a : Nat) : Nat :=
  match f.decode a with
  | .nan _ _ => f.quiet a
  | .infinite _ => f.defaultNaN
  | .finite s m e =>
    if isTiny f m e then a
    else
      let r := reduce s m e
      let quotient := r.sin.natAbs * one r.bits / r.cos.natAbs
      f.round ((r.sin < 0) != (r.cos < 0)) quotient (-r.bits) true

end GuestBridge.Floating.Trigonometry
