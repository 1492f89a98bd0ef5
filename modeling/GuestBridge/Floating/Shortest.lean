import GuestBridge.Floating.Format

/-!
# Shortest decimal text

A number is written with the fewest decimal digits that read back to the same pattern, and among
those with the digits nearest to it. The reals that round to a number form an interval; the search
tries the two neighbours of the number on coarser decimal grids before finer ones.
-/

namespace GuestBridge.Floating

/-- The value `digits * 10 ^ exponent`. -/
structure Decimal where
  digits : Nat
  exponent : Int
deriving DecidableEq, Repr

/-- A positive value with the bounds of the interval that rounds to it, over one denominator. -/
structure RoundingInterval where
  low : Nat
  value : Nat
  high : Nat
  denominator : Nat
  closed : Bool

namespace RoundingInterval

/-- The interval around `m * 2 ^ e`; it is narrower below a power of two. -/
def around (f : Format) (m : Nat) (e : Int) : RoundingInterval :=
  let up := 1 <<< (e - 2).toNat
  let below := if m = 1 <<< f.fractionBits && f.leastExponent < e then 1 else 2
  { low := (4 * m - below) * up
    value := 4 * m * up
    high := (4 * m + 2) * up
    denominator := 1 <<< (2 - e).toNat
    closed := m % 2 == 0 }

/-- Whether `numerator / denominator` of this interval, scaled by `scale`, rounds to the value. -/
def contains (r : RoundingInterval) (scale numerator : Nat) : Bool :=
  if r.closed then r.low * scale ≤ numerator && numerator ≤ r.high * scale
  else r.low * scale < numerator && numerator < r.high * scale

/-- The better neighbour of the value on the grid of multiples of `10 ^ exponent`, if one of them
rounds to the value. Of two at the same distance the larger wins. -/
def onGrid (r : RoundingInterval) (exponent : Int) : Option Nat :=
  let unit := Nat.pow 10 exponent.toNat * r.denominator
  let scale := Nat.pow 10 (-exponent).toNat
  let value := r.value * scale
  let down := value / unit
  let below := value - down * unit
  let downFits := r.contains scale (down * unit)
  let upFits := r.contains scale ((down + 1) * unit)
  if upFits && (!downFits || unit ≤ 2 * below) then some (down + 1)
  else if downFits then some down
  else none

/-- The first hit on grids from `exponent` downwards. -/
def firstHit (r : RoundingInterval) (exponent : Int) : Nat → Decimal
  | 0 =>
    ⟨r.value * Nat.pow 10 (-exponent).toNat / (Nat.pow 10 exponent.toNat * r.denominator), exponent⟩
  | tries + 1 =>
    match r.onGrid exponent with
    | some digits => ⟨digits, exponent⟩
    | none => r.firstHit (exponent - 1) tries

/-- An exponent whose grid is coarser than the value. -/
def coarsest (r : RoundingInterval) : Int :=
  (((Format.bitLength r.value : Int) - Format.bitLength r.denominator) * 30103).fdiv 100000 + 2

end RoundingInterval

/-- The shortest decimal that rounds to `m * 2 ^ e`. Twenty-four grids from the coarsest reach
seventeen significant digits. -/
def Decimal.shortest (f : Format) (m : Nat) (e : Int) : Decimal :=
  let r := RoundingInterval.around f m e
  r.firstHit r.coarsest 24

/-- The digits without the zeros at their end. -/
def trimZeros (digits : List Char) : List Char :=
  (digits.reverse.dropWhile (· == '0')).reverse

namespace Decimal

/-- Digits with a point after the first `point` of them, at least one on either side. -/
def positional (digits : List Char) (point : Int) : String :=
  let whole := digits.take point.toNat ++ List.replicate (point.toNat - digits.length) '0'
  let part := List.replicate (-point).toNat '0' ++ digits.drop point.toNat
  String.ofList ((if whole.isEmpty then ['0'] else whole) ++ '.' :: (if part.isEmpty then ['0'] else part))

/-- One digit before the point, a point only if more digits follow, and the power of ten. -/
def scientific (digits : List Char) (point : Int) : String :=
  let fraction := digits.drop 1
  String.ofList (digits.take 1 ++ (if fraction.isEmpty then [] else '.' :: fraction))
    ++ "e" ++ toString (point - 1)

/-- Numbers from `0.0001` up to, but not including, `10 ^ 16` are written positionally, all others
with a power of ten. -/
def text (d : Decimal) : String :=
  let all := Nat.toDigits 10 d.digits
  let digits := trimZeros all
  let point := (all.length : Int) + d.exponent
  if -3 ≤ point && point ≤ 16 then positional digits point else scientific digits point

end Decimal

/-- The text of a pattern. -/
def Format.text (f : Format) (pattern : Nat) : String :=
  let sign (s : Bool) : String := if s then "-" else ""
  match f.decode pattern with
  | .nan _ _ => "NaN"
  | .infinite s => sign s ++ "inf"
  | .finite s 0 _ => sign s ++ "0.0"
  | .finite s m e => sign s ++ (Decimal.shortest f m e).text

end GuestBridge.Floating
