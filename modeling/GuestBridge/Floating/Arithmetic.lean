import GuestBridge.Floating.Format

/-!
# Arithmetic on bit patterns

Each operation takes and returns patterns of one format. The result is the exact one rounded to
nearest, ties to even. An operation on NaNs returns its first NaN operand made quiet, and an
invalid operation on numbers returns the default NaN.
-/

namespace GuestBridge.Floating

/-- The integer part of the square root. -/
def floorSqrt (n : Nat) : Nat :=
  if h : n = 0 then 0
  else
    let r := 2 * floorSqrt (n / 4)
    if (r + 1) * (r + 1) ≤ n then r + 1 else r
termination_by n
decreasing_by omega

/-- The number with its sign flipped. -/
def Datum.opposite : Datum → Datum
  | .nan s p => .nan (!s) p
  | .infinite s => .infinite (!s)
  | .finite s m e => .finite (!s) m e

namespace Format

/-- `n * 2 ^ (from - to)` for `to ≤ from`. -/
def aligned (n : Nat) (fromExponent toExponent : Int) : Nat := n <<< (fromExponent - toExponent).toNat

def signed (negative : Bool) (n : Nat) : Int := if negative then -(n : Int) else n

/-- Applies `op` to two numbers unless one of them is a NaN. -/
def onNumbers (f : Format) (op : Datum → Datum → Nat) (a b : Nat) : Nat :=
  if f.isNaN a then f.quiet a
  else if f.isNaN b then f.quiet b
  else op (f.decode a) (f.decode b)

/-- The sum of two numbers; a zero sum is negative only if both operands are. -/
def sum (f : Format) : Datum → Datum → Nat
  | .infinite s, .infinite t => if s = t then f.withSign s f.infinity else f.defaultNaN
  | .infinite s, _ => f.withSign s f.infinity
  | _, .infinite t => f.withSign t f.infinity
  | .finite s m e, .finite t n k =>
    let low := min e k
    let total := signed s (aligned m e low) + signed t (aligned n k low)
    if total = 0 then f.withSign (s && t) 0
    else f.round (total < 0) total.natAbs low false
  | _, _ => f.defaultNaN

def add (f : Format) (a b : Nat) : Nat := f.onNumbers f.sum a b

def sub (f : Format) (a b : Nat) : Nat :=
  f.onNumbers (fun x y => f.sum x y.opposite) a b

def product (f : Format) : Datum → Datum → Nat
  | .infinite s, .infinite t => f.withSign (s != t) f.infinity
  | .infinite s, .finite t n _ =>
    if n = 0 then f.defaultNaN else f.withSign (s != t) f.infinity
  | .finite s m _, .infinite t =>
    if m = 0 then f.defaultNaN else f.withSign (s != t) f.infinity
  | .finite s m e, .finite t n k => f.round (s != t) (m * n) (e + k) false
  | _, _ => f.defaultNaN

def mul (f : Format) (a b : Nat) : Nat := f.onNumbers f.product a b

/-- The quotient of two numbers. The dividend is scaled so that the integer quotient has two bits
more than the precision; the remainder only says whether there is more. -/
def quotient (f : Format) : Datum → Datum → Nat
  | .infinite _, .infinite _ => f.defaultNaN
  | .infinite s, .finite t _ _ => f.withSign (s != t) f.infinity
  | .finite s _ _, .infinite t => f.withSign (s != t) 0
  | .finite s m e, .finite t n k =>
    if n = 0 then if m = 0 then f.defaultNaN else f.withSign (s != t) f.infinity
    else
      let scale := 2 * f.precision + 2
      let scaled := m <<< scale
      f.round (s != t) (scaled / n) (e - k - scale) (scaled % n != 0)
  | _, _ => f.defaultNaN

def div (f : Format) (a b : Nat) : Nat := f.onNumbers f.quotient a b

def sqrt (f : Format) (a : Nat) : Nat :=
  match f.decode a with
  | .nan _ _ => f.quiet a
  | .infinite s => if s then f.defaultNaN else f.infinity
  | .finite s m e =>
    if m = 0 then a
    else if s then f.defaultNaN
    else
      let odd := (e % 2).toNat
      let scale := f.precision + 2
      let scaled := (m <<< odd) <<< (2 * scale)
      let root := floorSqrt scaled
      f.round false root ((e - odd) / 2 - scale) (root * root != scaled)

/-- Flips the sign, of NaNs too. -/
def neg (f : Format) (a : Nat) : Nat :=
  f.withSign (!f.isNegative a) (a % f.signBit)

/-- Clears the sign, of NaNs too. -/
def abs (f : Format) (a : Nat) : Nat := a % f.signBit

/-- The order of two patterns as numbers; none when one is a NaN. -/
def compare? (f : Format) (a b : Nat) : Option Ordering :=
  match f.decode a, f.decode b with
  | .nan _ _, _ => none
  | _, .nan _ _ => none
  | .infinite s, .infinite t => some (compare (signed s 1) (signed t 1))
  | .infinite s, .finite _ _ _ => some (if s then .lt else .gt)
  | .finite _ _ _, .infinite t => some (if t then .gt else .lt)
  | .finite s m e, .finite t n k =>
    let low := min e k
    some (compare (signed s (aligned m e low)) (signed t (aligned n k low)))

/-- The integer nearest to zero's side of a number, clamped to `low` and `high`; a NaN is 0. -/
def truncate (f : Format) (low high : Int) (a : Nat) : Int :=
  match f.decode a with
  | .nan _ _ => 0
  | .infinite s => if s then low else high
  | .finite s m e =>
    let whole := if 0 ≤ e then m <<< e.toNat else m >>> (-e).toNat
    max low (min high (signed s whole))

def ofInt (f : Format) (i : Int) : Nat := f.round (i < 0) i.natAbs 0 false

/-- The nearest pattern of the format `g`. A NaN keeps its sign and the top of its payload and
becomes quiet. -/
def convert (f g : Format) (a : Nat) : Nat :=
  match f.decode a with
  | .nan s p => g.quiet (g.withSign s (g.infinity + (p <<< g.fractionBits) >>> f.fractionBits))
  | .infinite s => g.withSign s g.infinity
  | .finite s m e => g.round s m e false

end Format

end GuestBridge.Floating
