/-!
# Binary floating-point formats

A format is given by the widths of its exponent and fraction fields. `Format.decode` reads a bit
pattern as a signed integer times a power of two, an infinity or a NaN, and `Format.magnitude`
goes the other way: it rounds an exact value to the nearest pattern, ties to the even one.
Arithmetic elsewhere is exact first and rounded once.
-/

namespace GuestBridge.Floating

/-- A binary interchange format. -/
structure Format where
  exponentBits : Nat
  fractionBits : Nat
deriving DecidableEq, Repr

/-- What a bit pattern stands for; a finite one is `± significand * 2 ^ exponent`. -/
inductive Datum where
  | nan (negative : Bool) (payload : Nat)
  | infinite (negative : Bool)
  | finite (negative : Bool) (significand : Nat) (exponent : Int)
deriving DecidableEq, Repr

namespace Format

def binary32 : Format := ⟨8, 23⟩

def binary64 : Format := ⟨11, 52⟩

/-- Bits of a normal significand, the leading one included. -/
def precision (f : Format) : Nat := f.fractionBits + 1

/-- The sign bit as a number. -/
def signBit (f : Format) : Nat := 1 <<< (f.exponentBits + f.fractionBits)

/-- The pattern of positive infinity; every larger magnitude is a NaN. -/
def infinity (f : Format) : Nat := ((1 <<< f.exponentBits) - 1) <<< f.fractionBits

/-- The fraction bit that tells a quiet NaN from a signalling one. -/
def quietBit (f : Format) : Nat := 1 <<< (f.fractionBits - 1)

/-- The NaN that an invalid operation produces. -/
def defaultNaN (f : Format) : Nat := f.signBit + f.infinity + f.quietBit

/-- The exponent of the least positive value. -/
def leastExponent (f : Format) : Int :=
  2 - (1 <<< (f.exponentBits - 1) : Nat) - f.fractionBits

def isNegative (f : Format) (pattern : Nat) : Bool := f.signBit ≤ pattern

def isNaN (f : Format) (pattern : Nat) : Bool := f.infinity < pattern % f.signBit

/-- A pattern with its sign set to `negative`. -/
def withSign (f : Format) (negative : Bool) (magnitude : Nat) : Nat :=
  if negative then f.signBit + magnitude else magnitude

/-- The same NaN, made quiet. -/
def quiet (f : Format) (pattern : Nat) : Nat := pattern ||| f.quietBit

def decode (f : Format) (pattern : Nat) : Datum :=
  let negative := f.isNegative pattern
  let magnitude := pattern % f.signBit
  let field := magnitude >>> f.fractionBits
  let fraction := magnitude % (1 <<< f.fractionBits)
  if f.infinity < magnitude then .nan negative fraction
  else if magnitude = f.infinity then .infinite negative
  else if field = 0 then .finite negative fraction f.leastExponent
  else .finite negative ((1 <<< f.fractionBits) + fraction) (f.leastExponent + (field - 1))

/-- The number of binary digits of `n`. -/
def bitLength (n : Nat) : Nat := if n = 0 then 0 else n.log2 + 1

/-- `n / 2 ^ shift` rounded to the nearest integer, ties to even; `more` says that the value is
a little above `n`. -/
def roundShift (n shift : Nat) (more : Bool) : Nat :=
  if shift = 0 then n
  else
    let kept := n >>> shift
    let rest := n % (1 <<< shift)
    let half := 1 <<< (shift - 1)
    if half < rest || (rest == half && (more || kept % 2 == 1)) then kept + 1 else kept

/-- The magnitude pattern nearest to `n * 2 ^ e`. With `more` the value lies strictly between `n`
and `n + 1` units, which is decided correctly if `n` has two bits more than the precision.
Since the exponent field sits above the fraction, a carry out of the significand lands in it. -/
def magnitude (f : Format) (n : Nat) (e : Int) (more : Bool) : Nat :=
  if n = 0 then 0
  else
    let quantum := max (e + bitLength n - f.precision) f.leastExponent
    let significand :=
      if quantum ≤ e then n <<< (e - quantum).toNat else roundShift n (quantum - e).toNat more
    min ((quantum - f.leastExponent).toNat <<< f.fractionBits + significand) f.infinity

/-- The pattern nearest to `± n * 2 ^ e`. -/
def round (f : Format) (negative : Bool) (n : Nat) (e : Int) (more : Bool) : Nat :=
  f.withSign negative (f.magnitude n e more)

end Format

end GuestBridge.Floating
