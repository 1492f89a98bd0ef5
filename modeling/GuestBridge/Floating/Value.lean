import GuestBridge.Floating.Arithmetic
import GuestBridge.Floating.Shortest
import GuestBridge.Floating.Trigonometry

/-!
# Doubles and singles

Floating-point values are their bit patterns, so that a NaN keeps its payload wherever a value is
only moved.
-/

namespace GuestBridge

open Floating (Format)

/-- A 64-bit floating-point value. -/
structure Double where
  bits : UInt64
deriving DecidableEq, Repr

/-- A 32-bit floating-point value. -/
structure Single where
  bits : UInt32
deriving DecidableEq, Repr

namespace Double

def pattern (d : Double) : Nat := d.bits.toNat

def ofPattern (n : Nat) : Double := ⟨UInt64.ofNat n⟩

@[simp] theorem pattern_ofPattern {n : Nat} (h : n < UInt64.size) : (ofPattern n).pattern = n := by
  simp only [pattern, ofPattern, UInt64.toNat_ofNat']
  exact Nat.mod_eq_of_lt h

@[simp] theorem ofPattern_pattern (d : Double) : ofPattern d.pattern = d := by
  simp [pattern, ofPattern]

/-- Applies an operation on patterns to one value. -/
def lift (op : Nat → Nat) (a : Double) : Double := ofPattern (op a.pattern)

/-- Applies an operation on patterns to two values. -/
def lift₂ (op : Nat → Nat → Nat) (a b : Double) : Double := ofPattern (op a.pattern b.pattern)

def isNaN (d : Double) : Bool := Format.binary64.isNaN d.pattern

def add : Double → Double → Double := lift₂ Format.binary64.add

def sub : Double → Double → Double := lift₂ Format.binary64.sub

def mul : Double → Double → Double := lift₂ Format.binary64.mul

def div : Double → Double → Double := lift₂ Format.binary64.div

def neg : Double → Double := lift Format.binary64.neg

def abs : Double → Double := lift Format.binary64.abs

def sqrt : Double → Double := lift Format.binary64.sqrt

def sin : Double → Double := lift (Floating.Trigonometry.sin Format.binary64)

def cos : Double → Double := lift (Floating.Trigonometry.cos Format.binary64)

def tan : Double → Double := lift (Floating.Trigonometry.tan Format.binary64)

def compare? (a b : Double) : Option Ordering := Format.binary64.compare? a.pattern b.pattern

/-- Toward zero, clamped to the signed words. -/
def toInt32 (d : Double) : Int32 :=
  Int32.ofInt (Format.binary64.truncate (-0x80000000) 0x7FFFFFFF d.pattern)

/-- Toward zero, clamped to the unsigned words. -/
def toUInt32 (d : Double) : UInt32 :=
  UInt32.ofNat (Format.binary64.truncate 0 0xFFFFFFFF d.pattern).toNat

def ofInt32 (i : Int32) : Double := ofPattern (Format.binary64.ofInt i.toInt)

/-- Rounded to the nearest single. -/
def toSingle (d : Double) : Single :=
  ⟨UInt32.ofNat (Format.binary64.convert Format.binary32 d.pattern)⟩

def text (d : Double) : String := Format.binary64.text d.pattern

end Double

namespace Single

def pattern (s : Single) : Nat := s.bits.toNat

def ofPattern (n : Nat) : Single := ⟨UInt32.ofNat n⟩

@[simp] theorem pattern_ofPattern {n : Nat} (h : n < UInt32.size) : (ofPattern n).pattern = n := by
  simp only [pattern, ofPattern, UInt32.toNat_ofNat']
  exact Nat.mod_eq_of_lt h

@[simp] theorem ofPattern_pattern (s : Single) : ofPattern s.pattern = s := by
  simp [pattern, ofPattern]

/-- Applies an operation on patterns to one value. -/
def lift (op : Nat → Nat) (a : Single) : Single := ofPattern (op a.pattern)

/-- Applies an operation on patterns to two values. -/
def lift₂ (op : Nat → Nat → Nat) (a b : Single) : Single := ofPattern (op a.pattern b.pattern)

def isNaN (s : Single) : Bool := Format.binary32.isNaN s.pattern

def add : Single → Single → Single := lift₂ Format.binary32.add

def sub : Single → Single → Single := lift₂ Format.binary32.sub

def mul : Single → Single → Single := lift₂ Format.binary32.mul

def div : Single → Single → Single := lift₂ Format.binary32.div

def neg : Single → Single := lift Format.binary32.neg

def abs : Single → Single := lift Format.binary32.abs

def compare? (a b : Single) : Option Ordering := Format.binary32.compare? a.pattern b.pattern

/-- Toward zero, clamped to the signed words. -/
def toInt32 (s : Single) : Int32 :=
  Int32.ofInt (Format.binary32.truncate (-0x80000000) 0x7FFFFFFF s.pattern)

/-- Toward zero, clamped to the unsigned words. -/
def toUInt32 (s : Single) : UInt32 :=
  UInt32.ofNat (Format.binary32.truncate 0 0xFFFFFFFF s.pattern).toNat

def ofInt32 (i : Int32) : Single := ofPattern (Format.binary32.ofInt i.toInt)

/-- The same number as a double. -/
def toDouble (s : Single) : Double :=
  Double.ofPattern (Format.binary32.convert Format.binary64 s.pattern)

def text (s : Single) : String := Format.binary32.text s.pattern

end Single

end GuestBridge
