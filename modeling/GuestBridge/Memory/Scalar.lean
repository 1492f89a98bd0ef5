import GuestBridge.Floating.Value
import GuestBridge.Memory.LittleEndian

/-!
# Scalar types in memory

The fixed-width types that guest memory is read and written as. Each value is a bit pattern of
`8 * width` bits, and `ofBits` and `bits` undo each other.
-/

namespace GuestBridge

inductive Scalar where
  | u8
  | i8
  | u16
  | i16
  | u32
  | i32
  | f32
  | f64
deriving DecidableEq, Repr

namespace Scalar

def name : Scalar → String
  | .u8 => "u8"
  | .i8 => "i8"
  | .u16 => "u16"
  | .i16 => "i16"
  | .u32 => "u32"
  | .i32 => "i32"
  | .f32 => "f32"
  | .f64 => "f64"

def ofName? (s : String) : Option Scalar :=
  [u8, i8, u16, i16, u32, i32, f32, f64].find? fun t => t.name = s

/-- Bytes that a value takes. -/
def width : Scalar → Nat
  | .u8 | .i8 => 1
  | .u16 | .i16 => 2
  | .u32 | .i32 | .f32 => 4
  | .f64 => 8

/-- The values of a scalar type. -/
abbrev Value : Scalar → Type
  | .u8 => UInt8
  | .i8 => Int8
  | .u16 => UInt16
  | .i16 => Int16
  | .u32 => UInt32
  | .i32 => Int32
  | .f32 => Single
  | .f64 => Double

/-- The bit pattern of a value; signed types use two's complement. -/
def bits : (t : Scalar) → t.Value → Nat
  | .u8, v => UInt8.toNat v
  | .i8, v => v.toUInt8.toNat
  | .u16, v => UInt16.toNat v
  | .i16, v => v.toUInt16.toNat
  | .u32, v => UInt32.toNat v
  | .i32, v => v.toUInt32.toNat
  | .f32, v => Single.pattern v
  | .f64, v => Double.pattern v

/-- The value with a bit pattern. -/
def ofBits : (t : Scalar) → Nat → t.Value
  | .u8, n => UInt8.ofNat n
  | .i8, n => (UInt8.ofNat n).toInt8
  | .u16, n => UInt16.ofNat n
  | .i16, n => (UInt16.ofNat n).toInt16
  | .u32, n => UInt32.ofNat n
  | .i32, n => (UInt32.ofNat n).toInt32
  | .f32, n => Single.ofPattern n
  | .f64, n => Double.ofPattern n

theorem bits_lt (t : Scalar) (v : t.Value) : t.bits v < Nat.pow 256 t.width := by
  cases t with
  | u8 => exact UInt8.toNat_lt v
  | i8 => exact UInt8.toNat_lt _
  | u16 => exact UInt16.toNat_lt v
  | i16 => exact UInt16.toNat_lt _
  | u32 => exact UInt32.toNat_lt v
  | i32 => exact UInt32.toNat_lt _
  | f32 => exact UInt32.toNat_lt _
  | f64 => exact UInt64.toNat_lt _

@[simp] theorem ofBits_bits (t : Scalar) (v : t.Value) : t.ofBits (t.bits v) = v := by
  cases t <;> simp [bits, ofBits]

theorem bits_ofBits (t : Scalar) {n : Nat} (h : n < Nat.pow 256 t.width) : t.bits (t.ofBits n) = n := by
  cases t <;> simp only [bits, ofBits, width] at h ⊢
  case f32 => exact Single.pattern_ofPattern h
  case f64 => exact Double.pattern_ofPattern h
  all_goals
    simp only [UInt8.toUInt8_toInt8, UInt16.toUInt16_toInt16, UInt32.toUInt32_toInt32,
      UInt8.toNat_ofNat', UInt16.toNat_ofNat', UInt32.toNat_ofNat']
    exact Nat.mod_eq_of_lt h

/-- The bytes of a value in memory. -/
def encode (t : Scalar) (v : t.Value) : List UInt8 := LittleEndian.encode t.width (t.bits v)

/-- The value that bytes in memory stand for. -/
def decode (t : Scalar) (bytes : List UInt8) : t.Value := t.ofBits (LittleEndian.decode bytes)

@[simp] theorem length_encode (t : Scalar) (v : t.Value) : (t.encode v).length = t.width :=
  LittleEndian.length_encode _ _

@[simp] theorem decode_encode (t : Scalar) (v : t.Value) : t.decode (t.encode v) = v := by
  rw [decode, encode, LittleEndian.decode_encode, Nat.mod_eq_of_lt (t.bits_lt v), ofBits_bits]

end Scalar

end GuestBridge
