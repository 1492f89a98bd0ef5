import GuestBridge.Syscall.Registry

/-!
# Arithmetic for guests without a floating-point unit

Doubles, singles and the elementary functions. Conversions to words go toward zero and are clamped;
a comparison with a NaN counts as equal.
-/

namespace GuestBridge

namespace Arithmetic

/-- Minus one, zero or one, as the left side is less, equal or unordered, or greater. -/
def sign : Option Ordering → Word
  | some .lt => -1
  | some .gt => 1
  | _ => 0

def binaryDouble (f : Double → Double → Double) : Routine :=
  .compute [.f64, .f64] .f64 fun (a, b, _) => f a b

def unaryDouble (f : Double → Double) : Routine := .compute [.f64] .f64 fun (a, _) => f a

def binarySingle (f : Single → Single → Single) : Routine :=
  .compute [.f32, .f32] .f32 fun (a, b, _) => f a b

def unarySingle (f : Single → Single) : Routine := .compute [.f32] .f32 fun (a, _) => f a

/-- Arithmetic and conversions of doubles. -/
def doubleGroup : SyscallGroup :=
  ⟨"double",
    [(.addDouble, binaryDouble .add),
      (.subDouble, binaryDouble .sub),
      (.mulDouble, binaryDouble .mul),
      (.divDouble, binaryDouble .div),
      (.negDouble, unaryDouble .neg),
      (.doubleToInt, .compute [.f64] .i32 fun (a, _) => a.toInt32),
      (.doubleToUnsigned, .compute [.f64] .u32 fun (a, _) => a.toUInt32),
      (.intToDouble, .compute [.i32] .f64 fun (i, _) => Double.ofInt32 i),
      (.singleToDouble, .compute [.f32] .f64 fun (a, _) => a.toDouble),
      (.compareDouble, .compute [.f64, .f64] .i32 fun (a, b, _) => sign (a.compare? b))]⟩

/-- Arithmetic and conversions of singles. -/
def singleGroup : SyscallGroup :=
  ⟨"single",
    [(.addSingle, binarySingle .add),
      (.subSingle, binarySingle .sub),
      (.mulSingle, binarySingle .mul),
      (.divSingle, binarySingle .div),
      (.negSingle, unarySingle .neg),
      (.singleToInt, .compute [.f32] .i32 fun (a, _) => a.toInt32),
      (.singleToUnsigned, .compute [.f32] .u32 fun (a, _) => a.toUInt32),
      (.intToSingle, .compute [.i32] .f32 fun (i, _) => Single.ofInt32 i),
      (.doubleToSingle, .compute [.f64] .f32 fun (a, _) => a.toSingle),
      (.compareSingle, .compute [.f32, .f32] .i32 fun (a, b, _) => sign (a.compare? b))]⟩

/-- Elementary functions of doubles. -/
def elementaryGroup : SyscallGroup :=
  ⟨"trig",
    [(.sin, unaryDouble .sin), (.cos, unaryDouble .cos), (.tan, unaryDouble .tan),
      (.sqrt, unaryDouble .sqrt)]⟩

end Arithmetic

end GuestBridge
