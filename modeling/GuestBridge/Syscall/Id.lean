/-!
# Syscall identifiers

Every native routine that guest code can reach has a fixed identifier, and each identifier the name
under which guest code links to it.
-/

namespace GuestBridge

inductive SyscallId where
  | addDouble
  | subDouble
  | mulDouble
  | divDouble
  | negDouble
  | doubleToInt
  | doubleToUnsigned
  | intToDouble
  | singleToDouble
  | compareDouble
  | addSingle
  | subSingle
  | mulSingle
  | divSingle
  | negSingle
  | singleToInt
  | singleToUnsigned
  | intToSingle
  | doubleToSingle
  | compareSingle
  | sin
  | cos
  | tan
  | sqrt
  | getEvent
  | getDataSize
  | readData
  | panic
deriving DecidableEq, Repr

namespace SyscallId

/-- All identifiers in the order of the table. -/
def all : List SyscallId :=
  [.addDouble, .subDouble, .mulDouble, .divDouble, .negDouble, .doubleToInt, .doubleToUnsigned,
    .intToDouble, .singleToDouble, .compareDouble, .addSingle, .subSingle, .mulSingle, .divSingle,
    .negSingle, .singleToInt, .singleToUnsigned, .intToSingle, .doubleToSingle, .compareSingle,
    .sin, .cos, .tan, .sqrt, .getEvent, .getDataSize, .readData, .panic]

/-- The name that guest code links to. -/
def name : SyscallId → String
  | .addDouble => "__adddf3"
  | .subDouble => "__subdf3"
  | .mulDouble => "__muldf3"
  | .divDouble => "__divdf3"
  | .negDouble => "__negdf2"
  | .doubleToInt => "__fixdfsi"
  | .doubleToUnsigned => "__fixunsdfsi"
  | .intToDouble => "__floatsidf"
  | .singleToDouble => "__extendsfdf2"
  | .compareDouble => "dcmp"
  | .addSingle => "__addsf3"
  | .subSingle => "__subsf3"
  | .mulSingle => "__mulsf3"
  | .divSingle => "__divsf3"
  | .negSingle => "__negsf2"
  | .singleToInt => "__fixsfsi"
  | .singleToUnsigned => "__fixunssfsi"
  | .intToSingle => "__floatsisf"
  | .doubleToSingle => "__truncdfsf2"
  | .compareSingle => "fcmp"
  | .sin => "sin"
  | .cos => "cos"
  | .tan => "tan"
  | .sqrt => "sqrt"
  | .getEvent => "maGetEvent"
  | .getDataSize => "maGetDataSize"
  | .readData => "maReadData"
  | .panic => "maPanic"

/-- The identifier among the fields of an error. -/
def caption : SyscallId → String
  | .addDouble => "AddF64"
  | .subDouble => "SubF64"
  | .mulDouble => "MulF64"
  | .divDouble => "DivF64"
  | .negDouble => "NegF64"
  | .doubleToInt => "F64ToI32"
  | .doubleToUnsigned => "F64ToU32"
  | .intToDouble => "I32ToF64"
  | .singleToDouble => "F32ToF64"
  | .compareDouble => "CmpF64"
  | .addSingle => "AddF32"
  | .subSingle => "SubF32"
  | .mulSingle => "MulF32"
  | .divSingle => "DivF32"
  | .negSingle => "NegF32"
  | .singleToInt => "F32ToI32"
  | .singleToUnsigned => "F32ToU32"
  | .intToSingle => "I32ToF32"
  | .doubleToSingle => "F64ToF32"
  | .compareSingle => "CmpF32"
  | .sin => "Sin"
  | .cos => "Cos"
  | .tan => "Tan"
  | .sqrt => "Sqrt"
  | .getEvent => "GetEvent"
  | .getDataSize => "GetDataSize"
  | .readData => "ReadData"
  | .panic => "Panic"

def ofName? (name : String) : Option SyscallId := all.find? fun id => id.name = name

/-- The place of an identifier in the table. -/
def index (id : SyscallId) : Nat := all.idxOf id

@[simp] theorem mem_all (id : SyscallId) : id ∈ all := by cases id <;> decide

theorem nodup_all : all.Nodup := by decide

@[simp] theorem ofName?_name (id : SyscallId) : ofName? id.name = some id := by
  cases id <;> decide

end SyscallId

end GuestBridge
