import GuestBridge.Log
import GuestBridge.Text.Blank

/-!
# Settings

How a bridge is started: under which name, what it logs, which resources it loads at once and
whether it decodes their images.
-/

namespace GuestBridge

/-- The most detailed level that is logged; none logs nothing. -/
abbrev LevelFilter := Option Log.Level

namespace LevelFilter

def name : LevelFilter → String
  | none => "OFF"
  | some level => level.name

def all : List LevelFilter :=
  [none, some .error, some .warn, some .info, some .debug, some .trace]

/-- The filter with a name, in letters of either case. -/
def ofName? (s : String) : Option LevelFilter :=
  all.find? fun f => s.toList.map Text.lowerAscii = (name f).toList.map Text.lowerAscii

@[simp] theorem ofName?_name (f : LevelFilter) : ofName? (name f) = some f := by
  rcases f with _ | level
  · decide
  · cases level <;> decide

end LevelFilter

/-- What is logged. -/
structure LoggerSettings where
  /-- For the bridge itself. -/
  own : LevelFilter := some .info
  /-- For everything else. -/
  others : LevelFilter := some .warn
deriving DecidableEq, Repr

structure Settings where
  appName : String := "MARS application"
  logger : Option LoggerSettings := some {}
  resourcePath : Option String := none
  decodeImages : Bool := true
  warnUnbound : Bool := true
deriving DecidableEq, Repr

instance : Inhabited Settings := ⟨{}⟩

end GuestBridge
