import GuestBridge.Json.Basic
import GuestBridge.Settings.Basic

/-!
# Settings files

Settings as documents. A reader takes an object whose known members have the right form, or an array
of the values in their fixed order. What is missing at the end of the array or anywhere in the
object keeps its default, unknown members are ignored, and a known member may not occur twice.
-/

namespace GuestBridge

/-- Why a file could not be opened. -/
inductive FileFault where
  | notFound
  /-- A part of the path before its end is no directory. -/
  | notADirectory
deriving DecidableEq, Repr

namespace LevelFilter

def document (f : LevelFilter) : JsonValue := .text (name f)

/-- A filter is written as its name, or as an object of its name and null. -/
def ofDocument? : JsonValue → Option LevelFilter
  | .string (some s) => ofName? s
  | .object [(some s, .null)] => ofName? s
  | _ => none

@[simp] theorem ofDocument?_document (f : LevelFilter) : ofDocument? (document f) = some f :=
  ofName?_name f

end LevelFilter

/-- The values of some known members; none if an object has a name that is no text or a known one
twice. -/
def JsonValue.known? (names : List String) (members : List (Option String × JsonValue)) :
    Option (String → Option JsonValue) :=
  let once (name : String) : Bool := (members.filter fun m => m.1 == some name).length ≤ 1
  if members.all (fun m => m.1.isSome) && names.all once then
    some fun name => members.lookup (some name)
  else none

namespace LoggerSettings

def names : List String := ["app_level_filter", "level_filter"]

def document (l : LoggerSettings) : JsonValue :=
  .record [("app_level_filter", l.own.document), ("level_filter", l.others.document)]

/-- Both filters have to be there. -/
def ofDocument? : JsonValue → Option LoggerSettings
  | .array [own, others] => do return ⟨← LevelFilter.ofDocument? own, ← LevelFilter.ofDocument? others⟩
  | .object members => do
    let value ← JsonValue.known? names members
    return ⟨← LevelFilter.ofDocument? (← value "app_level_filter"),
      ← LevelFilter.ofDocument? (← value "level_filter")⟩
  | _ => none

@[simp] theorem ofDocument?_document (l : LoggerSettings) : ofDocument? l.document = some l := by
  simp [document, ofDocument?, JsonValue.record, JsonValue.known?, names, List.lookup_cons]

end LoggerSettings

namespace Settings

def names : List String :=
  ["app_name", "logger_config", "resource_path", "decode_images", "warn_unbound_syscalls"]

def document (s : Settings) : JsonValue :=
  .record
    [("app_name", .text s.appName),
      ("logger_config", (s.logger.map LoggerSettings.document).getD .null),
      ("resource_path", (s.resourcePath.map JsonValue.text).getD .null),
      ("decode_images", .bool s.decodeImages),
      ("warn_unbound_syscalls", .bool s.warnUnbound)]

/-- The settings file with these settings. -/
def text (format : DocumentFormat) (s : Settings) : String := format.print s.document

def string? : JsonValue → Option String
  | .string s => s
  | _ => none

def bool? : JsonValue → Option Bool
  | .bool b => some b
  | _ => none

/-- A value that may also be null. -/
def orNull? {α : Type} (read? : JsonValue → Option α) : JsonValue → Option (Option α)
  | .null => some none
  | v => (read? v).map some

/-- A value if there is one, else its default. -/
def orDefault? {α : Type} (read? : JsonValue → Option α) (default : α) : Option JsonValue → Option α
  | some v => read? v
  | none => some default

/-- Settings from the values of the members that are there. -/
def ofValues? (value : String → Option JsonValue) : Option Settings := do
  let default : Settings := {}
  return {
    appName := ← orDefault? string? default.appName (value "app_name")
    logger := ← orDefault? (orNull? LoggerSettings.ofDocument?) default.logger (value "logger_config")
    resourcePath := ← orDefault? (orNull? string?) default.resourcePath (value "resource_path")
    decodeImages := ← orDefault? bool? default.decodeImages (value "decode_images")
    warnUnbound := ← orDefault? bool? default.warnUnbound (value "warn_unbound_syscalls") }

def ofDocument? : JsonValue → Option Settings
  | .object members => (JsonValue.known? names members).bind ofValues?
  | .array items =>
    if items.length ≤ names.length then ofValues? fun name => (names.zip items).lookup name
    else none
  | _ => none

/-- Settings are read back from their document. -/
@[simp] theorem ofDocument?_document (s : Settings) : ofDocument? s.document = some s := by
  obtain ⟨appName, logger, path, decode, warn⟩ := s
  have hlogger : orNull? LoggerSettings.ofDocument?
      ((logger.map LoggerSettings.document).getD .null) = some logger := by
    cases logger with
    | none => rfl
    | some l => exact congrArg (Option.map some) l.ofDocument?_document
  have hpath : orNull? string? ((path.map JsonValue.text).getD .null) = some path := by
    cases path <;> rfl
  simp [document, ofDocument?, JsonValue.record, JsonValue.known?, names, ofValues?, List.lookup_cons,
    orDefault?, hlogger, hpath, string?, JsonValue.text, bool?]

/-- Why settings could not be loaded. -/
inductive LoadError where
  | file (fault : FileFault)
  /-- The file does not hold settings. -/
  | malformed
deriving DecidableEq, Repr

/-- Settings from what opening their file gave. -/
def load (format : DocumentFormat) (file : Except FileFault (List UInt8)) : Except LoadError Settings :=
  match file with
  | .error fault => .error (.file fault)
  | .ok bytes =>
    match (format.read? bytes).bind ofDocument? with
    | some s => .ok s
    | none => .error .malformed

/-- Settings from their file, or the default settings if there is no such file. -/
def loadOrDefault (format : DocumentFormat) (file : Except FileFault (List UInt8)) :
    Except LoadError Settings :=
  match file with
  | .error .notFound => .ok {}
  | file => load format file

/-- The line about settings that were not found. -/
def loadOrDefaultLog (path : String) : Except FileFault (List UInt8) → Log
  | .error .notFound => [Log.info s!"{path} not found, using default configuration"]
  | _ => []

end Settings

end GuestBridge
