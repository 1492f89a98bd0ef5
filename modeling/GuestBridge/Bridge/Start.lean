import GuestBridge.Bridge.Basic
import GuestBridge.Settings.Document

/-!
# Starting from settings

A bridge as its settings want it, with the resources that they name already loaded.
-/

namespace GuestBridge

namespace Bridge

/-- Why a resource file could not be loaded. -/
inductive FileError where
  | file (fault : FileFault)
  | container (cause : ContainerError)
deriving DecidableEq, Repr

/-- Why a bridge could not be started. -/
inductive StartError where
  | registry (cause : RegistryError)
  | resources (cause : FileError)
deriving DecidableEq, Repr

/-- Loads a container from what opening its file gave. -/
def loadFile (b : Bridge) (file : Except FileFault (List UInt8)) :
    Except FileError LoadSummary × Bridge × Log :=
  match file with
  | .error fault => (.error (.file fault), b, [])
  | .ok bytes =>
    let (result, b, log) := b.load bytes
    (result.mapError .container, b, log)

/-- The line about logger settings: whoever runs the bridge has a logger already. -/
def loggerLog : Option LoggerSettings → Log
  | some _ =>
    [Log.debug ("logger already installed: attempted to set a logger after the logging system was "
      ++ "already initialized")]
  | none => []

/-- The options that settings ask for, with the decoder for a bridge that decodes images. -/
def optionsOf (s : Settings) (decoder : ImageDecoder) (host : Host) (trace : Trace) : Options :=
  { warnUnbound := s.warnUnbound
    decoder := if s.decodeImages then some decoder else none
    host := host
    trace := trace }

/-- Starts a bridge; `openFile` says what opening the file at a path gives. -/
def start (s : Settings) (decoder : ImageDecoder) (host : Host) (trace : Trace)
    (openFile : String → Except FileFault (List UInt8)) : Except StartError Bridge × Log :=
  let opening := loggerLog s.logger ++ [Log.info s!"starting runtime for {s.appName}"]
  match build (optionsOf s decoder host trace) with
  | (.error e, log) => (.error (.registry e), opening ++ log)
  | (.ok b, log) =>
    match s.resourcePath with
    | none => (.ok b, opening ++ log)
    | some path =>
      match b.loadFile (openFile path) with
      | (.ok _, b, loadLog) => (.ok b, opening ++ log ++ loadLog)
      | (.error e, _, loadLog) => (.error (.resources e), opening ++ log ++ loadLog)

end Bridge

end GuestBridge
