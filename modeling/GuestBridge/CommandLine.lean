import GuestBridge.Report

/-!
# The command line

`[-j | --json] [--no-decode] FILE` prints the report on a container file. Switches and the file may
come in any order, each at most once; behind `--` every argument is a file.
-/

namespace GuestBridge

namespace CommandLine

/-- What the arguments ask for. The file is none until it is named. -/
structure Request where
  input : Option String := none
  json : Bool := false
  noDecode : Bool := false
deriving DecidableEq, Repr

/-- Takes an argument for the file. There is only one, and its name is not empty. -/
def Request.withInput (r : Request) (arg : String) : Option Request :=
  if arg.isEmpty || r.input.isSome then none else some { r with input := some arg }

/-- Takes an argument that may be a switch. A single dash is a file. -/
def Request.withArgument (r : Request) (arg : String) : Option Request :=
  match arg with
  | "-j" | "--json" => if r.json then none else some { r with json := true }
  | "--no-decode" => if r.noDecode then none else some { r with noDecode := true }
  | "-" => r.withInput arg
  | _ => if arg.startsWith "-" then none else r.withInput arg

/-- Takes arguments in order; none if one is out of place. -/
def Request.withArguments (r : Request) : List String → Option Request
  | [] => some r
  | "--" :: files => files.foldlM Request.withInput r
  | arg :: rest => (r.withArgument arg).bind fun r => r.withArguments rest

/-- How a run ends. -/
inductive Outcome where
  | printed (text : String)
  /-- The file could not be read, or is no container. -/
  | failed (reason : String)
  /-- The arguments make no sense. -/
  | misused
deriving DecidableEq, Repr

namespace Outcome

def exitCode : Outcome → UInt32
  | .printed _ => 0
  | .failed _ => 1
  | .misused => 2

/-- What goes to standard output. -/
def output : Outcome → String
  | .printed text => text
  | _ => ""

/-- What goes to standard error. -/
def complaint : Outcome → String
  | .printed _ => ""
  | .failed reason => s!"Error: {reason}\n"
  | .misused => "Usage: [--json] [--no-decode] FILE\n"

end Outcome

/-- The printed report, in the form that was asked for. -/
def Request.render (r : Request) (report : Report) : String :=
  if r.json then report.document.pretty ++ "\n" else report.text

def reasonOf : Bridge.StartError → String
  | .registry cause => cause.message
  | .resources (.container cause) => cause.message
  | .resources (.file _) => "the file cannot be opened"

/-- Runs the tool; `readFile` gives the bytes of a file that can be read. -/
def run (decoder : ImageDecoder) (args : List String) (readFile : String → Option (List UInt8)) :
    Outcome :=
  match Request.withArguments {} args with
  | some ⟨some path, json, noDecode⟩ =>
    match readFile path with
    | none => .failed s!"opening {path}"
    | some bytes =>
      match (Report.inspect decoder bytes (!noDecode) .none).1 with
      | .ok report => .printed (Request.render ⟨some path, json, noDecode⟩ report)
      | .error e => .failed s!"loading {path}: {reasonOf e}"
  | _ => .misused

end CommandLine

end GuestBridge
