import GuestBridge.Log
import GuestBridge.Text.Blank
import GuestBridge.Text.Quoted

/-!
# Trace categories

Syscalls, events and resources can be traced, each on its own. A list of category names turns on
those it names; the names are separated by commas, semicolons and blank characters, and the case of
ASCII letters does not matter. Each category also has a switch of its own in the environment.
-/

namespace GuestBridge

/-- The categories that are traced. -/
structure Trace where
  syscall : Bool
  event : Bool
  resource : Bool
deriving DecidableEq, Repr

namespace Trace

def none : Trace := ⟨false, false, false⟩

def all : Trace := ⟨true, true, true⟩

/-- The categories traced by either. -/
def union (a b : Trace) : Trace :=
  ⟨a.syscall || b.syscall, a.event || b.event, a.resource || b.resource⟩

/-- The categories as bits, syscalls lowest. -/
def mask (t : Trace) : Nat := t.syscall.toNat + 2 * t.event.toNat + 4 * t.resource.toNat

/-- A character that separates names in a list. -/
def isSeparator (c : Char) : Bool := c = ',' || c = ';' || Text.isBlank c

/-- The runs between separators, empty ones included. -/
def tokens : List Char → List (List Char)
  | [] => [[]]
  | c :: rest =>
    if isSeparator c then [] :: tokens rest
    else
      match tokens rest with
      | first :: others => (c :: first) :: others
      | [] => [[c]]

/-- The categories that one small-letter name stands for; none if it is not a name. -/
def named? (name : String) : Option Trace :=
  match name with
  | "all" => some all
  | "syscall" | "sc" => some ⟨true, false, false⟩
  | "event" | "ev" => some ⟨false, true, false⟩
  | "resource" | "res" => some ⟨false, false, true⟩
  | _ => Option.none

/-- The small-letter form of a token. -/
def normalized (token : List Char) : String := String.ofList (token.map Text.lowerAscii)

/-- The categories that a token turns on. -/
def ofToken (token : List Char) : Trace := (named? (normalized token)).getD none

/-- The categories that a list of names turns on. -/
def ofNames (s : String) : Trace := (tokens s.toList).foldl (fun t token => t.union (ofToken token)) none

/-- The lines about the unknown names in a list. -/
def namesLog (s : String) : Log :=
  (tokens s.toList).filterMap fun token =>
    let name := normalized token
    if token.isEmpty || (named? name).isSome then Option.none
    else some (Log.debug ("trace: ignoring unknown category " ++ Text.quoted name))

/-- Whether the value of a switch turns it on: it does unless it is blank or says no. -/
def isOn (value : String) : Bool :=
  let word := normalized (Text.trimBlank value.toList)
  not (["", "0", "false", "no", "off"].contains word)

/-- The categories that an environment turns on. -/
def ofEnvironment (lookup : String → Option String) : Trace :=
  let listed := ((lookup "MARS_TRACE").map ofNames).getD none
  let switch (name : String) : Bool := (lookup name).any isOn
  listed.union ⟨switch "MARS_TRACE_SYSCALL", switch "MARS_TRACE_EVENT", switch "MARS_TRACE_RESOURCE"⟩

/-- The lines about the names listed in an environment. -/
def environmentLog (lookup : String → Option String) : Log :=
  ((lookup "MARS_TRACE").map namesLog).getD []

def syscallLine (t : Trace) (text : String) : Log :=
  if t.syscall then [Log.info ("[syscall] " ++ text)] else []

def eventLine (t : Trace) (text : String) : Log :=
  if t.event then [Log.info ("[event] " ++ text)] else []

def resourceLine (t : Trace) (text : String) : Log :=
  if t.resource then [Log.info ("[resource] " ++ text)] else []

end Trace

end GuestBridge
