/-!
# Documents

Values of the text format in which settings and reports are kept, and their printed form: two blanks
of indentation a level, every member and item on a line of its own. Settings files are read and
written in whatever format their user has.
-/

namespace GuestBridge

/-- A value of a document. A string is none if its bytes or escapes are no text, which matters only
where the string is used. -/
inductive JsonValue where
  | null
  | bool (b : Bool)
  /-- A number as it is written. -/
  | number (literal : String)
  | string (text : Option String)
  | array (items : List JsonValue)
  | object (members : List (Option String × JsonValue))
deriving Repr

namespace JsonValue

def text (s : String) : JsonValue := .string (some s)

def nat (n : Nat) : JsonValue := .number (toString n)

/-- An object from its members' names and values. -/
def record (members : List (String × JsonValue)) : JsonValue :=
  .object (members.map fun (name, value) => (some name, value))

/-- The digit characters of a two-digit hexadecimal number. -/
def hexPair (n : Nat) : List Char := [Nat.digitChar (n / 16), Nat.digitChar (n % 16)]

/-- A character inside quotes. -/
def escape (c : Char) : List Char :=
  if c = '"' then ['\\', '"']
  else if c = '\\' then ['\\', '\\']
  else if c = '\x08' then ['\\', 'b']
  else if c = '\x0c' then ['\\', 'f']
  else if c = '\n' then ['\\', 'n']
  else if c = '\r' then ['\\', 'r']
  else if c = '\t' then ['\\', 't']
  else if c.toNat < 32 then ['\\', 'u', '0', '0'] ++ hexPair c.toNat
  else [c]

def quote (s : String) : String := String.ofList ('"' :: s.toList.flatMap escape ++ ['"'])

/-- A string with its quotes; what is no text counts as one replacement character. -/
def quoteText (s : Option String) : String := quote (s.getD "\uFFFD")

/-- A new line at a depth. -/
def newline (depth : Nat) : String := String.ofList ('\n' :: List.replicate (2 * depth) ' ')

/-- The parts of a container between its brackets. -/
def enclose (left right : String) (depth : Nat) : List String → String
  | [] => left ++ right
  | parts =>
    left ++ newline (depth + 1) ++ ("," ++ newline (depth + 1)).intercalate parts ++ newline depth
      ++ right

mutual

/-- The printed form of a value at a depth. -/
def prettyAt (depth : Nat) : JsonValue → String
  | .null => "null"
  | .bool b => if b then "true" else "false"
  | .number literal => literal
  | .string s => quoteText s
  | .array items => enclose "[" "]" depth (prettyItems (depth + 1) items)
  | .object members => enclose "\x7b" "\x7d" depth (prettyMembers (depth + 1) members)

def prettyItems (depth : Nat) : List JsonValue → List String
  | [] => []
  | v :: rest => v.prettyAt depth :: prettyItems depth rest

def prettyMembers (depth : Nat) : List (Option String × JsonValue) → List String
  | [] => []
  | (name, v) :: rest => (quoteText name ++ ": " ++ v.prettyAt depth) :: prettyMembers depth rest

end

def pretty (v : JsonValue) : String := v.prettyAt 0

end JsonValue

/-- A text format for documents. -/
structure DocumentFormat where
  print : JsonValue → String
  /-- The document in some bytes, if they hold one. -/
  read? : List UInt8 → Option JsonValue

end GuestBridge
