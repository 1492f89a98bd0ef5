import GuestBridge.Json.Basic
import GuestBridge.Json.Token

/-!
# Reading documents

Values from tokens. A document is one value with nothing behind it; containers may be nested as deep
as the document is long.
-/

namespace GuestBridge

namespace JsonValue

mutual

/-- Reads a value from the front of some tokens, going at most `fuel` calls deep. -/
def read? : Nat → List JsonToken → Option (JsonValue × List JsonToken)
  | 0, _ => none
  | fuel + 1, tokens =>
    match tokens with
    | .null :: rest => some (.null, rest)
    | .bool b :: rest => some (.bool b, rest)
    | .number literal :: rest => some (.number literal, rest)
    | .string s :: rest => some (.string s, rest)
    | .openBracket :: .closeBracket :: rest => some (.array [], rest)
    | .openBracket :: rest => (readItems? fuel rest).map fun (items, rest) => (.array items, rest)
    | .openBrace :: .closeBrace :: rest => some (.object [], rest)
    | .openBrace :: rest =>
      (readMembers? fuel rest).map fun (members, rest) => (.object members, rest)
    | _ => none

/-- Reads items up to the end of their array. -/
def readItems? : Nat → List JsonToken → Option (List JsonValue × List JsonToken)
  | 0, _ => none
  | fuel + 1, tokens =>
    match read? fuel tokens with
    | some (v, .comma :: rest) => (readItems? fuel rest).map fun (items, rest) => (v :: items, rest)
    | some (v, .closeBracket :: rest) => some ([v], rest)
    | _ => none

/-- Reads members up to the end of their object. -/
def readMembers? :
    Nat → List JsonToken → Option (List (Option String × JsonValue) × List JsonToken)
  | 0, _ => none
  | fuel + 1, tokens =>
    match tokens with
    | .string name :: .colon :: rest =>
      match read? fuel rest with
      | some (v, .comma :: rest) =>
        (readMembers? fuel rest).map fun (members, rest) => ((name, v) :: members, rest)
      | some (v, .closeBrace :: rest) => some ([(name, v)], rest)
      | _ => none
    | _ => none

end

/-- The value of a document. A call consumes a token or goes on to one that does, so twice as many
calls as tokens suffice. -/
def ofTokens? (tokens : List JsonToken) : Option JsonValue :=
  match read? (2 * tokens.length + 1) tokens with
  | some (v, []) => some v
  | _ => none

def ofBytes? (bytes : List UInt8) : Option JsonValue := (JsonToken.tokens? bytes).bind ofTokens?

end JsonValue

/-- Documents in their printed form. -/
def DocumentFormat.json : DocumentFormat where
  print := JsonValue.pretty
  read? := JsonValue.ofBytes?

end GuestBridge
