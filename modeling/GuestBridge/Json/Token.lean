import GuestBridge.Text.Utf8

/-!
# Tokens of a document

A document is read from bytes. Between tokens, blanks, tabs and line ends do not count. A token is
as long as it can be, and bytes that start no token make the document unreadable.
-/

namespace GuestBridge

inductive JsonToken where
  | openBrace
  | closeBrace
  | openBracket
  | closeBracket
  | comma
  | colon
  | null
  | bool (b : Bool)
  | number (literal : String)
  /-- A string; none if its bytes or escapes are no text. -/
  | string (text : Option String)
deriving DecidableEq, Repr

namespace JsonToken

/-- A part of a string: a byte, or a number by which an escape names a UTF-16 unit. -/
inductive Piece where
  | byte (b : UInt8)
  | unit (u : Nat)
deriving DecidableEq, Repr

def hexDigit? (b : UInt8) : Option Nat :=
  if 0x30 ≤ b ∧ b ≤ 0x39 then some (b.toNat - 0x30)
  else if 0x41 ≤ b ∧ b ≤ 0x46 then some (b.toNat - 0x37)
  else if 0x61 ≤ b ∧ b ≤ 0x66 then some (b.toNat - 0x57)
  else none

def unit? (a b c d : UInt8) : Option Nat := do
  return (((← hexDigit? a) * 16 + (← hexDigit? b)) * 16 + (← hexDigit? c)) * 16 + (← hexDigit? d)

/-- The byte that an escape of one letter stands for. -/
def escaped? (b : UInt8) : Option UInt8 :=
  match b with
  | 0x22 | 0x5c | 0x2f => some b
  | 0x62 => some 0x08
  | 0x66 => some 0x0c
  | 0x6e => some 0x0a
  | 0x72 => some 0x0d
  | 0x74 => some 0x09
  | _ => none

/-- Reads the rest of a string up to its closing quote. Control bytes have to be escaped. -/
def pieces : List UInt8 → Option (List Piece × List UInt8)
  | [] => none
  | 0x22 :: rest => some ([], rest)
  | 0x5c :: 0x75 :: a :: b :: c :: d :: rest =>
    match unit? a b c d, pieces rest with
    | some u, some (ps, rest) => some (.unit u :: ps, rest)
    | _, _ => none
  | 0x5c :: b :: rest =>
    match escaped? b, pieces rest with
    | some b, some (ps, rest) => some (.byte b :: ps, rest)
    | _, _ => none
  | b :: rest =>
    if b < 0x20 then none
    else
      match pieces rest with
      | some (ps, rest) => some (.byte b :: ps, rest)
      | none => none

def isHighUnit (u : Nat) : Bool := 0xD800 ≤ u && u < 0xDC00

def isLowUnit (u : Nat) : Bool := 0xDC00 ≤ u && u < 0xE000

/-- The UTF-8 bytes of some parts. A high unit needs a low one right behind it, and the other way
round. -/
def utf8? : List Piece → Option (List UInt8)
  | [] => some []
  | .byte b :: rest => (utf8? rest).map (b :: ·)
  | .unit u :: .unit v :: rest =>
    if isHighUnit u then
      if isLowUnit v then
        let c := Char.ofNat (0x10000 + (u - 0xD800) * 0x400 + (v - 0xDC00))
        (utf8? rest).map (String.utf8EncodeChar c ++ ·)
      else none
    else if isLowUnit u then none
    else (utf8? (.unit v :: rest)).map (String.utf8EncodeChar (Char.ofNat u) ++ ·)
  | .unit u :: rest =>
    if isHighUnit u || isLowUnit u then none
    else (utf8? rest).map (String.utf8EncodeChar (Char.ofNat u) ++ ·)

def textOf (ps : List Piece) : Option String := (utf8? ps).bind Text.Utf8.strict?

def isDigit (b : UInt8) : Bool := 0x30 ≤ b && b ≤ 0x39

/-- The digits at the front; none if there is none. -/
def digits? (bytes : List UInt8) : Option (List UInt8 × List UInt8) :=
  match bytes.span isDigit with
  | ([], _) => none
  | (ds, rest) => some (ds, rest)

/-- The whole part of a number, which starts with a zero only if it is zero. -/
def whole? : List UInt8 → Option (List UInt8 × List UInt8)
  | 0x30 :: rest => some ([0x30], rest)
  | bytes => digits? bytes

/-- The fraction of a number, empty if no point follows. -/
def fraction? : List UInt8 → Option (List UInt8 × List UInt8)
  | 0x2e :: rest => (digits? rest).map fun (ds, rest) => (0x2e :: ds, rest)
  | bytes => some ([], bytes)

/-- An optional sign. -/
def signed : List UInt8 → List UInt8 × List UInt8
  | 0x2b :: rest => ([0x2b], rest)
  | 0x2d :: rest => ([0x2d], rest)
  | bytes => ([], bytes)

/-- The exponent of a number, empty if no letter for it follows. -/
def exponent? : List UInt8 → Option (List UInt8 × List UInt8)
  | e :: rest =>
    if e = 0x65 ∨ e = 0x45 then
      (digits? (signed rest).2).map fun (ds, after) => (e :: (signed rest).1 ++ ds, after)
    else some ([], e :: rest)
  | [] => some ([], [])

/-- A number without its sign. -/
def magnitude? (bytes : List UInt8) : Option (List UInt8 × List UInt8) := do
  let (whole, rest) ← whole? bytes
  let (fraction, rest) ← fraction? rest
  let (exponent, rest) ← exponent? rest
  return (whole ++ fraction ++ exponent, rest)

def number? : List UInt8 → Option (List UInt8 × List UInt8)
  | 0x2d :: rest => (magnitude? rest).map fun (ds, rest) => (0x2d :: ds, rest)
  | bytes => magnitude? bytes

/-- Bytes that are skipped between tokens. -/
def isBlank (b : UInt8) : Bool := b == 0x20 || b == 0x0a || b == 0x09 || b == 0x0d

/-- The token at the front of some bytes that do not start with a blank. -/
def next? : List UInt8 → Option (JsonToken × List UInt8)
  | 0x7b :: rest => some (.openBrace, rest)
  | 0x7d :: rest => some (.closeBrace, rest)
  | 0x5b :: rest => some (.openBracket, rest)
  | 0x5d :: rest => some (.closeBracket, rest)
  | 0x2c :: rest => some (.comma, rest)
  | 0x3a :: rest => some (.colon, rest)
  | 0x6e :: 0x75 :: 0x6c :: 0x6c :: rest => some (.null, rest)
  | 0x74 :: 0x72 :: 0x75 :: 0x65 :: rest => some (.bool true, rest)
  | 0x66 :: 0x61 :: 0x6c :: 0x73 :: 0x65 :: rest => some (.bool false, rest)
  | 0x22 :: rest => (pieces rest).map fun (ps, rest) => (.string (textOf ps), rest)
  | bytes =>
    (number? bytes).map fun (ds, rest) =>
      (.number (String.ofList (ds.map fun b => Char.ofNat b.toNat)), rest)

/-- The tokens of a document, at most as many as `fuel`. -/
def scan : Nat → List UInt8 → Option (List JsonToken)
  | 0, _ => none
  | fuel + 1, bytes =>
    match bytes.dropWhile isBlank with
    | [] => some []
    | bytes =>
      match next? bytes with
      | some (t, rest) => (scan fuel rest).map (t :: ·)
      | none => none

/-- The tokens of a document. Every token takes at least a byte, so the fuel suffices. -/
def tokens? (bytes : List UInt8) : Option (List JsonToken) := scan (bytes.length + 1) bytes

end JsonToken

end GuestBridge
