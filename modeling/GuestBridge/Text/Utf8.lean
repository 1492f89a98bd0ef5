/-!
# UTF-8 text from bytes

`Utf8.chars` splits any byte list into characters and faults. A fault covers the longest start of
a well-formed character, or a single byte. Strict reading refuses faults; lenient reading puts the
replacement character in the place of each.
-/

namespace GuestBridge.Text.Utf8

/-- What the first byte of a longer character announces: its value bits, the range its second
byte must lie in, and how many plain continuation bytes follow that one. -/
structure Lead where
  value : Nat
  low : Nat
  high : Nat
  further : Nat
deriving DecidableEq, Repr

def lead? (b : Nat) : Option Lead :=
  if b < 0xC2 then none
  else if b < 0xE0 then some ⟨b - 0xC0, 0x80, 0xBF, 0⟩
  else if b = 0xE0 then some ⟨0, 0xA0, 0xBF, 1⟩
  else if b = 0xED then some ⟨0xD, 0x80, 0x9F, 1⟩
  else if b < 0xF0 then some ⟨b - 0xE0, 0x80, 0xBF, 1⟩
  else if b = 0xF0 then some ⟨0, 0x90, 0xBF, 2⟩
  else if b < 0xF4 then some ⟨b - 0xF0, 0x80, 0xBF, 2⟩
  else if b = 0xF4 then some ⟨4, 0x80, 0x8F, 2⟩
  else none

/-- Reads `n` continuation bytes behind a value; stops in front of a byte that is none. -/
def continuation (value : Nat) : Nat → List UInt8 → Option Char × List UInt8
  | 0, rest => (some (Char.ofNat value), rest)
  | _ + 1, [] => (none, [])
  | n + 1, b :: rest =>
    if 0x80 ≤ b.toNat ∧ b.toNat ≤ 0xBF then continuation (value * 64 + (b.toNat - 0x80)) n rest
    else (none, b :: rest)

/-- The character or fault that starts with `b`, and the bytes after it. -/
def next (b : UInt8) (rest : List UInt8) : Option Char × List UInt8 :=
  if b.toNat < 0x80 then (some (Char.ofNat b.toNat), rest)
  else
    match lead? b.toNat, rest with
    | some l, c :: tail =>
      if l.low ≤ c.toNat ∧ c.toNat ≤ l.high then
        continuation (l.value * 64 + (c.toNat - 0x80)) l.further tail
      else (none, rest)
    | _, _ => (none, rest)

theorem length_continuation_le (value n : Nat) (bytes : List UInt8) :
    (continuation value n bytes).2.length ≤ bytes.length := by
  induction n generalizing value bytes with
  | zero => simp [continuation]
  | succ n ih =>
    cases bytes with
    | nil => simp [continuation]
    | cons b rest =>
      rw [continuation]
      split
      · exact Nat.le_succ_of_le (ih _ _)
      · simp

theorem length_next_le (b : UInt8) (rest : List UInt8) : (next b rest).2.length ≤ rest.length := by
  unfold next
  split
  · simp
  · split
    · split
      · exact Nat.le_succ_of_le (length_continuation_le _ _ _)
      · simp
    · simp

/-- The characters and faults of a byte list, in order. -/
def chars : List UInt8 → List (Option Char)
  | [] => []
  | b :: rest => (next b rest).1 :: chars (next b rest).2
termination_by bytes => bytes.length
decreasing_by
  have := length_next_le b rest
  simp only [List.length_cons]
  omega

/-- The text, with a replacement character for each fault. -/
def lenient (bytes : List UInt8) : String :=
  String.ofList ((chars bytes).map fun c => c.getD '\uFFFD')

/-- The text of well-formed bytes. -/
def strict? (bytes : List UInt8) : Option String :=
  ((chars bytes).mapM id).map String.ofList

/-- The bytes of a text. -/
def encode (s : String) : List UInt8 := s.toList.flatMap String.utf8EncodeChar

end GuestBridge.Text.Utf8
