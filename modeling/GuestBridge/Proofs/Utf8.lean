import GuestBridge.Text.Utf8
import Mathlib.Tactic.Common

/-!
# Reading of written text

The bytes of a text are read as that text, strictly or not. Only the character NUL has a zero byte, so the bytes
before the first zero are those of the characters before the first NUL.
-/

namespace GuestBridge.Proofs
open Text

/-! ### One character -/

lemma utf8_next_of_lead {b c : UInt8} {tail : List UInt8} {l : Utf8.Lead} (hb : 0x80 ≤ b.toNat)
    (hl : Utf8.lead? b.toNat = some l) (hlow : l.low ≤ c.toNat) (hhigh : c.toNat ≤ l.high) :
    Utf8.next b (c :: tail) =
      Utf8.continuation (l.value * 64 + (c.toNat - 0x80)) l.further tail := by
  unfold Utf8.next
  rw [if_neg (by omega), hl]
  simp only [hlow, hhigh, and_self, if_true]

lemma utf8_continuation_cons {b : UInt8} (value n : Nat) (rest : List UInt8)
    (hlow : 0x80 ≤ b.toNat) (hhigh : b.toNat ≤ 0xBF) :
    Utf8.continuation value (n + 1) (b :: rest) =
      Utf8.continuation (value * 64 + (b.toNat - 0x80)) n rest := by
  rw [Utf8.continuation, if_pos ⟨hlow, hhigh⟩]

lemma utf8_lead?_two : ∀ d, 2 ≤ d → d < 32 →
    Utf8.lead? (d + 0xC0) = some ⟨d, 0x80, 0xBF, 0⟩ := by
  intro d hlow hd
  have hall : ∀ d < 32, 2 ≤ d → Utf8.lead? (d + 0xC0) = some ⟨d, 0x80, 0xBF, 0⟩ := by decide
  exact hall d hd hlow

/-- No overlong form behind the lead of three bytes, and no surrogate. -/
lemma utf8_lead?_three : ∀ d < 16, Utf8.lead? (d + 0xE0) =
    some ⟨d, if d = 0 then 0xA0 else 0x80, if d = 13 then 0x9F else 0xBF, 1⟩ := by
  decide

/-- No overlong form behind the lead of four bytes, and nothing above the last character. -/
lemma utf8_lead?_four : ∀ d < 5, Utf8.lead? (d + 0xF0) =
    some ⟨d, if d = 0 then 0x90 else 0x80, if d = 4 then 0x8F else 0xBF, 2⟩ := by
  decide

lemma utf8_toNat_digit {n : Nat} (hn : n < 256) : (UInt8.ofNat n).toNat = n := by
  rw [UInt8.toNat_ofNat', Nat.mod_eq_of_lt hn]

lemma utf8_next_one {v : Nat} (hv : v < 0x80) (rest : List UInt8) :
    Utf8.next (UInt8.ofNat v) rest = (some (Char.ofNat v), rest) := by
  unfold Utf8.next
  rw [utf8_toNat_digit (by omega), if_pos hv]

lemma utf8_next_two {d e : Nat} (hlow : 2 ≤ d) (hd : d < 32) (he : e < 64) (rest : List UInt8) :
    Utf8.next (UInt8.ofNat (d + 0xC0)) (UInt8.ofNat (e + 0x80) :: rest) =
      (some (Char.ofNat (d * 64 + e)), rest) := by
  have hb : (UInt8.ofNat (d + 0xC0)).toNat = d + 0xC0 := utf8_toNat_digit (by omega)
  have hc : (UInt8.ofNat (e + 0x80)).toNat = e + 0x80 := utf8_toNat_digit (by omega)
  rw [utf8_next_of_lead (by omega) (by rw [hb]; exact utf8_lead?_two d hlow hd)
    (by rw [hc]; dsimp only; omega) (by rw [hc]; dsimp only; omega), Utf8.continuation, hc,
    Nat.add_sub_cancel]

lemma utf8_next_three {d e f : Nat} (hd : d < 16) (he : e < 64) (hf : f < 64)
    (hlow : d = 0 → 32 ≤ e) (hhigh : d = 13 → e < 32) (rest : List UInt8) :
    Utf8.next (UInt8.ofNat (d + 0xE0))
      (UInt8.ofNat (e + 0x80) :: UInt8.ofNat (f + 0x80) :: rest) =
      (some (Char.ofNat ((d * 64 + e) * 64 + f)), rest) := by
  have hb : (UInt8.ofNat (d + 0xE0)).toNat = d + 0xE0 := utf8_toNat_digit (by omega)
  have hc : (UInt8.ofNat (e + 0x80)).toNat = e + 0x80 := utf8_toNat_digit (by omega)
  have hc' : (UInt8.ofNat (f + 0x80)).toNat = f + 0x80 := utf8_toNat_digit (by omega)
  rw [utf8_next_of_lead (by omega) (by rw [hb]; exact utf8_lead?_three d hd)
    (by rw [hc]; dsimp only; split <;> omega) (by rw [hc]; dsimp only; split <;> omega),
    utf8_continuation_cons _ _ _ (by omega) (by omega), Utf8.continuation, hc, hc',
    Nat.add_sub_cancel, Nat.add_sub_cancel]

lemma utf8_next_four {d e f g : Nat} (hd : d < 5) (he : e < 64) (hf : f < 64) (hg : g < 64)
    (hlow : d = 0 → 16 ≤ e) (hhigh : d = 4 → e < 16) (rest : List UInt8) :
    Utf8.next (UInt8.ofNat (d + 0xF0))
      (UInt8.ofNat (e + 0x80) :: UInt8.ofNat (f + 0x80) :: UInt8.ofNat (g + 0x80) :: rest) =
      (some (Char.ofNat (((d * 64 + e) * 64 + f) * 64 + g)), rest) := by
  have hb : (UInt8.ofNat (d + 0xF0)).toNat = d + 0xF0 := utf8_toNat_digit (by omega)
  have hc : (UInt8.ofNat (e + 0x80)).toNat = e + 0x80 := utf8_toNat_digit (by omega)
  have hc' : (UInt8.ofNat (f + 0x80)).toNat = f + 0x80 := utf8_toNat_digit (by omega)
  have hc'' : (UInt8.ofNat (g + 0x80)).toNat = g + 0x80 := utf8_toNat_digit (by omega)
  rw [utf8_next_of_lead (by omega) (by rw [hb]; exact utf8_lead?_four d hd)
    (by rw [hc]; dsimp only; split <;> omega) (by rw [hc]; dsimp only; split <;> omega),
    utf8_continuation_cons _ _ _ (by omega) (by omega),
    utf8_continuation_cons _ _ _ (by omega) (by omega), Utf8.continuation, hc, hc', hc'',
    Nat.add_sub_cancel, Nat.add_sub_cancel, Nat.add_sub_cancel]

/-- Reading the bytes of a character gives it back, whatever follows. -/
lemma utf8_chars_encodeChar (c : Char) (rest : List UInt8) :
    Utf8.chars (String.utf8EncodeChar c ++ rest) = some c :: Utf8.chars rest := by
  have hc : Char.ofNat c.val.toNat = c := Char.ofNat_toNat c
  have hvalid : c.val.toNat < 0xD800 ∨ 0xDFFF < c.val.toNat ∧ c.val.toNat < 0x110000 := c.valid
  unfold String.utf8EncodeChar
  generalize c.val.toNat = v at hc hvalid
  dsimp only
  by_cases h1 : v ≤ 0x7F
  · rw [if_pos h1, List.cons_append, List.nil_append, Utf8.chars, utf8_next_one (by omega), hc]
  rw [if_neg h1]
  by_cases h2 : v ≤ 0x7FF
  · have hv : v / 64 % 0x20 * 64 + v % 0x40 = v := by omega
    rw [if_pos h2, List.cons_append, List.cons_append, List.nil_append, Utf8.chars,
      utf8_next_two (by omega) (by omega) (by omega), hv, hc]
  rw [if_neg h2]
  by_cases h3 : v ≤ 0xFFFF
  · have hv : (v / 4096 % 0x10 * 64 + v / 64 % 0x40) * 64 + v % 0x40 = v := by omega
    rw [if_pos h3, List.cons_append, List.cons_append, List.cons_append, List.nil_append,
      Utf8.chars, utf8_next_three (by omega) (by omega) (by omega) (by omega) (by omega), hv, hc]
  · have hv : ((v / 262144 % 0x08 * 64 + v / 4096 % 0x40) * 64 + v / 64 % 0x40) * 64 + v % 0x40 = v := by
      omega
    rw [if_neg h3, List.cons_append, List.cons_append, List.cons_append, List.cons_append,
      List.nil_append, Utf8.chars, utf8_next_four (by omega) (by omega) (by omega) (by omega)
      (by omega) (by omega), hv, hc]

lemma utf8_chars_flatMap (cs : List Char) : Utf8.chars (cs.flatMap String.utf8EncodeChar) = cs.map some := by
  induction cs with
  | nil => rw [List.flatMap_nil, Utf8.chars, List.map_nil]
  | cons c cs ih => rw [List.flatMap_cons, utf8_chars_encodeChar, ih, List.map_cons]

theorem utf8_lenient_flatMap (cs : List Char) :
    Utf8.lenient (cs.flatMap String.utf8EncodeChar) = String.ofList cs := by
  unfold Utf8.lenient
  rw [utf8_chars_flatMap, List.map_map]
  exact congrArg String.ofList (List.map_id' cs)

lemma utf8_strict?_eq {bytes : List UInt8} {cs : List Char} (h : Utf8.chars bytes = cs.map some) :
    Utf8.strict? bytes = some (String.ofList cs) := by
  have hall : (cs.map some).mapM id = some cs := by
    clear h
    induction cs with
    | nil => rfl
    | cons c cs ih => simp [ih]
  unfold Utf8.strict?
  rw [h, hall, Option.map_some]

theorem utf8_strict?_encode (s : String) : Utf8.strict? (Utf8.encode s) = some s := by
  have hread := utf8_strict?_eq (utf8_chars_flatMap s.toList)
  rwa [String.ofList_toList] at hread

lemma utf8_chars_ascii {bytes : List UInt8} (h : ∀ b ∈ bytes, b.toNat < 0x80) :
    Utf8.chars bytes = bytes.map fun b => some (Char.ofNat b.toNat) := by
  induction bytes with
  | nil => rw [Utf8.chars, List.map_nil]
  | cons b rest ih =>
    have hnext : Utf8.next b rest = (some (Char.ofNat b.toNat), rest) := by
      unfold Utf8.next
      rw [if_pos (h b List.mem_cons_self)]
    rw [Utf8.chars, hnext, List.map_cons, ih fun c hc => h c (List.mem_cons_of_mem b hc)]

/-- A text of single bytes has their numbers for its characters. -/
lemma utf8_ofList_ascii {s : String} (h : ∀ b ∈ Utf8.encode s, b.toNat < 0x80) :
    String.ofList ((Utf8.encode s).map fun b => Char.ofNat b.toNat) = s := by
  have hchars : Utf8.chars (Utf8.encode s) = ((Utf8.encode s).map fun b => Char.ofNat b.toNat).map some := by
    rw [utf8_chars_ascii h, List.map_map]
    rfl
  have hread := utf8_strict?_eq hchars
  rw [utf8_strict?_encode] at hread
  exact (Option.some.inj hread).symm

/-! ### The zero byte -/

/-- A character of one byte is its own byte, and every other byte has the high bit. -/
lemma utf8_mem_encodeChar {b : UInt8} {c : Char} (h : b ∈ String.utf8EncodeChar c) :
    b.toNat = c.toNat ∨ 0x80 ≤ b.toNat := by
  have hdigit : ∀ n, 0x80 ≤ n → n < 256 → b = UInt8.ofNat n → 0x80 ≤ b.toNat := by
    intro n hlow hn hb
    rwa [hb, utf8_toNat_digit hn]
  unfold String.utf8EncodeChar at h
  dsimp only at h
  by_cases h1 : c.val.toNat ≤ 0x7F
  · rw [if_pos h1, List.mem_singleton] at h
    exact .inl (by rw [h, utf8_toNat_digit (by omega)]; rfl)
  rw [if_neg h1] at h
  right
  split at h
  · simp only [List.mem_cons, List.not_mem_nil, or_false] at h
    rcases h with h | h <;> exact hdigit _ (by omega) (by omega) h
  · split at h
    · simp only [List.mem_cons, List.not_mem_nil, or_false] at h
      rcases h with h | h | h <;> exact hdigit _ (by omega) (by omega) h
    · simp only [List.mem_cons, List.not_mem_nil, or_false] at h
      rcases h with h | h | h | h <;> exact hdigit _ (by omega) (by omega) h

lemma utf8_zero_mem_encodeChar {c : Char} (h : 0 ∈ String.utf8EncodeChar c) : c = '\x00' := by
  rcases utf8_mem_encodeChar h with h | h
  · exact Char.ext (UInt32.toNat_inj.mp h.symm)
  · exact absurd h (by decide)

lemma utf8_takeWhile_encodeChar {c : Char} (hc : c ≠ '\x00') (rest : List UInt8) :
    (String.utf8EncodeChar c ++ rest).takeWhile (· != 0) =
      String.utf8EncodeChar c ++ rest.takeWhile (· != 0) := by
  apply List.takeWhile_append_of_pos
  intro b hb
  have hne : b ≠ 0 := by
    rintro rfl
    exact hc (utf8_zero_mem_encodeChar hb)
  simpa using hne

/-- The bytes of a text in front of the first zero, when one follows at the latest behind it. -/
theorem utf8_takeWhile_flatMap (cs : List Char) :
    (cs.flatMap String.utf8EncodeChar ++ [0]).takeWhile (· != 0) =
      (cs.takeWhile (· != '\x00')).flatMap String.utf8EncodeChar := by
  induction cs with
  | nil => rfl
  | cons c cs ih =>
    rw [List.flatMap_cons, List.append_assoc]
    by_cases hc : c = '\x00'
    · subst hc
      rfl
    · rw [utf8_takeWhile_encodeChar hc, ih, List.takeWhile_cons_of_pos (by simpa using hc),
        List.flatMap_cons]

end GuestBridge.Proofs
