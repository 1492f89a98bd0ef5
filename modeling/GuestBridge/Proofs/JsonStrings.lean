import GuestBridge.Json.Basic
import GuestBridge.Json.Token
import GuestBridge.Proofs.Utf8
import Mathlib.Tactic.IntervalCases

/-!
# Strings of a document

A string is written between quotes with an escape for every character that may not stand there, and is read
back part by part: an escape is one part, and any other character one part for each of its bytes.
-/

namespace GuestBridge.Proofs
open JsonToken JsonValue Text

/-- Inside a string, the bytes `written` are read as parts that mean the bytes `meant`. -/
def Means (written meant : List UInt8) : Prop :=
  ∃ ps, (∀ rest, pieces (written ++ rest) = (pieces rest).map fun (qs, rest) => (ps ++ qs, rest)) ∧
    ∀ qs, utf8? (ps ++ qs) = (utf8? qs).map (meant ++ ·)

lemma means_nil : Means [] [] := ⟨[], by simp, by simp⟩

lemma Means.append {w₁ w₂ m₁ m₂ : List UInt8} (h₁ : Means w₁ m₁) (h₂ : Means w₂ m₂) :
    Means (w₁ ++ w₂) (m₁ ++ m₂) := by
  obtain ⟨ps, hps, hps'⟩ := h₁
  obtain ⟨qs, hqs, hqs'⟩ := h₂
  refine ⟨ps ++ qs, fun rest => ?_, fun rs => ?_⟩
  · rw [List.append_assoc, hps, hqs]
    simp [Function.comp_def]
  · rw [List.append_assoc, hps', hqs']
    simp [Function.comp_def]

/-! ### One character -/

lemma utf8?_byte (b : UInt8) (qs : List Piece) : utf8? ([.byte b] ++ qs) = (utf8? qs).map ([b] ++ ·) := by
  rw [List.singleton_append, utf8?]
  rfl

lemma means_plain {b : UInt8} (hcontrol : 0x20 ≤ b.toNat) (hquote : b ≠ 0x22) (hback : b ≠ 0x5c) :
    Means [b] [b] := by
  refine ⟨[.byte b], fun rest => ?_, utf8?_byte b⟩
  have hb : ¬b < 0x20 := Nat.not_lt.mpr hcontrol
  rw [List.singleton_append, pieces, if_neg hb]
  · cases pieces rest <;> rfl
  · exact hquote
  · exact fun _ _ _ _ _ h _ => hback h
  · exact fun _ _ h _ => hback h

lemma means_plain_bytes {bytes : List UInt8}
    (h : ∀ b ∈ bytes, 0x20 ≤ b.toNat ∧ b ≠ 0x22 ∧ b ≠ 0x5c) : Means bytes bytes := by
  induction bytes with
  | nil => exact means_nil
  | cons b rest ih =>
    obtain ⟨hcontrol, hquote, hback⟩ := h b List.mem_cons_self
    exact (means_plain hcontrol hquote hback).append (ih fun c hc => h c (List.mem_cons_of_mem b hc))

lemma means_escape {b meant : UInt8} (hb : b ≠ 0x75) (h : escaped? b = some meant) : Means [0x5c, b] [meant] := by
  refine ⟨[.byte meant], fun rest => ?_, utf8?_byte meant⟩
  rw [List.cons_append, List.singleton_append, pieces, h]
  · cases pieces rest <;> rfl
  · exact fun _ _ _ _ _ h _ => hb h

lemma utf8?_unit {u : Nat} (hu : u < 0xD800) (qs : List Piece) :
    utf8? (.unit u :: qs) = (utf8? qs).map (String.utf8EncodeChar (Char.ofNat u) ++ ·) := by
  have hhigh : isHighUnit u = false := by
    unfold isHighUnit
    simp only [Bool.and_eq_false_iff, decide_eq_false_iff_not]
    omega
  have hlow : isLowUnit u = false := by
    unfold isLowUnit
    simp only [Bool.and_eq_false_iff, decide_eq_false_iff_not]
    omega
  by_cases hnext : ∃ v rest, qs = .unit v :: rest
  · obtain ⟨v, rest, rfl⟩ := hnext
    rw [utf8?, hhigh, hlow]
    rfl
  · rw [utf8?, hhigh, hlow]
    · rfl
    · exact fun v rest h => hnext ⟨v, rest, h⟩

lemma means_unit {a b c d : UInt8} {u : Nat} (h : unit? a b c d = some u) (hu : u < 0xD800) :
    Means [0x5c, 0x75, a, b, c, d] (String.utf8EncodeChar (Char.ofNat u)) := by
  refine ⟨[.unit u], fun rest => ?_, utf8?_unit hu⟩
  simp only [List.cons_append, List.nil_append]
  rw [pieces, h]
  cases pieces rest <;> rfl

lemma exists_hexDigit {d : Nat} (hd : d < 16) :
    ∃ b, String.utf8EncodeChar (Nat.digitChar d) = [b] ∧ hexDigit? b = some d := by
  interval_cases d <;> exact ⟨_, rfl, by decide⟩

lemma means_control {c : Char} (hc : c.toNat < 32) :
    Means ((['\\', 'u', '0', '0'] ++ hexPair c.toNat).flatMap String.utf8EncodeChar)
      (String.utf8EncodeChar c) := by
  obtain ⟨high, hhigh, hhigh'⟩ := exists_hexDigit (d := c.toNat / 16) (by omega)
  obtain ⟨low, hlow, hlow'⟩ := exists_hexDigit (d := c.toNat % 16) (by omega)
  have hzero : hexDigit? 0x30 = some 0 := by decide
  have hunit : unit? 0x30 0x30 high low = some c.toNat := by
    have hsum : ((0 * 16 + 0) * 16 + c.toNat / 16) * 16 + c.toNat % 16 = c.toNat := by omega
    unfold unit?
    rw [hzero, hhigh', hlow']
    exact congrArg some hsum
  have hbytes : (['\\', 'u', '0', '0'] ++ hexPair c.toNat).flatMap String.utf8EncodeChar =
      [0x5c, 0x75, 0x30, 0x30, high, low] := by
    have hpair : (hexPair c.toNat).flatMap String.utf8EncodeChar = [high, low] := by
      unfold hexPair
      rw [List.flatMap_cons, List.flatMap_singleton, hhigh, hlow]
      rfl
    rw [List.flatMap_append, hpair]
    rfl
  have hmeans := means_unit hunit (by omega)
  rwa [Char.ofNat_toNat, ← hbytes] at hmeans

/-- Every character is read back from the way it is written inside quotes. -/
lemma means_escape_char (c : Char) :
    Means ((escape c).flatMap String.utf8EncodeChar) (String.utf8EncodeChar c) := by
  by_cases hletter : c = '"' ∨ c = '\\' ∨ c = '\x08' ∨ c = '\x0c' ∨ c = '\n' ∨ c = '\r' ∨ c = '\t'
  · rcases hletter with rfl | rfl | rfl | rfl | rfl | rfl | rfl
    · exact means_escape (b := 0x22) (by decide) rfl
    · exact means_escape (b := 0x5c) (by decide) rfl
    · exact means_escape (b := 0x62) (by decide) rfl
    · exact means_escape (b := 0x66) (by decide) rfl
    · exact means_escape (b := 0x6e) (by decide) rfl
    · exact means_escape (b := 0x72) (by decide) rfl
    · exact means_escape (b := 0x74) (by decide) rfl
  simp only [not_or] at hletter
  obtain ⟨hquote, hback, h8, hc, hnew, hreturn, htab⟩ := hletter
  unfold escape
  rw [if_neg hquote, if_neg hback, if_neg h8, if_neg hc, if_neg hnew, if_neg hreturn, if_neg htab]
  by_cases hcontrol : c.toNat < 32
  · rw [if_pos hcontrol]
    exact means_control hcontrol
  · rw [if_neg hcontrol, List.flatMap_singleton]
    apply means_plain_bytes
    intro b hb
    rcases utf8_mem_encodeChar hb with hb | hb
    · refine ⟨by omega, ?_, ?_⟩
      · rintro rfl
        exact hquote (Char.ext (UInt32.toNat_inj.mp hb.symm))
      · rintro rfl
        exact hback (Char.ext (UInt32.toNat_inj.mp hb.symm))
    · refine ⟨by omega, ?_, ?_⟩ <;> rintro rfl <;> exact absurd hb (by decide)

lemma means_flatMap_escape (cs : List Char) :
    Means ((cs.flatMap escape).flatMap String.utf8EncodeChar) (cs.flatMap String.utf8EncodeChar) := by
  induction cs with
  | nil => exact means_nil
  | cons c cs ih =>
    rw [List.flatMap_cons, List.flatMap_append, List.flatMap_cons]
    exact (means_escape_char c).append ih

/-! ### A string -/

/-- A text between quotes is read back as that text, and what stands behind it is left. -/
theorem next?_quote (s : String) (rest : List UInt8) :
    next? (Utf8.encode (quote s) ++ rest) = some (.string (some s), rest) := by
  obtain ⟨ps, hpieces, hutf8⟩ := means_flatMap_escape s.toList
  have hbytes : Utf8.encode (quote s) ++ rest =
      0x22 :: ((s.toList.flatMap escape).flatMap String.utf8EncodeChar ++ 0x22 :: rest) := by
    unfold Utf8.encode quote
    rw [String.toList_ofList, List.flatMap_append, List.flatMap_cons, List.append_assoc]
    rfl
  have htext : textOf ps = some s := by
    have hps := hutf8 []
    rw [List.append_nil] at hps
    unfold textOf
    rw [hps, utf8?, Option.map_some, List.append_nil]
    exact utf8_strict?_encode s
  have hend : pieces (0x22 :: rest) = some ([], rest) := by rw [pieces]
  rw [hbytes, next?, hpieces, hend, Option.map_some, Option.map_some]
  dsimp only
  rw [List.append_nil, htext]

end GuestBridge.Proofs
