import GuestBridge.Proofs.JsonStrings
import Mathlib.Data.List.TakeDrop
import Mathlib.Data.List.TakeWhile

/-!
# Tokens in a row

A token is read as long as it can be. Only a number can go on with what stands behind it, so the bytes of
several tokens fall into them again when what follows a number could not be a part of it.
-/

namespace GuestBridge.Proofs
open JsonToken Text

/-- Where the bytes `rest` behind them are such that `P`, the bytes are read as the tokens. -/
structure Lexes (P : List UInt8 → Prop) (bytes : List UInt8) (ts : List JsonToken) : Prop where
  length_le : ts.length ≤ bytes.length
  scan_append : ∀ rest fuel us, P rest → scan fuel rest = some us →
    scan (ts.length + fuel) (bytes ++ rest) = some (ts ++ us)

section
variable {P Q : List UInt8 → Prop}

lemma lexes_nil : Lexes P [] [] := by
  refine ⟨Nat.le_refl 0, fun rest fuel us _ h => ?_⟩
  rw [List.length_nil, Nat.zero_add]
  exact h

lemma Lexes.append {a b : List UInt8} {ts us : List JsonToken} (ha : Lexes P a ts) (hb : Lexes Q b us)
    (h : ∀ rest, Q rest → P (b ++ rest)) : Lexes Q (a ++ b) (ts ++ us) := by
  refine ⟨?_, fun rest fuel vs hrest hscan => ?_⟩
  · rw [List.length_append, List.length_append]
    exact Nat.add_le_add ha.length_le hb.length_le
  · have hlater := hb.scan_append rest fuel vs hrest hscan
    rw [List.append_assoc, List.append_assoc, List.length_append, Nat.add_assoc]
    exact ha.scan_append _ _ _ (h rest hrest) hlater

lemma lexes_blank {b : UInt8} (hb : JsonToken.isBlank b = true) : Lexes P [b] [] := by
  refine ⟨Nat.zero_le _, fun rest fuel us _ hscan => ?_⟩
  rw [List.length_nil, Nat.zero_add, List.nil_append, List.singleton_append]
  cases fuel with
  | zero => cases hscan
  | succ fuel =>
    rw [scan] at hscan ⊢
    rw [List.dropWhile_cons_of_pos hb]
    exact hscan

lemma lexes_blanks {bytes : List UInt8} (h : ∀ b ∈ bytes, JsonToken.isBlank b = true) : Lexes P bytes [] := by
  induction bytes with
  | nil => exact lexes_nil
  | cons b bytes ih =>
    have hfirst : Lexes (fun _ => True) [b] [] := lexes_blank (h b List.mem_cons_self)
    exact hfirst.append (ih fun c hc => h c (List.mem_cons_of_mem b hc)) fun _ _ => trivial

lemma lexes_token {b : UInt8} {bytes : List UInt8} {t : JsonToken} (hb : JsonToken.isBlank b = false)
    (h : ∀ rest, P rest → next? (b :: bytes ++ rest) = some (t, rest)) : Lexes P (b :: bytes) [t] := by
  refine ⟨Nat.succ_le_succ (Nat.zero_le _), fun rest fuel us hrest hscan => ?_⟩
  have hdrop : (b :: bytes ++ rest).dropWhile JsonToken.isBlank = b :: (bytes ++ rest) := by
    rw [List.cons_append, List.dropWhile_cons_of_neg (by rw [hb]; decide)]
  have hnext := h rest hrest
  rw [List.cons_append] at hnext
  rw [List.length_singleton, Nat.add_comm 1, scan, hdrop]
  dsimp only
  rw [hnext]
  dsimp only
  rw [hscan]
  rfl

end

/-! ### Documents -/

lemma scan_mono {fuel more : Nat} {bytes : List UInt8} {ts : List JsonToken} (h : scan fuel bytes = some ts) :
    scan (fuel + more) bytes = some ts := by
  induction fuel generalizing bytes ts with
  | zero => cases h
  | succ fuel ih =>
    rw [Nat.add_right_comm, scan]
    rw [scan] at h
    split at h
    · exact h
    · split at h
      · obtain ⟨us, hus, rfl⟩ := Option.map_eq_some_iff.mp h
        rw [ih hus]
        rfl
      · cases h

/-- A document whose bytes are those of some tokens is read as these tokens. -/
theorem tokens?_of_lexes {P : List UInt8 → Prop} {bytes : List UInt8} {ts : List JsonToken}
    (h : Lexes P bytes ts) (hend : P []) : tokens? bytes = some ts := by
  have hnil : scan 1 [] = some [] := rfl
  have hscan := h.scan_append [] 1 [] hend hnil
  rw [List.append_nil, List.append_nil] at hscan
  have hfuel : bytes.length + 1 = ts.length + 1 + (bytes.length - ts.length) := by
    have := h.length_le
    omega
  unfold tokens?
  rw [hfuel]
  exact scan_mono hscan

/-! ### Strings -/

lemma exists_quote (s : String) : ∃ tail, Utf8.encode (JsonValue.quote s) = 0x22 :: tail := by
  unfold Utf8.encode JsonValue.quote
  rw [String.toList_ofList]
  exact ⟨_, rfl⟩

lemma lexes_quote {P : List UInt8 → Prop} (s : String) :
    Lexes P (Utf8.encode (JsonValue.quote s)) [.string (some s)] := by
  have hread := next?_quote s
  obtain ⟨tail, htail⟩ := exists_quote s
  rw [htail] at hread ⊢
  exact lexes_token rfl fun rest _ => hread rest

/-! ### Numbers

A number is a whole part, perhaps with a sign in front of it and with a fraction and an exponent behind it. -/

/-- Bytes that a number does not go on with. -/
def Delimited (bytes : List UInt8) : Prop :=
  ∀ b, bytes.head? = some b → isDigit b = false ∧ b ≠ 0x2e ∧ b ≠ 0x65 ∧ b ≠ 0x45

def IsDigits (ds : List UInt8) : Prop := ds ≠ [] ∧ ∀ b ∈ ds, isDigit b = true

inductive IsWhole : List UInt8 → Prop
  | zero : IsWhole [0x30]
  | digits {ds : List UInt8} (h : IsDigits ds) (hzero : ds.head? ≠ some 0x30) : IsWhole ds

inductive IsFraction : List UInt8 → Prop
  | none : IsFraction []
  | digits {ds : List UInt8} (h : IsDigits ds) : IsFraction (0x2e :: ds)

inductive IsExponent : List UInt8 → Prop
  | none : IsExponent []
  | digits {e : UInt8} {sign ds : List UInt8} (he : e = 0x65 ∨ e = 0x45)
    (hsign : sign = [] ∨ sign = [0x2b] ∨ sign = [0x2d]) (h : IsDigits ds) : IsExponent (e :: sign ++ ds)

inductive IsNumber : List UInt8 → Prop
  | of {sign whole fraction exponent : List UInt8} (hsign : sign = [] ∨ sign = [0x2d]) (hwhole : IsWhole whole)
    (hfraction : IsFraction fraction) (hexponent : IsExponent exponent) :
    IsNumber (sign ++ (whole ++ fraction ++ exponent))

/-- The bytes do not start with a digit. -/
def NoDigit (bytes : List UInt8) : Prop := ∀ b, bytes.head? = some b → isDigit b = false

lemma digits?_append {ds rest : List UInt8} (h : IsDigits ds) (hrest : NoDigit rest) :
    digits? (ds ++ rest) = some (ds, rest) := by
  obtain ⟨hne, hall⟩ := h
  have hstop : rest.takeWhile isDigit = [] ∧ rest.dropWhile isDigit = rest := by
    cases rest with
    | nil => exact ⟨rfl, rfl⟩
    | cons b rest =>
      have hb := hrest b rfl
      exact ⟨List.takeWhile_cons_of_neg (by rw [hb]; decide), List.dropWhile_cons_of_neg (by rw [hb]; decide)⟩
  have hspan : (ds ++ rest).span isDigit = (ds, rest) := by
    rw [List.span_eq_takeWhile_dropWhile, List.takeWhile_append_of_pos hall, List.dropWhile_append_of_pos hall,
      hstop.1, hstop.2, List.append_nil]
  unfold digits?
  rw [hspan]
  split
  · next heq =>
    cases heq
    exact absurd rfl hne
  · next heq =>
    cases heq
    rfl

lemma whole?_append {ds rest : List UInt8} (h : IsWhole ds) (hrest : NoDigit rest) :
    whole? (ds ++ rest) = some (ds, rest) := by
  cases h with
  | zero => rfl
  | digits h hzero =>
    rw [whole?, digits?_append h hrest]
    intro tail htail
    obtain ⟨b, ds, rfl⟩ := List.exists_cons_of_ne_nil h.1
    cases htail
    exact hzero rfl

lemma fraction?_append {ds rest : List UInt8} (h : IsFraction ds) (hrest : NoDigit rest)
    (hpoint : rest.head? ≠ some 0x2e) : fraction? (ds ++ rest) = some (ds, rest) := by
  cases h with
  | none =>
    rw [List.nil_append, fraction?]
    rintro tail rfl
    exact hpoint rfl
  | digits h =>
    rw [List.cons_append, fraction?, digits?_append h hrest]
    rfl

lemma signed_append {sign ds rest : List UInt8} (hsign : sign = [] ∨ sign = [0x2b] ∨ sign = [0x2d])
    (h : IsDigits ds) : signed (sign ++ ds ++ rest) = (sign, ds ++ rest) := by
  rcases hsign with rfl | rfl | rfl
  · obtain ⟨b, ds, rfl⟩ := List.exists_cons_of_ne_nil h.1
    have hb := h.2 b List.mem_cons_self
    rw [List.nil_append, List.cons_append, signed]
    all_goals
      intro tail htail
      cases htail
      cases hb
  · rfl
  · rfl

lemma exponent?_append {ds rest : List UInt8} (h : IsExponent ds) (hrest : Delimited rest) :
    exponent? (ds ++ rest) = some (ds, rest) := by
  cases h with
  | none =>
    cases rest with
    | nil => rfl
    | cons b rest =>
      obtain ⟨-, -, hsmall, hcapital⟩ := hrest b rfl
      rw [List.nil_append, exponent?, if_neg (by simp [hsmall, hcapital])]
  | digits he hsign h =>
    have hdigits := digits?_append h fun b hb => (hrest b hb).1
    rw [List.cons_append, List.cons_append, exponent?, if_pos he, signed_append hsign h]
    dsimp only
    rw [hdigits]
    rfl

lemma IsWhole.exists_cons {ds : List UInt8} (h : IsWhole ds) : ∃ b tail, ds = b :: tail ∧ isDigit b = true := by
  cases h with
  | zero => exact ⟨0x30, [], rfl, rfl⟩
  | digits h _ =>
    obtain ⟨b, tail, rfl⟩ := List.exists_cons_of_ne_nil h.1
    exact ⟨b, tail, rfl, h.2 b List.mem_cons_self⟩

lemma noDigit_exponent {exponent rest : List UInt8} (h : IsExponent exponent) (hrest : Delimited rest) :
    NoDigit (exponent ++ rest) ∧ (exponent ++ rest).head? ≠ some 0x2e := by
  cases h with
  | none => exact ⟨fun b hb => (hrest b hb).1, fun hpoint => (hrest 0x2e hpoint).2.1 rfl⟩
  | digits he _ _ =>
    refine ⟨fun b hb => ?_, fun hpoint => ?_⟩
    · cases hb
      rcases he with rfl | rfl <;> rfl
    · cases hpoint
      rcases he with he | he <;> cases he

lemma noDigit_fraction {fraction rest : List UInt8} (h : IsFraction fraction) (hrest : NoDigit rest) :
    NoDigit (fraction ++ rest) := by
  cases h with
  | none => exact hrest
  | digits _ =>
    intro b hb
    cases hb
    rfl

lemma magnitude?_append {whole fraction exponent rest : List UInt8} (hwhole : IsWhole whole)
    (hfraction : IsFraction fraction) (hexponent : IsExponent exponent) (hrest : Delimited rest) :
    magnitude? (whole ++ fraction ++ exponent ++ rest) = some (whole ++ fraction ++ exponent, rest) := by
  obtain ⟨hbehind, hpoint⟩ := noDigit_exponent hexponent hrest
  have hread := whole?_append hwhole (noDigit_fraction hfraction hbehind)
  unfold magnitude?
  rw [List.append_assoc, List.append_assoc, hread]
  dsimp only [bind, Option.bind]
  rw [fraction?_append hfraction hbehind hpoint]
  dsimp only
  rw [exponent?_append hexponent hrest]
  rfl

lemma number?_append {ds rest : List UInt8} (h : IsNumber ds) (hrest : Delimited rest) :
    number? (ds ++ rest) = some (ds, rest) := by
  obtain ⟨hsign, hwhole, hfraction, hexponent⟩ := h
  have hread := magnitude?_append hwhole hfraction hexponent hrest
  rcases hsign with rfl | rfl
  · obtain ⟨b, tail, rfl, hb⟩ := hwhole.exists_cons
    rw [List.nil_append, number?, hread]
    intro after hafter
    cases hafter
    cases hb
  · rw [List.append_assoc, List.singleton_append, number?, hread]
    rfl

lemma isNumber_head {ds : List UInt8} (h : IsNumber ds) :
    ∃ b tail, ds = b :: tail ∧ (b = 0x2d ∨ isDigit b = true) := by
  obtain ⟨hsign, hwhole, -, -⟩ := h
  rcases hsign with rfl | rfl
  · obtain ⟨b, tail, rfl, hb⟩ := hwhole.exists_cons
    exact ⟨b, _, rfl, .inr hb⟩
  · exact ⟨0x2d, _, rfl, .inl rfl⟩

lemma isDigits_ascii {ds : List UInt8} (h : IsDigits ds) : ∀ b ∈ ds, b.toNat < 0x80 := by
  intro b hb
  have hdigit := h.2 b hb
  unfold isDigit at hdigit
  rw [Bool.and_eq_true, decide_eq_true_eq, decide_eq_true_eq] at hdigit
  have hle : b.toNat ≤ 0x39 := hdigit.2
  omega

lemma isNumber_ascii {ds : List UInt8} (h : IsNumber ds) : ∀ b ∈ ds, b.toNat < 0x80 := by
  obtain ⟨hsign, hwhole, hfraction, hexponent⟩ := h
  intro b hb
  simp only [List.mem_append] at hb
  rcases hb with hb | (hb | hb) | hb
  · rcases hsign with rfl | rfl
    · cases hb
    · rw [List.mem_singleton.mp hb]
      decide
  · cases hwhole with
    | zero =>
      rw [List.mem_singleton.mp hb]
      decide
    | digits h _ => exact isDigits_ascii h b hb
  · cases hfraction with
    | none => cases hb
    | digits h =>
      rcases List.mem_cons.mp hb with rfl | hb
      · decide
      · exact isDigits_ascii h b hb
  · cases hexponent with
    | none => cases hb
    | digits he hsign h =>
      rw [List.cons_append, List.mem_cons, List.mem_append] at hb
      rcases hb with rfl | hb | hb
      · rcases he with rfl | rfl <;> decide
      · rcases hsign with rfl | rfl | rfl
        · cases hb
        all_goals
          rw [List.mem_singleton.mp hb]
          decide
      · exact isDigits_ascii h b hb

lemma lexes_number {lit : String} (h : IsNumber (Utf8.encode lit)) :
    Lexes Delimited (Utf8.encode lit) [.number lit] := by
  have htext := utf8_ofList_ascii (isNumber_ascii h)
  have hread : ∀ rest, Delimited rest → number? (Utf8.encode lit ++ rest) = some (Utf8.encode lit, rest) :=
    fun rest hrest => number?_append h hrest
  obtain ⟨b, tail, hbytes, hb⟩ := isNumber_head h
  rw [hbytes] at hread htext ⊢
  have hblank : JsonToken.isBlank b = false := by
    rw [← Bool.not_eq_true]
    intro hblank
    unfold JsonToken.isBlank at hblank
    simp only [Bool.or_eq_true, beq_iff_eq] at hblank
    rcases hblank with ((rfl | rfl) | rfl) | rfl <;> rcases hb with hb | hb <;> cases hb
  refine lexes_token hblank fun rest hrest => ?_
  have hnumber := hread rest hrest
  rw [List.cons_append] at hnumber ⊢
  rw [next?, hnumber, Option.map_some]
  · dsimp only
    rw [htext]
  -- no other token starts with the first byte of a number
  all_goals
    intro after hafter
    obtain rfl := (List.cons.inj hafter).1
    rcases hb with hb | hb <;> cases hb

end GuestBridge.Proofs
