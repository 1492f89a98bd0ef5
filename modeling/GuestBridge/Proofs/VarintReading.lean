import GuestBridge.Proofs.Digits
import GuestBridge.Proofs.VarintCanonical

/-!
# Numbers in any stream

A reader looks for a byte with the high bit among the next four. If there is one, the number ends at the
first of them; else four bytes are taken for a zero, or the stream ends. Nothing is lost when the sum is
kept in a word of 32 bits.
-/

namespace GuestBridge.Proofs
open Varint

/-- The first byte with the high bit stands at this index. -/
def EndsAt (bytes : List UInt8) (i : Nat) : Prop :=
  (∃ b, bytes[i]? = some b ∧ 128 ≤ b.toNat) ∧ ∀ j < i, ∀ b, bytes[j]? = some b → b.toNat < 128

/-- The number that the low bits of the first `n` bytes are the digits of. -/
def groupSum (bytes : List UInt8) (n : Nat) : Nat :=
  ∑ j ∈ Finset.range n, (bytes.getD j 0).toNat % 128 * 128 ^ j

/-- What reading a number returns, and the bytes it leaves. -/
def readNumber (bytes : List UInt8) : Except StreamFault Nat × List UInt8 :=
  match Varint.read bytes with
  | .value v rest => (.ok v, rest)
  | .overflow rest => (.ok 0, rest)
  | .ended => (.error .endOfStream, [])

/-- As many reads one after the other, also behind one that failed. -/
def readNumbers : Nat → List UInt8 → List (Except StreamFault Nat) × List UInt8
  | 0, bytes => ([], bytes)
  | k + 1, bytes =>
    let (answers, last) := readNumbers k (readNumber bytes).2
    ((readNumber bytes).1 :: answers, last)

/-! ### Words -/

/-- The low bits of a byte at their place in a word of 32 bits. None if the place lies outside of the
word or a bit is pushed out of it. -/
def placed? (b : UInt8) (shift : UInt32) : Option UInt32 :=
  if shift.toNat < 32 ∧ (b &&& 127).toNat * 2 ^ shift.toNat < UInt32.size then
    some ((b &&& 127).toUInt32 <<< shift)
  else none

/-- A reader that keeps its sum in a word. -/
def scanWord? : (left : Nat) → (shift sum : UInt32) → List UInt8 → Option Outcome
  | 0, _, _, rest => some (.overflow rest)
  | _ + 1, _, _, [] => some .ended
  | left + 1, shift, sum, b :: rest =>
    match placed? b shift with
    | none => none
    | some group =>
      if 127 < b then some (.value (sum ||| group).toNat rest)
      else scanWord? left (shift + 7) (sum ||| group) rest

lemma toNat_low (b : UInt8) : (b &&& 127).toNat = b.toNat % 128 := by
  have hmask : (127 : UInt8).toNat = 2 ^ 7 - 1 := rfl
  rw [UInt8.toNat_and, hmask, Nat.and_two_pow_sub_one_eq_mod]

lemma low_mul_lt (b : UInt8) {n : Nat} (hn : n + 7 ≤ 32) : b.toNat % 128 * 2 ^ n < UInt32.size := by
  have hlow : b.toNat % 128 < 2 ^ 7 := Nat.mod_lt _ (by omega)
  calc b.toNat % 128 * 2 ^ n < 2 ^ 7 * 2 ^ n := Nat.mul_lt_mul_of_pos_right hlow (Nat.two_pow_pos n)
    _ = 2 ^ (n + 7) := by rw [← Nat.pow_add, Nat.add_comm]
    _ ≤ 2 ^ 32 := Nat.pow_le_pow_right (by omega) hn

lemma placed?_eq (b : UInt8) {shift : UInt32} (hshift : shift.toNat + 7 ≤ 32) :
    placed? b shift = some ((b &&& 127).toUInt32 <<< shift) := by
  unfold placed?
  rw [toNat_low, if_pos ⟨by omega, low_mul_lt b hshift⟩]

/-- The bits of a group that is put above all others are none of theirs. -/
lemma toNat_or_placed (b : UInt8) {shift sum : UInt32} (hshift : shift.toNat + 7 ≤ 32)
    (hsum : sum.toNat < 2 ^ shift.toNat) :
    (sum ||| (b &&& 127).toUInt32 <<< shift).toNat = sum.toNat + b.toNat % 128 * 2 ^ shift.toNat := by
  have hplace : shift.toNat % 32 = shift.toNat := Nat.mod_eq_of_lt (by omega)
  have hfits : b.toNat % 128 * 2 ^ shift.toNat < 2 ^ 32 := low_mul_lt b hshift
  rw [UInt32.toNat_or, UInt32.toNat_shiftLeft, UInt8.toNat_toUInt32, toNat_low, hplace, Nat.shiftLeft_eq,
    Nat.mod_eq_of_lt hfits, Nat.or_comm, Nat.mul_comm, ← Nat.two_pow_add_eq_or_of_lt hsum, Nat.add_comm]

lemma scanWord?_eq {left : Nat} {shift sum : UInt32} (hshift : shift.toNat + 7 * left ≤ 32)
    (hsum : sum.toNat < 2 ^ shift.toNat) (bytes : List UInt8) :
    scanWord? left shift sum bytes = some (scan left (2 ^ shift.toNat) sum.toNat bytes) := by
  induction left generalizing shift sum bytes with
  | zero => rfl
  | succ left ih =>
    cases bytes with
    | nil => rfl
    | cons b rest =>
      have hroom : shift.toNat + 7 ≤ 32 := by omega
      have hor := toNat_or_placed b hroom hsum
      rw [scanWord?, scan, placed?_eq b hroom]
      dsimp only
      by_cases hb : 128 ≤ b.toNat
      · have hb' : 127 < b := hb
        have hlow : b.toNat % 128 = b.toNat - 128 := by
          have := b.toNat_lt
          omega
        rw [if_pos hb, if_pos hb', hor, hlow]
      · have hb' : ¬127 < b := hb
        have hlow : b.toNat % 128 = b.toNat := Nat.mod_eq_of_lt (by omega)
        have hnext : (shift + 7).toNat = shift.toNat + 7 := by
          have hseven : (7 : UInt32).toNat = 7 := rfl
          rw [UInt32.toNat_add, hseven]
          omega
        have hpow : 2 ^ (shift.toNat + 7) = 2 ^ shift.toNat * 128 := Nat.pow_add 2 _ 7
        rw [hlow] at hor
        -- the sum stays below the place of the next group
        have hbelow : (sum ||| (b &&& 127).toUInt32 <<< shift).toNat < 2 ^ (shift + 7).toNat := by
          have hdigit : b.toNat * 2 ^ shift.toNat ≤ 127 * 2 ^ shift.toNat :=
            Nat.mul_le_mul_right _ (by omega)
          rw [hor, hnext, hpow]
          omega
        rw [if_neg hb, if_neg hb', ih (by omega) hbelow, hor, hnext, hpow]

/-! ### One number -/

lemma groupSum_succ (b : UInt8) (tail : List UInt8) (n : Nat) :
    groupSum (b :: tail) (n + 1) = b.toNat % 128 + 128 * groupSum tail n :=
  sum_digits_cons (·.toNat % 128) 128 b tail n

lemma EndsAt.tail {b : UInt8} {tail : List UInt8} {i : Nat} (h : EndsAt (b :: tail) (i + 1)) :
    b.toNat < 128 ∧ EndsAt tail i := by
  obtain ⟨hhigh, hlow⟩ := h
  refine ⟨hlow 0 (by omega) b rfl, hhigh, fun j hj => ?_⟩
  exact hlow (j + 1) (by omega)

lemma EndsAt.spells {bytes : List UInt8} {i : Nat} (h : EndsAt bytes i) :
    Spells (bytes.take (i + 1)) (groupSum bytes (i + 1)) := by
  induction i generalizing bytes with
  | zero =>
    obtain ⟨⟨b, hb, hhigh⟩, -⟩ := h
    cases bytes with
    | nil => cases hb
    | cons first tail =>
      cases hb
      have hsum : groupSum (b :: tail) 1 = b.toNat - 128 := by
        have := b.toNat_lt
        rw [groupSum_succ, groupSum, Finset.sum_range_zero]
        omega
      rw [hsum]
      exact .last hhigh
  | succ i ih =>
    cases bytes with
    | nil =>
      obtain ⟨⟨b, hb, -⟩, -⟩ := h
      cases hb
    | cons b tail =>
      obtain ⟨hlow, htail⟩ := h.tail
      rw [groupSum_succ, Nat.mod_eq_of_lt hlow]
      exact .more hlow (ih htail)

lemma scan_of_low {left : Nat} {bytes : List UInt8} (h : ∀ b ∈ bytes.take left, b.toNat < 128)
    (weight sum : Nat) :
    scan left weight sum bytes = if left ≤ bytes.length then .overflow (bytes.drop left) else .ended := by
  induction left generalizing weight sum bytes with
  | zero => rfl
  | succ left ih =>
    cases bytes with
    | nil => rfl
    | cons b tail =>
      rw [List.take_succ_cons, List.forall_mem_cons] at h
      rw [scan, if_neg (by omega), ih h.2]
      simp only [List.length_cons, Nat.add_le_add_iff_right, List.drop_succ_cons]

lemma readNumber_of_spells {used : List UInt8} {v : Nat} (h : Spells used v) (hle : used.length ≤ maxGroups)
    (rest : List UInt8) : readNumber (used ++ rest) = (.ok v, rest) := by
  unfold readNumber
  rw [h.read hle]

/-- Reading a number, whatever the stream. -/
structure ReadingLaw (bytes : List UInt8) : Prop where
  ends : ∀ i < maxGroups, EndsAt bytes i → i + 1 ≤ bytes.length ∧ groupSum bytes (i + 1) ≤ maxValue ∧
    readNumber bytes = (.ok (groupSum bytes (i + 1)), bytes.drop (i + 1))
  overflows : (∀ b ∈ bytes.take maxGroups, b.toNat < 128) → maxGroups ≤ bytes.length →
    readNumber bytes = (.ok 0, bytes.drop maxGroups)
  fails : (∀ b ∈ bytes, b.toNat < 128) → bytes.length < maxGroups →
    readNumber bytes = (.error .endOfStream, [])
  inWords : scanWord? maxGroups 0 0 bytes = some (Varint.read bytes)

lemma readingLaw (bytes : List UInt8) : ReadingLaw bytes where
  ends := by
    intro i hi h
    have hspells := h.spells
    have hlength : i < bytes.length := by
      obtain ⟨⟨b, hb, -⟩, -⟩ := h
      exact (List.getElem?_eq_some_iff.mp hb).1
    have hused : (bytes.take (i + 1)).length ≤ maxGroups := by
      rw [List.length_take]
      omega
    have hread := readNumber_of_spells hspells hused (bytes.drop (i + 1))
    rw [List.take_append_drop] at hread
    exact ⟨hlength, hspells.le_maxValue hused, hread⟩
  overflows := by
    intro hlow hlength
    unfold readNumber Varint.read
    rw [scan_of_low hlow, if_pos hlength]
  fails := by
    intro hlow hlength
    unfold readNumber Varint.read
    rw [scan_of_low fun b hb => hlow b (List.mem_of_mem_take hb), if_neg (Nat.not_le.mpr hlength)]
  inWords := scanWord?_eq (by decide) (by decide) bytes

/-! ### Numbers one after the other -/

/-- A read goes on by at most four bytes, and a value that it returns could have been written. -/
lemma readNumber_bounds (bytes : List UInt8) :
    (∃ used, bytes = used ++ (readNumber bytes).2 ∧ used.length ≤ maxGroups) ∧
      ∀ v, (readNumber bytes).1 = .ok v → v ≤ maxValue := by
  by_cases hends : EndsInTime bytes
  · obtain ⟨used, rest, v, rfl, hspells, hle⟩ := exists_spells hends
    rw [readNumber_of_spells hspells hle]
    refine ⟨⟨used, rfl, hle⟩, fun u hu => ?_⟩
    cases hu
    exact hspells.le_maxValue hle
  · have hlow : ∀ b ∈ bytes.take maxGroups, b.toNat < 128 := by
      intro b hb
      by_contra hhigh
      exact hends ⟨b, hb, Nat.le_of_not_lt hhigh⟩
    by_cases hlength : maxGroups ≤ bytes.length
    · rw [(readingLaw bytes).overflows hlow hlength]
      refine ⟨⟨bytes.take maxGroups, (List.take_append_drop _ _).symm, List.length_take_le _ _⟩, ?_⟩
      intro u hu
      cases hu
      exact Nat.zero_le _
    · have hshort : bytes.length < maxGroups := Nat.lt_of_not_le hlength
      rw [List.take_of_length_le (Nat.le_of_lt hshort)] at hlow
      rw [(readingLaw bytes).fails hlow hshort]
      exact ⟨⟨bytes, (List.append_nil bytes).symm, Nat.le_of_lt hshort⟩, fun u hu => by cases hu⟩

lemma readNumbers_bounds (k : Nat) (bytes : List UInt8) :
    (∃ used, bytes = used ++ (readNumbers k bytes).2 ∧ used.length ≤ maxGroups * k) ∧
      ∀ v, .ok v ∈ (readNumbers k bytes).1 → v ≤ maxValue := by
  induction k generalizing bytes with
  | zero => exact ⟨⟨[], rfl, le_rfl⟩, fun v hv => by cases hv⟩
  | succ k ih =>
    obtain ⟨⟨first, hfirst, hfirstLength⟩, hvalue⟩ := readNumber_bounds bytes
    obtain ⟨⟨more, hmore, hmoreLength⟩, hvalues⟩ := ih (readNumber bytes).2
    refine ⟨⟨first ++ more, ?_, ?_⟩, fun v hv => ?_⟩
    · rw [List.append_assoc]
      exact hfirst.trans (congrArg (first ++ ·) hmore)
    · rw [List.length_append, Nat.mul_succ]
      omega
    · rcases List.mem_cons.mp hv with hv | hv
      · exact hvalue v hv.symm
      · exact hvalues v hv

lemma length_readNumbers (k : Nat) (bytes : List UInt8) : (readNumbers k bytes).1.length = k := by
  induction k generalizing bytes with
  | zero => rfl
  | succ k ih => exact congrArg (· + 1) (ih (readNumber bytes).2)

/-- What a number read from a stream is and where it ends, and how far any count of reads gets. -/
theorem varint_reading :
    maxGroups = 4 ∧ maxValue = 2 ^ 28 - 1 ∧ (∀ bytes, ReadingLaw bytes) ∧
      ∀ k bytes, (readNumbers k bytes).1.length = k ∧
        (∃ used, bytes = used ++ (readNumbers k bytes).2 ∧ used.length ≤ 4 * k) ∧
        ∀ v, .ok v ∈ (readNumbers k bytes).1 → v ≤ maxValue :=
  ⟨rfl, rfl, readingLaw, fun k bytes => ⟨length_readNumbers k bytes, readNumbers_bounds k bytes⟩⟩

/-- The number that four bytes did not end is not looked for behind them. -/
example : Varint.read [0x01, 0x02, 0x03, 0x04, 0x05, 0x86] = .overflow [0x05, 0x86] := by decide

end GuestBridge.Proofs
