import GuestBridge.Proofs.Writing
import Mathlib.Algebra.Order.Ring.Nat
import Mathlib.Order.Bounds.Basic

/-!
# The shortest form of a number

A number is written in as few groups as it fits. A reader takes longer forms of it as well, with zero
groups at their end, but no shorter one and no other of the same length. Each written number ends where
the reader stops, so numbers written one after the other are read back as they were.
-/

namespace GuestBridge.Proofs
open Varint

/-! ### Lengths -/

lemma varint_length_of_lt {v : Nat} (hv : v < 128) : length v = 1 := by
  rw [length, if_pos hv]

lemma varint_length_of_ge {v : Nat} (hv : ¬v < 128) : length v = length (v / 128) + 1 := by
  rw [length, if_neg hv]

lemma length_groups (v : Nat) : (groups v).length = length v := by
  induction v using groups.induct with
  | case1 v hv => rw [groups, if_pos hv, varint_length_of_lt hv, List.length_singleton]
  | case2 v hv ih => rw [groups, if_neg hv, varint_length_of_ge hv, List.length_cons, ih]

lemma two_pow_seven_succ (n : Nat) : 2 ^ (7 * (n + 1)) = 128 * 2 ^ (7 * n) := by
  rw [Nat.mul_succ, Nat.pow_add, Nat.mul_comm]

theorem isLeast_length (v : Nat) : IsLeast {n | 1 ≤ n ∧ v < 2 ^ (7 * n)} (length v) := by
  induction v using length.induct with
  | case1 v hv =>
    rw [varint_length_of_lt hv]
    exact ⟨⟨le_rfl, hv⟩, fun n hn => hn.1⟩
  | case2 v hv ih =>
    rw [varint_length_of_ge hv]
    obtain ⟨⟨-, hfits⟩, hleast⟩ := ih
    refine ⟨⟨Nat.le_add_left 1 _, ?_⟩, ?_⟩
    · rw [two_pow_seven_succ]
      omega
    · rintro n ⟨hn, hlt⟩
      obtain ⟨m, rfl⟩ := Nat.exists_eq_add_of_le' hn
      rw [two_pow_seven_succ] at hlt
      have hm : m ≠ 0 := by
        rintro rfl
        exact hv hlt
      have hle : length (v / 128) ≤ m := hleast ⟨by omega, by omega⟩
      omega

/-! ### What a reader takes -/

lemma Spells.length_pos {used : List UInt8} {v : Nat} (h : Spells used v) : 1 ≤ used.length := by
  cases h with
  | last high => exact le_rfl
  | more low rest => exact Nat.le_add_left 1 _

lemma Spells.length_le {used : List UInt8} {v : Nat} (h : Spells used v) : length v ≤ used.length := by
  induction h with
  | @last b high =>
    have hb := b.toNat_lt
    rw [varint_length_of_lt (by omega), List.length_singleton]
  | @more b used v low rest ih =>
    rw [List.length_cons]
    by_cases hv : b.toNat + 128 * v < 128
    · rw [varint_length_of_lt hv]
      omega
    · have hrest : (b.toNat + 128 * v) / 128 = v := by omega
      rw [varint_length_of_ge hv, hrest]
      omega

/-- Among the forms of a number only the written one is as short as it. -/
lemma Spells.eq_groups {used : List UInt8} {v : Nat} (h : Spells used v) (hlength : used.length = length v) :
    used = groups v := by
  induction h with
  | @last b high =>
    have hb := b.toNat_lt
    have hv : b.toNat - 128 < 128 := by omega
    rw [groups, if_pos hv, Nat.sub_add_cancel high, UInt8.ofNat_toNat]
  | @more b used v low rest ih =>
    rw [List.length_cons] at hlength
    by_cases hv : b.toNat + 128 * v < 128
    · have hpos := rest.length_pos
      rw [varint_length_of_lt hv] at hlength
      omega
    · have hrest : (b.toNat + 128 * v) / 128 = v := by omega
      have hgroup : (b.toNat + 128 * v) % 128 = b.toNat := by omega
      rw [varint_length_of_ge hv, hrest] at hlength
      rw [groups, if_neg hv, hrest, hgroup, UInt8.ofNat_toNat, ← ih (Nat.succ.inj hlength)]

lemma exists_spells {left : Nat} {bytes : List UInt8} (h : ∃ b ∈ bytes.take left, 128 ≤ b.toNat) :
    ∃ used rest v, bytes = used ++ rest ∧ Spells used v ∧ used.length ≤ left := by
  obtain ⟨b, hb, hhigh⟩ := h
  induction left generalizing bytes with
  | zero => cases hb
  | succ left ih =>
    cases bytes with
    | nil => cases hb
    | cons first tail =>
      by_cases hfirst : 128 ≤ first.toNat
      · exact ⟨[first], tail, _, rfl, .last hfirst, Nat.le_add_left 1 left⟩
      · rw [List.take_succ_cons] at hb
        rcases List.mem_cons.mp hb with rfl | hb
        · exact absurd hhigh hfirst
        · obtain ⟨used, rest, v, rfl, hspells, hle⟩ := ih hb
          exact ⟨first :: used, rest, _, rfl, .more (by omega) hspells, Nat.succ_le_succ hle⟩

/-- Among the bytes that a reader may take there is one that ends a number. -/
def EndsInTime (bytes : List UInt8) : Prop := ∃ b ∈ bytes.take maxGroups, 128 ≤ b.toNat

/-- What a reader takes of bytes that end a number in time is a form of that number. -/
lemma spells_of_read {bytes rest : List UInt8} {v : Nat} (hends : EndsInTime bytes)
    (h : (Varint.read bytes).result? = some (v, rest)) :
    ∃ used, bytes = used ++ rest ∧ Spells used v ∧ used.length ≤ maxGroups := by
  obtain ⟨used, left, n, rfl, hspells, hle⟩ := exists_spells hends
  rw [hspells.read hle] at h
  cases h
  exact ⟨used, rfl, hspells, hle⟩

lemma Spells.le_maxValue {used : List UInt8} {v : Nat} (h : Spells used v) (hle : used.length ≤ maxGroups) :
    v ≤ maxValue := by
  have hfits : v < 2 ^ (7 * length v) := (isLeast_length v).1.2
  have hgroups : 7 * length v ≤ 28 := Nat.mul_le_mul_left 7 (h.length_le.trans hle)
  have hpow : 2 ^ (7 * length v) ≤ 2 ^ 28 := Nat.pow_le_pow_right (by omega) hgroups
  rw [varint_maxValue_eq]
  omega

/-! ### Written numbers -/

/-- What writing a number puts into an empty sink. -/
def writtenForm (v : UInt32) : List UInt8 := ((Writing.varint v).run.run Sink.unlimited).2.bytes

/-- Reads as many numbers, one after the other. -/
def readEach : Nat → List UInt8 → Option (List Nat × List UInt8)
  | 0, bytes => some ([], bytes)
  | count + 1, bytes =>
    match (Varint.read bytes).result? with
    | none => none
    | some (v, rest) => (readEach count rest).map fun (vs, left) => (v :: vs, left)

lemma sink_push_unlimited {s : Sink} (hs : s.room = none) (data : List UInt8) :
    s.push data = (true, ⟨data.reverse ++ s.reversed, none⟩) := by
  obtain ⟨reversed, room⟩ := s
  cases hs
  rw [← List.reverseAux_eq]
  rfl

lemma write_varint_unlimited {v : UInt32} (hv : v.toNat ≤ maxValue) {s : Sink} (hs : s.room = none) :
    (Writing.varint v).run.run s =
      (.ok (length v.toNat), ⟨(groups v.toNat).reverse ++ s.reversed, none⟩) := by
  rw [writes_varint hv, sink_push_unlimited hs, length_groups]
  rfl

lemma write_varint_refused {v : UInt32} (hv : maxValue < v.toNat) (s : Sink) :
    (Writing.varint v).run.run s = (.error (.varintTooLarge v), s) := by
  unfold Writing.varint encode?
  rw [if_neg (Nat.not_le.mpr hv)]
  rfl

lemma writtenForm_eq {v : UInt32} (hv : v.toNat ≤ maxValue) : writtenForm v = groups v.toNat := by
  unfold writtenForm
  rw [write_varint_unlimited hv rfl]
  simp [Sink.bytes, Sink.unlimited]

/-- What is known of a number, as it is written and read. -/
structure CanonicalForm (v : UInt32) : Prop where
  length : IsLeast {n | 1 ≤ n ∧ v.toNat < 2 ^ (7 * n)} (Varint.length v.toNat)
  refused : maxValue < v.toNat → ∀ s : Sink, (Writing.varint v).run.run s = (.error (.varintTooLarge v), s)
  written : v.toNat ≤ maxValue → (writtenForm v).length = Varint.length v.toNat ∧
    ∀ s : Sink, s.room = none → ∃ s' : Sink, (Writing.varint v).run.run s = (.ok (Varint.length v.toNat), s') ∧
      s'.bytes = s.bytes ++ writtenForm v
  readBack : v.toNat ≤ maxValue → ∀ rest, Varint.read (writtenForm v ++ rest) = .value v.toNat rest
  shortest : ∀ bytes rest, EndsInTime bytes → (Varint.read bytes).result? = some (v.toNat, rest) →
    ∃ used, bytes = used ++ rest ∧ Varint.length v.toNat ≤ used.length ∧
      (used.length = Varint.length v.toNat ↔ used = writtenForm v)

lemma canonicalForm (v : UInt32) : CanonicalForm v where
  length := isLeast_length v.toNat
  refused := write_varint_refused
  written := by
    intro hv
    rw [writtenForm_eq hv]
    refine ⟨length_groups v.toNat, fun s hs => ⟨_, write_varint_unlimited hv hs, ?_⟩⟩
    simp [Sink.bytes]
  readBack := by
    intro hv rest
    rw [writtenForm_eq hv]
    exact varint_read_groups hv rest
  shortest := by
    intro bytes rest hends hread
    obtain ⟨used, hbytes, hspells, hle⟩ := spells_of_read hends hread
    rw [writtenForm_eq (hspells.le_maxValue hle)]
    refine ⟨used, hbytes, hspells.length_le, hspells.eq_groups, ?_⟩
    rintro rfl
    exact length_groups v.toNat

lemma readEach_writtenForms {vs : List UInt32} (hvs : ∀ v ∈ vs, v.toNat ≤ maxValue) (rest : List UInt8) :
    readEach vs.length (vs.flatMap writtenForm ++ rest) = some (vs.map UInt32.toNat, rest) := by
  induction vs with
  | nil => rfl
  | cons v vs ih =>
    have hread := (canonicalForm v).readBack (hvs v List.mem_cons_self) (vs.flatMap writtenForm ++ rest)
    rw [List.flatMap_cons, List.append_assoc, List.length_cons, readEach, hread, Outcome.result?]
    dsimp only
    rw [ih fun u hu => hvs u (List.mem_cons_of_mem v hu)]
    rfl

/-- Every number has a shortest form, which is the written one if it can be written at all, and written
numbers are read back, one by one or one after the other. -/
theorem varint_canonical :
    maxValue = 2 ^ 28 - 1 ∧ (∀ v : UInt32, CanonicalForm v) ∧
      ∀ vs : List UInt32, (∀ v ∈ vs, v.toNat ≤ maxValue) → ∀ rest,
        readEach vs.length (vs.flatMap writtenForm ++ rest) = some (vs.map UInt32.toNat, rest) :=
  ⟨rfl, canonicalForm, fun _ => readEach_writtenForms⟩

end GuestBridge.Proofs
