import GuestBridge.Varint
import Mathlib.Tactic.Common

/-!
# Reading back written numbers

The groups of a value that fits are read back as that value, whatever bytes follow them, and what a
reader leaves unread is the end of what it was given.
-/

namespace GuestBridge.Proofs
open Varint

lemma varint_maxValue_eq : maxValue = 268435455 := rfl

lemma varint_length_groups_succ_le {v n : Nat} (hn : 0 < n)
    (h : (groups (v / 128)).length ≤ n) : (groups v).length ≤ n + 1 := by
  rw [groups]
  by_cases hv : v < 128
  · rw [if_pos hv, List.length_singleton]
    omega
  · rw [if_neg hv, List.length_cons]
    omega

lemma varint_length_groups_le {v : Nat} (hv : v ≤ maxValue) : (groups v).length ≤ maxGroups := by
  rw [varint_maxValue_eq] at hv
  have h : (groups (v / 128 / 128 / 128)).length = 1 := by
    rw [groups, if_pos (by omega), List.length_singleton]
  apply varint_length_groups_succ_le (by omega)
  apply varint_length_groups_succ_le (by omega)
  exact varint_length_groups_succ_le (by omega) (Nat.le_of_eq h)

/-- Groups of seven bits, the low one first, and the number they stand for. The last of them, and no
other, has the high bit set. -/
inductive Spells : List UInt8 → Nat → Prop where
  | last {b : UInt8} (high : 128 ≤ b.toNat) : Spells [b] (b.toNat - 128)
  | more {b : UInt8} {used : List UInt8} {v : Nat} (low : b.toNat < 128) (rest : Spells used v) :
      Spells (b :: used) (b.toNat + 128 * v)

/-- A reader takes every form of a number, whatever stands behind it. -/
lemma Spells.scan {used : List UInt8} {v : Nat} (h : Spells used v) {left : Nat} (hleft : used.length ≤ left)
    (weight sum : Nat) (rest : List UInt8) :
    Varint.scan left weight sum (used ++ rest) = .value (sum + v * weight) rest := by
  induction h generalizing left weight sum with
  | @last b high =>
    obtain ⟨left, rfl⟩ := Nat.exists_eq_add_of_le' hleft
    exact if_pos high
  | @more b used v low spelled ih =>
    obtain ⟨left, rfl⟩ := Nat.exists_eq_add_of_le' (Nat.lt_of_lt_of_le (Nat.succ_pos _) hleft)
    have hlength : used.length ≤ left := Nat.le_of_succ_le_succ hleft
    have hvalue : b.toNat * weight + v * (weight * 128) = (b.toNat + 128 * v) * weight := by
      rw [Nat.add_mul, Nat.mul_comm 128 v, Nat.mul_assoc, Nat.mul_comm 128 weight]
    rw [List.cons_append, Varint.scan, if_neg (by omega), ih hlength, Nat.add_assoc, hvalue]

lemma spells_groups (v : Nat) : Spells (groups v) v := by
  induction v using groups.induct with
  | case1 v hv =>
    have hb : (UInt8.ofNat (v + 128)).toNat = v + 128 := by rw [UInt8.toNat_ofNat']; omega
    have hlast := Spells.last (b := UInt8.ofNat (v + 128)) (by omega)
    rw [hb, Nat.add_sub_cancel] at hlast
    rwa [groups, if_pos hv]
  | case2 v hv ih =>
    have hb : (UInt8.ofNat (v % 128)).toNat = v % 128 := by rw [UInt8.toNat_ofNat']; omega
    have hmore := Spells.more (b := UInt8.ofNat (v % 128)) (by omega) ih
    rw [hb, Nat.mod_add_div] at hmore
    rwa [groups, if_neg hv]

lemma Spells.read {used : List UInt8} {v : Nat} (h : Spells used v) (hle : used.length ≤ maxGroups)
    (rest : List UInt8) : Varint.read (used ++ rest) = .value v rest := by
  have hscan := h.scan hle 1 0 rest
  rwa [Nat.mul_one, Nat.zero_add] at hscan

theorem varint_read_groups {v : Nat} (hv : v ≤ maxValue) (rest : List UInt8) :
    Varint.read (groups v ++ rest) = .value v rest :=
  (spells_groups v).read (varint_length_groups_le hv) rest

lemma varint_scan_suffix {left weight sum v : Nat} {bytes rest : List UInt8}
    (h : (scan left weight sum bytes).result? = some (v, rest)) : rest <:+ bytes := by
  induction left generalizing weight sum bytes with
  | zero =>
    cases h
    exact List.suffix_refl _
  | succ left ih =>
    cases bytes with
    | nil => cases h
    | cons b tail =>
      rw [scan] at h
      by_cases hb : 128 ≤ b.toNat
      · rw [if_pos hb] at h
        cases h
        exact List.suffix_cons b rest
      · rw [if_neg hb] at h
        exact (ih h).trans (List.suffix_cons b tail)

end GuestBridge.Proofs
