import GuestBridge.Proofs.Handles
import Mathlib.Data.List.Sort

/-!
# The entries of a table in order

The handles of a table rise along its entries. So a handle stands there at most once, the handles that
hold something fix the list of them, an insertion meets what stood at its handle, and the first entry of
some sort is the one under the lowest handle.
-/

namespace GuestBridge.Proofs
open ResourceTable

lemma handle_ne_of_raw_lt {h k : Handle} (hlt : h.raw < k.raw) : h ≠ k := by
  rintro rfl
  exact UInt32.lt_irrefl _ hlt

lemma handle_eq_of_raw_le {h k : Handle} (hle : h.raw ≤ k.raw) (hge : k.raw ≤ h.raw) : h = k := by
  have hraw : h.raw = k.raw := UInt32.le_antisymm hle hge
  exact handle_ext (congrArg UInt32.toNat hraw)

/-- Lists along which a number rises are equal once they have the same members. -/
lemma eq_of_rising {β : Type} (f : β → UInt32) {xs ys : List β} (hx : xs.Pairwise fun a b => f a < f b)
    (hy : ys.Pairwise fun a b => f a < f b) (h : ∀ a, a ∈ xs ↔ a ∈ ys) : xs = ys := by
  have hasymm : Std.Antisymm fun a b : β => f a < f b := ⟨fun a b hab hba => absurd hba (UInt32.lt_asymm hab)⟩
  have hirrefl : Std.Irrefl fun a b : β => f a < f b := ⟨fun a => UInt32.lt_irrefl (f a)⟩
  exact hx.eq_of_mem_iff hy h

lemma find?_handle_eq_some_iff {entries : List (Handle × Resource)} (ha : Ascending entries) {h : Handle}
    {r : Resource} : (entries.find? (fun e => e.1 = h)).map (·.2) = some r ↔ (h, r) ∈ entries := by
  induction entries with
  | nil => simp
  | cons head rest ih =>
    obtain ⟨k, s⟩ := head
    obtain ⟨hhead, hrest⟩ := List.pairwise_cons.mp ha
    by_cases hk : k = h
    · subst hk
      have habsent : (k, r) ∉ rest := by
        intro hmem
        exact UInt32.lt_irrefl _ (hhead (k, r) hmem)
      simp [habsent, eq_comm]
    · have hne : (h, r) ≠ (k, s) := by
        intro heq
        exact hk (congrArg Prod.fst heq).symm
      have hskip : ((k, s) :: rest).find? (fun e => e.1 = h) = rest.find? (fun e => e.1 = h) := by
        simp [hk]
      rw [hskip, ih hrest, List.mem_cons]
      simp only [hne, false_or]

lemma getAny?_eq_some_iff {t : ResourceTable} {h : Handle} {r : Resource} :
    t.getAny? h = some r ↔ (h, r) ∈ t.entries :=
  find?_handle_eq_some_iff t.ascending

/-! ### The handles in use -/

/-- The handles under which a table holds something, in ascending order. -/
def handles (t : ResourceTable) : List Handle := t.entries.map (·.1)

lemma pairwise_handles (t : ResourceTable) : (handles t).Pairwise fun h k => h.raw < k.raw :=
  List.pairwise_map.mpr t.ascending

lemma nodup_handles (t : ResourceTable) : (handles t).Nodup :=
  (pairwise_handles t).imp handle_ne_of_raw_lt

lemma mem_handles_iff {t : ResourceTable} {h : Handle} : h ∈ handles t ↔ (t.getAny? h).isSome := by
  unfold handles
  rw [List.mem_map, Option.isSome_iff_exists]
  constructor
  · rintro ⟨⟨k, r⟩, hmem, rfl⟩
    exact ⟨r, getAny?_eq_some_iff.mpr hmem⟩
  · rintro ⟨r, hr⟩
    exact ⟨(h, r), getAny?_eq_some_iff.mp hr, rfl⟩

/-- The list of handles in use depends only on which handles are in use. -/
theorem handles_ext {t u : ResourceTable} (h : ∀ k, (t.getAny? k).isSome = (u.getAny? k).isSome) :
    handles t = handles u := by
  apply eq_of_rising Handle.raw (pairwise_handles t) (pairwise_handles u)
  intro k
  rw [mem_handles_iff, mem_handles_iff, h k]

/-! ### What an insertion meets -/

lemma displaced?_eq {entries : List (Handle × Resource)} (ha : Ascending entries) (h : Handle) :
    displaced? h entries = (entries.find? (fun e => e.1 = h)).map (·.2) := by
  induction entries with
  | nil => rfl
  | cons head rest ih =>
    obtain ⟨k, s⟩ := head
    obtain ⟨hhead, hrest⟩ := List.pairwise_cons.mp ha
    unfold displaced?
    by_cases hlt : h.raw < k.raw
    · -- every handle from here on is higher, so the one asked for does not come any more
      have hnone : ∀ e ∈ (k, s) :: rest, ¬e.1 = h := by
        intro e he heq
        subst heq
        rcases List.mem_cons.mp he with rfl | he
        · exact UInt32.lt_irrefl _ hlt
        · exact UInt32.lt_asymm hlt (hhead e he)
      have hfind : ((k, s) :: rest).find? (fun e => e.1 = h) = none := by
        simpa using hnone
      rw [if_pos hlt, hfind, Option.map_none]
    rw [if_neg hlt]
    by_cases hk : h = k
    · rw [if_pos hk]
      simp [hk]
    · rw [if_neg hk, ih hrest]
      simp [Ne.symm hk]

theorem replace_eq (t : ResourceTable) (h : Handle) (r : Resource) :
    t.replace h r = (t.getAny? h, t.set h r) := by
  unfold ResourceTable.replace
  rw [displaced?_eq t.ascending]
  rfl

/-! ### The lowest handle of some sort -/

lemma find?_ascending_eq_some {entries : List (Handle × Resource)} (ha : Ascending entries)
    {p : Handle × Resource → Bool} {e : Handle × Resource} (h : entries.find? p = some e) :
    e ∈ entries ∧ p e ∧ ∀ k ∈ entries, p k → e.1.raw ≤ k.1.raw := by
  refine ⟨List.mem_of_find?_eq_some h, List.find?_some h, ?_⟩
  obtain ⟨-, before, after, rfl, hbefore⟩ := List.find?_eq_some_iff_append.mp h
  intro k hk hpk
  rcases List.mem_append.mp hk with hk | hk
  · have hnot := hbefore k hk
    rw [hpk] at hnot
    cases hnot
  rcases List.mem_cons.mp hk with rfl | hk
  · exact UInt32.le_refl _
  · have htail : Ascending (e :: after) := (List.pairwise_append.mp ha).2.1
    exact UInt32.le_of_lt ((List.pairwise_cons.mp htail).1 k hk)

end GuestBridge.Proofs
