import GuestBridge.Resource.Table
import Mathlib.Tactic.Common

/-!
# Handles in order

`handleAfter? n` is the handle to be handed out next once `n` of them are in use. Storing at a
handle changes what stands there and nothing else, and adding a list of resources puts them at the
next handles in order.
-/

namespace GuestBridge.Proofs

/-- How many handles there are. -/
def handleCount : Nat := Handle.last.raw.toNat

lemma handleCount_eq : handleCount = 2147483647 := rfl

/-- The handle that comes next once `n` have been handed out. -/
def handleAfter? (n : Nat) : Option Handle :=
  if n < handleCount then Handle.ofRaw? (UInt32.ofNat (n + 1)) else none

lemma handle_ext {h k : Handle} (e : h.raw.toNat = k.raw.toNat) : h = k := by
  cases h
  cases k
  simpa using UInt32.toNat_inj.mp e

lemma handle_one_le (h : Handle) : 1 ≤ h.raw.toNat := by
  apply Nat.one_le_iff_ne_zero.mpr
  intro h0
  exact h.raw_ne_zero (UInt32.toNat_inj.mp h0)

lemma handle_ofRaw?_eq_some_iff {raw : UInt32} {h : Handle} : Handle.ofRaw? raw = some h ↔ h.raw = raw := by
  unfold Handle.ofRaw?
  by_cases h0 : raw = 0
  · rw [dif_pos h0, h0]
    constructor
    · intro e
      cases e
    · intro e
      exact absurd e h.raw_ne_zero
  · rw [dif_neg h0, Option.some.injEq]
    constructor
    · rintro rfl
      rfl
    · rintro rfl
      rfl

lemma toNat_ofNat_succ {n : Nat} (hn : n < handleCount) : (UInt32.ofNat (n + 1)).toNat = n + 1 := by
  rw [handleCount_eq] at hn
  rw [UInt32.toNat_ofNat', Nat.mod_eq_of_lt (by omega)]

lemma handleAfter?_eq_some_iff {n : Nat} {h : Handle} :
    handleAfter? n = some h ↔ n < handleCount ∧ h.raw.toNat = n + 1 := by
  unfold handleAfter?
  by_cases hn : n < handleCount
  · rw [if_pos hn, handle_ofRaw?_eq_some_iff, ← UInt32.toNat_inj, toNat_ofNat_succ hn]
    exact ⟨fun e => ⟨hn, e⟩, fun e => e.2⟩
  · rw [if_neg hn]
    constructor
    · intro e
      cases e
    · intro e
      exact absurd e.1 hn

lemma exists_handleAfter? {n : Nat} (hn : n < handleCount) :
    ∃ h, handleAfter? n = some h ∧ h.raw.toNat = n + 1 := by
  have hraw := toNat_ofNat_succ hn
  have hne : UInt32.ofNat (n + 1) ≠ 0 := by
    intro h0
    rw [h0] at hraw
    exact absurd hraw (Nat.succ_ne_zero n).symm
  exact ⟨⟨_, hne⟩, handleAfter?_eq_some_iff.mpr ⟨hn, hraw⟩, hraw⟩

lemma handleAfter?_zero : handleAfter? 0 = some .first := rfl

lemma handle_next?_of_handleAfter? {n : Nat} {h : Handle} (hn : handleAfter? n = some h) :
    h.next? = handleAfter? (n + 1) := by
  obtain ⟨hlt, hraw⟩ := handleAfter?_eq_some_iff.mp hn
  unfold Handle.next? handleAfter?
  have hlast : h.raw < Handle.last.raw ↔ n + 1 < handleCount := by
    rw [UInt32.lt_iff_toNat_lt, hraw, handleCount]
  have hsucc : h.raw + 1 = UInt32.ofNat (n + 1 + 1) := by
    rw [UInt32.ofNat_add (n + 1) 1, ← hraw, UInt32.ofNat_toNat]
    rfl
  rw [hsucc]
  simp only [hlast]

/-! ### Storing -/

lemma find?_insertEntry (h k : Handle) (r : Resource) (entries : List (Handle × Resource)) :
    ((ResourceTable.insertEntry h r entries).find? (fun e => e.1 = k)).map (·.2) =
      if k = h then some r else (entries.find? (fun e => e.1 = k)).map (·.2) := by
  induction entries with
  | nil =>
    by_cases hk : k = h
    · simp [ResourceTable.insertEntry, hk]
    · simp [ResourceTable.insertEntry, hk, Ne.symm hk]
  | cons head rest ih =>
    obtain ⟨l, s⟩ := head
    rw [ResourceTable.insertEntry]
    by_cases hlt : h.raw < l.raw
    · rw [if_pos hlt]
      by_cases hk : k = h
      · simp [hk]
      · simp [List.find?_cons, hk, Ne.symm hk]
    rw [if_neg hlt]
    by_cases hl : h = l
    · rw [if_pos hl]
      subst hl
      by_cases hk : k = h
      · simp [hk]
      · simp [hk, Ne.symm hk]
    rw [if_neg hl]
    by_cases hk : l = k
    · have hne : k ≠ h := fun e => hl (e.symm.trans hk.symm)
      simp [hk, hne]
    · simp only [List.find?_cons, hk, decide_false] at ih ⊢
      exact ih

lemma insertEntry_insertEntry (h : Handle) (r s : Resource) (entries : List (Handle × Resource)) :
    ResourceTable.insertEntry h s (ResourceTable.insertEntry h r entries) =
      ResourceTable.insertEntry h s entries := by
  have hself : ¬h.raw < h.raw := UInt32.lt_irrefl _
  induction entries with
  | nil => simp [ResourceTable.insertEntry, hself]
  | cons head rest ih =>
    obtain ⟨l, u⟩ := head
    by_cases hlt : h.raw < l.raw
    · simp [ResourceTable.insertEntry, hlt, hself]
    by_cases hl : h = l
    · subst hl
      simp [ResourceTable.insertEntry, hself]
    · simp only [ResourceTable.insertEntry, if_neg hlt, if_neg hl, ih]

@[simp] lemma table_getAny?_set (t : ResourceTable) (h k : Handle) (r : Resource) :
    (t.set h r).getAny? k = if k = h then some r else t.getAny? k :=
  find?_insertEntry h k r t.entries

@[simp] lemma table_counter_set (t : ResourceTable) (h : Handle) (r : Resource) :
    (t.set h r).counter = t.counter := rfl

/-- Only the last resource stored at a handle counts. -/
lemma table_set_set (t : ResourceTable) (h : Handle) (r s : Resource) :
    (t.set h r).set h s = t.set h s := by
  unfold ResourceTable.set
  simp only [insertEntry_insertEntry]

/-! ### Adding in order -/

/-- Adds resources one after the other; none when the handles run out on the way. -/
def addAll? (t : ResourceTable) : List Resource → Option ResourceTable
  | [] => some t
  | r :: rs =>
    match t.add r with
    | (some _, t) => addAll? t rs
    | (none, _) => none

lemma table_add_eq {t : ResourceTable} {h : Handle} (hc : t.counter = some h) (r : Resource) :
    t.add r = (some h, { t.set h r with counter := h.next? }) := by
  unfold ResourceTable.add ResourceTable.advance
  rw [hc]
  rfl

lemma addAll?_cons {t : ResourceTable} {h : Handle} (hc : t.counter = some h) (r : Resource) (rs : List Resource) :
    addAll? t (r :: rs) = addAll? { t.set h r with counter := h.next? } rs := by
  rw [addAll?, table_add_eq hc r]

lemma table_getAny?_counter (t : ResourceTable) (c : Option Handle) (k : Handle) :
    ResourceTable.getAny? { t with counter := c } k = t.getAny? k := rfl

/-- The handles after the first `n` take the resources in order; all others keep what they held. -/
theorem addAll?_spec (rs : List Resource) (t : ResourceTable) (n : Nat)
    (hc : t.counter = handleAfter? n) (hroom : n + rs.length ≤ handleCount) :
    ∃ u, addAll? t rs = some u ∧ u.counter = handleAfter? (n + rs.length) ∧
      ∀ h : Handle, u.getAny? h =
        if h.raw.toNat ≤ n then t.getAny? h else rs[h.raw.toNat - (n + 1)]?.or (t.getAny? h) := by
  induction rs generalizing t n with
  | nil =>
    refine ⟨t, rfl, hc, fun h => ?_⟩
    by_cases hle : h.raw.toNat ≤ n
    · rw [if_pos hle]
    · rw [if_neg hle, List.getElem?_nil, Option.none_or]
  | cons r rs ih =>
    rw [List.length_cons] at hroom
    obtain ⟨k, hk, hraw⟩ := exists_handleAfter? (n := n) (by omega)
    have hnext : k.next? = handleAfter? (n + 1) := handle_next?_of_handleAfter? hk
    obtain ⟨u, hu, hcounter, hget⟩ := ih { t.set k r with counter := k.next? } (n + 1) hnext (by omega)
    refine ⟨u, ?_, ?_, fun h => ?_⟩
    · rw [addAll?_cons (hc.trans hk), hu]
    · rw [hcounter, List.length_cons]
      congr 1
      omega
    · rw [hget h, table_getAny?_counter, table_getAny?_set]
      by_cases hle : h.raw.toNat ≤ n
      · have hne : h ≠ k := by
          rintro rfl
          omega
        rw [if_pos (by omega), if_pos hle, if_neg hne]
      rw [if_neg hle]
      by_cases heq : h = k
      · subst heq
        rw [if_pos (by omega), if_pos rfl, hraw, Nat.sub_self]
        rfl
      · have hlt : n + 1 < h.raw.toNat := by
          have hne : h.raw.toNat ≠ n + 1 := fun e => heq (handle_ext (e.trans hraw.symm))
          omega
        have hindex : h.raw.toNat - (n + 1) = h.raw.toNat - (n + 1 + 1) + 1 := by omega
        rw [if_neg (by omega), if_neg heq, hindex, List.getElem?_cons_succ]

lemma addAll?_counter {rs : List Resource} {t u : ResourceTable} {n : Nat}
    (hc : t.counter = handleAfter? n) (hroom : n + rs.length ≤ handleCount)
    (hu : addAll? t rs = some u) : u.counter = handleAfter? (n + rs.length) := by
  obtain ⟨u', hu', hcounter, -⟩ := addAll?_spec rs t n hc hroom
  obtain rfl : u = u' := Option.some.inj (hu.symm.trans hu')
  exact hcounter

lemma insertEntry_last (h : Handle) (r : Resource) (entries : List (Handle × Resource))
    (hbelow : ∀ e ∈ entries, e.1.raw < h.raw) :
    ResourceTable.insertEntry h r entries = entries ++ [(h, r)] := by
  induction entries with
  | nil => rfl
  | cons head rest ih =>
    obtain ⟨l, s⟩ := head
    have hl : l.raw < h.raw := hbelow (l, s) List.mem_cons_self
    have hne : h ≠ l := by
      rintro rfl
      exact UInt32.lt_irrefl _ hl
    rw [ResourceTable.insertEntry, if_neg (UInt32.lt_asymm hl), if_neg hne,
      ih fun e he => hbelow e (List.mem_cons_of_mem _ he), List.cons_append]

/-- The entries of a table with the numbers of their handles, in ascending order. -/
def numberedEntries (t : ResourceTable) : List (Nat × Resource) :=
  t.entries.map fun e => (e.1.raw.toNat, e.2)

lemma numberedEntries_set_last {t : ResourceTable} {h : Handle} (r : Resource)
    (hbelow : ∀ e ∈ numberedEntries t, e.1 < h.raw.toNat) :
    numberedEntries (t.set h r) = numberedEntries t ++ [(h.raw.toNat, r)] := by
  have hraw : ∀ e ∈ t.entries, e.1.raw < h.raw := by
    intro e he
    exact UInt32.lt_iff_toNat_lt.mpr (hbelow _ (List.mem_map_of_mem he))
  have hset : (t.set h r).entries = t.entries ++ [(h, r)] := insertEntry_last h r t.entries hraw
  unfold numberedEntries
  rw [hset, List.map_append]
  rfl

/-- Added to a table without higher handles, the resources stand behind its entries in order. -/
theorem numberedEntries_addAll? (rs : List Resource) (t u : ResourceTable) (n : Nat)
    (hc : t.counter = handleAfter? n) (hroom : n + rs.length ≤ handleCount)
    (hbelow : ∀ e ∈ numberedEntries t, e.1 ≤ n) (hu : addAll? t rs = some u) :
    numberedEntries u = numberedEntries t ++ (List.range' (n + 1) rs.length).zip rs := by
  induction rs generalizing t n with
  | nil =>
    cases hu
    rw [List.length_nil, List.range'_zero, List.zip_nil_left, List.append_nil]
  | cons r rs ih =>
    rw [List.length_cons] at hroom
    obtain ⟨k, hk, hraw⟩ := exists_handleAfter? (n := n) (by omega)
    have hnext : k.next? = handleAfter? (n + 1) := handle_next?_of_handleAfter? hk
    rw [addAll?_cons (hc.trans hk)] at hu
    have hset := numberedEntries_set_last (t := t) (h := k) r fun e he => by
      have hle := hbelow e he
      omega
    have hbelow' : ∀ e ∈ numberedEntries (t.set k r), e.1 ≤ n + 1 := by
      intro e he
      rw [hset, List.mem_append, List.mem_singleton] at he
      rcases he with he | rfl
      · have hle := hbelow e he
        omega
      · exact Nat.le_of_eq hraw
    have htail := ih { t.set k r with counter := k.next? } (n + 1) hnext (by omega) hbelow' hu
    have hhead : numberedEntries { t.set k r with counter := k.next? } =
        numberedEntries t ++ [(n + 1, r)] := hset.trans (by rw [hraw])
    rw [htail, hhead, List.length_cons, List.range'_succ, List.zip_cons_cons, List.append_assoc,
      List.singleton_append]

end GuestBridge.Proofs
