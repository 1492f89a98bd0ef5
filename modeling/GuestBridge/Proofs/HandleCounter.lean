import GuestBridge.Proofs.RecordLoop

/-!
# The handle counter over whole runs

A table is changed by adding, by storing at a handle, by editing a payload and by loading. Through any
such calls the counter stands behind the records of the last load and the adds since then, and the next
add takes the handle at which it stands.
-/

namespace GuestBridge.Proofs

/-! ### One add, and many -/

lemma table_add_cases {t : ResourceTable} {n : Nat} (hc : t.counter = handleAfter? n) (r : Resource) :
    (∃ k : Handle, n < handleCount ∧ k.raw.toNat = n + 1 ∧
      t.add r = (some k, { t.set k r with counter := handleAfter? (n + 1) })) ∨
    (handleCount ≤ n ∧ t.add r = (none, t)) := by
  by_cases hn : n < handleCount
  · obtain ⟨k, hk, hraw⟩ := exists_handleAfter? hn
    left
    refine ⟨k, hn, hraw, ?_⟩
    rw [table_add_eq (hc.trans hk) r, handle_next?_of_handleAfter? hk]
  · right
    rw [handleAfter?, if_neg hn] at hc
    refine ⟨Nat.le_of_not_lt hn, ?_⟩
    unfold ResourceTable.add ResourceTable.advance
    rw [hc]

/-- Adds resources one after another, and says which handle each of them got. Those that find no handle
left are not stored. -/
def addEach (t : ResourceTable) : List Resource → List (Option Handle) × ResourceTable
  | [] => ([], t)
  | r :: rs =>
    let (h, u) := t.add r
    (h :: (addEach u rs).1, (addEach u rs).2)

/-- Adds take the handles in order, and touch no others. -/
theorem addEach_spec (rs : List Resource) (t : ResourceTable) (n : Nat) (hc : t.counter = handleAfter? n) :
    (addEach t rs).1 = (List.range' n rs.length).map handleAfter? ∧
      (addEach t rs).2.counter = handleAfter? (n + rs.length) ∧
      ∀ k : Handle, k.raw.toNat ≤ n ∨ n + rs.length < k.raw.toNat →
        (addEach t rs).2.getAny? k = t.getAny? k := by
  induction rs generalizing t n with
  | nil => exact ⟨rfl, hc, fun k _ => rfl⟩
  | cons r rs ih =>
    have hcount : n + (r :: rs).length = n + 1 + rs.length := by
      rw [List.length_cons]
      omega
    rw [addEach, hcount, List.length_cons, List.range'_succ, List.map_cons]
    rcases table_add_cases hc r with ⟨h, hn, hraw, hadd⟩ | ⟨hn, hadd⟩
    · obtain ⟨hhandles, hcounter, hget⟩ := ih { t.set h r with counter := handleAfter? (n + 1) } (n + 1) rfl
      have hh : handleAfter? n = some h := handleAfter?_eq_some_iff.mpr ⟨hn, hraw⟩
      rw [hadd, hh]
      refine ⟨congrArg _ hhandles, hcounter, fun k hk => ?_⟩
      have hne : k ≠ h := by
        rintro rfl
        omega
      rw [hget k (by omega), table_getAny?_counter, table_getAny?_set, if_neg hne]
    · -- once an add fails, all later ones do, and `handleAfter?` stays none with them
      have hnone : handleAfter? n = none := if_neg (Nat.not_lt.mpr hn)
      have hnone' : handleAfter? (n + 1) = none := if_neg (by omega)
      obtain ⟨hhandles, hcounter, hget⟩ := ih t (n + 1) (hc.trans (hnone.trans hnone'.symm))
      rw [hadd, hnone]
      refine ⟨congrArg _ hhandles, hcounter, fun k hk => ?_⟩
      exact hget k (by omega)

/-! ### Calls -/

/-- A call that may change a table. -/
inductive TableCall where
  | add (r : Resource)
  | set (h : Handle) (r : Resource)
  | edit (kind : ResourceKind) (h : Handle) (f : Payload → Payload)
  | load (decoder : Option ImageDecoder) (bytes : List UInt8)

namespace TableCall

/-- The table after a call. An edit that finds nothing leaves it as it is. -/
def apply (t : ResourceTable) : TableCall → ResourceTable
  | .add r => (t.add r).2
  | .set h r => t.set h r
  | .edit kind h f => (t.editPayload kind h f).getD t
  | .load decoder bytes => (t.load decoder bytes).table

/-- Neither adds nor gets past the header of a stream. -/
def KeepsCounter : TableCall → Prop
  | .add _ => False
  | .set .. | .edit .. => True
  | .load _ bytes => ∃ e, (Loader.readHeader bytes).1 = .error e

end TableCall

/-- How many records the last load completed that got past its header, and how many adds succeeded since
then. -/
structure Tally where
  records : Nat
  adds : Nat

def Tally.after (c : Tally) (t : ResourceTable) : TableCall → Tally
  | .add r => if (t.add r).1.isSome then { c with adds := c.adds + 1 } else c
  | .set .. | .edit .. => c
  | .load _ bytes =>
    match completedRecords? bytes with
    | none => c
    | some m => ⟨m, 0⟩

/-- The table and the tally after some calls on a new table. -/
def runCalls (calls : List TableCall) : ResourceTable × Tally :=
  calls.foldl (fun (t, c) call => (call.apply t, c.after t call)) (.empty, ⟨0, 0⟩)

/-- The counter stands behind the handles that the tally counts. -/
def Counts (t : ResourceTable) (c : Tally) : Prop :=
  t.counter = handleAfter? (c.records + c.adds) ∧ c.records + c.adds ≤ handleCount

lemma counter_editPayload {t u : ResourceTable} {kind : ResourceKind} {h : Handle} {f : Payload → Payload}
    (hu : t.editPayload kind h f = some u) : u.counter = t.counter := by
  obtain ⟨r, -, rfl⟩ := Option.map_eq_some_iff.mp hu
  rfl

lemma counter_apply_of_keepsCounter {call : TableCall} (hcall : call.KeepsCounter) (t : ResourceTable) :
    (call.apply t).counter = t.counter := by
  cases call with
  | add r => exact hcall.elim
  | set h r => rfl
  | edit kind h f =>
    unfold TableCall.apply
    dsimp only
    cases hu : t.editPayload kind h f with
    | none => rfl
    | some u => exact counter_editPayload hu
  | load decoder bytes =>
    obtain ⟨e, he⟩ := hcall
    have hheader : headerOf? bytes = none := by
      cases h : headerOf? bytes with
      | none => rfl
      | some counts =>
        have hok := (readHeader_of_some h).1
        rw [he] at hok
        cases hok
    exact congrArg ResourceTable.counter (load_of_no_header hheader t decoder).2

lemma counts_apply {t : ResourceTable} {c : Tally} (h : Counts t c) (call : TableCall) :
    Counts (call.apply t) (c.after t call) := by
  obtain ⟨hc, hroom⟩ := h
  cases call with
  | add r =>
    -- the tally counts an add exactly when the table has a handle for it
    unfold TableCall.apply Tally.after
    dsimp only
    rcases table_add_cases hc r with ⟨k, hlt, -, hadd⟩ | ⟨-, hadd⟩
    · rw [hadd]
      exact ⟨rfl, hlt⟩
    · rw [hadd]
      exact ⟨hc, hroom⟩
  | set k r => exact ⟨hc, hroom⟩
  | edit kind k f =>
    have hedit : (TableCall.edit kind k f).KeepsCounter := trivial
    exact ⟨(counter_apply_of_keepsCounter hedit t).trans hc, hroom⟩
  | load decoder bytes =>
    unfold TableCall.apply Tally.after
    dsimp only
    cases hm : completedRecords? bytes with
    | none =>
      have htable := (load_of_no_header (Option.map_eq_none_iff.mp hm) t decoder).2
      exact ⟨(congrArg ResourceTable.counter htable).trans hc, hroom⟩
    | some m =>
      obtain ⟨count, size, body, -, hmin⟩ := headerOf?_of_completedRecords? hm
      have hle : m ≤ handleCount := hmin ▸ Nat.min_le_right _ _
      exact ⟨load_counter hm t decoder, hle⟩

theorem counts_runCalls (calls : List TableCall) : Counts (runCalls calls).1 (runCalls calls).2 := by
  have hstart : Counts .empty ⟨0, 0⟩ := ⟨handleAfter?_zero.symm, Nat.zero_le _⟩
  unfold runCalls
  generalize ResourceTable.empty = t at hstart ⊢
  generalize (⟨0, 0⟩ : Tally) = c at hstart ⊢
  induction calls generalizing t c with
  | nil => exact hstart
  | cons call calls ih => exact ih _ _ (counts_apply hstart call)

/-! ### What the counter says -/

/-- With `n` handles behind the counter, the next one is the handle after them while there is one. An
add returns it and stores there alone, and only when the handles are used up does it fail. -/
structure NextHandle (t : ResourceTable) (n : Nat) : Prop where
  counter : t.counter.map (·.raw.toNat) = if n + 1 ≤ 2147483647 then some (n + 1) else none
  add : ∀ r h u, t.add r = (some h, u) →
    h.raw.toNat = n + 1 ∧ ∀ k, u.getAny? k = if k = h then some r else t.getAny? k
  add_none : ∀ r, (t.add r).1 = none ↔ n = 2147483647
  unchanged : ∀ r, (t.add r).1 = none → (t.add r).2 = t

lemma raw_handleAfter? (n : Nat) :
    (handleAfter? n).map (·.raw.toNat) = if n + 1 ≤ 2147483647 then some (n + 1) else none := by
  by_cases hn : n < handleCount
  · obtain ⟨h, hh, hraw⟩ := exists_handleAfter? hn
    have hle : n + 1 ≤ 2147483647 := hn
    rw [hh, if_pos hle, Option.map_some, hraw]
  · have hnone : handleAfter? n = none := if_neg hn
    have hgt : ¬n + 1 ≤ 2147483647 := hn
    rw [hnone, if_neg hgt, Option.map_none]

lemma nextHandle_of_counter {t : ResourceTable} {n : Nat} (hc : t.counter = handleAfter? n)
    (hn : n ≤ handleCount) : NextHandle t n where
  counter := by rw [hc, raw_handleAfter?]
  add := by
    intro r h u hadd
    rcases table_add_cases hc r with ⟨k, -, hraw, hadd'⟩ | ⟨-, hadd'⟩
    · rw [hadd'] at hadd
      cases hadd
      exact ⟨hraw, fun i => table_getAny?_set t h i r⟩
    · rw [hadd'] at hadd
      cases hadd
  add_none := by
    intro r
    rcases table_add_cases hc r with ⟨k, hlt, -, hadd⟩ | ⟨hle, hadd⟩
    · rw [hadd]
      constructor
      · intro h
        cases h
      · intro h
        exact absurd h (Nat.ne_of_lt hlt)
    · rw [hadd]
      exact ⟨fun _ => Nat.le_antisymm hn hle, fun _ => rfl⟩
  unchanged := by
    intro r hnone
    rcases table_add_cases hc r with ⟨k, -, -, hadd⟩ | ⟨-, hadd⟩
    · rw [hadd] at hnone
      cases hnone
    · rw [hadd]

/-- After any calls on a new table the counter stands behind the records of the last load and the adds
since then, and calls that neither add nor get past a header leave it where it is. Adds alone number
their resources from one on. -/
theorem handle_counter (calls : List TableCall) :
    NextHandle (runCalls calls).1 ((runCalls calls).2.records + (runCalls calls).2.adds) ∧
      (∀ call : TableCall, call.KeepsCounter →
        (call.apply (runCalls calls).1).counter = (runCalls calls).1.counter) ∧
      ∀ rs : List Resource, (addEach .empty rs).1.map (Option.map (·.raw.toNat)) =
        (List.range rs.length).map fun i => if i + 1 ≤ 2147483647 then some (i + 1) else none := by
  obtain ⟨hc, hroom⟩ := counts_runCalls calls
  refine ⟨nextHandle_of_counter hc hroom, ?_, ?_⟩
  · intro call hcall
    exact counter_apply_of_keepsCounter hcall _
  · intro rs
    obtain ⟨hhandles, -, -⟩ := addEach_spec rs .empty 0 handleAfter?_zero.symm
    rw [hhandles, List.map_map, List.range_eq_range']
    apply List.map_congr_left
    intro i _
    exact raw_handleAfter? i

end GuestBridge.Proofs
