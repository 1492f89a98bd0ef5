import GuestBridge.Proofs.Writing

/-!
# Where written containers end

The numbers in front of the records say how many there are, and each record says how long it is. So the
bytes of a container tell its records, with any tags and payloads, and where they end, whatever follows.
No written container is the beginning of another one.
-/

namespace GuestBridge.Proofs

/-- What `f` writes for a value tells the value and what stands behind it. -/
def SelfDelimiting {α : Type} (good : α → Prop) (f : α → List UInt8) : Prop :=
  ∀ a b, good a → good b → ∀ x y, f a ++ x = f b ++ y → a = b ∧ x = y

lemma selfDelimiting_groups : SelfDelimiting (· ≤ Varint.maxValue) Varint.groups := by
  intro v u hv hu x y h
  have hread := varint_read_groups hv x
  rw [h, varint_read_groups hu y] at hread
  cases hread
  exact ⟨rfl, rfl⟩

lemma selfDelimiting_recordBytes :
    SelfDelimiting (fun r : Record => r.payload.length ≤ Varint.maxValue) recordBytes := by
  rintro ⟨tag, payload⟩ ⟨tag', payload'⟩ hr hs x y h
  simp only [recordBytes, List.cons_append, List.append_assoc, List.cons.injEq] at h
  obtain ⟨rfl, hsized⟩ := h
  obtain ⟨hlength, hpayload⟩ := selfDelimiting_groups _ _ hr hs _ _ hsized
  obtain ⟨rfl, rfl⟩ := List.append_inj hpayload hlength
  exact ⟨rfl, rfl⟩

/-- Values one after the other can be told apart if it is known how many they are. -/
lemma SelfDelimiting.flatMap {α : Type} {good : α → Prop} {f : α → List UInt8} (hf : SelfDelimiting good f)
    {as bs : List α} (hlength : as.length = bs.length) (has : ∀ a ∈ as, good a) (hbs : ∀ b ∈ bs, good b)
    {x y : List UInt8} (h : as.flatMap f ++ x = bs.flatMap f ++ y) : as = bs ∧ x = y := by
  induction as generalizing bs with
  | nil =>
    cases List.length_eq_zero_iff.mp hlength.symm
    exact ⟨rfl, h⟩
  | cons a as ih =>
    cases bs with
    | nil => cases hlength
    | cons b bs =>
      rw [List.forall_mem_cons] at has hbs
      simp only [List.flatMap_cons, List.append_assoc] at h
      obtain ⟨rfl, hrest⟩ := hf a b has.1 hbs.1 _ _ h
      obtain ⟨rfl, rfl⟩ := ih (Nat.succ.inj hlength) has.2 hbs.2 hrest
      exact ⟨rfl, rfl⟩

lemma selfDelimiting_containerBytes : SelfDelimiting Writable containerBytes := by
  rintro ⟨rs⟩ ⟨ss⟩ hr hs x y h
  unfold containerBytes bodyBytes at h
  simp only [List.append_assoc, List.append_cancel_left_eq] at h
  obtain ⟨hcount, hsized⟩ := selfDelimiting_groups _ _ hr.1 hs.1 _ _ h
  obtain ⟨-, hrecords⟩ := selfDelimiting_groups _ _ hr.2 hs.2 _ _ hsized
  obtain ⟨rfl, hend⟩ := selfDelimiting_recordBytes.flatMap hcount
    (fun r hmem => Nat.le_trans (payload_length_le hmem) hr.2)
    (fun r hmem => Nat.le_trans (payload_length_le hmem) hs.2) hrecords
  exact ⟨rfl, List.append_cancel_left hend⟩

/-- Containers are told apart by their bytes, also if one of them is followed by more. -/
theorem container_prefixFree {c d : Container} (hc : Writable c) (hd : Writable d) :
    ∃ out out', c.toBytes = .ok out ∧ d.toBytes = .ok out' ∧
      (out <+: out' → c.records = d.records ∧ out = out') := by
  refine ⟨containerBytes c, containerBytes d, toBytes_eq hc, toBytes_eq hd, ?_⟩
  rintro ⟨trailing, h⟩
  have hsame : containerBytes c ++ trailing = containerBytes d ++ [] := by rw [h, List.append_nil]
  obtain ⟨rfl, -⟩ := selfDelimiting_containerBytes c d hc hd _ _ hsame
  exact ⟨rfl, rfl⟩

/-- The payload of one record looks like the end of a container, and like a container. -/
def nestedBytes : Container := (Container.empty.raw 0 [0, 77, 65, 82, 83, 128, 128, 0]).raw 200 []

theorem container_prefixFree_nested :
    Writable nestedBytes ∧ Writable (nestedBytes.raw 0 []) ∧
      ∀ out out', nestedBytes.toBytes = .ok out → (nestedBytes.raw 0 []).toBytes = .ok out' → ¬out <+: out' := by
  have hc : Writable nestedBytes := ⟨by decide, by decide⟩
  have hd : Writable (nestedBytes.raw 0 []) := ⟨by decide, by decide⟩
  refine ⟨hc, hd, fun out out' hout hout' hprefix => ?_⟩
  obtain ⟨bytes, bytes', hbytes, hbytes', hsame⟩ := container_prefixFree hc hd
  rw [hbytes] at hout
  rw [hbytes'] at hout'
  cases hout
  cases hout'
  have hrecords := (hsame hprefix).1
  revert hrecords
  decide

end GuestBridge.Proofs
