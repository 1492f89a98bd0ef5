import GuestBridge.Proofs.HandleCounter

/-!
# Adding after a load

A load that stops inside a record has already entered that record, under the handle at which the counter
stays. The next add takes this handle, so the entry is lost; all other entries stay, and every other add
finds its handle free.
-/

namespace GuestBridge.Proofs

/-- A load into a new table fills the handles up to the counter and leaves nothing behind them but what
it stopped at. -/
lemma load_empty (decoder : Option ImageDecoder) (bytes : List UInt8) :
    ∃ n, (ResourceTable.empty.load decoder bytes).table.counter = handleAfter? n ∧
      ∀ k : Handle, n < k.raw.toNat → (ResourceTable.empty.load decoder bytes).table.getAny? k =
        if k.raw.toNat = n + 1 then leftover? bytes else none := by
  cases hheader : headerOf? bytes with
  | none =>
    have hleft : leftover? bytes = none := by
      unfold leftover?
      rw [hheader]
      rfl
    rw [(load_of_no_header hheader .empty decoder).2]
    refine ⟨0, handleAfter?_zero.symm, fun k _ => ?_⟩
    rw [hleft, ite_self]
    rfl
  | some header =>
    obtain ⟨count, size, body⟩ := header
    refine ⟨_, load_counter (completedRecords?_of_header hheader) .empty decoder, fun k hk => ?_⟩
    have hlength : (((frame body).records.take handleCount).map (·.resource decoder)).length =
        min (frame body).records.length handleCount := by
      rw [List.length_map, List.length_take, Nat.min_comm]
    have hempty : ResourceTable.empty.getAny? k = none := rfl
    rw [load_entries hheader .empty decoder k, hempty, Option.or_none, getElem?_append_toList, hlength]
    by_cases hnext : k.raw.toNat = min (frame body).records.length handleCount + 1
    · rw [if_pos hnext, if_pos (by omega)]
    · rw [if_neg hnext, if_neg (by omega), List.getElem?_eq_none (by omega)]

/-- A load that succeeds read the end mark, and leaves nothing under the next handle. -/
lemma leftover?_of_ok {t : ResourceTable} {decoder : Option ImageDecoder} {bytes : List UInt8}
    {s : LoadSummary} (h : (t.load decoder bytes).result = .ok s) : leftover? bytes = none := by
  unfold leftover?
  cases hheader : headerOf? bytes with
  | none => rfl
  | some header =>
    obtain ⟨count, size, body⟩ := header
    rw [Option.bind_some]
    dsimp only
    by_cases hroom : (frame body).records.length < handleCount
    · rw [if_pos hroom, (load_of_ok hheader hroom h).1]
      rfl
    · rw [if_neg hroom]

/-- After a load into a new table, whatever came of it, only the first add can meet an entry: the one at
which the load stopped. No add touches any other entry, and a load that succeeds leaves none to meet. -/
theorem add_after_load (decoder : Option ImageDecoder) (bytes : List UInt8) (rs : List Resource)
    (r : Resource) {h : Handle} {u : ResourceTable}
    (hadd : (addEach (ResourceTable.empty.load decoder bytes).table rs).2.add r = (some h, u)) :
    (addEach (ResourceTable.empty.load decoder bytes).table rs).2.getAny? h =
        (if rs = [] then leftover? bytes else none) ∧
      (∀ k s, (ResourceTable.empty.load decoder bytes).table.getAny? k = some s →
        leftover? bytes = none ∨ (ResourceTable.empty.load decoder bytes).table.counter ≠ some k →
          u.getAny? k = some s) ∧
      ∀ summary, (ResourceTable.empty.load decoder bytes).result = .ok summary → leftover? bytes = none := by
  obtain ⟨n, hc, hahead⟩ := load_empty decoder bytes
  generalize (ResourceTable.empty.load decoder bytes).table = t at hadd hc hahead ⊢
  obtain ⟨-, hcounter, hget⟩ := addEach_spec rs t n hc
  rcases table_add_cases hcounter r with ⟨h', hroom, hraw, hadd'⟩ | ⟨-, hadd'⟩
  · rw [hadd'] at hadd
    cases hadd
    refine ⟨?_, ?_, fun summary hok => leftover?_of_ok hok⟩
    · rw [hget h (by omega), hahead h (by omega)]
      by_cases hrs : rs = []
      · subst hrs
        rw [if_pos rfl]
        exact if_pos hraw
      · have hpos : 0 < rs.length := List.length_pos_iff.mpr hrs
        rw [if_neg hrs, if_neg (by omega)]
    · intro k s hs hkept
      have hle : k.raw.toNat ≤ n := by
        by_contra hgt
        rw [hahead k (by omega)] at hs
        by_cases hk : k.raw.toNat = n + 1
        · rw [if_pos hk] at hs
          have hnext : t.counter = some k := hc.trans (handleAfter?_eq_some_iff.mpr ⟨by omega, hk⟩)
          rcases hkept with hnone | hne
          · rw [hnone] at hs
            cases hs
          · exact hne hnext
        · rw [if_neg hk] at hs
          cases hs
      have hne : k ≠ h := by
        rintro rfl
        omega
      rw [table_getAny?_counter, table_getAny?_set, if_neg hne, hget k (.inl hle), hs]
  · rw [hadd'] at hadd
    cases hadd

/-- A binary of four bytes, of which one is there. -/
def cutBinary : List UInt8 := Container.magic ++ [0x81, 0x84] ++ [4, 0x84, 0xAA]

lemma load_cutBinary :
    (ResourceTable.empty.load none cutBinary).table = ResourceTable.empty.set .first ⟨.binary, .empty⟩ := by
  have hheader : headerOf? cutBinary = some (1, 4, [4, 0x84, 0xAA]) := by decide
  have hitem : firstItem [4, 0x84, 0xAA] = .stop (.cutPayload .binary) [] := by decide
  have hroom : (frame [4, 0x84, 0xAA]).records.length < handleCount := by
    rw [frame_of_stop hitem]
    decide
  obtain ⟨u, h, hadd, hh, -, htable, -⟩ := load_frame hheader .empty none hroom
  rw [frame_of_stop hitem] at hadd hh htable
  cases hadd
  cases hh
  exact htable

theorem add_after_load_cutBinary :
    let t := (ResourceTable.empty.load none cutBinary).table
    ∃ h u, (addEach t [.placeholder]).2.add (.binary ⟨[255]⟩) = (some h, u) ∧ h.raw = 2 ∧
      (addEach t [.placeholder]).2.getAny? h = none := by
  intro t
  have ht : t = ResourceTable.empty.set .first ⟨.binary, .empty⟩ := load_cutBinary
  have hadd : ∃ h u, (addEach t [.placeholder]).2.add (.binary ⟨[255]⟩) = (some h, u) ∧ h.raw = 2 := by
    rw [ht]
    exact ⟨_, _, rfl, rfl⟩
  obtain ⟨h, u, hadd, hraw⟩ := hadd
  exact ⟨h, u, hadd, hraw, (add_after_load none cutBinary [.placeholder] _ hadd).1⟩

/-- The entry at which a load stopped is overwritten by the next add. -/
theorem add_overwrites_leftover :
    ¬∀ (decoder : Option ImageDecoder) (bytes : List UInt8) (rs : List Resource) (r : Resource)
      (h : Handle) (u : ResourceTable),
      (addEach (ResourceTable.empty.load decoder bytes).table rs).2.add r = (some h, u) →
        (addEach (ResourceTable.empty.load decoder bytes).table rs).2.getAny? h = none ∧
          ∀ k s, (ResourceTable.empty.load decoder bytes).table.getAny? k = some s →
            u.getAny? k = some s := by
  intro hall
  have hadd : (addEach (ResourceTable.empty.load none cutBinary).table []).2.add (.binary ⟨[255]⟩) =
      (some .first, (addEach (ResourceTable.empty.set .first ⟨.binary, .empty⟩)
        [.binary ⟨[255]⟩]).2) := by
    rw [load_cutBinary]
    rfl
  obtain ⟨hfree, -⟩ := hall _ _ _ _ _ _ hadd
  rw [load_cutBinary] at hfree
  cases hfree

end GuestBridge.Proofs
