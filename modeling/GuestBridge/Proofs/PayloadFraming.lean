import GuestBridge.Proofs.RecordLoop

/-!
# Where the next tag is looked for

A record of a stream is a tag, a size and a payload of that size. The loader keeps to this for every
kind it can load except the placeholder: behind the size field of a placeholder comes the next tag,
whatever the size field says.
-/

namespace GuestBridge.Proofs
open Loader

/-- A record of this kind and size is next in the stream, and `after` is what follows its size field. -/
def RecordAt (p : Progress) (kind : ResourceKind) (size : Nat) (after : List UInt8) : Prop :=
  ∃ number, p.rest = kind.tag :: number ∧ (Varint.read number).result? = some (size, after)

/-- The load takes `n` bytes of `after` for the record at `p`, and all later tags are behind these. If
there is no handle left for the record, the load ends there. -/
def TakesPayload (t : ResourceTable) (decoder : Option ImageDecoder) (bytes : List UInt8) (p : Progress)
    (after : List UInt8) (n : Nat) : Prop :=
  match p.table.counter with
  | none =>
    (t.load decoder bytes).result = .error .handlesExhausted ∧ (t.load decoder bytes).rest = after
  | some _ =>
    ∃ q, NextRecord decoder p q ∧ q.rest = after.drop n ∧
      ∀ r, LaterRecord decoder q r → r.rest <:+ after.drop n

lemma firstItem_of_recordAt {p : Progress} {kind : ResourceKind} {size : Nat} {after : List UInt8}
    (hkind : kind ≠ .sprite) (hrecord : RecordAt p kind size after)
    (hroom : payloadLength kind size ≤ after.length) :
    firstItem p.rest = .record ⟨kind, size, after.take (payloadLength kind size)⟩
      (after.drop (payloadLength kind size)) := by
  obtain ⟨number, hrest, hsize⟩ := hrecord
  apply firstItem_eq_record_iff.mpr
  refine ⟨number, hrest, hkind, ?_, ?_⟩
  · rw [List.take_append_drop]
    exact hsize
  · rw [List.length_take]
    exact Nat.min_eq_left hroom

/-- Every record takes as many bytes as its size field says, and a placeholder none: the next tag is
the byte right behind them, and no tag and no end mark is looked for inside a payload. -/
theorem record_framing (t : ResourceTable) (decoder : Option ImageDecoder) (bytes : List UInt8)
    {p : Progress} (hp : Boundary t decoder bytes p) {kind : ResourceKind} (hkind : kind ≠ .sprite)
    {size : Nat} {after : List UInt8} (hrecord : RecordAt p kind size after)
    (hroom : (if kind = .placeholder then 0 else size) ≤ after.length) :
    TakesPayload t decoder bytes p after (if kind = .placeholder then 0 else size) := by
  change payloadLength kind size ≤ after.length at hroom
  change TakesPayload t decoder bytes p after (payloadLength kind size)
  unfold TakesPayload
  cases hc : p.table.counter with
  | none =>
    obtain ⟨number, hrest, hsize⟩ := hrecord
    have hround := round_of_exhausted decoder hc hrest kind.tag_ne_zero hsize
    obtain ⟨hresult, -, hleft⟩ := readRecords_of_failed hround
    obtain ⟨-, hload, herror⟩ := load_of_boundary hp
    exact ⟨herror _ hresult, hload.trans hleft⟩
  | some h =>
    have hitem := firstItem_of_recordAt hkind hrecord hroom
    refine ⟨_, nextRecord_iff.mpr ⟨h, _, _, hc, hitem, rfl⟩, rfl, fun r hr => ?_⟩
    exact laterRecord_suffix hr

/-- A binary with a zero, a tag and a size among its bytes, then a label. -/
def tagsInPayload : List UInt8 :=
  Container.magic ++ [0x82, 0x85] ++ [4, 0x84, 0, 1, 0x82, 4] ++ [9, 0x81, 0] ++ [0]

theorem record_framing_tagsInPayload :
    let p : Progress := ⟨ResourceTable.empty.restart, tagsInPayload.drop 6, 0, 0⟩
    let after : List UInt8 := [0, 1, 0x82, 4, 9, 0x81, 0, 0]
    Boundary .empty none tagsInPayload p ∧ RecordAt p .binary 4 after ∧
      (if ResourceKind.binary = .placeholder then 0 else 4) ≤ after.length ∧
      TakesPayload .empty none tagsInPayload p after 4 := by
  intro p after
  have hp : Boundary .empty none tagsInPayload p :=
    ⟨⟨2, 5⟩, tagsInPayload.drop 6, [], rfl, Relation.ReflTransGen.refl⟩
  have hrecord : RecordAt p .binary 4 after := ⟨[0x84, 0, 1, 0x82, 4, 9, 0x81, 0, 0], rfl, by decide⟩
  have hroom : (if ResourceKind.binary = .placeholder then 0 else 4) ≤ after.length := by decide
  exact ⟨hp, hrecord, hroom, record_framing .empty none tagsInPayload hp (by decide) hrecord hroom⟩

/-- A placeholder of two bytes, which are the tag and the size of an empty binary. -/
def placeholderWithPayload : List UInt8 := Container.magic ++ [0x81, 0x82] ++ [1, 0x82, 4, 0x80] ++ [0]

/-- The payload of a placeholder is read as a record. -/
theorem placeholder_payload_not_taken :
    ¬∀ (t : ResourceTable) (decoder : Option ImageDecoder) (bytes : List UInt8) (p : Progress)
      (kind : ResourceKind) (size : Nat) (after : List UInt8),
      Boundary t decoder bytes p → kind ≠ .sprite → RecordAt p kind size after → size ≤ after.length →
        TakesPayload t decoder bytes p after size := by
  intro hall
  let p : Progress := ⟨ResourceTable.empty.restart, placeholderWithPayload.drop 6, 0, 0⟩
  have hp : Boundary .empty none placeholderWithPayload p :=
    ⟨⟨1, 2⟩, placeholderWithPayload.drop 6, [], rfl, Relation.ReflTransGen.refl⟩
  have hrecord : RecordAt p .placeholder 2 [4, 0x80, 0] := ⟨[0x82, 4, 0x80, 0], rfl, by decide⟩
  obtain ⟨q, hnext, hrest, -⟩ := hall _ _ _ p _ _ _ hp (by decide) hrecord (by decide)
  obtain ⟨h, r, rest, -, hitem, rfl⟩ := nextRecord_iff.mp hnext
  have hplaceholder : firstItem p.rest = .record ⟨.placeholder, 2, []⟩ [4, 0x80, 0] := by decide
  rw [hplaceholder] at hitem
  cases hitem
  cases hrest

end GuestBridge.Proofs
