import GuestBridge.Proofs.VarintCanonical

/-!
# Sinks with a limit

A sink that takes so many bytes and no more holds the beginning of what is written to it, wherever in
the middle of it the room ends. Writing fails exactly if some of the bytes are missing, and says that the
sink is full.
-/

namespace GuestBridge.Proofs

/-- What an action comes to that writes `data` and returns `a`, if the sink takes only `limit` bytes. -/
structure LimitLaw {α : Type} (w : Writing α) (data : List UInt8) (a : α) (limit : Nat) : Prop where
  result : (w.run.run (Sink.limited limit)).1 =
    if data.length ≤ limit then .ok a else .error (.stream .sinkFull)
  kept : (w.run.run (Sink.limited limit)).2.bytes = data.take (min limit data.length)

lemma push_limited (limit : Nat) (data : List UInt8) : (Sink.limited limit).push data =
    (decide (data.length ≤ limit), ⟨(data.take limit).reverse, some (limit - data.length)⟩) := by
  simp [Sink.limited, Sink.push, List.reverseAux_eq]

lemma Writes.limited {α : Type} {w : Writing α} {data : List UInt8} {a : α} (h : Writes w data a)
    (limit : Nat) : LimitLaw w data a limit := by
  have hrun := h (Sink.limited limit)
  rw [push_limited] at hrun
  refine ⟨?_, ?_⟩
  · rw [hrun]
    simp only [decide_eq_true_eq]
  · have hlength : data.take limit = data.take (min limit data.length) := by
      rw [List.take_eq_take_min]
    rw [hrun, ← hlength]
    exact List.reverse_reverse _

lemma writes_writtenForm {v : UInt32} (hv : v.toNat ≤ Varint.maxValue) :
    Writes (Writing.varint v) (writtenForm v) (Varint.length v.toNat) := by
  rw [writtenForm_eq hv, ← length_groups]
  exact writes_varint hv

/-- A container or a number that is written to a sink with a limit. -/
theorem limited_sink (limit : Nat) :
    (∀ c : Container, Writable c → ∃ out, c.toBytes = .ok out ∧ LimitLaw c.write out () limit) ∧
      ∀ v : UInt32, v.toNat ≤ Varint.maxValue →
        LimitLaw (Writing.varint v) (writtenForm v) (Varint.length v.toNat) limit := by
  refine ⟨fun c hc => ?_, fun v hv => (writes_writtenForm hv).limited limit⟩
  exact ⟨containerBytes c, toBytes_eq hc, (writes_container hc).limited limit⟩

/-- A record with the tag of the end mark, and one with a tag of no kind and no payload. -/
def strangeRecords : Container := (Container.empty.raw 0 [77, 65]).raw 200 []

/-- The room ends in the payload of the first record. -/
theorem limited_sink_insidePayload :
    Writable strangeRecords ∧
      strangeRecords.toBytes = .ok [77, 65, 82, 83, 130, 130, 0, 130, 77, 65, 200, 128, 0] ∧
      (strangeRecords.write.run.run (Sink.limited 9)).1 = .error (.stream .sinkFull) ∧
      (strangeRecords.write.run.run (Sink.limited 9)).2.bytes = [77, 65, 82, 83, 130, 130, 0, 130, 77] ∧
      (300 : UInt32).toNat ≤ Varint.maxValue ∧
      ((Writing.varint 300).run.run (Sink.limited 1)).2.bytes = [0x2C] := by
  have hwritable : Writable strangeRecords := ⟨by decide, by decide⟩
  have hfits : (300 : UInt32).toNat ≤ Varint.maxValue := by decide
  have hbytes : strangeRecords.toBytes = .ok [77, 65, 82, 83, 130, 130, 0, 130, 77, 65, 200, 128, 0] := by
    rw [toBytes_eq hwritable]
    simp [containerBytes, bodyBytes, recordBytes, strangeRecords, Container.raw, Container.empty,
      Container.payloadBytes, Container.magic, Varint.groups]
  obtain ⟨out, hout, hlaw⟩ := (limited_sink 9).1 strangeRecords hwritable
  rw [hbytes] at hout
  cases hout
  have hnumber := ((limited_sink 1).2 300 hfits).kept
  rw [writtenForm_eq hfits] at hnumber
  refine ⟨hwritable, hbytes, hlaw.result, hlaw.kept, hfits, ?_⟩
  rw [hnumber]
  simp [Varint.groups]

end GuestBridge.Proofs
