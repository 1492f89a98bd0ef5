import GuestBridge.Proofs.Framing
import GuestBridge.Proofs.Handles

/-!
# What a load does to a table

A load whose header can be read adds the decoded records of the stream from the first handle on and
enters what it stopped at behind them. No other handle changes, and no entry is ever removed.
-/

namespace GuestBridge.Proofs
open Loader

/-! ### One round -/

lemma takenSize_eq (kind : ResourceKind) (size : Nat) : takenSize kind size = payloadLength kind size := by
  cases kind <;> rfl

lemma takePayload_eq (size : Nat) (bytes : List UInt8) : takePayload size bytes =
    if bytes.length < size then none else some (bytes.take size, bytes.drop size) := by
  unfold takePayload
  dsimp only
  by_cases h : bytes.length < size
  · have hne : ¬(bytes.take size).length = size := by rw [List.length_take]; omega
    rw [if_pos h, if_neg hne]
  · have heq : (bytes.take size).length = size := by rw [List.length_take]; omega
    rw [if_neg h, if_pos heq]

lemma payloadOf_eq (decoder : Option ImageDecoder) (h : Handle) (r : StreamRecord) :
    (⟨r.kind, (payloadOf decoder h r.kind r.payload).1⟩ : Resource) = r.resource decoder := by
  obtain ⟨kind, size, payload⟩ := r
  cases kind with
  | image =>
    cases decoder with
    | none => rfl
    | some decode =>
      simp only [payloadOf, imagePayload, StreamRecord.resource]
      cases decode payload <;> rfl
  | _ => rfl

def Stop.enter (why : Stop) (h : Handle) (t : ResourceTable) : ResourceTable :=
  match why.entry? with
  | none => t
  | some r => t.set h r

/-- The table with a record under the handle `h` and the counter behind it. -/
def enterRecord (t : ResourceTable) (h : Handle) (r : Resource) : ResourceTable :=
  { t.set h r with counter := h.next? }

lemma storeRecord_eq (decoder : Option ImageDecoder) {p : Progress} {h : Handle}
    (hc : p.table.counter = some h) (kind : ResourceKind) (size : Nat) (bytes : List UInt8) :
    (storeRecord decoder p h kind size bytes).1 =
      if kind = .sprite then
        .failed (.unknownRecordType kind.tag h.raw) (p.table.set h ⟨kind, .empty⟩) bytes
      else if bytes.length < payloadLength kind size then
        .failed (.stream .shortPayload) (p.table.set h ⟨kind, .empty⟩) []
      else
        let r : StreamRecord := ⟨kind, size, bytes.take (payloadLength kind size)⟩
        .loaded ⟨enterRecord p.table h (r.resource decoder), bytes.drop (payloadLength kind size),
          p.records + 1, p.payloadBytes + UInt64.ofNat size⟩ := by
  unfold storeRecord
  dsimp only
  rw [takenSize_eq, takePayload_eq]
  by_cases hsprite : kind = .sprite
  · rw [if_pos hsprite, if_pos hsprite]
  rw [if_neg hsprite, if_neg hsprite]
  by_cases hlen : bytes.length < payloadLength kind size
  · rw [if_pos hlen, if_pos hlen]
  rw [if_neg hlen, if_neg hlen]
  dsimp only
  rw [table_set_set, ← payloadOf_eq decoder h]
  unfold ResourceTable.advance
  rw [table_counter_set, hc]
  rfl

/-- One round reads what stands first in the stream: it finishes or fails there, or it adds the
record that it read. -/
theorem round_eq (decoder : Option ImageDecoder) {p : Progress} {h : Handle}
    (hc : p.table.counter = some h) :
    (round decoder p).1 =
      match firstItem p.rest with
      | .stop why rest =>
        match why.error? h.raw with
        | none => .finished rest
        | some e => .failed e (why.enter h p.table) rest
      | .record r rest =>
        .loaded ⟨enterRecord p.table h (r.resource decoder), rest, p.records + 1,
          p.payloadBytes + UInt64.ofNat r.size⟩ := by
  unfold Loader.round
  cases hrest : p.rest with
  | nil => rfl
  | cons tag bytes =>
    unfold firstItem
    dsimp only
    by_cases htag : tag = 0
    · rw [if_pos htag, if_pos htag]
      rfl
    rw [if_neg htag, if_neg htag, hc]
    cases (Varint.read bytes).result? with
    | none => rfl
    | some number =>
      obtain ⟨size, after⟩ := number
      dsimp only
      cases ResourceKind.ofTag? tag with
      | none => rfl
      | some kind =>
        dsimp only
        rw [storeRecord_eq decoder hc]
        by_cases hsprite : kind = .sprite
        · subst hsprite
          rw [if_pos rfl, if_pos rfl]
          rfl
        rw [if_neg hsprite, if_neg hsprite]
        by_cases hlen : after.length < payloadLength kind size
        · rw [if_pos hlen, if_pos hlen]
          rfl
        · rw [if_neg hlen, if_neg hlen]

/-! ### All rounds -/

lemma readRecords_of_finished {decoder : Option ImageDecoder} {p : Progress} {rest : List UInt8}
    (h : (round decoder p).1 = .finished rest) :
    (readRecords decoder p).result = .ok { p with rest := rest } ∧
      (readRecords decoder p).table = p.table ∧ (readRecords decoder p).rest = rest := by
  rw [readRecords]
  split
  next hr =>
    rw [hr] at h
    cases h
    exact ⟨rfl, rfl, rfl⟩
  next hr => rw [hr] at h; cases h
  next hr => rw [hr] at h; cases h

lemma readRecords_of_failed {decoder : Option ImageDecoder} {p : Progress} {rest : List UInt8}
    {e : ContainerError} {t : ResourceTable} (h : (round decoder p).1 = .failed e t rest) :
    (readRecords decoder p).result = .error e ∧
      (readRecords decoder p).table = t ∧ (readRecords decoder p).rest = rest := by
  rw [readRecords]
  split
  next hr => rw [hr] at h; cases h
  next hr =>
    rw [hr] at h
    cases h
    exact ⟨rfl, rfl, rfl⟩
  next hr => rw [hr] at h; cases h

lemma readRecords_of_loaded {decoder : Option ImageDecoder} {p q : Progress}
    (h : (round decoder p).1 = .loaded q) :
    (readRecords decoder p).result = (readRecords decoder q).result ∧
      (readRecords decoder p).table = (readRecords decoder q).table ∧
      (readRecords decoder p).rest = (readRecords decoder q).rest := by
  rw [readRecords]
  split
  next hr => rw [hr] at h; cases h
  next hr => rw [hr] at h; cases h
  next hr =>
    rw [hr] at h
    cases h
    exact ⟨rfl, rfl, rfl⟩

lemma stop_error?_eq_none_iff {why : Stop} {raw : UInt32} : why.error? raw = none ↔ why = .endMark := by
  cases why <;> simp [Stop.error?]

def sizeSum (rs : List StreamRecord) : Nat := rs.foldr (fun r total => r.size + total) 0

/-- Where reading the records stands when it ends well: all of them are added and counted. -/
def Framing.progress (f : Framing) (p : Progress) (u : ResourceTable) : Progress :=
  ⟨u, f.rest, p.records + UInt32.ofNat f.records.length, p.payloadBytes + UInt64.ofNat (sizeSum f.records)⟩

lemma progress_cons (f : Framing) (r : StreamRecord) (p : Progress) (t u : ResourceTable) (left : List UInt8) :
    f.progress ⟨t, left, p.records + 1, p.payloadBytes + UInt64.ofNat r.size⟩ u =
      Framing.progress { f with records := r :: f.records } p u := by
  have hrecords : p.records + 1 + UInt32.ofNat f.records.length =
      p.records + UInt32.ofNat (r :: f.records).length := by
    rw [List.length_cons, UInt32.ofNat_add, UInt32.add_assoc, UInt32.add_comm 1]
    rfl
  have hbytes : p.payloadBytes + UInt64.ofNat r.size + UInt64.ofNat (sizeSum f.records) =
      p.payloadBytes + UInt64.ofNat (sizeSum (r :: f.records)) := by
    rw [sizeSum, sizeSum, List.foldr_cons, UInt64.ofNat_add, UInt64.add_assoc]
  unfold Framing.progress
  dsimp only
  rw [hrecords, hbytes]

/-- Reading records from the handle after `n` on adds the decoded records of the stream, enters what
they stopped at, and fails with the error of that. -/
theorem readRecords_frame (decoder : Option ImageDecoder) (bytes : List UInt8) (p : Progress) (n : Nat)
    (hrest : p.rest = bytes) (hc : p.table.counter = handleAfter? n)
    (hroom : n + (frame bytes).records.length < handleCount) :
    ∃ u h, addAll? p.table ((frame bytes).records.map (·.resource decoder)) = some u ∧
      handleAfter? (n + (frame bytes).records.length) = some h ∧
      (readRecords decoder p).result =
        (match (frame bytes).stop.error? h.raw with
        | none => .ok ((frame bytes).progress p u)
        | some e => .error e) ∧
      (readRecords decoder p).table = (frame bytes).stop.enter h u ∧
      (readRecords decoder p).rest = (frame bytes).rest := by
  induction bytes using frame_induction generalizing p n with
  | stop bytes why rest hitem =>
    rw [frame_of_stop hitem] at hroom ⊢
    obtain ⟨h, hh, hraw⟩ := exists_handleAfter? (n := n) (by simpa using hroom)
    have hround := round_eq decoder (hc.trans hh)
    rw [hrest, hitem] at hround
    dsimp only at hround
    refine ⟨p.table, h, rfl, hh, ?_⟩
    cases herror : why.error? h.raw with
    | none =>
      rw [herror] at hround
      obtain ⟨hresult, htable, hleft⟩ := readRecords_of_finished hround
      have hend := stop_error?_eq_none_iff.mp herror
      have hprogress : ({ p with rest := rest } : Progress) = Framing.progress ⟨[], why, rest⟩ p p.table := by
        unfold Framing.progress
        simp [sizeSum]
      refine ⟨hresult.trans (by rw [hprogress]), ?_, hleft⟩
      rw [htable, hend]
      rfl
    | some e =>
      rw [herror] at hround
      exact readRecords_of_failed hround
  | record bytes r rest hitem ih =>
    rw [frame_of_record hitem] at hroom ⊢
    dsimp only at hroom ⊢
    rw [List.length_cons] at hroom
    obtain ⟨k, hk, hraw⟩ := exists_handleAfter? (n := n) (by omega)
    have hround := round_eq decoder (hc.trans hk)
    rw [hrest, hitem] at hround
    dsimp only at hround
    obtain ⟨hresult, htable, hleft⟩ := readRecords_of_loaded hround
    obtain ⟨u, h, hadd, hh, hresult', htable', hleft'⟩ :=
      ih ⟨enterRecord p.table k (r.resource decoder), rest, p.records + 1,
        p.payloadBytes + UInt64.ofNat r.size⟩ (n + 1) rfl (handle_next?_of_handleAfter? hk) (by omega)
    have hcount : n + 1 + (frame rest).records.length = n + (r :: (frame rest).records).length := by
      rw [List.length_cons]
      omega
    refine ⟨u, h, ?_, ?_, ?_, htable.trans htable', hleft.trans hleft'⟩
    · rw [List.map_cons, addAll?_cons (hc.trans hk)]
      exact hadd
    · rw [← hcount]
      exact hh
    · rw [hresult, hresult', progress_cons]

/-! ### The whole load -/

/-- Every record takes two bytes at least, so a short stream has a handle for each of them and one more. -/
lemma records_lt_handleCount {bytes body : List UInt8} {count size : Nat}
    (hheader : headerOf? bytes = some (count, size, body)) (hlen : bytes.length < UInt32.size) :
    (frame body).records.length < handleCount := by
  have hbody := headerOf?_length_le hheader
  have hframe := frame_length_le body
  have hsize : UInt32.size = 4294967296 := rfl
  rw [handleCount_eq]
  omega

lemma load_of_no_header {bytes : List UInt8} (h : headerOf? bytes = none) (t : ResourceTable)
    (decoder : Option ImageDecoder) :
    (∃ e, (t.load decoder bytes).result = .error e) ∧ (t.load decoder bytes).table = t := by
  obtain ⟨e, he⟩ := readHeader_of_none h
  unfold ResourceTable.load
  split
  next e' rest log hr => exact ⟨⟨e', rfl⟩, rfl⟩
  next header rest log hr =>
    rw [hr] at he
    cases he

/-- Behind the header a load is the record loop from the first handle on. -/
lemma load_behind_header {bytes body : List UInt8} {count size : Nat}
    (hheader : headerOf? bytes = some (count, size, body)) (t : ResourceTable)
    (decoder : Option ImageDecoder) :
    let loaded := readRecords decoder ⟨t.restart, body, 0, 0⟩
    (t.load decoder bytes).result =
        loaded.result.map (fun p => ⟨p.records, UInt32.ofNat count, UInt32.ofNat size, p.payloadBytes⟩) ∧
      (t.load decoder bytes).table = loaded.table ∧ (t.load decoder bytes).rest = loaded.rest := by
  obtain ⟨hcounts, hbody⟩ := readHeader_of_some hheader
  unfold ResourceTable.load
  split
  next e rest log hr =>
    rw [hr] at hcounts
    cases hcounts
  next header rest log hr =>
    rw [hr] at hcounts hbody
    cases hcounts
    obtain rfl : body = rest := hbody.symm
    dsimp only
    cases (readRecords decoder ⟨t.restart, body, 0, 0⟩).result with
    | error e => exact ⟨rfl, rfl, rfl⟩
    | ok p => exact ⟨rfl, rfl, rfl⟩

/-- A load whose header can be read, in terms of the records that follow the header. -/
theorem load_frame {bytes body : List UInt8} {count size : Nat}
    (hheader : headerOf? bytes = some (count, size, body)) (t : ResourceTable)
    (decoder : Option ImageDecoder) (hroom : (frame body).records.length < handleCount) :
    ∃ u h, addAll? t.restart ((frame body).records.map (·.resource decoder)) = some u ∧
      handleAfter? (frame body).records.length = some h ∧
      (t.load decoder bytes).result =
        (match (frame body).stop.error? h.raw with
        | none => .ok ⟨UInt32.ofNat (frame body).records.length, UInt32.ofNat count, UInt32.ofNat size,
            UInt64.ofNat (sizeSum (frame body).records)⟩
        | some e => .error e) ∧
      (t.load decoder bytes).table = (frame body).stop.enter h u ∧
      (t.load decoder bytes).rest = (frame body).rest := by
  obtain ⟨hload, hloadTable, hloadRest⟩ := load_behind_header hheader t decoder
  obtain ⟨u, h, hadd, hh, hresult, htable, hrest⟩ :=
    readRecords_frame decoder body ⟨t.restart, body, 0, 0⟩ 0 rfl handleAfter?_zero.symm (by omega)
  rw [Nat.zero_add] at hh
  refine ⟨u, h, hadd, hh, ?_, hloadTable.trans htable, hloadRest.trans hrest⟩
  rw [hload, hresult]
  cases (frame body).stop.error? h.raw with
  | none => simp only [Except.map, Framing.progress, UInt32.zero_add, UInt64.zero_add]
  | some e => rfl

/-- A load that succeeds read the end mark behind the records that it added. -/
lemma load_of_ok {bytes body : List UInt8} {count size : Nat}
    (hheader : headerOf? bytes = some (count, size, body)) {t : ResourceTable} {decoder : Option ImageDecoder}
    (hroom : (frame body).records.length < handleCount) {s : LoadSummary}
    (h : (t.load decoder bytes).result = .ok s) :
    (frame body).stop = .endMark ∧
      s = ⟨UInt32.ofNat (frame body).records.length, UInt32.ofNat count, UInt32.ofNat size,
        UInt64.ofNat (sizeSum (frame body).records)⟩ ∧
      addAll? t.restart ((frame body).records.map (·.resource decoder)) = some (t.load decoder bytes).table := by
  obtain ⟨u, k, hadd, -, hresult, htable, -⟩ := load_frame hheader t decoder hroom
  cases herror : (frame body).stop.error? k.raw with
  | none =>
    have hend := stop_error?_eq_none_iff.mp herror
    rw [herror] at hresult
    rw [hend] at htable
    refine ⟨hend, Except.ok.inj (h.symm.trans hresult), ?_⟩
    rw [htable]
    exact hadd
  | some e =>
    rw [hresult, herror] at h
    cases h

/-- What a load does to the table `t` when the bytes behind its header fall into `f`. With `k`
complete records, handles 1 to `k` hold them decoded, handle `k + 1` shows where the load stopped,
and every other handle is as before. -/
structure LoadEffect (decoder : Option ImageDecoder) (t : ResourceTable) (f : Framing)
    (out : Loaded LoadSummary) : Prop where
  records : ∀ (i : Nat) (r : StreamRecord) (h : Handle), f.records[i]? = some r →
    h.raw.toNat = i + 1 → out.table.getAny? h = some (r.resource decoder)
  stop : ∀ h : Handle, h.raw.toNat = f.records.length + 1 → out.table.getAny? h =
    match f.stop with
    | .endMark | .noTag | .cutSize => t.getAny? h
    | .unknownTag _ => some ⟨.placeholder, .empty⟩
    | .sprite => some ⟨.sprite, .empty⟩
    | .cutPayload kind => some ⟨kind, .empty⟩
  above : ∀ h : Handle, f.records.length + 1 < h.raw.toNat → out.table.getAny? h = t.getAny? h
  kept : ∀ h : Handle, (t.getAny? h).isSome → (out.table.getAny? h).isSome
  counter : ∃ h : Handle, out.table.counter = some h ∧ h.raw.toNat = f.records.length + 1
  result :
    match f.stop with
    | .endMark => ∃ s, out.result = .ok s
    | .noTag | .cutSize => out.result = .error (.stream .endOfStream)
    | .unknownTag tag => out.result =
      .error (.unknownRecordType tag (UInt32.ofNat (f.records.length + 1)))
    | .sprite => out.result = .error (.unknownRecordType 3 (UInt32.ofNat (f.records.length + 1)))
    | .cutPayload _ => out.result = .error (.stream .shortPayload)

lemma stop_counter_enter (why : Stop) (t : ResourceTable) (h : Handle) :
    (why.enter h t).counter = t.counter := by
  unfold Stop.enter
  cases why.entry? <;> rfl

lemma stop_getAny?_enter (why : Stop) (t : ResourceTable) (h k : Handle) :
    (why.enter h t).getAny? k = if k = h then why.entry?.or (t.getAny? k) else t.getAny? k := by
  unfold Stop.enter
  cases why.entry? with
  | none =>
    rw [Option.none_or]
    exact (ite_self _).symm
  | some r =>
    rw [Option.some_or]
    exact table_getAny?_set t h k r

lemma getElem?_append_toList {β : Type} (rs : List β) (last : Option β) (i : Nat) :
    (rs ++ last.toList)[i]? = if i = rs.length then last else rs[i]? := by
  by_cases hi : i = rs.length
  · subst hi
    rw [if_pos rfl, List.getElem?_append_right (Nat.le_refl _), Nat.sub_self]
    cases last with
    | none => rfl
    | some r => rfl
  rw [if_neg hi]
  by_cases hlt : i < rs.length
  · rw [List.getElem?_append_left hlt]
  · have hle : last.toList.length ≤ 1 := by
      cases last with
      | none => exact Nat.zero_le 1
      | some r => exact Nat.le_refl 1
    have hlength : (rs ++ last.toList).length ≤ i := by
      rw [List.length_append]
      omega
    rw [List.getElem?_eq_none hlength, List.getElem?_eq_none (by omega)]

/-- The effect of a load on every handle in one line: the decoded records and what the load stopped
at stand in front of what the table held. -/
theorem load_getAny? {bytes body : List UInt8} {count size : Nat}
    (hheader : headerOf? bytes = some (count, size, body)) (t : ResourceTable)
    (decoder : Option ImageDecoder) (hroom : (frame body).records.length < handleCount) (k : Handle) :
    (t.load decoder bytes).table.getAny? k =
      (((frame body).records.map (·.resource decoder) ++ (frame body).stop.entry?.toList)[k.raw.toNat - 1]?).or
        (t.getAny? k) := by
  obtain ⟨u, h, hadd, hh, -, htable, -⟩ := load_frame hheader t decoder hroom
  generalize hrs : (frame body).records.map (·.resource decoder) = rs at hadd ⊢
  have hlength : (frame body).records.length = rs.length := by rw [← hrs, List.length_map]
  rw [hlength] at hh hroom
  obtain ⟨-, hraw⟩ := handleAfter?_eq_some_iff.mp hh
  obtain ⟨u', hu', -, hget⟩ := addAll?_spec rs t.restart 0 handleAfter?_zero.symm (by omega)
  obtain rfl : u = u' := Option.some.inj (hadd.symm.trans hu')
  have hone := handle_one_le k
  have hu : u.getAny? k = rs[k.raw.toNat - 1]?.or (t.getAny? k) := by
    rw [hget k, if_neg (by omega)]
    rfl
  rw [htable, stop_getAny?_enter, hu, getElem?_append_toList]
  by_cases hk : k = h
  · have hindex : k.raw.toNat - 1 = rs.length := by
      rw [hk]
      omega
    rw [if_pos hk, if_pos hindex, hindex, List.getElem?_eq_none (Nat.le_refl _), Option.none_or]
  · have hindex : k.raw.toNat - 1 ≠ rs.length := by
      intro e
      have hraw' : k.raw.toNat = h.raw.toNat := by omega
      exact hk (handle_ext hraw')
    rw [if_neg hk, if_neg hindex]

/-- The exact effect of a load: nothing at all when the mark or a count of the header cannot be
read, and otherwise what the records of the stream and their stop say. -/
theorem load_effect (t : ResourceTable) (decoder : Option ImageDecoder) (bytes : List UInt8)
    (hlen : bytes.length < UInt32.size) :
    (headerOf? bytes = none →
      (∃ e, (t.load decoder bytes).result = .error e) ∧ (t.load decoder bytes).table = t) ∧
    ∀ count size body, headerOf? bytes = some (count, size, body) →
      LoadEffect decoder t (frame body) (t.load decoder bytes) := by
  refine ⟨fun h => load_of_no_header h t decoder, fun count size body hheader => ?_⟩
  have hroom := records_lt_handleCount hheader hlen
  obtain ⟨u, h, hadd, hh, hresult, htable, -⟩ := load_frame hheader t decoder hroom
  obtain ⟨-, hraw⟩ := handleAfter?_eq_some_iff.mp hh
  have hget := load_getAny? hheader t decoder hroom
  generalize frame body = f at *
  have hlength : (f.records.map (·.resource decoder)).length = f.records.length := List.length_map _
  refine ⟨?_, ?_, ?_, ?_, ?_, ?_⟩
  · intro i r k hi hk
    obtain ⟨hlt, -⟩ := List.getElem?_eq_some_iff.mp hi
    have hindex : k.raw.toNat - 1 = i := by omega
    rw [hget k, hindex, getElem?_append_toList, if_neg (by omega), List.getElem?_map, hi]
    rfl
  · intro k hk
    have hindex : k.raw.toNat - 1 = (f.records.map (·.resource decoder)).length := by omega
    rw [hget k, hindex, getElem?_append_toList, if_pos rfl]
    cases f.stop <;> rfl
  · intro k hk
    rw [hget k, getElem?_append_toList, if_neg (by omega), List.getElem?_eq_none (by omega), Option.none_or]
  · intro k hk
    rw [hget k, Option.isSome_or, hk, Bool.or_true]
  · have hcounter := addAll?_counter (t := t.restart) handleAfter?_zero.symm
      (by rw [List.length_map]; omega) hadd
    rw [List.length_map, Nat.zero_add] at hcounter
    exact ⟨h, by rw [htable, stop_counter_enter, hcounter, hh], hraw⟩
  · have hnumber : h.raw = UInt32.ofNat (f.records.length + 1) := by
      rw [← hraw, UInt32.ofNat_toNat]
    rw [hresult, ← hnumber]
    cases f.stop with
    | endMark => exact ⟨_, rfl⟩
    | _ => rfl

/-- A binary, a placeholder whose size field is not zero, and a record that is cut off. -/
def cutStream : List UInt8 :=
  Container.magic ++ [0x83, 0x89] ++ [4, 0x82, 1, 2] ++ [1, 0x85] ++ [5, 0x84, 7]

theorem load_effect_cutStream :
    cutStream.length < UInt32.size ∧
    headerOf? cutStream = some (3, 9, [4, 0x82, 1, 2, 1, 0x85, 5, 0x84, 7]) ∧
    LoadEffect none (ResourceTable.empty.set .last .placeholder)
      ⟨[⟨.binary, 2, [1, 2]⟩, ⟨.placeholder, 5, []⟩], .cutPayload .ubin, []⟩
      ((ResourceTable.empty.set .last .placeholder).load none cutStream) := by
  have hlen : cutStream.length < UInt32.size := by decide
  have hheader : headerOf? cutStream = some (3, 9, [4, 0x82, 1, 2, 1, 0x85, 5, 0x84, 7]) := by decide
  have hframe : frame [4, 0x82, 1, 2, 1, 0x85, 5, 0x84, 7] =
      ⟨[⟨.binary, 2, [1, 2]⟩, ⟨.placeholder, 5, []⟩], .cutPayload .ubin, []⟩ := by
    have hbinary : firstItem [4, 0x82, 1, 2, 1, 0x85, 5, 0x84, 7] =
        .record ⟨.binary, 2, [1, 2]⟩ [1, 0x85, 5, 0x84, 7] := by decide
    have hplaceholder : firstItem [1, 0x85, 5, 0x84, 7] = .record ⟨.placeholder, 5, []⟩ [5, 0x84, 7] := by
      decide
    have hcut : firstItem [5, 0x84, 7] = .stop (.cutPayload .ubin) [] := by decide
    rw [frame_of_record hbinary, frame_of_record hplaceholder, frame_of_stop hcut]
  have heffect := (load_effect (ResourceTable.empty.set .last .placeholder) none cutStream hlen).2
    3 9 _ hheader
  rw [hframe] at heffect
  exact ⟨hlen, hheader, heffect⟩

end GuestBridge.Proofs
