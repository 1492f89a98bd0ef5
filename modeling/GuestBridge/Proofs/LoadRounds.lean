import GuestBridge.Proofs.HandleCounter
import GuestBridge.Proofs.PayloadFraming
import GuestBridge.Proofs.RecordSizes

/-!
# The rounds of a load

The record loop has no bound of its own, and a record may take no payload at all. Every record takes its
tag and a byte of its size, though, and a handle: from these two come a bound on the rounds that a load
makes, and bounds on its sums that keep them within their words.
-/

namespace GuestBridge.Proofs
open Loader

variable {t : ResourceTable} {decoder : Option ImageDecoder} {bytes body : List UInt8}
  {rs : List StreamRecord} {r : Nat} {p q : Progress}

/-! ### Starts of rounds -/

/-- A load of the bytes comes to `p` with `r` records complete, and starts a round there. -/
inductive RoundStart (t : ResourceTable) (decoder : Option ImageDecoder) (bytes : List UInt8) :
    Nat → Progress → Prop where
  | first {header : Header} {body : List UInt8} {log : Log}
    (hread : readHeader bytes = (.ok header, body, log)) :
    RoundStart t decoder bytes 0 ⟨t.restart, body, 0, 0⟩
  | next {r : Nat} {p q : Progress} (hstart : RoundStart t decoder bytes r p)
    (hnext : NextRecord decoder p q) : RoundStart t decoder bytes (r + 1) q

lemma boundary_iff_roundStart : Boundary t decoder bytes p ↔ ∃ r, RoundStart t decoder bytes r p := by
  constructor
  · rintro ⟨header, body, log, hread, hlater⟩
    induction hlater with
    | refl => exact ⟨0, .first hread⟩
    | tail _ hnext ih =>
      obtain ⟨r, hstart⟩ := ih
      exact ⟨r + 1, hstart.next hnext⟩
  · rintro ⟨r, hstart⟩
    induction hstart with
    | first hread => exact ⟨_, _, _, hread, .refl⟩
    | next _ hnext ih =>
      obtain ⟨header, body, log, hread, hlater⟩ := ih
      exact ⟨header, body, log, hread, hlater.tail hnext⟩

lemma RoundStart.unique (hp : RoundStart t decoder bytes r p) (hq : RoundStart t decoder bytes r q) :
    p = q := by
  induction hp generalizing q with
  | first hread =>
    cases hq with
    | first hread' =>
      rw [hread] at hread'
      cases hread'
      rfl
  | next _ hnext ih =>
    cases hq with
    | next hstart hnext' =>
      obtain rfl := ih hstart
      unfold NextRecord at hnext hnext'
      rw [hnext] at hnext'
      exact Round.loaded.inj hnext'

lemma RoundStart.earlier (h : RoundStart t decoder bytes r p) {k : Nat} (hk : k ≤ r) :
    ∃ q, RoundStart t decoder bytes k q := by
  induction h with
  | first hread =>
    obtain rfl := Nat.le_zero.mp hk
    exact ⟨_, .first hread⟩
  | next hstart hnext ih =>
    rcases Nat.le_succ_iff.mp hk with hle | rfl
    · exact ih hle
    · exact ⟨_, hstart.next hnext⟩

/-- The load is over with the round that takes in no record. -/
lemma roundStart_iff_le (h : RoundStart t decoder bytes r p) (hlast : ∀ q, ¬NextRecord decoder p q) (k : Nat) :
    (∃ q, RoundStart t decoder bytes k q) ↔ k ≤ r := by
  constructor
  · rintro ⟨q, hq⟩
    by_contra hgt
    obtain ⟨q', hq'⟩ := hq.earlier (Nat.lt_of_not_le hgt)
    cases hq' with
    | next hstart hnext =>
      obtain rfl := h.unique hstart
      exact hlast _ hnext
  · exact h.earlier

/-! ### What holds at every start -/

/-- The records `rs` of the body end at `p`, which holds their number, the sum of their sizes and the handle
behind theirs. -/
structure Behind (body : List UInt8) (rs : List StreamRecord) (p : Progress) : Prop where
  framed : (frame body).records = rs ++ (frame p.rest).records
  suffix : p.rest <:+ body
  consumed : p.rest.length + 2 * rs.length ≤ body.length
  counter : p.table.counter = handleAfter? rs.length
  room : rs.length ≤ handleCount
  records : p.records.toNat = rs.length
  payloadBytes : p.payloadBytes.toNat = sizeSum rs

lemma behind_restart (t : ResourceTable) (body : List UInt8) : Behind body [] ⟨t.restart, body, 0, 0⟩ where
  framed := (List.nil_append _).symm
  suffix := List.suffix_refl body
  consumed := Nat.le_refl _
  counter := handleAfter?_zero.symm
  room := Nat.zero_le _
  records := rfl
  payloadBytes := rfl

lemma Behind.total_le (h : Behind body rs p) : sizeSum rs ≤ rs.length * Varint.maxValue := by
  apply sizeSum_le
  intro r hr
  apply frame_size_le body
  rw [h.framed]
  exact List.mem_append_left _ hr

lemma Behind.next (h : Behind body rs p) (hnext : NextRecord decoder p q) :
    ∃ r, firstItem p.rest = .record r q.rest ∧ Behind body (rs ++ [r]) q := by
  obtain ⟨k, r, rest, hc, hitem, rfl⟩ := nextRecord_iff.mp hnext
  have hk : handleAfter? rs.length = some k := h.counter.symm.trans hc
  obtain ⟨hroom, -⟩ := handleAfter?_eq_some_iff.mp hk
  have hlength : (rs ++ [r]).length = rs.length + 1 := List.length_append
  have hframed : (frame body).records = rs ++ [r] ++ (frame rest).records := by
    rw [h.framed, frame_of_record hitem, List.append_assoc]
    rfl
  refine ⟨r, hitem, ⟨hframed, (firstItem_suffix hitem).trans h.suffix, ?_, ?_, ?_, ?_, ?_⟩⟩
  · have hshorter := firstItem_length_le hitem
    have hconsumed := h.consumed
    rw [hlength]
    dsimp only
    omega
  · rw [hlength]
    exact handle_next?_of_handleAfter? hk
  · rw [hlength]
    exact hroom
  · rw [hlength, ← h.records]
    apply toNat_succ_record
    rw [h.records]
    exact hroom
  · -- this record had a handle, so the sum with its size is bounded by the number of handles
    have hsize : r.size ≤ Varint.maxValue := by
      apply frame_size_le body
      rw [hframed]
      exact List.mem_append_left _ (List.mem_append_right _ List.mem_cons_self)
    have htotal := h.total_le
    have hbound := mul_maxValue_lt hroom
    rw [Nat.succ_mul] at hbound
    have hword : 2 ^ 59 < UInt64.size := by decide
    rw [sizeSum_concat, ← h.payloadBytes]
    apply toNat_add_size
    rw [h.payloadBytes]
    omega

lemma RoundStart.behind (h : RoundStart t decoder bytes r p) :
    ∃ count size body rs, headerOf? bytes = some (count, size, body) ∧ rs.length = r ∧ Behind body rs p := by
  induction h with
  | first hread =>
    obtain ⟨count, size, hheader⟩ := headerOf?_of_readHeader hread
    exact ⟨count, size, _, [], hheader, rfl, behind_restart t _⟩
  | next _ hnext ih =>
    obtain ⟨count, size, body, rs, hheader, hlength, hbehind⟩ := ih
    obtain ⟨record, -, hbehind'⟩ := hbehind.next hnext
    refine ⟨count, size, body, rs ++ [record], hheader, ?_, hbehind'⟩
    rw [List.length_append, hlength]
    rfl

/-! ### The handle of a round -/

lemma storeRecord_of_room {h : Handle} (hc : p.table.counter = some h) {kind : ResourceKind}
    (hkind : kind ≠ .sprite) {size : Nat} {after : List UInt8} (hroom : takenSize kind size ≤ after.length) :
    ∃ q, (storeRecord decoder p h kind size after).1 = .loaded q ∧ q.table.counter = h.next? := by
  rw [takenSize_eq] at hroom
  rw [storeRecord_eq decoder hc, if_neg hkind, if_neg (Nat.not_lt.mpr hroom)]
  exact ⟨_, rfl, rfl⟩

/-- A round that finds no handle has stored nothing. -/
lemma counter_of_exhausted {u : ResourceTable} {rest : List UInt8}
    (h : (round decoder p).1 = .failed .handlesExhausted u rest) : p.table.counter = none ∧ u = p.table := by
  cases hc : p.table.counter with
  | none =>
    rcases round_table_of_exhausted decoder hc with ⟨rest', hround⟩ | ⟨e, rest', hround⟩
    · rw [hround] at h
      cases h
    · rw [hround] at h
      cases h
      exact ⟨rfl, rfl⟩
  | some k =>
    rw [round_eq decoder hc] at h
    cases hitem : firstItem p.rest with
    | stop why rest' =>
      rw [hitem] at h
      cases why <;> cases h
    | record r rest' =>
      rw [hitem] at h
      cases h

/-! ### The law of the rounds -/

/-- The records behind the header of a stream; none if the header cannot be read. -/
def recordsOf (bytes : List UInt8) : List StreamRecord :=
  match headerOf? bytes with
  | none => []
  | some (_, _, body) => (frame body).records

/-- What is known at the start of a round with `r` records complete, and what the round can do. -/
structure RoundLaw (decoder : Option ImageDecoder) (bytes : List UInt8) (r : Nat) (p : Progress) : Prop where
  consumed : ∃ used, bytes = used ++ p.rest ∧ 6 + 2 * r ≤ used.length
  counter : p.table.counter.map (·.raw.toNat) = if r < 2 ^ 31 - 1 then some (r + 1) else none
  records : p.records.toNat = r ∧ r ≤ 2 ^ 31 - 1
  complete : r ≤ (recordsOf bytes).length ∧ (frame p.rest).records = (recordsOf bytes).drop r
  payloadBytes : p.payloadBytes.toNat = sizeSum ((recordsOf bytes).take r)
  bound : p.payloadBytes.toNat ≤ r * (2 ^ 28 - 1) ∧ r * (2 ^ 28 - 1) < 2 ^ 59
  sums : ∀ q, NextRecord decoder p q → q.records.toNat = p.records.toNat + 1 ∧
    ∃ kind size after, RecordAt p kind size after ∧ q.payloadBytes.toNat = p.payloadBytes.toNat + size
  stored : ∀ h kind size after, p.table.counter = some h → kind ≠ .sprite →
    takenSize kind size ≤ after.length →
      ∃ q, (storeRecord decoder p h kind size after).1 = .loaded q ∧ q.table.counter = h.next?
  exhausted : ∀ u rest, (round decoder p).1 = .failed .handlesExhausted u rest →
    r = 2 ^ 31 - 1 ∧ u = p.table

lemma RoundStart.law (h : RoundStart t decoder bytes r p) : RoundLaw decoder bytes r p := by
  obtain ⟨count, size, body, rs, hheader, rfl, hbehind⟩ := h.behind
  have hrecords : recordsOf bytes = rs ++ (frame p.rest).records := by
    rw [← hbehind.framed]
    unfold recordsOf
    rw [hheader]
  refine ⟨?_, ?_, ⟨hbehind.records, hbehind.room⟩, ?_, ?_, ?_, ?_, ?_, ?_⟩
  · obtain ⟨used, hused⟩ := hbehind.suffix.trans (headerOf?_suffix hheader)
    have hlength := congrArg List.length hused
    have hbody := headerOf?_length_le hheader
    have hconsumed := hbehind.consumed
    rw [List.length_append] at hlength
    exact ⟨used, hused.symm, by omega⟩
  · rw [hbehind.counter]
    exact raw_handleAfter? rs.length
  · rw [hrecords, List.length_append, List.drop_left]
    exact ⟨Nat.le_add_right _ _, rfl⟩
  · rw [hrecords, List.take_left]
    exact hbehind.payloadBytes
  · rw [hbehind.payloadBytes]
    exact ⟨hbehind.total_le, mul_maxValue_lt hbehind.room⟩
  · intro q hnext
    obtain ⟨record, hitem, hbehind'⟩ := hbehind.next hnext
    obtain ⟨number, hrest, -, hsize, -⟩ := firstItem_eq_record_iff.mp hitem
    rw [hbehind.records, hbehind.payloadBytes, hbehind'.records, hbehind'.payloadBytes, sizeSum_concat,
      List.length_append]
    exact ⟨rfl, record.kind, record.size, _, ⟨number, hrest, hsize⟩, rfl⟩
  · intro h kind size after hc hkind hroom
    exact storeRecord_of_room hc hkind hroom
  · intro u rest hround
    obtain ⟨hnone, hu⟩ := counter_of_exhausted hround
    refine ⟨Nat.le_antisymm hbehind.room ?_, hu⟩
    by_contra hlt
    obtain ⟨k, hk, -⟩ := exists_handleAfter? (Nat.lt_of_not_le hlt)
    rw [← hbehind.counter, hnone] at hk
    cases hk

/-! ### The last round -/

/-- The round that starts at `p` is the last of the load, which comes to what this round comes to. -/
def EndsLoad (t : ResourceTable) (decoder : Option ImageDecoder) (bytes : List UInt8) (p : Progress) : Prop :=
  match (round decoder p).1 with
  | .loaded _ => False
  | .failed e table rest =>
    (t.load decoder bytes).result = .error e ∧ (t.load decoder bytes).table = table ∧
      (t.load decoder bytes).rest = rest
  | .finished rest =>
    (∃ s, (t.load decoder bytes).result = .ok s ∧ s.records = p.records ∧ s.payloadBytes = p.payloadBytes) ∧
      (t.load decoder bytes).table = p.table ∧ (t.load decoder bytes).rest = rest

lemma load_result_of_boundary (hp : Boundary t decoder bytes p) :
    ∃ count size, (t.load decoder bytes).result =
      (readRecords decoder p).result.map fun q => ⟨q.records, count, size, q.payloadBytes⟩ := by
  obtain ⟨header, body, log, hread, hlater⟩ := hp
  obtain ⟨count, size, hheader⟩ := headerOf?_of_readHeader hread
  obtain ⟨hresult, -, -⟩ := load_behind_header hheader t decoder
  refine ⟨UInt32.ofNat count, UInt32.ofNat size, ?_⟩
  rw [hresult, (readRecords_of_laterRecord hlater).1]

lemma endsLoad_of_last (hp : Boundary t decoder bytes p) (hlast : ∀ q, ¬NextRecord decoder p q) :
    EndsLoad t decoder bytes p := by
  obtain ⟨count, size, hload⟩ := load_result_of_boundary hp
  obtain ⟨htable, hrest, herror⟩ := load_of_boundary hp
  unfold EndsLoad
  cases hround : (round decoder p).1 with
  | loaded q => exact hlast q hround
  | failed e table rest =>
    obtain ⟨hresult, htable', hrest'⟩ := readRecords_of_failed hround
    exact ⟨herror e hresult, htable.trans htable', hrest.trans hrest'⟩
  | finished rest =>
    obtain ⟨hresult, htable', hrest'⟩ := readRecords_of_finished hround
    rw [hresult] at hload
    exact ⟨⟨_, hload, rfl, rfl⟩, htable.trans htable', hrest.trans hrest'⟩

lemma exists_last (h : RoundStart t decoder bytes 0 p) :
    ∃ r last, RoundStart t decoder bytes r last ∧ ∀ q, ¬NextRecord decoder last q := by
  obtain ⟨count, size, body, -, hheader, -, -⟩ := h.behind
  obtain ⟨last, hboundary, hlast, -⟩ := load_completes (completedRecords?_of_header hheader) t decoder
  obtain ⟨r, hstart⟩ := boundary_iff_roundStart.mp hboundary
  exact ⟨r, last, hstart, hlast⟩

/-- At the start of each round the complete records have taken two bytes each behind the header, the counter
is at the next handle, and the sums are exact and too small to wrap. A round that stores a payload has a
handle to move on from. Whatever the sizes, a load of `n` bytes is over after `(n - 6) / 2 + 1` rounds. -/
theorem load_rounds (t : ResourceTable) (decoder : Option ImageDecoder) (bytes : List UInt8) :
    (∀ r p, RoundStart t decoder bytes r p → RoundLaw decoder bytes r p) ∧
      ∀ start, RoundStart t decoder bytes 0 start →
        ∃ r last, RoundStart t decoder bytes r last ∧ EndsLoad t decoder bytes last ∧
          (∀ k, (∃ p, RoundStart t decoder bytes k p) ↔ k < r + 1) ∧
          r + 1 ≤ (bytes.length - 6) / 2 + 1 := by
  refine ⟨fun r p h => h.law, fun start hfirst => ?_⟩
  obtain ⟨r, last, hstart, hlast⟩ := exists_last hfirst
  obtain ⟨used, hused, hlength⟩ := hstart.law.consumed
  have hends := endsLoad_of_last (boundary_iff_roundStart.mpr ⟨r, hstart⟩) hlast
  refine ⟨r, last, hstart, hends, fun k => ?_, ?_⟩
  · rw [roundStart_iff_le hstart hlast, Nat.lt_succ_iff]
  · rw [hused, List.length_append]
    omega

/-- Records without a payload: a placeholder whose size goes on for too long, an empty binary and a
placeholder of five bytes. The binary after them is cut off. -/
def sizelessRecords : List UInt8 :=
  Container.magic ++ [0x84, 0x86] ++ [1, 0, 0, 0, 0] ++ [4, 0x80] ++ [1, 0x85] ++ [4, 0x81]

theorem load_rounds_sizelessRecords :
    let t := ResourceTable.empty.set .last .placeholder
    ∃ start p, RoundStart t none sizelessRecords 0 start ∧ RoundStart t none sizelessRecords 3 p ∧
      p.rest = [4, 0x81] ∧ p.payloadBytes = 5 ∧ RoundLaw none sizelessRecords 3 p ∧
      ∃ r last, RoundStart t none sizelessRecords r last ∧ EndsLoad t none sizelessRecords last ∧
        (∀ k, (∃ p, RoundStart t none sizelessRecords k p) ↔ k < r + 1) ∧ r + 1 ≤ 6 := by
  intro t
  have hread : readHeader sizelessRecords = (.ok ⟨4, 6⟩, sizelessRecords.drop 6, []) := rfl
  have hfirst : RoundStart t none sizelessRecords 0 ⟨t.restart, sizelessRecords.drop 6, 0, 0⟩ := .first hread
  have hplaceholder := hfirst.next (nextRecord_iff.mpr ⟨.first, ⟨.placeholder, 0, []⟩,
    sizelessRecords.drop 11, rfl, by decide, rfl⟩)
  have hbinary := hplaceholder.next (nextRecord_iff.mpr ⟨⟨2, by decide⟩, ⟨.binary, 0, []⟩,
    sizelessRecords.drop 13, rfl, by decide, rfl⟩)
  have hthird := hbinary.next (nextRecord_iff.mpr ⟨⟨3, by decide⟩, ⟨.placeholder, 5, []⟩,
    sizelessRecords.drop 15, rfl, by decide, rfl⟩)
  obtain ⟨hlaw, hend⟩ := load_rounds t none sizelessRecords
  exact ⟨_, _, hfirst, hthird, rfl, rfl, hlaw 3 _ hthird, hend _ hfirst⟩

end GuestBridge.Proofs
