import GuestBridge.Proofs.OrderedTable
import GuestBridge.Proofs.RecordLoop

/-!
# Loads that decode images differently

Loads of one stream with different image decoders read it in step: round by round they stand at the same
byte with the same sums and the same next handle, whatever becomes of the images. So they return the same
and leave the same tables, but for the payloads of the image records that they complete.
-/

namespace GuestBridge.Proofs
open Loader

/-! ### Rounds in step -/

/-- Two loads at the same place of a stream. -/
structure InStep (p q : Progress) : Prop where
  rest : p.rest = q.rest
  records : p.records = q.records
  payloadBytes : p.payloadBytes = q.payloadBytes
  counter : p.table.counter = q.table.counter

/-- Rounds that differ in their tables alone. -/
inductive SameRound : Round → Round → Prop where
  | finished (rest : List UInt8) : SameRound (.finished rest) (.finished rest)
  | failed (e : ContainerError) (t u : ResourceTable) (rest : List UInt8) :
    SameRound (.failed e t rest) (.failed e u rest)
  | loaded {p q : Progress} (h : InStep p q) : SameRound (.loaded p) (.loaded q)

lemma sameRound (first second : Option ImageDecoder) {p q : Progress} (h : InStep p q) :
    SameRound (round first p).1 (round second q).1 := by
  have hrest := h.rest
  cases hc : p.table.counter with
  | some k =>
    have hc' : q.table.counter = some k := h.counter.symm.trans hc
    rw [round_eq first hc, round_eq second hc', ← hrest]
    cases firstItem p.rest with
    | stop why rest =>
      dsimp only
      cases why.error? k.raw with
      | none => exact .finished rest
      | some e => exact .failed e _ _ rest
    | record r rest =>
      apply SameRound.loaded
      refine ⟨rfl, ?_, ?_, rfl⟩
      · exact congrArg (· + 1) h.records
      · exact congrArg (· + UInt64.ofNat r.size) h.payloadBytes
  | none =>
    have hc' : q.table.counter = none := h.counter.symm.trans hc
    unfold Loader.round
    rw [← hrest, hc, hc']
    cases p.rest with
    | nil => exact .failed _ _ _ _
    | cons tag bytes =>
      dsimp only
      by_cases htag : tag = 0
      · rw [if_pos htag, if_pos htag]
        exact .finished bytes
      rw [if_neg htag, if_neg htag]
      cases (Varint.read bytes).result? with
      | none => exact .failed _ _ _ _
      | some number => exact .failed _ _ _ _

lemma readRecords_inStep (first second : Option ImageDecoder) {p q : Progress} (h : InStep p q) :
    (readRecords first p).rest = (readRecords second q).rest ∧
      ((∃ e, (readRecords first p).result = .error e ∧ (readRecords second q).result = .error e) ∨
        ∃ p' q', (readRecords first p).result = .ok p' ∧ (readRecords second q).result = .ok q' ∧
          InStep p' q') := by
  induction hn : p.rest.length using Nat.strongRecOn generalizing p q with
  | ind n ih =>
    have hround := sameRound first second h
    generalize hp : (round first p).1 = pround at hround
    generalize hq : (round second q).1 = qround at hround
    cases hround with
    | finished rest =>
      obtain ⟨hpresult, -, hprest⟩ := readRecords_of_finished hp
      obtain ⟨hqresult, -, hqrest⟩ := readRecords_of_finished hq
      refine ⟨hprest.trans hqrest.symm, .inr ⟨_, _, hpresult, hqresult, ?_⟩⟩
      exact ⟨rfl, h.records, h.payloadBytes, h.counter⟩
    | failed e t u rest =>
      obtain ⟨hpresult, -, hprest⟩ := readRecords_of_failed hp
      obtain ⟨hqresult, -, hqrest⟩ := readRecords_of_failed hq
      exact ⟨hprest.trans hqrest.symm, .inl ⟨e, hpresult, hqresult⟩⟩
    | @loaded p' q' hnext =>
      obtain ⟨hpresult, -, hprest⟩ := readRecords_of_loaded hp
      obtain ⟨hqresult, -, hqrest⟩ := readRecords_of_loaded hq
      have hlt : p'.rest.length < n := hn ▸ length_round_lt hp
      rw [hpresult, hqresult, hprest, hqrest]
      exact ih p'.rest.length hlt hnext rfl

/-! ### What is under a handle -/

/-- The record that a load of the bytes completes under a handle. -/
def recordAt? (bytes : List UInt8) (k : Handle) : Option StreamRecord :=
  (headerOf? bytes).bind fun (_, _, body) => ((frame body).records.take handleCount)[k.raw.toNat - 1]?

/-- A handle holds the record completed there as the decoder makes of it, or what no decoder has a part
in. -/
lemma load_getAny?_cases (t : ResourceTable) (bytes : List UInt8) (k : Handle) :
    (∃ r, recordAt? bytes k = some r ∧
      ∀ decoder, (t.load decoder bytes).table.getAny? k = some (r.resource decoder)) ∨
    (recordAt? bytes k = none ∧
      ∃ found, ∀ decoder, (t.load decoder bytes).table.getAny? k = found) := by
  unfold recordAt?
  cases hheader : headerOf? bytes with
  | none =>
    refine .inr ⟨rfl, t.getAny? k, ?_⟩
    intro decoder
    rw [(load_of_no_header hheader t decoder).2]
  | some header =>
    obtain ⟨count, size, body⟩ := header
    rw [Option.bind_some]
    dsimp only
    have hentry : ∀ decoder, (t.load decoder bytes).table.getAny? k =
        (if k.raw.toNat - 1 = ((frame body).records.take handleCount).length then leftover? bytes
          else (((frame body).records.take handleCount)[k.raw.toNat - 1]?).map (·.resource decoder)).or
            (t.getAny? k) := by
      intro decoder
      rw [load_entries hheader t decoder k, getElem?_append_toList, List.length_map, List.getElem?_map]
    generalize (frame body).records.take handleCount = rs at hentry ⊢
    cases hr : rs[k.raw.toNat - 1]? with
    | some r =>
      obtain ⟨hlt, -⟩ := List.getElem?_eq_some_iff.mp hr
      refine .inl ⟨r, rfl, ?_⟩
      intro decoder
      rw [hentry decoder, if_neg (by omega), hr]
      rfl
    | none =>
      simp only [hr, Option.map_none] at hentry
      exact .inr ⟨rfl, _, hentry⟩

lemma resource_of_kind_ne_image {r : StreamRecord} (h : r.kind ≠ .image)
    (first second : Option ImageDecoder) : r.resource first = r.resource second := by
  obtain ⟨kind, size, payload⟩ := r
  cases kind with
  | image => exact absurd rfl h
  | _ => rfl

/-! ### Two loads -/

/-- The payload bytes of the image record that a load of the bytes completes under a handle. -/
def imageBytes? (bytes : List UInt8) (k : Handle) : Option (List UInt8) :=
  (recordAt? bytes k).bind fun r => if r.kind = .image then some r.payload else none

lemma imageBytes?_eq_some {bytes data : List UInt8} {k : Handle} (h : imageBytes? bytes k = some data) :
    ∃ size, recordAt? bytes k = some ⟨.image, size, data⟩ := by
  obtain ⟨⟨kind, size, payload⟩, hr, hdata⟩ := Option.bind_eq_some_iff.mp h
  dsimp only at hdata
  by_cases hkind : kind = .image
  · rw [if_pos hkind] at hdata
    cases hdata
    subst hkind
    exact ⟨size, hr⟩
  · rw [if_neg hkind] at hdata
    cases hdata

/-- What is found where an image record was completed. Without a decoder these are its bytes, and with one
the bitmap or, if there is none, nothing. -/
structure ImageEntry (decoder : Option ImageDecoder) (data : List UInt8) (found : Option Resource) :
    Prop where
  kept : decoder = none → found = some ⟨.image, .binary ⟨data⟩⟩
  decoded : ∀ decode bitmap, decoder = some decode → decode data = .ok bitmap →
    found = some ⟨.image, .image bitmap⟩
  undecodable : ∀ decode reason, decoder = some decode → decode data = .error reason →
    found = some ⟨.image, .empty⟩

lemma imageEntry_resource (decoder : Option ImageDecoder) (size : Nat) (data : List UInt8) :
    ImageEntry decoder data (some (StreamRecord.resource decoder ⟨.image, size, data⟩)) := by
  refine ⟨?_, ?_, ?_⟩
  · rintro rfl
    rfl
  · rintro decode bitmap rfl hok
    unfold StreamRecord.resource
    dsimp only
    rw [hok]
  · rintro decode reason rfl herror
    unfold StreamRecord.resource
    dsimp only
    rw [herror]

/-- Two loads of the same bytes that agree on everything but the payloads of the images. -/
structure SameButImages (bytes : List UInt8) (first second : Option ImageDecoder)
    (a b : Loaded LoadSummary) : Prop where
  result : a.result = b.result
  rest : a.rest = b.rest
  counter : a.table.counter = b.table.counter
  handles : handles a.table = handles b.table
  kinds : ∀ k, (a.table.getAny? k).map (·.kind) = (b.table.getAny? k).map (·.kind)
  payloads : ∀ k, imageBytes? bytes k = none → a.table.getAny? k = b.table.getAny? k
  images : ∀ k data, imageBytes? bytes k = some data →
    ImageEntry first data (a.table.getAny? k) ∧ ImageEntry second data (b.table.getAny? k)

lemma load_reads_alike (t : ResourceTable) (first second : Option ImageDecoder) (bytes : List UInt8) :
    (t.load first bytes).result = (t.load second bytes).result ∧
      (t.load first bytes).rest = (t.load second bytes).rest ∧
      (t.load first bytes).table.counter = (t.load second bytes).table.counter := by
  cases hread : readHeader bytes with
  | mk result after =>
    obtain ⟨body, log⟩ := after
    cases result with
    | error e =>
      unfold ResourceTable.load
      rw [hread]
      exact ⟨rfl, rfl, rfl⟩
    | ok header =>
      obtain ⟨count, size, hheader⟩ := headerOf?_of_readHeader hread
      have hcompleted := completedRecords?_of_header hheader
      have hstart : InStep ⟨t.restart, body, 0, 0⟩ ⟨t.restart, body, 0, 0⟩ := ⟨rfl, rfl, rfl, rfl⟩
      obtain ⟨hrest, hresult⟩ := readRecords_inStep first second hstart
      obtain ⟨hfirst, -, hfirstRest⟩ := load_behind_header hheader t first
      obtain ⟨hsecond, -, hsecondRest⟩ := load_behind_header hheader t second
      refine ⟨?_, (hfirstRest.trans hrest).trans hsecondRest.symm, ?_⟩
      · rw [hfirst, hsecond]
        rcases hresult with ⟨e, hp, hq⟩ | ⟨p, q, hp, hq, h⟩
        · rw [hp, hq]
        · rw [hp, hq]
          dsimp only [Except.map]
          rw [h.records, h.payloadBytes]
      · rw [load_counter hcompleted t first, load_counter hcompleted t second]

/-- Image decoding has no influence on a load but for the payloads of the image records that it
completes. -/
theorem load_sameButImages (t : ResourceTable) (first second : Option ImageDecoder) (bytes : List UInt8) :
    SameButImages bytes first second (t.load first bytes) (t.load second bytes) := by
  obtain ⟨hresult, hrest, hcounter⟩ := load_reads_alike t first second bytes
  have hkinds : ∀ k, ((t.load first bytes).table.getAny? k).map (·.kind) =
      ((t.load second bytes).table.getAny? k).map (·.kind) := by
    intro k
    rcases load_getAny?_cases t bytes k with ⟨r, -, h⟩ | ⟨-, found, h⟩
    · rw [h first, h second]
      rfl
    · rw [h first, h second]
  refine ⟨hresult, hrest, hcounter, ?_, hkinds, ?_, ?_⟩
  · apply handles_ext
    intro k
    have hsome := congrArg Option.isSome (hkinds k)
    rwa [Option.isSome_map, Option.isSome_map] at hsome
  · intro k hnone
    rcases load_getAny?_cases t bytes k with ⟨r, hr, h⟩ | ⟨-, found, h⟩
    · have hkind : r.kind ≠ .image := by
        intro himage
        unfold imageBytes? at hnone
        rw [hr, Option.bind_some, if_pos himage] at hnone
        cases hnone
      rw [h first, h second, resource_of_kind_ne_image hkind first second]
    · rw [h first, h second]
  · intro k data hdata
    obtain ⟨size, hrecord⟩ := imageBytes?_eq_some hdata
    rcases load_getAny?_cases t bytes k with ⟨r, hr, h⟩ | ⟨hnone, -⟩
    · rw [hrecord] at hr
      cases hr
      rw [h first, h second]
      exact ⟨imageEntry_resource first size data, imageEntry_resource second size data⟩
    · rw [hrecord] at hnone
      cases hnone

end GuestBridge.Proofs
