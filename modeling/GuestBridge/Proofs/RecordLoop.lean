import GuestBridge.Proofs.LoadEffect
import Mathlib.Logic.Relation

/-!
# The record loop on streams of any length

Behind the header a load goes from record to record. Between two records it takes the next byte as a
tag, and what it does from there on depends on the table, the unread bytes and the sums alone. Once the
handles are used up no record is taken in any more, so a load completes as many records as the stream
holds or as there are handles.
-/

namespace GuestBridge.Proofs
open Loader

/-! ### Without a handle -/

lemma round_of_exhausted (decoder : Option ImageDecoder) {p : Progress} (hc : p.table.counter = none)
    {tag : UInt8} {number after : List UInt8} {size : Nat} (hrest : p.rest = tag :: number)
    (htag : tag ≠ 0) (hsize : (Varint.read number).result? = some (size, after)) :
    (round decoder p).1 = .failed .handlesExhausted p.table after := by
  unfold Loader.round
  rw [hrest]
  dsimp only
  rw [if_neg htag, hsize]
  dsimp only
  rw [hc]

lemma round_table_of_exhausted (decoder : Option ImageDecoder) {p : Progress}
    (hc : p.table.counter = none) :
    (∃ rest, (round decoder p).1 = .finished rest) ∨
      ∃ e rest, (round decoder p).1 = .failed e p.table rest := by
  cases hrest : p.rest with
  | nil =>
    unfold Loader.round
    rw [hrest]
    exact .inr ⟨_, _, rfl⟩
  | cons tag number =>
    by_cases htag : tag = 0
    · unfold Loader.round
      rw [hrest]
      dsimp only
      rw [if_pos htag]
      exact .inl ⟨_, rfl⟩
    cases hsize : (Varint.read number).result? with
    | none =>
      unfold Loader.round
      rw [hrest]
      dsimp only
      rw [if_neg htag, hsize]
      exact .inr ⟨_, _, rfl⟩
    | some read => exact .inr ⟨_, _, round_of_exhausted decoder hc hrest htag hsize⟩

lemma readRecords_table_of_exhausted (decoder : Option ImageDecoder) {p : Progress}
    (hc : p.table.counter = none) : (readRecords decoder p).table = p.table := by
  rcases round_table_of_exhausted decoder hc with ⟨rest, hround⟩ | ⟨e, rest, hround⟩
  · exact (readRecords_of_finished hround).2.1
  · exact (readRecords_of_failed hround).2.1

/-! ### Between two records -/

def NextRecord (decoder : Option ImageDecoder) (p q : Progress) : Prop := (round decoder p).1 = .loaded q

abbrev LaterRecord (decoder : Option ImageDecoder) := Relation.ReflTransGen (NextRecord decoder)

/-- A load of the bytes comes to `p`, where the next byte is taken as a tag. -/
def Boundary (t : ResourceTable) (decoder : Option ImageDecoder) (bytes : List UInt8) (p : Progress) :
    Prop :=
  ∃ header body log, readHeader bytes = (.ok header, body, log) ∧
    LaterRecord decoder ⟨t.restart, body, 0, 0⟩ p

lemma nextRecord_iff {decoder : Option ImageDecoder} {p q : Progress} :
    NextRecord decoder p q ↔ ∃ h r rest, p.table.counter = some h ∧ firstItem p.rest = .record r rest ∧
      q = ⟨enterRecord p.table h (r.resource decoder), rest, p.records + 1,
        p.payloadBytes + UInt64.ofNat r.size⟩ := by
  unfold NextRecord
  constructor
  · intro hround
    cases hc : p.table.counter with
    | none =>
      rcases round_table_of_exhausted decoder hc with ⟨rest, h⟩ | ⟨e, rest, h⟩
      · rw [h] at hround
        cases hround
      · rw [h] at hround
        cases hround
    | some h =>
      rw [round_eq decoder hc] at hround
      cases hitem : firstItem p.rest with
      | stop why rest =>
        rw [hitem] at hround
        dsimp only at hround
        split at hround
        · cases hround
        · cases hround
      | record r rest =>
        rw [hitem] at hround
        cases hround
        exact ⟨h, r, rest, rfl, rfl, rfl⟩
  · rintro ⟨h, r, rest, hc, hitem, rfl⟩
    rw [round_eq decoder hc, hitem]

lemma nextRecord_suffix {decoder : Option ImageDecoder} {p q : Progress} (h : NextRecord decoder p q) :
    q.rest <:+ p.rest := by
  obtain ⟨k, r, rest, -, hitem, rfl⟩ := nextRecord_iff.mp h
  exact firstItem_suffix hitem

lemma laterRecord_suffix {decoder : Option ImageDecoder} {p q : Progress} (h : LaterRecord decoder p q) :
    q.rest <:+ p.rest := by
  induction h with
  | refl => exact List.suffix_refl _
  | tail _ hnext ih => exact (nextRecord_suffix hnext).trans ih

lemma readRecords_of_laterRecord {decoder : Option ImageDecoder} {p q : Progress}
    (h : LaterRecord decoder p q) :
    (readRecords decoder p).result = (readRecords decoder q).result ∧
      (readRecords decoder p).table = (readRecords decoder q).table ∧
      (readRecords decoder p).rest = (readRecords decoder q).rest := by
  induction h with
  | refl => exact ⟨rfl, rfl, rfl⟩
  | tail _ hnext ih =>
    obtain ⟨hresult, htable, hrest⟩ := readRecords_of_loaded hnext
    exact ⟨ih.1.trans hresult, ih.2.1.trans htable, ih.2.2.trans hrest⟩

/-- There are fewer handles than words of 32 bits, so counting one more record does not wrap. -/
lemma toNat_succ_record {w : UInt32} (hw : w.toNat < handleCount) : (w + 1).toNat = w.toNat + 1 := by
  rw [handleCount_eq] at hw
  have hone : (1 : UInt32).toNat = 1 := rfl
  rw [UInt32.toNat_add, hone]
  exact Nat.mod_eq_of_lt (by omega)

/-- The record loop takes in the records of the stream as long as there are handles for them. -/
lemma laterRecord_stop (decoder : Option ImageDecoder) (bytes : List UInt8) (p : Progress) (n : Nat)
    (hrest : p.rest = bytes) (hc : p.table.counter = handleAfter? n) (hn : n ≤ handleCount)
    (hrecords : p.records.toNat = n) :
    ∃ q, LaterRecord decoder p q ∧ (∀ r, ¬NextRecord decoder q r) ∧
      q.records.toNat = min (n + (frame bytes).records.length) handleCount ∧
      addAll? p.table (((frame bytes).records.take (handleCount - n)).map (·.resource decoder)) =
        some q.table := by
  induction bytes using frame_induction generalizing p n with
  | stop bytes why rest hitem =>
    rw [frame_of_stop hitem, List.length_nil, Nat.add_zero, Nat.min_eq_left hn, List.take_nil]
    refine ⟨p, .refl, fun q hnext => ?_, hrecords, rfl⟩
    obtain ⟨h, r, rest', -, hitem', -⟩ := nextRecord_iff.mp hnext
    rw [hrest, hitem] at hitem'
    cases hitem'
  | record bytes r rest hitem ih =>
    rw [frame_of_record hitem, List.length_cons]
    by_cases hlt : n < handleCount
    · obtain ⟨k, hk, -⟩ := exists_handleAfter? hlt
      let next : Progress := ⟨enterRecord p.table k (r.resource decoder), rest, p.records + 1,
        p.payloadBytes + UInt64.ofNat r.size⟩
      have hnext : NextRecord decoder p next :=
        nextRecord_iff.mpr ⟨k, r, rest, hc.trans hk, hrest ▸ hitem, rfl⟩
      have hsucc : (p.records + 1).toNat = n + 1 := by
        rw [toNat_succ_record (by omega), hrecords]
      have htake : handleCount - n = handleCount - (n + 1) + 1 := by omega
      obtain ⟨q, hlater, hstop, hcount, hadd⟩ := ih next (n + 1) rfl
        (handle_next?_of_handleAfter? hk) hlt hsucc
      refine ⟨q, .head hnext hlater, hstop, ?_, ?_⟩
      · rw [hcount, Nat.add_assoc, Nat.add_comm 1]
      · rw [htake, List.take_succ_cons, List.map_cons, addAll?_cons (hc.trans hk)]
        exact hadd
    · -- there is a record, but no handle for it
      obtain rfl : n = handleCount := Nat.le_antisymm hn (Nat.le_of_not_lt hlt)
      have hnone : p.table.counter = none := hc.trans (if_neg (Nat.lt_irrefl _))
      rw [Nat.sub_self, Nat.min_eq_right (Nat.le_add_right _ _)]
      refine ⟨p, .refl, fun q hnext => ?_, hrecords, rfl⟩
      obtain ⟨h, r', rest', hsome, -⟩ := nextRecord_iff.mp hnext
      rw [hnone] at hsome
      cases hsome

/-! ### From the header on -/

lemma load_of_header {bytes body : List UInt8} {count size : Nat}
    (hheader : headerOf? bytes = some (count, size, body)) (t : ResourceTable)
    (decoder : Option ImageDecoder) :
    let loaded := readRecords decoder ⟨t.restart, body, 0, 0⟩
    (t.load decoder bytes).table = loaded.table ∧ (t.load decoder bytes).rest = loaded.rest ∧
      ∀ e, loaded.result = .error e → (t.load decoder bytes).result = .error e := by
  obtain ⟨hresult, htable, hrest⟩ := load_behind_header hheader t decoder
  refine ⟨htable, hrest, fun e he => ?_⟩
  rw [hresult, he]
  rfl

lemma headerOf?_of_readHeader {bytes body : List UInt8} {header : Header} {log : Log}
    (h : readHeader bytes = (.ok header, body, log)) :
    ∃ count size, headerOf? bytes = some (count, size, body) := by
  cases hheader : headerOf? bytes with
  | none =>
    obtain ⟨e, he⟩ := readHeader_of_none hheader
    rw [h] at he
    cases he
  | some counts =>
    obtain ⟨count, size, body'⟩ := counts
    have hbody := (readHeader_of_some hheader).2
    rw [h] at hbody
    cases hbody
    exact ⟨count, size, rfl⟩

/-- What a load leaves and how it fails is what the record loop comes to from any of its boundaries. -/
theorem load_of_boundary {t : ResourceTable} {decoder : Option ImageDecoder} {bytes : List UInt8}
    {p : Progress} (hp : Boundary t decoder bytes p) :
    (t.load decoder bytes).table = (readRecords decoder p).table ∧
      (t.load decoder bytes).rest = (readRecords decoder p).rest ∧
      ∀ e, (readRecords decoder p).result = .error e → (t.load decoder bytes).result = .error e := by
  obtain ⟨header, body, log, hread, hlater⟩ := hp
  obtain ⟨count, size, hheader⟩ := headerOf?_of_readHeader hread
  obtain ⟨htable, hrest, herror⟩ := load_of_header hheader t decoder
  obtain ⟨hresult', htable', hrest'⟩ := readRecords_of_laterRecord hlater
  refine ⟨htable.trans htable', hrest.trans hrest', fun e he => ?_⟩
  exact herror e (hresult'.trans he)

lemma boundary_of_header {bytes body : List UInt8} {count size : Nat}
    (hheader : headerOf? bytes = some (count, size, body)) {t : ResourceTable}
    {decoder : Option ImageDecoder} {p : Progress} (hlater : LaterRecord decoder ⟨t.restart, body, 0, 0⟩ p) :
    Boundary t decoder bytes p := by
  obtain ⟨hcounts, hbody⟩ := readHeader_of_some hheader
  exact ⟨_, body, _, Prod.ext hcounts (Prod.ext hbody rfl), hlater⟩

lemma load_exhausted {bytes body : List UInt8} {count size : Nat}
    (hheader : headerOf? bytes = some (count, size, body)) (t : ResourceTable)
    (decoder : Option ImageDecoder) (hroom : handleCount ≤ (frame body).records.length) :
    ∃ rs, ((frame body).records.take handleCount).map (·.resource decoder) = rs ∧
      rs.length = handleCount ∧ addAll? t.restart rs = some (t.load decoder bytes).table := by
  obtain ⟨p, hlater, -, -, hadd⟩ := laterRecord_stop decoder body ⟨t.restart, body, 0, 0⟩ 0 rfl
    handleAfter?_zero.symm (Nat.zero_le _) rfl
  rw [Nat.sub_zero] at hadd
  have hlength : (((frame body).records.take handleCount).map (·.resource decoder)).length = handleCount := by
    rw [List.length_map, List.length_take, Nat.min_eq_left hroom]
  have hnone : p.table.counter = none := by
    have hcounter := addAll?_counter (t := t.restart) handleAfter?_zero.symm (by omega) hadd
    rw [hcounter, hlength, Nat.zero_add]
    exact if_neg (Nat.lt_irrefl _)
  have htable : (t.load decoder bytes).table = p.table :=
    (load_of_boundary (boundary_of_header hheader hlater)).1.trans (readRecords_table_of_exhausted decoder hnone)
  exact ⟨_, rfl, hlength, htable ▸ hadd⟩

/-- How many records a load of the bytes completes, which `load_completes` compares with the loader's own
count; none if it does not get past the header. -/
def completedRecords? (bytes : List UInt8) : Option Nat :=
  (headerOf? bytes).map fun (_, _, body) => min (frame body).records.length handleCount

/-- What a load of the bytes leaves where it stops, under the handle that comes next. -/
def leftover? (bytes : List UInt8) : Option Resource :=
  (headerOf? bytes).bind fun (_, _, body) =>
    if (frame body).records.length < handleCount then (frame body).stop.entry? else none

lemma completedRecords?_of_header {bytes body : List UInt8} {count size : Nat}
    (hheader : headerOf? bytes = some (count, size, body)) :
    completedRecords? bytes = some (min (frame body).records.length handleCount) := by
  unfold completedRecords?
  rw [hheader]
  rfl

lemma headerOf?_of_completedRecords? {bytes : List UInt8} {m : Nat} (h : completedRecords? bytes = some m) :
    ∃ count size body, headerOf? bytes = some (count, size, body) ∧
      m = min (frame body).records.length handleCount := by
  obtain ⟨⟨count, size, body⟩, hheader, rfl⟩ := Option.map_eq_some_iff.mp h
  exact ⟨count, size, body, hheader, rfl⟩

/-- The loader counts the records that it completes, and stops at that many. -/
theorem load_completes {bytes : List UInt8} {m : Nat} (h : completedRecords? bytes = some m)
    (t : ResourceTable) (decoder : Option ImageDecoder) :
    ∃ p, Boundary t decoder bytes p ∧ (∀ q, ¬NextRecord decoder p q) ∧ p.records.toNat = m := by
  obtain ⟨count, size, body, hheader, rfl⟩ := headerOf?_of_completedRecords? h
  obtain ⟨p, hlater, hstop, hcount, -⟩ := laterRecord_stop decoder body ⟨t.restart, body, 0, 0⟩ 0 rfl
    handleAfter?_zero.symm (Nat.zero_le _) rfl
  rw [Nat.zero_add] at hcount
  exact ⟨p, boundary_of_header hheader hlater, hstop, hcount⟩

/-- A load that gets past its header leaves the counter behind the records that it completed. -/
theorem load_counter {bytes : List UInt8} {m : Nat} (h : completedRecords? bytes = some m)
    (t : ResourceTable) (decoder : Option ImageDecoder) :
    (t.load decoder bytes).table.counter = handleAfter? m := by
  obtain ⟨count, size, body, hheader, rfl⟩ := headerOf?_of_completedRecords? h
  by_cases hroom : (frame body).records.length < handleCount
  · obtain ⟨u, k, hadd, hk, -, htable, -⟩ := load_frame hheader t decoder hroom
    have hlength : ((frame body).records.map (·.resource decoder)).length = (frame body).records.length :=
      List.length_map _
    have hcounter := addAll?_counter (t := t.restart) handleAfter?_zero.symm (by omega) hadd
    rw [hlength, Nat.zero_add] at hcounter
    rw [htable, stop_counter_enter, hcounter, Nat.min_eq_left (Nat.le_of_lt hroom)]
  · have hroom' : handleCount ≤ (frame body).records.length := Nat.le_of_not_lt hroom
    obtain ⟨rs, -, hlength, hadd⟩ := load_exhausted hheader t decoder hroom'
    have hcounter := addAll?_counter (t := t.restart) handleAfter?_zero.symm (by omega) hadd
    rw [hcounter, hlength, Nat.zero_add, Nat.min_eq_right hroom']

/-- What a load puts in front of what the table held: the records that it completed, and what it leaves
where it stops. -/
theorem load_entries {bytes body : List UInt8} {count size : Nat}
    (hheader : headerOf? bytes = some (count, size, body)) (t : ResourceTable)
    (decoder : Option ImageDecoder) (k : Handle) :
    (t.load decoder bytes).table.getAny? k =
      ((((frame body).records.take handleCount).map (·.resource decoder) ++
        (leftover? bytes).toList)[k.raw.toNat - 1]?).or (t.getAny? k) := by
  unfold leftover?
  rw [hheader, Option.bind_some]
  dsimp only
  by_cases hroom : (frame body).records.length < handleCount
  · rw [if_pos hroom, List.take_of_length_le (Nat.le_of_lt hroom)]
    exact load_getAny? hheader t decoder hroom k
  · have hroom' : handleCount ≤ (frame body).records.length := Nat.le_of_not_lt hroom
    obtain ⟨rs, hrs, hlength, hadd⟩ := load_exhausted hheader t decoder hroom'
    obtain ⟨u, hu, -, hget⟩ := addAll?_spec rs t.restart 0 handleAfter?_zero.symm (by omega)
    obtain rfl : u = (t.load decoder bytes).table := Option.some.inj (hu.symm.trans hadd)
    have hone := handle_one_le k
    rw [if_neg hroom, Option.toList_none, List.append_nil, hrs, hget k, if_neg (by omega)]
    rfl

end GuestBridge.Proofs
