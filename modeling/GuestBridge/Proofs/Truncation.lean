import GuestBridge.Proofs.AddAfterLoad

/-!
# Streams that end too early

A load that reaches the end mark has looked at the bytes that it took and at nothing behind them. So it
comes to the same whatever follows these bytes, and if some of them are missing it notices: it fails at
the end of the stream, with the complete records entered and at most an empty one behind them.
-/

namespace GuestBridge.Proofs
open Loader

/-! ### Proper prefixes -/

/-- Some bytes, but not all, are left of `bytes`. -/
abbrev CutOf (cut bytes : List UInt8) : Prop := cut <+: bytes ∧ cut ≠ bytes

lemma not_cutOf_nil {cut : List UInt8} : ¬CutOf cut [] := fun h => h.2 (List.prefix_nil.mp h.1)

lemma cutOf_cons {cut bytes : List UInt8} {b : UInt8} (h : CutOf cut (b :: bytes)) :
    cut = [] ∨ ∃ later, cut = b :: later ∧ CutOf later bytes := by
  obtain ⟨hfront, hne⟩ := h
  rcases List.prefix_cons_iff.mp hfront with hnil | ⟨later, rfl, hlater⟩
  · exact .inl hnil
  · exact .inr ⟨later, rfl, hlater, fun e => hne (congrArg _ e)⟩

lemma cutOf_append {cut a b : List UInt8} (h : CutOf cut (a ++ b)) :
    CutOf cut a ∨ ∃ later, cut = a ++ later ∧ CutOf later b := by
  induction a generalizing cut with
  | nil => exact .inr ⟨cut, rfl, h⟩
  | cons x a ih =>
    rcases cutOf_cons h with rfl | ⟨later, rfl, hlater⟩
    · exact .inl ⟨List.nil_prefix, (List.cons_ne_nil x a).symm⟩
    rcases ih hlater with ⟨hfront, hne⟩ | ⟨last, rfl, hlast⟩
    · exact .inl ⟨List.cons_prefix_cons.mpr ⟨rfl, hfront⟩, fun e => hne (List.cons.inj e).2⟩
    · exact .inr ⟨last, rfl, hlast⟩

/-! ### Numbers -/

/-- The reader takes exactly these bytes for `v`: it does not look further, and it needs them all. -/
structure Takes {β : Type} (read : List UInt8 → Option (β × List UInt8)) (taken : List UInt8) (v : β) :
    Prop where
  more : ∀ more, read (taken ++ more) = some (v, more)
  cut : ∀ cut, CutOf cut taken → read cut = none

lemma takes_scan {left weight sum v : Nat} {bytes rest : List UInt8}
    (h : (Varint.scan left weight sum bytes).result? = some (v, rest)) :
    ∃ taken, bytes = taken ++ rest ∧ Takes (fun b => (Varint.scan left weight sum b).result?) taken v := by
  induction left generalizing weight sum bytes with
  | zero =>
    cases h
    exact ⟨[], rfl, fun _ => rfl, fun _ hcut => absurd hcut not_cutOf_nil⟩
  | succ left ih =>
    cases bytes with
    | nil => cases h
    | cons b tail =>
      rw [Varint.scan] at h
      by_cases hb : 128 ≤ b.toNat
      · rw [if_pos hb] at h
        cases h
        refine ⟨[b], rfl, fun more => ?_, fun cut hcut => ?_⟩
        · rw [List.singleton_append, Varint.scan, if_pos hb]
          rfl
        · rcases cutOf_cons hcut with rfl | ⟨later, -, hlater⟩
          · rfl
          · exact absurd hlater not_cutOf_nil
      · rw [if_neg hb] at h
        obtain ⟨taken, rfl, htakes⟩ := ih h
        refine ⟨b :: taken, rfl, fun more => ?_, fun cut hcut => ?_⟩
        · rw [List.cons_append, Varint.scan, if_neg hb]
          exact htakes.more more
        · rcases cutOf_cons hcut with rfl | ⟨later, rfl, hlater⟩
          · rfl
          · rw [Varint.scan, if_neg hb]
            exact htakes.cut later hlater

lemma takes_read {bytes rest : List UInt8} {v : Nat} (h : (Varint.read bytes).result? = some (v, rest)) :
    ∃ taken, bytes = taken ++ rest ∧ Takes (fun b => (Varint.read b).result?) taken v :=
  takes_scan h

/-! ### Records -/

/-- Where a stream stops that ends inside a record of the kind. -/
def CutInside (kind : ResourceKind) (why : Stop) : Prop :=
  why = .noTag ∨ why = .cutSize ∨ why = .cutPayload kind

lemma firstItem_of_cutPayload {kind : ResourceKind} {size : Nat} {number left : List UInt8}
    (hsprite : kind ≠ .sprite) (hread : (Varint.read number).result? = some (size, left))
    (hleft : left.length < payloadLength kind size) :
    firstItem (kind.tag :: number) = .stop (.cutPayload kind) [] := by
  rw [firstItem, if_neg kind.tag_ne_zero, hread]
  dsimp only
  rw [ResourceKind.ofTag?_tag]
  dsimp only
  rw [if_neg hsprite, if_pos hleft]

/-- The bytes of a record are a record whatever follows, and if some are missing the stream stops inside
it. -/
lemma firstItem_local {bytes rest : List UInt8} {r : StreamRecord} (h : firstItem bytes = .record r rest) :
    ∃ taken, bytes = taken ++ rest ∧ (∀ more, firstItem (taken ++ more) = .record r more) ∧
      ∀ cut, CutOf cut taken → ∃ why, firstItem cut = .stop why [] ∧ CutInside r.kind why := by
  obtain ⟨number, rfl, hsprite, hread, hlength⟩ := firstItem_eq_record_iff.mp h
  obtain ⟨size, rfl, htakes⟩ := takes_read hread
  refine ⟨r.kind.tag :: (size ++ r.payload), ?_, fun more => ?_, fun cut hcut => ?_⟩
  · rw [List.cons_append, List.append_assoc]
  · apply firstItem_eq_record_iff.mpr
    refine ⟨size ++ r.payload ++ more, rfl, hsprite, ?_, hlength⟩
    rw [List.append_assoc, htakes.more]
  · rcases cutOf_cons hcut with rfl | ⟨later, rfl, hlater⟩
    · exact ⟨.noTag, rfl, .inl rfl⟩
    rcases cutOf_append hlater with hsize | ⟨left, rfl, hfront, hne⟩
    · have hnone := htakes.cut later hsize
      refine ⟨.cutSize, ?_, .inr (.inl rfl)⟩
      rw [firstItem, if_neg r.kind.tag_ne_zero, hnone]
    · -- the size is complete, so only payload bytes are missing
      have hshort : left.length < r.payload.length := by
        apply Nat.lt_of_le_of_ne hfront.length_le
        exact fun e => hne (hfront.eq_of_length e)
      rw [hlength] at hshort
      exact ⟨.cutPayload r.kind, firstItem_of_cutPayload hsprite (htakes.more left) hshort, .inr (.inr rfl)⟩

/-- The second stream holds the first records of the first one, and stops inside the next. -/
structure CutFraming (full part : Framing) : Prop where
  records : part.records <+: full.records
  stop : part.stop = .noTag ∨ part.stop = .cutSize ∨
    ∃ r, full.records[part.records.length]? = some r ∧ part.stop = .cutPayload r.kind

lemma cutFraming_of_cutInside {r : StreamRecord} {why : Stop} {rs : List StreamRecord} {stop : Stop}
    {rest left : List UInt8} (h : CutInside r.kind why) :
    CutFraming ⟨r :: rs, stop, rest⟩ ⟨[], why, left⟩ := by
  refine ⟨List.nil_prefix, ?_⟩
  rcases h with hnone | hsize | hpayload
  · exact .inl hnone
  · exact .inr (.inl hsize)
  · exact .inr (.inr ⟨r, rfl, hpayload⟩)

lemma CutFraming.cons {full part : Framing} (h : CutFraming full part) (r : StreamRecord) :
    CutFraming { full with records := r :: full.records } { part with records := r :: part.records } :=
  ⟨List.cons_prefix_cons.mpr ⟨rfl, h.records⟩, h.stop⟩

/-! ### The record loop -/

def StreamEnded (e : ContainerError) : Prop := e = .stream .endOfStream ∨ e = .stream .shortPayload

lemma error?_of_cutInside {kind : ResourceKind} {why : Stop} (h : CutInside kind why) (raw : UInt32) :
    ∃ e, why.error? raw = some e ∧ StreamEnded e := by
  rcases h with rfl | rfl | rfl
  · exact ⟨_, rfl, .inl rfl⟩
  · exact ⟨_, rfl, .inl rfl⟩
  · exact ⟨_, rfl, .inr rfl⟩

lemma storeRecord_ne_finished (decoder : Option ImageDecoder) (p : Progress) (h : Handle)
    (kind : ResourceKind) (size : Nat) (bytes rest : List UInt8) :
    (storeRecord decoder p h kind size bytes).1 ≠ .finished rest := by
  unfold storeRecord
  dsimp only
  intro hstore
  split at hstore
  · cases hstore
  split at hstore
  · cases hstore
  split at hstore
  · cases hstore
  · cases hstore

lemma rest_of_finished {decoder : Option ImageDecoder} {p : Progress} {rest : List UInt8}
    (h : (round decoder p).1 = .finished rest) : p.rest = 0 :: rest := by
  unfold Loader.round at h
  split at h
  · cases h
  next tag bytes hrest =>
    by_cases htag : tag = 0
    · rw [if_pos htag] at h
      cases h
      rw [hrest, htag]
    · rw [if_neg htag] at h
      dsimp only at h
      split at h
      · cases h
      split at h
      · cases h
      split at h
      · cases h
      · exact absurd h (storeRecord_ne_finished _ _ _ _ _ _ _)

lemma round_of_endMark (decoder : Option ImageDecoder) {p : Progress} {rest : List UInt8}
    (h : p.rest = 0 :: rest) : (round decoder p).1 = .finished rest := by
  unfold Loader.round
  rw [h]
  rfl

lemma round_of_nil (decoder : Option ImageDecoder) {p : Progress} (h : p.rest = []) :
    (round decoder p).1 = .failed (.stream .endOfStream) p.table [] := by
  unfold Loader.round
  rw [h]

/-- The same table and sums, with other bytes to read. -/
def reading (p : Progress) (bytes : List UInt8) : Progress := { p with rest := bytes }

/-- Records up to the end mark are read the same whatever follows the mark. If bytes are missing, then
reading them fails at the end of the stream. -/
theorem readRecords_local {decoder : Option ImageDecoder} {p q : Progress}
    (h : (readRecords decoder p).result = .ok q) :
    ∃ taken, p.rest = taken ++ (readRecords decoder p).rest ∧
      (∀ more, (readRecords decoder (reading p (taken ++ more))).result = .ok (reading q more) ∧
        (readRecords decoder (reading p (taken ++ more))).table = (readRecords decoder p).table ∧
        (readRecords decoder (reading p (taken ++ more))).rest = more) ∧
      ∀ cut, CutOf cut taken →
        (∃ e, (readRecords decoder (reading p cut)).result = .error e ∧ StreamEnded e) ∧
          (readRecords decoder (reading p cut)).rest = [] ∧ CutFraming (frame p.rest) (frame cut) := by
  induction p using readRecords.induct decoder with
  | case1 p rest log hround =>
    have hfinished : (round decoder p).1 = .finished rest := by rw [hround]
    have hmark : p.rest = 0 :: rest := rest_of_finished hfinished
    obtain ⟨hresult, htable, hrest⟩ := readRecords_of_finished hfinished
    rw [hresult] at h
    cases h
    refine ⟨[0], by rw [hrest, hmark]; rfl, fun more => ?_, fun cut hcut => ?_⟩
    · have hmore : (round decoder (reading p ([0] ++ more))).1 = .finished more :=
        round_of_endMark decoder rfl
      obtain ⟨hresult', htable', hrest'⟩ := readRecords_of_finished hmore
      exact ⟨hresult', htable'.trans htable.symm, hrest'⟩
    · rcases cutOf_cons hcut with rfl | ⟨later, -, hlater⟩
      · obtain ⟨hresult', -, hrest'⟩ := readRecords_of_failed (round_of_nil decoder (p := reading p []) rfl)
        have hframe : frame [] = ⟨[], .noTag, []⟩ := frame_of_stop rfl
        refine ⟨⟨_, hresult', .inl rfl⟩, hrest', ?_⟩
        rw [hframe]
        exact ⟨List.nil_prefix, .inl rfl⟩
      · exact absurd hlater not_cutOf_nil
  | case2 p e t rest log hround =>
    obtain ⟨hresult, -⟩ := readRecords_of_failed (show (round decoder p).1 = _ by rw [hround])
    rw [hresult] at h
    cases h
  | case3 p next log hround hlt ih =>
    have hloaded : (round decoder p).1 = .loaded next := by rw [hround]
    obtain ⟨k, r, rest, hc, hitem, hnext⟩ := nextRecord_iff.mp hloaded
    have hnextRest : next.rest = rest := by rw [hnext]
    obtain ⟨hresult, htable, hrest⟩ := readRecords_of_loaded hloaded
    obtain ⟨first, hfirst, hmoreFirst, hcutFirst⟩ := firstItem_local hitem
    obtain ⟨taken, htaken, hmore, hcut⟩ := ih (hresult.symm.trans h)
    -- with other bytes behind the first record the loop is in the same state after it
    have hstep : ∀ bytes, NextRecord decoder (reading p (first ++ bytes)) (reading next bytes) := by
      intro bytes
      apply nextRecord_iff.mpr
      refine ⟨k, r, bytes, hc, hmoreFirst bytes, ?_⟩
      rw [hnext]
      rfl
    refine ⟨first ++ taken, ?_, fun more => ?_, fun cut hcutOf => ?_⟩
    · rw [hfirst, List.append_assoc, hrest, ← htaken, hnextRest]
    · obtain ⟨hresult₁, htable₁, hrest₁⟩ := hmore more
      rw [List.append_assoc]
      obtain ⟨hresult₂, htable₂, hrest₂⟩ := readRecords_of_loaded (hstep (taken ++ more))
      refine ⟨hresult₂.trans hresult₁, ?_, hrest₂.trans hrest₁⟩
      rw [htable₂, htable₁, htable]
    · rw [frame_of_record hitem, ← hnextRest]
      rcases cutOf_append hcutOf with hinside | ⟨later, rfl, hlater⟩
      · obtain ⟨why, hstop, hwhy⟩ := hcutFirst cut hinside
        obtain ⟨e, herror, hended⟩ := error?_of_cutInside hwhy k.raw
        have hround' := round_eq decoder (p := reading p cut) hc
        rw [show (reading p cut).rest = cut from rfl, hstop] at hround'
        dsimp only at hround'
        rw [herror] at hround'
        obtain ⟨hresult', -, hrest'⟩ := readRecords_of_failed hround'
        refine ⟨⟨e, hresult', hended⟩, hrest', ?_⟩
        rw [frame_of_stop hstop]
        exact cutFraming_of_cutInside hwhy
      · obtain ⟨⟨e, herror, hended⟩, hnil, hframing⟩ := hcut later hlater
        obtain ⟨hresult', -, hrest'⟩ := readRecords_of_loaded (hstep later)
        refine ⟨⟨e, hresult'.trans herror, hended⟩, hrest'.trans hnil, ?_⟩
        rw [frame_of_record (hmoreFirst later)]
        exact hframing.cons r

/-! ### The header -/

lemma readMagic_cut (index : Nat) {expected cut : List UInt8} (h : CutOf cut expected) :
    readMagic index expected cut = (.error (.stream .endOfStream), []) := by
  induction expected generalizing index cut with
  | nil => exact absurd h not_cutOf_nil
  | cons e expected ih =>
    rcases cutOf_cons h with rfl | ⟨later, rfl, hlater⟩
    · rfl
    · rw [readMagic, if_pos rfl]
      exact ih (index + 1) hlater

/-- The bytes of a header are a header whatever follows, and if some are missing the stream ends in it. -/
lemma readHeader_local {bytes body : List UInt8} {count size : Nat}
    (h : headerOf? bytes = some (count, size, body)) :
    ∃ taken, bytes = taken ++ body ∧ (∀ more, headerOf? (taken ++ more) = some (count, size, more)) ∧
      ∀ cut, CutOf cut taken → ∃ log, readHeader cut = (.error (.stream .endOfStream), [], log) := by
  unfold headerOf? at h
  by_cases hb : bytes.take 4 = Container.magic
  · rw [if_pos hb] at h
    have hsplit : bytes = Container.magic ++ bytes.drop 4 := by rw [← hb, List.take_append_drop]
    generalize bytes.drop 4 = numbers at h hsplit
    subst hsplit
    split at h
    · cases h
    next c after hcount =>
      split at h
      · cases h
      next z body' hsize =>
        cases h
        obtain ⟨first, rfl, hfirst⟩ := takes_read hcount
        obtain ⟨second, rfl, hsecond⟩ := takes_read hsize
        refine ⟨Container.magic ++ (first ++ second), ?_, fun more => ?_, fun cut hcut => ?_⟩
        · rw [List.append_assoc, List.append_assoc]
        · have htake (rest : List UInt8) : (Container.magic ++ rest).take 4 = Container.magic := rfl
          have hdrop (rest : List UInt8) : (Container.magic ++ rest).drop 4 = rest := rfl
          rw [List.append_assoc, List.append_assoc]
          unfold headerOf?
          rw [htake, hdrop, if_pos rfl, hfirst.more]
          dsimp only
          rw [hsecond.more]
        · unfold readHeader
          rcases cutOf_append hcut with hmagic | ⟨later, rfl, hlater⟩
          · rw [readMagic_cut 0 hmagic]
            exact ⟨_, rfl⟩
          rw [readMagic_append]
          dsimp only
          rcases cutOf_append hlater with hcutFirst | ⟨last, rfl, hlast⟩
          · rw [hfirst.cut later hcutFirst]
            exact ⟨_, rfl⟩
          · rw [hfirst.more]
            dsimp only
            rw [hsecond.cut last hlast]
            exact ⟨_, rfl⟩
  · rw [if_neg hb] at h
    cases h

/-! ### The whole load -/

lemma load_result {bytes body : List UInt8} {count size : Nat}
    (hheader : headerOf? bytes = some (count, size, body)) (t : ResourceTable)
    (decoder : Option ImageDecoder) :
    (t.load decoder bytes).result = (readRecords decoder ⟨t.restart, body, 0, 0⟩).result.map fun p =>
      ⟨p.records, UInt32.ofNat count, UInt32.ofNat size, p.payloadBytes⟩ :=
  (load_behind_header hheader t decoder).1

/-- What a load of bytes that end too early comes to, where `full` is the load of all of them and `j`
records are complete, or none if the header is not. -/
structure EndsEarly (t : ResourceTable) (full part : Loaded LoadSummary) (j : Option Nat) : Prop where
  result : ∃ e, part.result = .error e ∧ StreamEnded e
  rest : part.rest = []
  header : j = none → part.table = t
  complete : ∀ n, j = some n → ∀ k : Handle, k.raw.toNat ≤ n →
    part.table.getAny? k = full.table.getAny? k
  next : ∀ n, j = some n → ∀ k : Handle, k.raw.toNat = n + 1 →
    part.table.getAny? k = t.getAny? k ∨
      ∃ r, full.table.getAny? k = some r ∧ part.table.getAny? k = some ⟨r.kind, .empty⟩
  above : ∀ n, j = some n → ∀ k : Handle, n + 1 < k.raw.toNat → part.table.getAny? k = t.getAny? k

lemma load_getAny?_of_ok {bytes body : List UInt8} {count size : Nat}
    (hheader : headerOf? bytes = some (count, size, body)) {t : ResourceTable}
    {decoder : Option ImageDecoder} {s : LoadSummary} (hok : (t.load decoder bytes).result = .ok s)
    {k : Handle} (hk : k.raw.toNat ≤ handleCount) :
    (t.load decoder bytes).table.getAny? k =
      (((frame body).records[k.raw.toNat - 1]?).map (·.resource decoder)).or (t.getAny? k) := by
  have hone := handle_one_le k
  rw [load_entries hheader t decoder k, leftover?_of_ok hok, Option.toList_none, List.append_nil,
    List.getElem?_map, List.getElem?_take_of_lt (by omega)]

lemma endsEarly_of_cutFraming {bytes body cut left : List UInt8} {count size : Nat}
    (hheader : headerOf? bytes = some (count, size, body)) (hcut : headerOf? cut = some (count, size, left))
    (hframing : CutFraming (frame body) (frame left)) {t : ResourceTable} {decoder : Option ImageDecoder}
    {s : LoadSummary} (hok : (t.load decoder bytes).result = .ok s)
    (hresult : ∃ e, (t.load decoder cut).result = .error e ∧ StreamEnded e)
    (hrest : (t.load decoder cut).rest = []) :
    EndsEarly t (t.load decoder bytes) (t.load decoder cut) (completedRecords? cut) := by
  have hj := completedRecords?_of_header hcut
  have hlength : (((frame left).records.take handleCount).map (·.resource decoder)).length =
      min (frame left).records.length handleCount := by
    rw [List.length_map, List.length_take, Nat.min_comm]
  have hentry (k : Handle) : (t.load decoder cut).table.getAny? k =
      (if k.raw.toNat - 1 = min (frame left).records.length handleCount then leftover? cut
        else (((frame left).records.take handleCount).map (·.resource decoder))[k.raw.toNat - 1]?).or
          (t.getAny? k) := by
    rw [load_entries hcut t decoder k, getElem?_append_toList, hlength]
  rw [hj]
  refine ⟨hresult, hrest, fun hnone => ?_, fun n hn k hk => ?_, fun n hn k hk => ?_, fun n hn k hk => ?_⟩
  · cases hnone
  · cases hn
    have hone := handle_one_le k
    obtain ⟨tail, htail⟩ := hframing.records
    have hsame : (frame body).records[k.raw.toNat - 1]? = (frame left).records[k.raw.toNat - 1]? := by
      rw [← htail, List.getElem?_append_left (by omega)]
    rw [hentry k, if_neg (by omega), List.getElem?_map, List.getElem?_take_of_lt (by omega),
      load_getAny?_of_ok hheader hok (by omega), hsame]
  · cases hn
    have hleftover : leftover? cut =
        if (frame left).records.length < handleCount then (frame left).stop.entry? else none := by
      unfold leftover?
      rw [hcut, Option.bind_some]
    rw [hentry k, if_pos (by omega), hleftover]
    by_cases hroom : (frame left).records.length < handleCount
    · rw [if_pos hroom]
      rcases hframing.stop with htag | hsize | ⟨r, hr, hpayload⟩
      · left
        rw [htag]
        rfl
      · left
        rw [hsize]
        rfl
      · right
        have hindex : k.raw.toNat - 1 = (frame left).records.length := by omega
        refine ⟨r.resource decoder, ?_, ?_⟩
        · rw [load_getAny?_of_ok hheader hok (by omega), hindex, hr]
          rfl
        · rw [hpayload]
          rfl
    · left
      rw [if_neg hroom]
      rfl
  · cases hn
    rw [hentry k, if_neg (by omega), List.getElem?_eq_none (by omega), Option.none_or]

lemma endsEarly_of_readHeader {cut : List UInt8} {log : Log}
    (hread : readHeader cut = (.error (.stream .endOfStream), [], log)) (t : ResourceTable)
    (decoder : Option ImageDecoder) (full : Loaded LoadSummary) :
    EndsEarly t full (t.load decoder cut) (completedRecords? cut) := by
  have hnone : completedRecords? cut = none := by
    unfold completedRecords?
    cases h : headerOf? cut with
    | none => rfl
    | some counts =>
      have hok := (readHeader_of_some h).1
      rw [hread] at hok
      cases hok
  have hload : t.load decoder cut = ⟨.error (.stream .endOfStream), t, [], log⟩ := by
    unfold ResourceTable.load
    rw [hread]
  rw [hload, hnone]
  refine ⟨⟨_, rfl, .inl rfl⟩, rfl, fun _ => rfl, ?_, ?_, ?_⟩
  · intro n hn
    cases hn
  · intro n hn
    cases hn
  · intro n hn
    cases hn

/-- A load that succeeds comes to the same on any bytes that start with those it took. On fewer of them it
fails at the end of the stream, which it has read to the last byte, and leaves the complete records, at
most an empty entry of the next record's kind, and all else as it was. -/
theorem load_local {t : ResourceTable} {decoder : Option ImageDecoder} {bytes : List UInt8} {s : LoadSummary}
    (hok : (t.load decoder bytes).result = .ok s) :
    ∃ taken, bytes = taken ++ (t.load decoder bytes).rest ∧
      (∀ more, (t.load decoder (taken ++ more)).result = .ok s ∧
        (t.load decoder (taken ++ more)).table = (t.load decoder bytes).table ∧
        (t.load decoder (taken ++ more)).rest = more) ∧
      ∀ cut, cut <+: taken → cut ≠ taken →
        EndsEarly t (t.load decoder bytes) (t.load decoder cut) (completedRecords? cut) := by
  cases hheader : headerOf? bytes with
  | none =>
    obtain ⟨⟨e, he⟩, -⟩ := load_of_no_header hheader t decoder
    rw [hok] at he
    cases he
  | some header =>
    obtain ⟨count, size, body⟩ := header
    have hresult := load_result hheader t decoder
    obtain ⟨htable, hrest, -⟩ := load_of_header hheader t decoder
    obtain ⟨first, hfirst, hmoreFirst, hcutFirst⟩ := readHeader_local hheader
    cases hrecords : (readRecords decoder ⟨t.restart, body, 0, 0⟩).result with
    | error e =>
      rw [hresult, hrecords] at hok
      cases hok
    | ok p =>
      obtain ⟨taken, htaken, hmore, hcut⟩ := readRecords_local hrecords
      have hs : s = ⟨p.records, UInt32.ofNat count, UInt32.ofNat size, p.payloadBytes⟩ := by
        rw [hresult, hrecords] at hok
        exact (Except.ok.inj hok).symm
      refine ⟨first ++ taken, ?_, fun more => ?_, fun cut hfront hne => ?_⟩
      · rw [hrest, List.append_assoc, ← htaken, ← hfirst]
      · obtain ⟨hresult₁, htable₁, hrest₁⟩ := hmore more
        have hheader₂ := hmoreFirst (taken ++ more)
        obtain ⟨htable₂, hrest₂, -⟩ := load_of_header hheader₂ t decoder
        rw [List.append_assoc]
        refine ⟨?_, ?_, ?_⟩
        · rw [load_result hheader₂ t decoder, hs]
          exact congrArg _ hresult₁
        · rw [htable₂, htable]
          exact htable₁
        · rw [hrest₂]
          exact hrest₁
      · rcases cutOf_append ⟨hfront, hne⟩ with hinside | ⟨left, rfl, hleft⟩
        · obtain ⟨log, hread⟩ := hcutFirst cut hinside
          exact endsEarly_of_readHeader hread t decoder _
        · have hheader₂ := hmoreFirst left
          obtain ⟨-, hrest₂, herror₂⟩ := load_of_header hheader₂ t decoder
          obtain ⟨⟨e, he, hended⟩, hnil, hframing⟩ := hcut left hleft
          exact endsEarly_of_cutFraming hheader hheader₂ hframing hok ⟨e, herror₂ e he, hended⟩
            (hrest₂.trans hnil)

/-- A label of two bytes and a placeholder, and two bytes that belong to something else. -/
def labelAndPlaceholder : List UInt8 :=
  Container.magic ++ [0x82, 0x83] ++ [9, 0x82, 104, 0] ++ [1, 0x81] ++ [0] ++ [7, 7]

theorem load_local_labelAndPlaceholder :
    let t := ResourceTable.empty.set .last .placeholder
    (t.load none labelAndPlaceholder).result = .ok ⟨2, 2, 3, 3⟩ ∧
      (t.load none labelAndPlaceholder).rest = [7, 7] ∧
      EndsEarly t (t.load none labelAndPlaceholder) (t.load none (labelAndPlaceholder.take 9))
        (completedRecords? (labelAndPlaceholder.take 9)) := by
  intro t
  have hheader : headerOf? labelAndPlaceholder = some (2, 3, [9, 0x82, 104, 0, 1, 0x81, 0, 7, 7]) := by
    decide
  have hframe : frame [9, 0x82, 104, 0, 1, 0x81, 0, 7, 7] =
      ⟨[⟨.label, 2, [104, 0]⟩, ⟨.placeholder, 1, []⟩], .endMark, [7, 7]⟩ := by
    have hlabel : firstItem [9, 0x82, 104, 0, 1, 0x81, 0, 7, 7] =
        .record ⟨.label, 2, [104, 0]⟩ [1, 0x81, 0, 7, 7] := by decide
    have hplaceholder : firstItem [1, 0x81, 0, 7, 7] = .record ⟨.placeholder, 1, []⟩ [0, 7, 7] := by decide
    have hend : firstItem [0, 7, 7] = .stop .endMark [7, 7] := by decide
    rw [frame_of_record hlabel, frame_of_record hplaceholder, frame_of_stop hend]
  obtain ⟨u, h, -, -, hresult, -, hrest⟩ := load_frame hheader t none (by rw [hframe]; decide)
  rw [hframe] at hresult hrest
  obtain ⟨taken, htaken, -, hcut⟩ := load_local hresult
  rw [hrest] at htaken
  have hbytes : labelAndPlaceholder = labelAndPlaceholder.take 13 ++ [7, 7] := by decide
  obtain rfl : taken = labelAndPlaceholder.take 13 :=
    List.append_cancel_right (htaken.symm.trans hbytes)
  exact ⟨hresult, hrest, hcut _ (by decide) (by decide)⟩

end GuestBridge.Proofs
