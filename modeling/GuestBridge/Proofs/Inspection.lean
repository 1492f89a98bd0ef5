import GuestBridge.Proofs.RecordSizes
import GuestBridge.Proofs.ReportLines

/-!
# A report on a container

Inspecting a container loads it into an empty table and lists what stands there. Nothing else can be there
than the records of the stream, at the handles from the first on, so the report has an entry and a line for
each of them and no other.
-/

namespace GuestBridge.Proofs
open Report Text

variable {decoder : ImageDecoder}

/-- How images are decoded for a report. -/
def inspectDecoder (decoder : ImageDecoder) (decodeImages : Bool) : Option ImageDecoder :=
  if decodeImages then some decoder else none

/-- What a report says of the record that was loaded at a handle. -/
structure EntryOf (decoder : Option ImageDecoder) (n : Nat) (r : StreamRecord) (e : Entry) : Prop where
  handle : e.handle.raw.toNat = n
  kind : e.kind = r.kind
  size : e.size = (r.resource decoder).payload.byteSize
  label : ∀ s, e.label = some s ↔ r.kind = .label ∧ s = Utf8.lenient (r.payload.takeWhile (· != 0))
  dimensions : ∀ d, e.dimensions = some d ↔ r.kind = .image ∧
    ∃ decode bitmap, decoder = some decode ∧ decode r.payload = .ok bitmap ∧ d = (bitmap.width, bitmap.height)

/-- What a report says of a stream with the records `rs` behind a header with these counts. -/
structure ReportOn (decoder : Option ImageDecoder) (count size : Nat) (rs : List StreamRecord) (r : Report) :
    Prop where
  records : r.summary.records.toNat = rs.length
  payloadBytes : r.summary.payloadBytes.toNat = sizeSum rs
  declaredCount : r.summary.declaredCount.toNat = count
  declaredSize : r.summary.declaredSize.toNat = size
  matchesHeader : r.summary.matchesHeader = true ↔ count = rs.length ∧ size = sizeSum rs
  length : r.entries.length = rs.length
  entry : ∀ i sr e, rs[i]? = some sr → r.entries[i]? = some e → EntryOf decoder (i + 1) sr e
  text : ∃ first lines, EndedLines (first :: lines) r.text ∧ lines.length = rs.length ∧
    ∀ i line, lines[i]? = some line → Numbered (i + 1) line

lemma inspect_eq (decoder : ImageDecoder) (bytes : List UInt8) (decodeImages : Bool) (trace : Trace) :
    (Report.inspect decoder bytes decodeImages trace).1 =
      let loaded := ResourceTable.empty.load (inspectDecoder decoder decodeImages) bytes
      match loaded.result with
      | .ok s => .ok (ofTable s loaded.table)
      | .error e => .error (.resources (.container e)) := by
  obtain ⟨b, log, hbuild, hresources, hdecoder⟩ : ∃ (b : Bridge) (log : Log),
      Bridge.build { warnUnbound := false, decoder := inspectDecoder decoder decodeImages, trace := trace } = (.ok b, log) ∧
        b.resources = .empty ∧ b.decoder = inspectDecoder decoder decodeImages := ⟨_, _, rfl, rfl, rfl⟩
  unfold inspectDecoder at hbuild
  unfold Report.inspect
  dsimp only
  rw [hbuild]
  dsimp only [Bridge.load]
  rw [hresources, hdecoder]
  cases (ResourceTable.empty.load (inspectDecoder decoder decodeImages) bytes).result <;> rfl

lemma labelOf_resource (decoder : Option ImageDecoder) (r : StreamRecord) :
    labelOf (r.resource decoder).payload =
      if r.kind = .label then some (Utf8.lenient (r.payload.takeWhile (· != 0))) else none := by
  obtain ⟨kind, size, payload⟩ := r
  cases kind with
  | image =>
    cases decoder with
    | none => rfl
    | some decode =>
      simp only [StreamRecord.resource]
      cases decode payload <;> rfl
  | _ => rfl

lemma bitmap?_resource (decoder : Option ImageDecoder) (r : StreamRecord) (b : Bitmap) :
    (r.resource decoder).bitmap? = some b ↔
      r.kind = .image ∧ ∃ decode, decoder = some decode ∧ decode r.payload = .ok b := by
  obtain ⟨kind, size, payload⟩ := r
  cases kind with
  | image =>
    cases decoder with
    | none => simp [StreamRecord.resource, Resource.bitmap?]
    | some decode => cases hdecode : decode payload <;> simp [StreamRecord.resource, Resource.bitmap?, hdecode]
  | _ => simp [StreamRecord.resource, Resource.bitmap?]

lemma entryOf_ofResource (decoder : Option ImageDecoder) (h : Handle) (r : StreamRecord) :
    EntryOf decoder h.raw.toNat r (Entry.ofResource h (r.resource decoder)) where
  handle := rfl
  kind := rfl
  size := rfl
  label s := by
    unfold Entry.ofResource
    dsimp only
    rw [labelOf_resource]
    by_cases hkind : r.kind = .label
    · rw [if_pos hkind, Option.some.injEq, eq_comm, and_iff_right hkind]
    · rw [if_neg hkind]
      exact ⟨nofun, fun h => absurd h.1 hkind⟩
  dimensions d := by
    unfold Entry.ofResource
    simp only [Option.map_eq_some_iff, bitmap?_resource]
    constructor
    · rintro ⟨b, ⟨hkind, decode, hdecoder, hdecode⟩, rfl⟩
      exact ⟨hkind, decode, b, hdecoder, hdecode, rfl⟩
    · rintro ⟨hkind, decode, b, hdecoder, hdecode, rfl⟩
      exact ⟨b, ⟨hkind, decode, hdecoder, hdecode⟩, rfl⟩

/-! ### The report as a whole -/

/-- What a load that succeeds leaves in a table that was empty. -/
lemma load_into_empty {bytes : List UInt8} (hlen : bytes.length < UInt32.size) {decoder : Option ImageDecoder}
    {s : LoadSummary} (h : (ResourceTable.empty.load decoder bytes).result = .ok s) :
    ∃ count size body, headerOf? bytes = some (count, size, body) ∧ (frame body).stop = .endMark ∧
      (frame body).records.length < handleCount ∧
      s = ⟨UInt32.ofNat (frame body).records.length, UInt32.ofNat count, UInt32.ofNat size,
        UInt64.ofNat (sizeSum (frame body).records)⟩ ∧
      let rs := (frame body).records.map (·.resource decoder)
      numberedEntries (ResourceTable.empty.load decoder bytes).table = (List.range' 1 rs.length).zip rs := by
  cases hheader : headerOf? bytes with
  | none =>
    obtain ⟨⟨e, he⟩, -⟩ := load_of_no_header hheader .empty decoder
    rw [he] at h
    cases h
  | some counts =>
    obtain ⟨count, size, body⟩ := counts
    have hroom := records_lt_handleCount hheader hlen
    obtain ⟨hstop, hs, hadd⟩ := load_of_ok hheader hroom h
    have hentries := numberedEntries_addAll? _ _ _ 0 handleAfter?_zero.symm
      (by rw [List.length_map]; omega) (fun e he => by cases he) hadd
    exact ⟨count, size, body, rfl, hstop, hroom, hs, hentries⟩

lemma length_entries {t : ResourceTable} {rs : List Resource}
    (h : numberedEntries t = (List.range' 1 rs.length).zip rs) : t.entries.length = rs.length := by
  have hlength := congrArg List.length h
  unfold numberedEntries at hlength
  rwa [List.length_map, List.length_zip, List.length_range', Nat.min_self] at hlength

lemma entries_at {t : ResourceTable} {rs : List Resource}
    (h : numberedEntries t = (List.range' 1 rs.length).zip rs) {i : Nat} {k : Handle} {found r : Resource}
    (hi : t.entries[i]? = some (k, found)) (hr : rs[i]? = some r) : k.raw.toNat = i + 1 ∧ found = r := by
  have hnumbered : (numberedEntries t)[i]? = some (k.raw.toNat, found) := by
    unfold numberedEntries
    rw [List.getElem?_map, hi, Option.map_some]
  obtain ⟨hlt, -⟩ := List.getElem?_eq_some_iff.mp hr
  rw [h, List.getElem?_zip_eq_some, List.getElem?_range' hlt, hr] at hnumbered
  simp only [Option.some.injEq] at hnumbered
  exact ⟨by omega, hnumbered.2.symm⟩

lemma entryOf_at {decoder : Option ImageDecoder} {t : ResourceTable} {s : LoadSummary} {rs : List StreamRecord}
    (h : numberedEntries t =
      (List.range' 1 (rs.map (·.resource decoder)).length).zip (rs.map (·.resource decoder)))
    {i : Nat} {sr : StreamRecord} {e : Entry} (hi : rs[i]? = some sr) (he : (ofTable s t).entries[i]? = some e) :
    EntryOf decoder (i + 1) sr e := by
  unfold ofTable at he
  dsimp only at he
  rw [List.getElem?_map, Option.map_eq_some_iff] at he
  obtain ⟨⟨k, found⟩, hfound, rfl⟩ := he
  have hr : (rs.map (·.resource decoder))[i]? = some (sr.resource decoder) := by
    rw [List.getElem?_map, hi, Option.map_some]
  obtain ⟨hraw, rfl⟩ := entries_at h hfound hr
  rw [← hraw]
  exact entryOf_ofResource decoder k sr

/-- The lines of a report whose entries are numbered from one on. -/
lemma exists_numbered_lines {r : Report} (h : ∀ i e, r.entries[i]? = some e → e.handle.raw.toNat = i + 1) :
    ∃ first lines, EndedLines (first :: lines) r.text ∧ lines.length = r.entries.length ∧
      ∀ i line, lines[i]? = some line → Numbered (i + 1) line := by
  obtain ⟨first, lines, hlines, hnumbers⟩ := report_text_lines r
  obtain ⟨hlength, hat⟩ := List.forall₂_iff_get.mp hnumbers
  refine ⟨first, lines, hlines, hlength.symm, fun i line hi => ?_⟩
  obtain ⟨hlt, rfl⟩ := List.getElem?_eq_some_iff.mp hi
  have hlt' : i < r.entries.length := by omega
  rw [← h i r.entries[i] (List.getElem?_eq_getElem hlt')]
  exact hat i hlt' hlt

lemma reportOn_ofTable {decoder : Option ImageDecoder} {t : ResourceTable} {count size : Nat}
    {rs : List StreamRecord} (hcount : count ≤ Varint.maxValue) (hsize : size ≤ Varint.maxValue)
    (hroom : rs.length < handleCount) (htotal : sizeSum rs < UInt64.size)
    (h : numberedEntries t =
      (List.range' 1 (rs.map (·.resource decoder)).length).zip (rs.map (·.resource decoder))) :
    ReportOn decoder count size rs (ofTable ⟨UInt32.ofNat rs.length, UInt32.ofNat count, UInt32.ofNat size,
      UInt64.ofNat (sizeSum rs)⟩ t) := by
  have hcount' : count < UInt32.size := Nat.lt_of_le_of_lt hcount (by decide)
  have hsize' : size < UInt32.size := Nat.lt_of_le_of_lt hsize (by decide)
  have hrecords : rs.length < UInt32.size := Nat.lt_trans hroom (by decide)
  generalize hreport : ofTable _ t = r
  have hlength : r.entries.length = rs.length := by
    have hentries := length_entries h
    rw [List.length_map] at hentries
    rw [← hreport]
    unfold ofTable
    rw [List.length_map, hentries]
  have hentry : ∀ i sr e, rs[i]? = some sr → r.entries[i]? = some e → EntryOf decoder (i + 1) sr e := by
    intro i sr e hi he
    exact entryOf_at h hi (hreport ▸ he)
  have hhandle : ∀ i e, r.entries[i]? = some e → e.handle.raw.toNat = i + 1 := by
    intro i e he
    obtain ⟨hlt, -⟩ := List.getElem?_eq_some_iff.mp he
    exact (hentry i _ e (List.getElem?_eq_getElem (by omega)) he).handle
  refine ⟨?_, ?_, ?_, ?_, ?_, hlength, hentry, hlength ▸ exists_numbered_lines hhandle⟩ <;> rw [← hreport]
  · exact UInt32.toNat_ofNat_of_lt' hrecords
  · exact UInt64.toNat_ofNat_of_lt' htotal
  · exact UInt32.toNat_ofNat_of_lt' hcount'
  · exact UInt32.toNat_ofNat_of_lt' hsize'
  · exact matchesHeader_iff hcount' hsize' hrecords htotal

/-- Two transparent pixels beside each other, as an image file. -/
def twoPixels : List UInt8 :=
  [137, 80, 78, 71, 13, 10, 26, 10, 0, 0, 0, 13, 73, 72, 68, 82, 0, 0, 0, 2, 0, 0, 0, 1, 8, 6, 0, 0, 0, 244, 34, 127,
    138, 0, 0, 0, 11, 73, 68, 65, 84, 120, 218, 99, 96, 128, 2, 0, 0, 9, 0, 1, 104, 246, 207, 78, 0, 0, 0, 0, 73, 69,
    78, 68, 174, 66, 96, 130]

/-- Knows the one file. -/
def twoPixelDecoder : ImageDecoder := fun bytes =>
  if bytes = twoPixels then .ok (.blank 2 1) else .error "unrecognized image payload"

def hostileLabel : List UInt8 := [0x0a, 0x22, 0xff, 0x41]

/-- A label with a line break, a quote and a byte that is no text, an image that cannot be decoded and one that
can. -/
def hostileBody : List UInt8 :=
  [9, 0x84] ++ hostileLabel ++ [2, 0x82, 1, 2] ++ [2, 0xC4] ++ twoPixels ++ [0]

def hostileRecords : List StreamRecord :=
  [⟨.label, 4, hostileLabel⟩, ⟨.image, 2, [1, 2]⟩, ⟨.image, 68, twoPixels⟩]

lemma frame_hostileBody : frame hostileBody = ⟨hostileRecords, .endMark, []⟩ := by
  have hlabel : firstItem hostileBody =
      .record ⟨.label, 4, hostileLabel⟩ ([2, 0x82, 1, 2] ++ [2, 0xC4] ++ twoPixels ++ [0]) := by decide
  have himage : firstItem ([2, 0x82, 1, 2] ++ [2, 0xC4] ++ twoPixels ++ [0]) =
      .record ⟨.image, 2, [1, 2]⟩ ([2, 0xC4] ++ twoPixels ++ [0]) := by decide
  have hpixels : firstItem ([2, 0xC4] ++ twoPixels ++ [0]) = .record ⟨.image, 68, twoPixels⟩ [0] := by decide
  have hend : firstItem [0] = .stop .endMark [] := by decide
  rw [frame_of_record hlabel, frame_of_record himage, frame_of_record hpixels, frame_of_stop hend]
  rfl

def hostileStream : List UInt8 := Container.magic ++ [0x83, 0xCA] ++ hostileBody

end GuestBridge.Proofs
