import GuestBridge.Proofs.LoadEffect
import GuestBridge.Proofs.Utf8
import GuestBridge.Proofs.Writing
import Mathlib.Data.List.TakeWhile

/-!
# Loading what was written

A container built record by record is written and loaded back into an empty table: every record is
found at its place, the header is right, and what follows the container stays unread.
-/

namespace GuestBridge.Proofs
open Text

/-! ### Written records fall into the same records -/

/-- A record that is loaded as it was written: not a sprite, of its own size, and empty if it is a
placeholder. -/
structure StreamRecord.Faithful (r : StreamRecord) : Prop where
  not_sprite : r.kind ≠ .sprite
  size_eq : r.size = r.payload.length
  size_le : r.size ≤ Varint.maxValue
  placeholder_empty : r.kind = .placeholder → r.payload = []

/-- The record as a writer takes it. -/
def StreamRecord.written (r : StreamRecord) : Record := ⟨r.kind.tag, r.payload⟩

lemma payloadLength_of_faithful {r : StreamRecord} (h : r.Faithful) :
    payloadLength r.kind r.size = r.payload.length := by
  unfold payloadLength
  by_cases hkind : r.kind = .placeholder
  · rw [if_pos hkind, h.placeholder_empty hkind, List.length_nil]
  · rw [if_neg hkind, h.size_eq]

lemma firstItem_recordBytes {r : StreamRecord} (h : r.Faithful) (rest : List UInt8) :
    firstItem (recordBytes r.written ++ rest) = .record r rest := by
  have hread := varint_read_groups (h.size_eq ▸ h.size_le) (r.payload ++ rest)
  apply firstItem_eq_record_iff.mpr
  refine ⟨Varint.groups r.payload.length ++ (r.payload ++ rest), ?_, h.not_sprite, ?_, ?_⟩
  · unfold recordBytes StreamRecord.written
    rw [List.cons_append, List.append_assoc]
  · rw [hread, h.size_eq]
    rfl
  · exact (payloadLength_of_faithful h).symm

theorem frame_bodyBytes (rs : List StreamRecord) (h : ∀ r ∈ rs, r.Faithful) (trailing : List UInt8) :
    frame (bodyBytes (rs.map (·.written)) ++ trailing) = ⟨rs, .endMark, trailing⟩ := by
  unfold bodyBytes
  induction rs with
  | nil => exact frame_of_stop rfl
  | cons r rs ih =>
    have hitem := firstItem_recordBytes (h r List.mem_cons_self)
      ((rs.map (·.written)).flatMap recordBytes ++ [0] ++ trailing)
    rw [List.map_cons, List.flatMap_cons, List.append_assoc, List.append_assoc,
      ← List.append_assoc _ [0] trailing, frame_of_record hitem,
      ih fun r hr => h r (List.mem_cons_of_mem _ hr)]

lemma headerOf?_containerBytes {c : Container} (hc : Writable c) (trailing : List UInt8) :
    headerOf? (containerBytes c ++ trailing) =
      some (c.records.length, c.payloadBytes, bodyBytes c.records ++ trailing) := by
  have hcount := varint_read_groups hc.1 (Varint.groups c.payloadBytes ++ (bodyBytes c.records ++ trailing))
  have hsize := varint_read_groups hc.2 (bodyBytes c.records ++ trailing)
  unfold headerOf? containerBytes
  rw [List.append_assoc, List.append_assoc, List.append_assoc]
  have htake (rest : List UInt8) : (Container.magic ++ rest).take 4 = Container.magic := rfl
  have hdrop (rest : List UInt8) : (Container.magic ++ rest).drop 4 = rest := rfl
  rw [htake, hdrop, if_pos rfl, hcount]
  simp only [Varint.Outcome.result?, hsize]

/-! ### Containers built call by call -/

/-- One record that is added to a container. A record of a kind that is named explicitly is neither a
placeholder nor a sprite. -/
inductive Addition where
  | placeholder
  | binary (bytes : List UInt8)
  | ubin (bytes : List UInt8)
  | image (bytes : List UInt8)
  | label (name : String)
  | record (kind : ResourceKind) (bytes : List UInt8)
    (carries : kind ≠ .placeholder ∧ kind ≠ .sprite := by decide)

namespace Addition

def addTo (c : Container) : Addition → Container
  | placeholder => c.placeholder
  | binary bytes => c.binary bytes
  | ubin bytes => c.ubin bytes
  | image bytes => c.image bytes
  | label name => c.label name
  | record kind bytes _ => c.record kind bytes

def kind : Addition → ResourceKind
  | placeholder => .placeholder
  | binary _ => .binary
  | ubin _ => .ubin
  | image _ => .image
  | label _ => .label
  | record kind _ _ => kind

/-- The payload bytes; the name of a label is followed by a NUL. -/
def payload : Addition → List UInt8
  | placeholder => []
  | binary bytes | ubin bytes | image bytes | record _ bytes _ => bytes
  | label name => Utf8.encode name ++ [0]

/-- What is found in place of the record after loading it back without a decoder. -/
def resource (a : Addition) : Resource :=
  ⟨a.kind,
    match a.kind with
    | .binary | .ubin | .image => .binary ⟨a.payload⟩
    | .label => .label (Utf8.lenient (a.payload.takeWhile (· != 0)))
    | .placeholder | .skip | .sprite => .empty⟩

def streamRecord (a : Addition) : StreamRecord := ⟨a.kind, a.payload.length, a.payload⟩

lemma addTo_records (c : Container) (a : Addition) :
    (a.addTo c).records = c.records ++ [a.streamRecord.written] := by
  cases a <;> rfl

lemma resource_eq (a : Addition) : a.streamRecord.resource none = a.resource := by
  unfold streamRecord StreamRecord.resource resource
  cases a.kind <;> rfl

lemma faithful {a : Addition} (hsize : a.payload.length ≤ Varint.maxValue) : a.streamRecord.Faithful where
  not_sprite := by
    cases a with
    | record kind bytes carries => exact carries.2
    | _ => exact fun h => by cases h
  size_eq := rfl
  size_le := hsize
  placeholder_empty := by
    cases a with
    | record kind bytes carries => exact fun h => absurd h carries.1
    | placeholder => exact fun _ => rfl
    | _ => exact fun h => by cases h

end Addition

/-- The container with these records, in order. -/
def containerOf (as : List Addition) : Container := as.foldl Addition.addTo Container.empty

lemma foldl_addTo_records (as : List Addition) (c : Container) :
    (as.foldl Addition.addTo c).records =
      c.records ++ (as.map (·.streamRecord)).map (·.written) := by
  induction as generalizing c with
  | nil => exact (List.append_nil _).symm
  | cons a as ih => rw [List.foldl_cons, ih, Addition.addTo_records, List.append_assoc]; rfl

lemma containerOf_records (as : List Addition) :
    (containerOf as).records = (as.map (·.streamRecord)).map (·.written) :=
  foldl_addTo_records as Container.empty

lemma sizeSum_streamRecords (as : List Addition) :
    sizeSum (as.map (·.streamRecord)) = (containerOf as).payloadBytes := by
  unfold Container.payloadBytes
  rw [containerOf_records]
  unfold sizeSum
  induction as with
  | nil => rfl
  | cons a as ih =>
    rw [List.map_cons, List.map_cons, List.foldr_cons, List.foldr_cons, ih]
    rfl

lemma containerOf_faithful {as : List Addition} (hsize : (containerOf as).payloadBytes ≤ Varint.maxValue) :
    ∀ r ∈ as.map (·.streamRecord), r.Faithful := by
  intro r hr
  obtain ⟨a, ha, rfl⟩ := List.mem_map.mp hr
  have hmem : a.streamRecord.written ∈ (containerOf as).records := by
    rw [containerOf_records]
    exact List.mem_map_of_mem hr
  exact Addition.faithful (Nat.le_trans (payload_length_le hmem) hsize)

/-- The text in front of the first NUL. -/
def textBeforeNul (s : String) : String := String.ofList (s.toList.takeWhile (· != '\x00'))

lemma textBeforeNul_eq_self {s : String} (h : '\x00' ∉ s.toList) : textBeforeNul s = s := by
  have hall : s.toList.takeWhile (· != '\x00') = s.toList := by
    apply List.takeWhile_eq_self_iff.mpr
    intro c hc
    have hne : c ≠ '\x00' := by
      rintro rfl
      exact h hc
    simpa using hne
  unfold textBeforeNul
  rw [hall, String.ofList_toList]

lemma label_resource (name : String) :
    (Addition.label name).resource = ⟨.label, .label (textBeforeNul name)⟩ := by
  have hname : Utf8.lenient ((Utf8.encode name ++ [0]).takeWhile (· != 0)) = textBeforeNul name := by
    unfold Utf8.encode textBeforeNul
    rw [utf8_takeWhile_flatMap, utf8_lenient_flatMap]
  unfold Addition.resource
  simp only [Addition.kind, Addition.payload, hname]

lemma matchesHeader_ofNat (n : Nat) {total : Nat} (htotal : total < UInt32.size) :
    LoadSummary.matchesHeader ⟨UInt32.ofNat n, UInt32.ofNat n, UInt32.ofNat total, UInt64.ofNat total⟩ = true := by
  have hsize : (UInt32.ofNat total).toUInt64 = UInt64.ofNat total := by
    rw [← UInt64.ofNat_uInt32ToNat, UInt32.toNat_ofNat_of_lt' htotal]
  unfold LoadSummary.matchesHeader
  simp only [hsize, beq_self_eq_true, Bool.and_self]

lemma containerOf_writable {as : List Addition} (hcount : as.length ≤ Varint.maxValue)
    (hsize : (containerOf as).payloadBytes ≤ Varint.maxValue) : Writable (containerOf as) := by
  refine ⟨?_, hsize⟩
  rw [containerOf_records, List.length_map, List.length_map]
  exact hcount

/-- What loading the bytes of a container comes to, in terms of adding the resources of its records to
the table. -/
lemma load_containerBytes {as : List Addition} (hcount : as.length ≤ Varint.maxValue)
    (hsize : (containerOf as).payloadBytes ≤ Varint.maxValue) (trailing : List UInt8) :
    let out := ResourceTable.empty.load none (containerBytes (containerOf as) ++ trailing)
    addAll? ResourceTable.empty.restart (as.map (·.resource)) = some out.table ∧
    out.result = .ok ⟨UInt32.ofNat as.length, UInt32.ofNat as.length,
      UInt32.ofNat (containerOf as).payloadBytes, UInt64.ofNat (containerOf as).payloadBytes⟩ ∧
    out.rest = trailing := by
  have hheader := headerOf?_containerBytes (containerOf_writable hcount hsize) trailing
  have hframe := frame_bodyBytes _ (containerOf_faithful hsize) trailing
  rw [← containerOf_records] at hframe
  have hlength : (containerOf as).records.length = as.length := by
    rw [containerOf_records, List.length_map, List.length_map]
  have hresources : (as.map (·.streamRecord)).map (·.resource none) = as.map (·.resource) := by
    rw [List.map_map]
    exact List.map_congr_left fun a _ => a.resource_eq
  have hroom : as.length < handleCount := by
    rw [varint_maxValue_eq] at hcount
    rw [handleCount_eq]
    omega
  obtain ⟨u, h, hadd, -, hresult, htable, hrest⟩ := load_frame hheader ResourceTable.empty none
    (by rw [hframe, List.length_map]; exact hroom)
  rw [hframe] at hadd hresult htable hrest
  dsimp only at hadd hresult htable hrest
  rw [hresources] at hadd
  rw [List.length_map, hlength, sizeSum_streamRecords] at hresult
  have hu : (ResourceTable.empty.load none (containerBytes (containerOf as) ++ trailing)).table = u := htable
  dsimp only
  rw [hu]
  exact ⟨hadd, hresult, hrest⟩

/-- Loading a written container back. The records stand at the handles from 1 on, the header agrees
with them, and the bytes behind the container are left unread. -/
theorem load_toBytes (as : List Addition) (hcount : as.length ≤ Varint.maxValue)
    (hsize : (containerOf as).payloadBytes ≤ Varint.maxValue) :
    (∃ bytes, (containerOf as).toBytes = .ok bytes ∧ ∀ trailing : List UInt8,
      let out := ResourceTable.empty.load none (bytes ++ trailing)
      out.rest = trailing ∧
      (∃ s, out.result = .ok s ∧ s.matchesHeader = true ∧
        s.records.toNat = as.length ∧ s.declaredCount.toNat = as.length ∧
        s.payloadBytes.toNat = (containerOf as).payloadBytes ∧
        s.declaredSize.toNat = (containerOf as).payloadBytes) ∧
      numberedEntries out.table = (List.range' 1 as.length).zip (as.map (·.resource)) ∧
      out.table.counter.map (·.raw.toNat) = some (as.length + 1)) ∧
    ∀ name : String, (Addition.label name).resource = ⟨.label, .label (textBeforeNul name)⟩ ∧
      ('\x00' ∉ name.toList → (Addition.label name).resource = ⟨.label, .label name⟩) := by
  refine ⟨?_, fun name => ⟨label_resource name, fun hnul => ?_⟩⟩
  · refine ⟨containerBytes (containerOf as), toBytes_eq (containerOf_writable hcount hsize), fun trailing => ?_⟩
    obtain ⟨hadd, hresult, hrest⟩ := load_containerBytes hcount hsize trailing
    rw [varint_maxValue_eq] at hcount hsize
    have hroom : as.length < handleCount := by
      rw [handleCount_eq]
      omega
    obtain ⟨h, hh, hraw⟩ := exists_handleAfter? hroom
    have hentries := numberedEntries_addAll? (as.map (·.resource)) ResourceTable.empty.restart _ 0
      handleAfter?_zero.symm (by rw [List.length_map]; omega) (fun e he => by cases he) hadd
    have hcounter := addAll?_counter handleAfter?_zero.symm (by rw [List.length_map]; omega) hadd
    rw [List.length_map, Nat.zero_add] at hentries hcounter
    have hn : as.length < UInt32.size := Nat.lt_of_le_of_lt hcount (by decide)
    have htotal : (containerOf as).payloadBytes < UInt32.size := Nat.lt_of_le_of_lt hsize (by decide)
    have htotal' : (containerOf as).payloadBytes < UInt64.size := Nat.lt_of_le_of_lt hsize (by decide)
    dsimp only
    refine ⟨hrest, ⟨_, hresult, ?_, ?_, ?_, ?_, ?_⟩, hentries, ?_⟩
    · exact matchesHeader_ofNat as.length htotal
    · exact UInt32.toNat_ofNat_of_lt' hn
    · exact UInt32.toNat_ofNat_of_lt' hn
    · exact UInt64.toNat_ofNat_of_lt' htotal'
    · exact UInt32.toNat_ofNat_of_lt' htotal
    · rw [hcounter, hh, Option.map_some, hraw]
  · rw [label_resource, textBeforeNul_eq_self hnul]

/-- A container with a record of most kinds. -/
def sampleAdditions : List Addition :=
  [.placeholder, .binary [1, 0, 255], .label "intro", .image [137, 80], .record .skip [7, 7],
    .record .label [104, 0, 105], .ubin []]

theorem load_toBytes_sample :
    sampleAdditions.length ≤ Varint.maxValue ∧
    (containerOf sampleAdditions).payloadBytes ≤ Varint.maxValue ∧
    ∃ bytes, (containerOf sampleAdditions).toBytes = .ok bytes ∧ ∀ trailing : List UInt8,
      numberedEntries (ResourceTable.empty.load none (bytes ++ trailing)).table =
        [(1, .placeholder), (2, ⟨.binary, .binary ⟨[1, 0, 255]⟩⟩), (3, ⟨.label, .label "intro"⟩),
          (4, ⟨.image, .binary ⟨[137, 80]⟩⟩), (5, ⟨.skip, .empty⟩), (6, ⟨.label, .label "h"⟩),
          (7, ⟨.ubin, .binary ⟨[]⟩⟩)] := by
  have hcount : sampleAdditions.length ≤ Varint.maxValue := by decide
  have hsize : (containerOf sampleAdditions).payloadBytes ≤ Varint.maxValue := by decide
  obtain ⟨⟨bytes, hbytes, hload⟩, hlabel⟩ := load_toBytes sampleAdditions hcount hsize
  refine ⟨hcount, hsize, bytes, hbytes, fun trailing => ?_⟩
  obtain ⟨-, -, hentries, -⟩ := hload trailing
  have hintro := (hlabel "intro").2 (by decide)
  have hcut : Utf8.lenient [104] = "h" := utf8_lenient_flatMap ['h']
  rw [hentries]
  simp only [sampleAdditions, List.map_cons, List.map_nil, hintro]
  simp [Addition.resource, Addition.kind, Addition.payload, hcut, List.range', Resource.placeholder]

end GuestBridge.Proofs
