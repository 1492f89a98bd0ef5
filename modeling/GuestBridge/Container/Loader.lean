import GuestBridge.Container.Writer
import GuestBridge.Log
import GuestBridge.Resource.Table

/-!
# Loading containers

The records of a byte stream go into a resource table at the handles 1, 2, 3 and so on. A record is
stored with an empty payload before its payload is read, and the counter moves on only after that,
so a load that fails leaves every record read so far, and an empty one at the handle where it
stopped. The counts in the header are only compared at the end.
-/

namespace GuestBridge

/-- Turns the payload of an image record into a bitmap, or says why it cannot. -/
abbrev ImageDecoder := List UInt8 → Except String Bitmap

/-- What a load saw: the counts of the header and those of the records themselves. -/
structure LoadSummary where
  records : UInt32
  declaredCount : UInt32
  declaredSize : UInt32
  payloadBytes : UInt64
deriving DecidableEq, Repr

/-- Whether the header told the truth. -/
def LoadSummary.matchesHeader (s : LoadSummary) : Bool :=
  s.declaredCount == s.records && s.declaredSize.toUInt64 == s.payloadBytes

/-- The outcome of a load: its result, the table and the unread bytes it leaves, and its log. -/
structure Loaded (α : Type) where
  result : Except ContainerError α
  table : ResourceTable
  rest : List UInt8
  log : Log

namespace Loader

/-- Checks the mark of a container byte by byte, and stops behind the first wrong one. -/
def readMagic : (index : Nat) → (expected bytes : List UInt8) →
    Except ContainerError Unit × List UInt8
  | _, [], bytes => (.ok (), bytes)
  | _, _ :: _, [] => (.error (.stream .endOfStream), [])
  | index, e :: expected, b :: bytes =>
    if b = e then readMagic (index + 1) expected bytes
    else (.error (.badMagic index b e), bytes)

/-- The line that reading a number leaves in the log. -/
def varintLog : Varint.Outcome → Log
  | .overflow _ => [Log.debug "varint overflow after 4 groups, yielding 0"]
  | _ => []

/-- The first `size` bytes and those after them; none when there are fewer. -/
def takePayload (size : Nat) (bytes : List UInt8) : Option (List UInt8 × List UInt8) :=
  let payload := bytes.take size
  if payload.length = size then some (payload, bytes.drop size) else none

/-- The bytes before the first NUL as text. -/
def labelText (bytes : List UInt8) : String := Text.Utf8.lenient (bytes.takeWhile (· != 0))

/-- The payload of an image record. Without a decoder the bytes are kept as they are; an image
that cannot be decoded leaves an empty payload. -/
def imagePayload (decoder : Option ImageDecoder) (handle : Handle) (bytes : List UInt8) :
    Payload × Log :=
  match decoder with
  | none => (.binary ⟨bytes⟩, [])
  | some decode =>
    match decode bytes with
    | .ok bitmap => (.image bitmap, [])
    | .error reason =>
      (.empty, [Log.warn s!"resource {handle.raw}: image decode failed: {reason}"])

/-- What becomes of the payload bytes of a record, once they are all there. -/
def payloadOf (decoder : Option ImageDecoder) (handle : Handle) (kind : ResourceKind)
    (bytes : List UInt8) : Payload × Log :=
  match kind with
  | .binary | .ubin => (.binary ⟨bytes⟩, [])
  | .image => imagePayload decoder handle bytes
  | .label => (.label (labelText bytes), [])
  | .placeholder | .skip | .sprite => (.empty, [])

/-- How many of the `size` bytes announced for a record are taken from the stream. A placeholder
has no payload whatever its size field says. -/
def takenSize (kind : ResourceKind) (size : Nat) : Nat :=
  match kind with
  | .placeholder => 0
  | _ => size

/-- Between two records: the table so far, the unread bytes and the running sums. -/
structure Progress where
  table : ResourceTable
  rest : List UInt8
  records : UInt32
  payloadBytes : UInt64

/-- What one round of the record loop comes to. -/
inductive Round where
  /-- The end mark was read. -/
  | finished (rest : List UInt8)
  | failed (error : ContainerError) (table : ResourceTable) (rest : List UInt8)
  | loaded (next : Progress)

/-- Stores the record with a known kind and size whose payload is next in the stream. -/
def storeRecord (decoder : Option ImageDecoder) (p : Progress) (handle : Handle)
    (kind : ResourceKind) (size : Nat) (bytes : List UInt8) : Round × Log :=
  let entered := p.table.set handle ⟨kind, .empty⟩
  if kind = .sprite then (.failed (.unknownRecordType kind.tag handle.raw) entered bytes, [])
  else
    match takePayload (takenSize kind size) bytes with
    | none => (.failed (.stream .shortPayload) entered [], [])
    | some (data, rest) =>
      let (payload, log) := payloadOf decoder handle kind data
      let filled := entered.set handle ⟨kind, payload⟩
      let log := log ++ [Log.debug s!"resource {handle.raw}: {kind.name} ({size} bytes)"]
      match filled.advance with
      | (none, table) => (.failed .handlesExhausted table rest, log)
      | (some _, table) =>
        (.loaded ⟨table, rest, p.records + 1, p.payloadBytes + UInt64.ofNat size⟩, log)

/-- Reads one record, or the end mark. -/
def round (decoder : Option ImageDecoder) (p : Progress) : Round × Log :=
  match p.rest with
  | [] => (.failed (.stream .endOfStream) p.table [], [])
  | tag :: bytes =>
    if tag = 0 then (.finished bytes, [])
    else
      let number := Varint.read bytes
      let log := varintLog number
      match number.result? with
      | none => (.failed (.stream .endOfStream) p.table [], log)
      | some (size, bytes) =>
        match p.table.counter with
        | none => (.failed .handlesExhausted p.table bytes, log)
        | some handle =>
          match ResourceKind.ofTag? tag with
          | none =>
            (.failed (.unknownRecordType tag handle.raw) (p.table.set handle .placeholder) bytes, log)
          | some kind =>
            let (round, more) := storeRecord decoder p handle kind size bytes
            (round, log ++ more)

theorem length_takePayload_le {size : Nat} {bytes data rest : List UInt8}
    (h : takePayload size bytes = some (data, rest)) : rest.length ≤ bytes.length := by
  simp only [takePayload] at h
  split at h
  · simp only [Option.some.injEq, Prod.mk.injEq] at h
    simp [← h.2]
  · cases h

theorem length_storeRecord_le {decoder : Option ImageDecoder} {p q : Progress} {handle : Handle}
    {kind : ResourceKind} {size : Nat} {bytes : List UInt8}
    (h : (storeRecord decoder p handle kind size bytes).1 = .loaded q) :
    q.rest.length ≤ bytes.length := by
  simp only [storeRecord] at h
  split at h
  · cases h
  · split at h
    · cases h
    next hp =>
      split at h
      · cases h
      · cases h
        exact length_takePayload_le hp

/-- Every record takes bytes from the stream. -/
theorem length_round_lt {decoder : Option ImageDecoder} {p q : Progress}
    (h : (round decoder p).1 = .loaded q) : q.rest.length < p.rest.length := by
  unfold round at h
  split at h
  · cases h
  next tag bytes hrest =>
    rw [hrest, List.length_cons]
    split at h
    · cases h
    · simp only at h
      split at h
      · cases h
      next size bytes' hread =>
        have hlt := Varint.length_read_lt hread
        split at h
        · cases h
        · split at h
          · cases h
          · have := length_storeRecord_le h
            omega

/-- Reads records up to the end mark or the first failure. -/
def readRecords (decoder : Option ImageDecoder) (p : Progress) : Loaded Progress :=
  match h : round decoder p with
  | (.finished rest, log) => ⟨.ok { p with rest := rest }, p.table, rest, log⟩
  | (.failed error table rest, log) => ⟨.error error, table, rest, log⟩
  | (.loaded next, log) =>
    have : next.rest.length < p.rest.length := length_round_lt (by rw [h])
    let later := readRecords decoder next
    { later with log := log ++ later.log }
termination_by p.rest.length

/-- The two counts of the header. -/
structure Header where
  count : UInt32
  size : UInt32

/-- Reads the mark and the counts. -/
def readHeader (bytes : List UInt8) : Except ContainerError Header × List UInt8 × Log :=
  match readMagic 0 Container.magic bytes with
  | (.error e, rest) => (.error e, rest, [])
  | (.ok _, bytes) =>
    let count := Varint.read bytes
    match count.result? with
    | none => (.error (.stream .endOfStream), [], [])
    | some (countValue, bytes) =>
      let size := Varint.read bytes
      match size.result? with
      | none => (.error (.stream .endOfStream), [], varintLog count)
      | some (sizeValue, bytes) =>
        (.ok ⟨UInt32.ofNat countValue, UInt32.ofNat sizeValue⟩, bytes,
          varintLog count ++ varintLog size)

/-- What is reported of a load that reached the end mark. -/
def summaryLog (s : LoadSummary) : Log :=
  if s.matchesHeader then []
  else
    [Log.warn (s!"container header declares {s.declaredCount} resources / {s.declaredSize} bytes, "
      ++ s!"stream held {s.records} / {s.payloadBytes}")]

end Loader

open Loader in
/-- Loads a container into a table, numbering from the first handle. -/
def ResourceTable.load (table : ResourceTable) (decoder : Option ImageDecoder)
    (bytes : List UInt8) : Loaded LoadSummary :=
  match readHeader bytes with
  | (.error e, rest, log) => ⟨.error e, table, rest, log⟩
  | (.ok header, bytes, headerLog) =>
    let headerLog := headerLog ++ [Log.debug
      s!"container header: {header.count} resources, {header.size} payload bytes"]
    let loaded := readRecords decoder ⟨table.restart, bytes, 0, 0⟩
    match loaded.result with
    | .error e => ⟨.error e, loaded.table, loaded.rest, headerLog ++ loaded.log⟩
    | .ok p =>
      let summary : LoadSummary := ⟨p.records, header.count, header.size, p.payloadBytes⟩
      ⟨.ok summary, loaded.table, loaded.rest, headerLog ++ loaded.log ++ summaryLog summary⟩

end GuestBridge
