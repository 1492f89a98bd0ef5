import GuestBridge.Container.Loader
import GuestBridge.Proofs.Varint
import Mathlib.Tactic.Common

/-!
# How a stream falls into records

`frame` cuts the bytes behind a header into records and says why they stop, without any table. A
record is a tag byte, a size and as many payload bytes as the size says; a placeholder has none.
-/

namespace GuestBridge.Proofs
open Text

/-- A record as it stands in a stream, with what its size field says. -/
structure StreamRecord where
  kind : ResourceKind
  size : Nat
  payload : List UInt8
deriving DecidableEq, Repr

/-- Why the records of a stream stop: the end mark, a stream that ends at a tag or inside a size, a tag
that cannot be loaded, or a stream that ends inside a payload. -/
inductive Stop where
  | endMark
  | noTag
  | cutSize
  | unknownTag (tag : UInt8)
  | sprite
  | cutPayload (kind : ResourceKind)
deriving DecidableEq, Repr

inductive Item where
  | stop (why : Stop) (rest : List UInt8)
  | record (r : StreamRecord) (rest : List UInt8)
deriving DecidableEq, Repr

def payloadLength (kind : ResourceKind) (size : Nat) : Nat :=
  if kind = .placeholder then 0 else size

def firstItem : List UInt8 → Item
  | [] => .stop .noTag []
  | tag :: bytes =>
    if tag = 0 then .stop .endMark bytes
    else
      match (Varint.read bytes).result? with
      | none => .stop .cutSize []
      | some (size, bytes) =>
        match ResourceKind.ofTag? tag with
        | none => .stop (.unknownTag tag) bytes
        | some kind =>
          if kind = .sprite then .stop .sprite bytes
          else if bytes.length < payloadLength kind size then .stop (.cutPayload kind) []
          else
            .record ⟨kind, size, bytes.take (payloadLength kind size)⟩
              (bytes.drop (payloadLength kind size))

lemma firstItem_eq_record_iff {bytes rest : List UInt8} {r : StreamRecord} :
    firstItem bytes = .record r rest ↔
      ∃ number, bytes = r.kind.tag :: number ∧ r.kind ≠ .sprite ∧
        (Varint.read number).result? = some (r.size, r.payload ++ rest) ∧
        r.payload.length = payloadLength r.kind r.size := by
  constructor
  · intro h
    cases bytes with
    | nil => cases h
    | cons tag number =>
      rw [firstItem] at h
      split at h
      · cases h
      split at h
      · cases h
      next size after hread =>
        split at h
        · cases h
        next kind hkind =>
          split at h
          · cases h
          next hsprite =>
            split at h
            · cases h
            next hlen =>
              cases h
              obtain rfl := ResourceKind.ofTag?_eq_some_iff.mp hkind
              refine ⟨number, rfl, hsprite, ?_, ?_⟩
              · dsimp only
                rw [List.take_append_drop, hread]
              · dsimp only
                rw [List.length_take]
                omega
  · rintro ⟨number, rfl, hsprite, hread, hlength⟩
    rw [firstItem, if_neg r.kind.tag_ne_zero, hread]
    dsimp only
    rw [ResourceKind.ofTag?_tag]
    dsimp only
    rw [if_neg hsprite, ← hlength, List.length_append, if_neg (by omega), List.take_left, List.drop_left]

lemma firstItem_length_le {bytes rest : List UInt8} {r : StreamRecord}
    (h : firstItem bytes = .record r rest) : rest.length + 2 ≤ bytes.length := by
  obtain ⟨number, rfl, -, hread, -⟩ := firstItem_eq_record_iff.mp h
  have hlt := Varint.length_read_lt hread
  rw [List.length_append] at hlt
  rw [List.length_cons]
  omega

lemma firstItem_suffix {bytes rest : List UInt8} {r : StreamRecord}
    (h : firstItem bytes = .record r rest) : rest <:+ bytes := by
  obtain ⟨number, rfl, -, hread, -⟩ := firstItem_eq_record_iff.mp h
  have hpayload : rest <:+ r.payload ++ rest := List.suffix_append _ _
  exact (hpayload.trans (varint_scan_suffix hread)).trans (List.suffix_cons _ _)

structure Framing where
  records : List StreamRecord
  stop : Stop
  rest : List UInt8
deriving DecidableEq, Repr

def frame (bytes : List UInt8) : Framing :=
  match h : firstItem bytes with
  | .stop why rest => ⟨[], why, rest⟩
  | .record r rest =>
    have : rest.length + 2 ≤ bytes.length := firstItem_length_le h
    let later := frame rest
    { later with records := r :: later.records }
termination_by bytes.length

lemma frame_of_stop {bytes rest : List UInt8} {why : Stop} (h : firstItem bytes = .stop why rest) :
    frame bytes = ⟨[], why, rest⟩ := by
  rw [frame]
  split
  next why' rest' h' =>
    rw [h] at h'
    cases h'
    rfl
  next r rest' h' =>
    rw [h] at h'
    cases h'

lemma frame_of_record {bytes rest : List UInt8} {r : StreamRecord}
    (h : firstItem bytes = .record r rest) :
    frame bytes = { frame rest with records := r :: (frame rest).records } := by
  rw [frame]
  split
  next why rest' h' =>
    rw [h] at h'
    cases h'
  next r' rest' h' =>
    rw [h] at h'
    cases h'
    rfl

/-- Follows the records of a stream up to the item that stops them. -/
theorem frame_induction {motive : List UInt8 → Prop}
    (stop : ∀ bytes why rest, firstItem bytes = .stop why rest → motive bytes)
    (record : ∀ bytes r rest, firstItem bytes = .record r rest → motive rest → motive bytes)
    (bytes : List UInt8) : motive bytes := by
  induction hn : bytes.length using Nat.strongRecOn generalizing bytes with
  | ind n ih =>
    cases hitem : firstItem bytes with
    | stop why rest => exact stop bytes why rest hitem
    | record r rest =>
      have hle := firstItem_length_le hitem
      exact record bytes r rest hitem (ih rest.length (by omega) rest rfl)

theorem frame_length_le (bytes : List UInt8) : 2 * (frame bytes).records.length ≤ bytes.length := by
  induction bytes using frame_induction with
  | stop bytes why rest h =>
    rw [frame_of_stop h, List.length_nil]
    omega
  | record bytes r rest h ih =>
    have hle := firstItem_length_le h
    rw [frame_of_record h, List.length_cons]
    omega

/-! ### What the parts of a stream become -/

/-- What a record is loaded as. Without a decoder the bytes of an image are kept; an image that
cannot be decoded is empty. A label ends at its first NUL. -/
def StreamRecord.resource (decoder : Option ImageDecoder) (r : StreamRecord) : Resource :=
  ⟨r.kind,
    match r.kind with
    | .binary | .ubin => .binary ⟨r.payload⟩
    | .image =>
      match decoder with
      | none => .binary ⟨r.payload⟩
      | some decode =>
        match decode r.payload with
        | .ok bitmap => .image bitmap
        | .error _ => .empty
    | .label => .label (Utf8.lenient (r.payload.takeWhile (· != 0)))
    | .placeholder | .skip | .sprite => .empty⟩

/-- The error of a load that stops so at the handle of number `raw`; none at the end mark. -/
def Stop.error? (raw : UInt32) : Stop → Option ContainerError
  | .endMark => none
  | .noTag | .cutSize => some (.stream .endOfStream)
  | .unknownTag tag => some (.unknownRecordType tag raw)
  | .sprite => some (.unknownRecordType ResourceKind.sprite.tag raw)
  | .cutPayload _ => some (.stream .shortPayload)

/-- What a load that stops so leaves at the handle where it stops. -/
def Stop.entry? : Stop → Option Resource
  | .endMark | .noTag | .cutSize => none
  | .unknownTag _ => some .placeholder
  | .sprite => some ⟨.sprite, .empty⟩
  | .cutPayload kind => some ⟨kind, .empty⟩

/-! ### The header -/

/-- The counts of the header and the bytes behind it; none when the mark or a count is missing. -/
def headerOf? (bytes : List UInt8) : Option (Nat × Nat × List UInt8) :=
  if bytes.take 4 = Container.magic then
    match (Varint.read (bytes.drop 4)).result? with
    | none => none
    | some (count, bytes) =>
      match (Varint.read bytes).result? with
      | none => none
      | some (size, body) => some (count, size, body)
  else none

lemma headerOf?_eq_some {bytes body : List UInt8} {count size : Nat}
    (h : headerOf? bytes = some (count, size, body)) :
    bytes.take 4 = Container.magic ∧ ∃ after, (Varint.read (bytes.drop 4)).result? = some (count, after) ∧
      (Varint.read after).result? = some (size, body) := by
  unfold headerOf? at h
  by_cases hb : bytes.take 4 = Container.magic
  · rw [if_pos hb] at h
    split at h
    · cases h
    next c after hcount =>
      split at h
      · cases h
      next s body' hsize =>
        cases h
        exact ⟨hb, after, hcount, hsize⟩
  · rw [if_neg hb] at h
    cases h

lemma headerOf?_length_le {bytes body : List UInt8} {count size : Nat}
    (h : headerOf? bytes = some (count, size, body)) : body.length + 6 ≤ bytes.length := by
  obtain ⟨hb, after, hcount, hsize⟩ := headerOf?_eq_some h
  have hmagic : (bytes.take 4).length = 4 := congrArg List.length hb
  have hlt := Varint.length_read_lt hcount
  have hlt' := Varint.length_read_lt hsize
  rw [List.length_take] at hmagic
  rw [List.length_drop] at hlt
  omega

lemma headerOf?_suffix {bytes body : List UInt8} {count size : Nat}
    (h : headerOf? bytes = some (count, size, body)) : body <:+ bytes := by
  obtain ⟨-, after, hcount, hsize⟩ := headerOf?_eq_some h
  have hafter : after <:+ bytes := (varint_scan_suffix hcount).trans (List.drop_suffix 4 bytes)
  exact (varint_scan_suffix hsize).trans hafter

lemma readMagic_append (index : Nat) (expected rest : List UInt8) :
    Loader.readMagic index expected (expected ++ rest) = (.ok (), rest) := by
  induction expected generalizing index with
  | nil => rw [Loader.readMagic, List.nil_append]
  | cons e expected ih => rw [List.cons_append, Loader.readMagic, if_pos rfl, ih]

lemma readMagic_eq_ok {index : Nat} {expected bytes rest : List UInt8}
    (h : Loader.readMagic index expected bytes = (.ok (), rest)) : bytes = expected ++ rest := by
  induction expected generalizing index bytes with
  | nil =>
    rw [Loader.readMagic] at h
    cases h
    rfl
  | cons e expected ih =>
    cases bytes with
    | nil => cases h
    | cons b bytes =>
      rw [Loader.readMagic] at h
      by_cases hb : b = e
      · rw [if_pos hb] at h
        rw [hb, ih h, List.cons_append]
      · rw [if_neg hb] at h
        cases h

lemma readMagic_of_take {bytes : List UInt8} (hb : bytes.take 4 = Container.magic) :
    Loader.readMagic 0 Container.magic bytes = (.ok (), bytes.drop 4) := by
  have hsplit : bytes = Container.magic ++ bytes.drop 4 := by rw [← hb, List.take_append_drop]
  rw [hsplit, readMagic_append]
  rfl

lemma readMagic_of_take_ne {bytes : List UInt8} (hb : bytes.take 4 ≠ Container.magic) :
    ∃ e rest, Loader.readMagic 0 Container.magic bytes = (.error e, rest) := by
  cases h : Loader.readMagic 0 Container.magic bytes with
  | mk result rest =>
    cases result with
    | error e => exact ⟨e, rest, rfl⟩
    | ok u =>
      rw [readMagic_eq_ok h] at hb
      exact absurd rfl hb

lemma readHeader_of_none {bytes : List UInt8} (h : headerOf? bytes = none) :
    ∃ e, (Loader.readHeader bytes).1 = .error e := by
  unfold headerOf? at h
  unfold Loader.readHeader
  by_cases hb : bytes.take 4 = Container.magic
  · rw [if_pos hb] at h
    rw [readMagic_of_take hb]
    dsimp only
    cases hcount : (Varint.read (bytes.drop 4)).result? with
    | none => exact ⟨_, rfl⟩
    | some counted =>
      obtain ⟨count, after⟩ := counted
      rw [hcount] at h
      dsimp only at h ⊢
      cases hsize : (Varint.read after).result? with
      | none => exact ⟨_, rfl⟩
      | some sized =>
        rw [hsize] at h
        cases h
  · obtain ⟨e, rest, he⟩ := readMagic_of_take_ne hb
    rw [he]
    exact ⟨e, rfl⟩

lemma readHeader_of_some {bytes body : List UInt8} {count size : Nat}
    (h : headerOf? bytes = some (count, size, body)) :
    (Loader.readHeader bytes).1 = .ok ⟨UInt32.ofNat count, UInt32.ofNat size⟩ ∧
      (Loader.readHeader bytes).2.1 = body := by
  obtain ⟨hb, after, hcount, hsize⟩ := headerOf?_eq_some h
  unfold Loader.readHeader
  rw [readMagic_of_take hb]
  dsimp only
  rw [hcount]
  dsimp only
  rw [hsize]
  exact ⟨rfl, rfl⟩

end GuestBridge.Proofs
