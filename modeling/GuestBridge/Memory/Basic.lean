import GuestBridge.Memory.Cursor
import GuestBridge.Memory.Error
import GuestBridge.Memory.Scalar

/-!
# Guest memory

A region of bytes of fixed size. It serves as the data memory of the guest and as the payload of
binary resources. Every access checks its whole range first, with 64-bit offsets and lengths whose
sum may not wrap. An access that may write comes with the memory as it is after it, whether it succeeded
or not.
-/

namespace GuestBridge

/-- A sum of two 64-bit numbers; none when it does not fit. -/
def checkedAdd (a b : UInt64) : Option UInt64 := if a + b < a then none else some (a + b)

theorem checkedAdd_eq_some_iff {a b c : UInt64} :
    checkedAdd a b = some c ↔ a.toNat + b.toNat = c.toNat := by
  have ha := a.toNat_lt
  have hb := b.toNat_lt
  have hc := c.toNat_lt
  simp only [checkedAdd, UInt64.lt_iff_toNat_lt, UInt64.toNat_add]
  split
  · simp only [reduceCtorEq, false_iff]
    omega
  · rw [Option.some.injEq, ← UInt64.toNat_inj, UInt64.toNat_add]
    omega

/-- A region of bytes. -/
structure Memory where
  bytes : List UInt8
deriving DecidableEq, Repr

/-- A value and the offset that it goes to. -/
structure Store where
  type : Scalar
  offset : UInt64
  value : type.Value

/-- Positions from `start` up to, but not including, `stop`. -/
structure Span where
  start : Nat
  stop : Nat
deriving DecidableEq, Repr

namespace Memory

def zeroed (size : Nat) : Memory := ⟨List.replicate size 0⟩

def size (m : Memory) : Nat := m.bytes.length

/-- How a memory is named in listings. -/
def text (m : Memory) : String := "MemoryBuffer \x7b size: " ++ toString m.size ++ " \x7d"

/-- The positions of a range that lies inside the memory. -/
def checkRange (m : Memory) (offset len : UInt64) : Except MemoryError Span :=
  match checkedAdd offset len with
  | some stop =>
    if stop.toNat ≤ m.size then .ok ⟨offset.toNat, stop.toNat⟩
    else .error (.outOfBounds offset len m.size)
  | none => .error (.outOfBounds offset len m.size)

/-- A range lies inside the memory if its unbounded end fits 64 bits and is not behind it. -/
theorem checkRange_eq_ok_iff {m : Memory} {offset len : UInt64} {s : Span} :
    m.checkRange offset len = .ok s ↔
      offset.toNat + len.toNat < UInt64.size ∧ offset.toNat + len.toNat ≤ m.size ∧
        s = ⟨offset.toNat, offset.toNat + len.toNat⟩ := by
  unfold checkRange
  split
  next stop h =>
    have hstop := checkedAdd_eq_some_iff.mp h
    have := stop.toNat_lt
    split
    next hle => simp [hstop, hle, this, eq_comm]
    next hgt => simp [hstop, hgt]
  next h =>
    simp only [reduceCtorEq, false_iff, not_and]
    intro hlt
    have : checkedAdd offset len = some (UInt64.ofNat (offset.toNat + len.toNat)) :=
      checkedAdd_eq_some_iff.mpr (by rw [UInt64.toNat_ofNat', Nat.mod_eq_of_lt hlt])
    simp [h] at this

/-- A range that is refused is named with the size of the memory. -/
theorem checkRange_eq_error {m : Memory} {offset len : UInt64} {e : MemoryError}
    (h : m.checkRange offset len = .error e) : e = .outOfBounds offset len m.size := by
  unfold checkRange at h
  split at h
  · split at h
    · cases h
    · exact (Except.error.inj h).symm
  · exact (Except.error.inj h).symm

/-- The offset that a guest address names. -/
def guestOffset (addr : Int32) : Except MemoryError UInt64 :=
  if addr.toInt < 0 then .error (.negativeAddress addr) else .ok (UInt64.ofNat addr.toInt.toNat)

/-- The bytes of a span. -/
def slice (m : Memory) (s : Span) : List UInt8 := (m.bytes.drop s.start).take (s.stop - s.start)

/-- Puts bytes in the place of as many from `start` on. -/
def splice (m : Memory) (start : Nat) (data : List UInt8) : Memory :=
  ⟨m.bytes.take start ++ data ++ m.bytes.drop (start + data.length)⟩

theorem size_splice {m : Memory} {start : Nat} {data : List UInt8}
    (h : start + data.length ≤ m.size) : (m.splice start data).size = m.size := by
  simp only [size, splice, List.length_append, List.length_take, List.length_drop] at h ⊢
  omega

def readBytes (m : Memory) (offset len : UInt64) : Except MemoryError (List UInt8) :=
  (m.checkRange offset len).map m.slice

/-- Puts bytes into a range that was checked. For one that was refused nothing changes. -/
def putIn (m : Memory) (data : List UInt8) : Except MemoryError Span → Except MemoryError Unit × Memory
  | .ok s => (.ok (), m.splice s.start data)
  | .error e => (.error e, m)

def writeBytes (m : Memory) (offset : UInt64) (data : List UInt8) : Except MemoryError Unit × Memory :=
  m.putIn data (m.checkRange offset (UInt64.ofNat data.length))

def read (m : Memory) (t : Scalar) (offset : UInt64) : Except MemoryError t.Value :=
  (m.checkRange offset (UInt64.ofNat t.width)).map fun s => t.decode (m.slice s)

def write (m : Memory) (t : Scalar) (offset : UInt64) (v : t.Value) : Except MemoryError Unit × Memory :=
  m.putIn (t.encode v) (m.checkRange offset (UInt64.ofNat t.width))

/-- Writes values in order, up to the first that is refused. What was written before it stays. -/
def storeEach (m : Memory) : List Store → Except MemoryError Unit × Memory
  | [] => (.ok (), m)
  | s :: rest =>
    match m.write s.type s.offset s.value with
    | (.ok _, m) => m.storeEach rest
    | (.error e, m) => (.error e, m)

/-- The bytes from `offset` up to the first NUL. An offset at the end of the memory is inside it,
but no NUL follows. -/
def readCString (m : Memory) (offset : UInt64) : Except MemoryError (List UInt8) := do
  let rest ← m.readBytes offset (UInt64.ofNat (m.size - offset.toNat))
  if rest.contains 0 then .ok (rest.takeWhile (· != 0))
  else .error (.unterminated offset m.size)

/-- Fills a range from a source. The range is checked before anything is read. -/
def fill (m : Memory) (source : Cursor) (offset len : UInt64) :
    Except MemoryError Unit × Memory × Cursor :=
  match m.checkRange offset len with
  | .error e => (.error e, m, source)
  | .ok s =>
    match source.readExact len.toNat with
    | (some data, source) => (.ok (), m.splice s.start data, source)
    | (none, source) => (.error .shortSource, m, source)

/-- Copies a range of one memory into another, and returns the other. Both ranges are checked before
any byte moves, the source first. -/
def copyInto (source target : Memory) (fromOffset toOffset len : UInt64) :
    Except MemoryError Unit × Memory :=
  match source.checkRange fromOffset len with
  | .error e => (.error e, target)
  | .ok s => target.putIn (source.slice s) (target.checkRange toOffset len)

end Memory

end GuestBridge
