import GuestBridge.Input.Event
import GuestBridge.Proofs.Removal
import Mathlib.Tactic.Common

/-!
# Bytes put in the place of others

A successful access to a memory puts bytes in the place of as many others, inside the memory. All
other bytes and the size stay. The twelve bytes of an event go to their place in one piece, although
they are written word by word: once their whole range is checked, none of the three words is refused.
-/

namespace GuestBridge.Proofs

/-- Both memories have the same size, and the same bytes outside of `len` bytes from `start` on. -/
structure SameOutside (start len : Nat) (m m' : Memory) : Prop where
  size : m'.size = m.size
  bytes : ∀ i, i < start ∨ start + len ≤ i → m'.bytes[i]? = m.bytes[i]?

lemma splice_getElem? {m : Memory} {start : Nat} {data : List UInt8} (h : start + data.length ≤ m.size)
    (i : Nat) : (m.splice start data).bytes[i]? =
      if i < start then m.bytes[i]?
      else if i < start + data.length then data[i - start]? else m.bytes[i]? := by
  have htake : (m.bytes.take start).length = start := by
    unfold Memory.size at h
    rw [List.length_take]
    omega
  unfold Memory.splice
  dsimp only
  rw [List.append_assoc]
  by_cases hbefore : i < start
  · rw [if_pos hbefore, List.getElem?_append_left (by omega), List.getElem?_take_of_lt hbefore]
  rw [if_neg hbefore, List.getElem?_append_right (by omega), htake]
  by_cases hinside : i < start + data.length
  · rw [if_pos hinside, List.getElem?_append_left (by omega)]
  · rw [if_neg hinside, List.getElem?_append_right (by omega), List.getElem?_drop]
    congr 1
    omega

lemma sameOutside_splice {m : Memory} {start : Nat} {data : List UInt8}
    (h : start + data.length ≤ m.size) : SameOutside start data.length m (m.splice start data) := by
  refine ⟨Memory.size_splice h, fun i hi => ?_⟩
  rw [splice_getElem? h]
  rcases hi with hbefore | hbehind
  · rw [if_pos hbefore]
  · rw [if_neg (by omega), if_neg (by omega)]

lemma splice_splice {m : Memory} {start : Nat} {data : List UInt8} (h : start + data.length ≤ m.size)
    (more : List UInt8) :
    (m.splice start data).splice (start + data.length) more = m.splice start (data ++ more) := by
  have hfront : (m.bytes.take start ++ data).length = start + data.length := by
    unfold Memory.size at h
    rw [List.length_append, List.length_take]
    omega
  have hbehind : ((m.bytes.take start ++ data) ++ m.bytes.drop (start + data.length)).drop
      (start + data.length + more.length) = m.bytes.drop (start + (data ++ more).length) := by
    rw [List.drop_append, List.drop_of_length_le (by omega), hfront, List.nil_append, List.drop_drop,
      List.length_append]
    congr 1
    omega
  unfold Memory.splice
  dsimp only
  rw [hbehind, List.take_append_of_le_length (Nat.le_of_eq hfront.symm),
    List.take_of_length_le (Nat.le_of_eq hfront), List.append_assoc _ data more]

/-! ### Single accesses -/

lemma toNat_guestOffset (addr : Int32) : (UInt64.ofNat addr.toInt.toNat).toNat = addr.toInt.toNat := by
  have hlt := addr.toInt_lt
  rw [UInt64.toNat_ofNat', Nat.mod_eq_of_lt (by omega)]

lemma guestOffset_of_nonneg {addr : Int32} (hsign : 0 ≤ addr.toInt) :
    Memory.guestOffset addr = .ok (UInt64.ofNat addr.toInt.toNat) :=
  if_neg (Int.not_lt.mpr hsign)

lemma guestOffset_of_negative {addr : Int32} (hsign : addr.toInt < 0) :
    Memory.guestOffset addr = .error (.negativeAddress addr) :=
  if_pos hsign

lemma scalar_width_le (t : Scalar) : t.width ≤ 8 := by
  cases t <;> decide

lemma toNat_width (t : Scalar) : (UInt64.ofNat t.width).toNat = t.width := by
  have hle := scalar_width_le t
  rw [UInt64.toNat_ofNat', Nat.mod_eq_of_lt (by omega)]

lemma checkRange_width {m : Memory} {offset : UInt64} (t : Scalar)
    (hwrap : offset.toNat + t.width < UInt64.size) (hfits : offset.toNat + t.width ≤ m.size) :
    m.checkRange offset (UInt64.ofNat t.width) = .ok ⟨offset.toNat, offset.toNat + t.width⟩ := by
  rw [Memory.checkRange_eq_ok_iff, toNat_width]
  exact ⟨hwrap, hfits, rfl⟩

lemma write_eq_ok {m : Memory} {offset : UInt64} (t : Scalar) (v : t.Value)
    (hwrap : offset.toNat + t.width < UInt64.size) (hfits : offset.toNat + t.width ≤ m.size) :
    m.write t offset v = (.ok (), m.splice offset.toNat (t.encode v)) := by
  unfold Memory.write
  rw [checkRange_width t hwrap hfits]
  rfl

lemma write_behind {m : Memory} {start : Nat} {offset : UInt64} (data : List UInt8) (t : Scalar)
    (v : t.Value) (hoffset : offset.toNat = start + data.length)
    (hwrap : offset.toNat + t.width < UInt64.size) (hfits : offset.toNat + t.width ≤ m.size) :
    (m.splice start data).write t offset v = (.ok (), m.splice start (data ++ t.encode v)) := by
  have hinside : start + data.length ≤ m.size := by omega
  have hwrite := write_eq_ok (m := m.splice start data) t v hwrap (by rw [Memory.size_splice hinside]; exact hfits)
  rw [hwrite, hoffset, splice_splice hinside]

lemma splice_slice {m : Memory} {start : Nat} {data : List UInt8} (h : start + data.length ≤ m.size)
    {i len : Nat} (hi : i + len ≤ data.length) :
    (m.splice start data).slice ⟨start + i, start + i + len⟩ = (data.drop i).take len := by
  unfold Memory.slice
  dsimp only
  apply List.ext_getElem?
  intro j
  rw [Nat.add_sub_cancel_left, List.getElem?_take, List.getElem?_take]
  by_cases hj : j < len
  · have hindex : start + i + j - start = i + j := by omega
    rw [if_pos hj, if_pos hj, List.getElem?_drop, List.getElem?_drop, splice_getElem? h, if_neg (by omega),
      if_pos (by omega), hindex]
  · rw [if_neg hj, if_neg hj]

/-- A value is read back from the middle of the bytes that were put in place. -/
lemma read_splice {m : Memory} {start : Nat} {offset : UInt64} (before after : List UInt8) (t : Scalar)
    (v : t.Value) (hinside : start + (before ++ t.encode v ++ after).length ≤ m.size)
    (hoffset : offset.toNat = start + before.length) (hwrap : offset.toNat + t.width < UInt64.size) :
    (m.splice start (before ++ t.encode v ++ after)).read t offset = .ok v := by
  have hlength : (before ++ t.encode v ++ after).length = before.length + t.width + after.length := by
    rw [List.length_append, List.length_append, Scalar.length_encode]
  have hfits : offset.toNat + t.width ≤ (m.splice start (before ++ t.encode v ++ after)).size := by
    rw [Memory.size_splice hinside]
    omega
  have hdata : ((before ++ t.encode v ++ after).drop before.length).take t.width = t.encode v := by
    rw [List.append_assoc, List.drop_left, ← Scalar.length_encode t v, List.take_left]
  unfold Memory.read
  rw [checkRange_width t hwrap hfits, Except.map, hoffset, splice_slice hinside (by omega), hdata,
    Scalar.decode_encode]

lemma length_slice {m : Memory} {offset len : UInt64} {s : Span} (h : m.checkRange offset len = .ok s) :
    (m.slice s).length = len.toNat := by
  obtain ⟨-, hfits, rfl⟩ := Memory.checkRange_eq_ok_iff.mp h
  unfold Memory.size at hfits
  unfold Memory.slice
  rw [List.length_take, List.length_drop]
  dsimp only
  omega

/-! ### Events -/

/-- An event as it lies in guest memory. -/
def wireBytes (e : Event) : List UInt8 :=
  Scalar.encode .i32 e.type ++ Scalar.encode .i32 e.field1 ++ Scalar.encode .i32 e.field2

lemma length_wireBytes (e : Event) : (wireBytes e).length = 12 := by
  unfold wireBytes
  simp only [List.length_append, Scalar.length_encode]
  rfl

lemma event_word_offsets {offset : UInt64} (h : offset.toNat + 12 < UInt64.size) :
    (offset + 4).toNat = offset.toNat + 4 ∧ (offset + 8).toNat = offset.toNat + 8 := by
  have hsize : UInt64.size = 18446744073709551616 := rfl
  have hfour : (4 : UInt64).toNat = 4 := rfl
  have height : (8 : UInt64).toNat = 8 := rfl
  rw [UInt64.toNat_add, UInt64.toNat_add, hfour, height]
  exact ⟨Nat.mod_eq_of_lt (by omega), Nat.mod_eq_of_lt (by omega)⟩

/-- An event is written as a whole or not at all. -/
lemma event_writeTo_eq (e : Event) (m : Memory) (offset : UInt64) :
    e.writeTo m offset = m.putIn (wireBytes e) (m.checkRange offset Event.wireSize) := by
  unfold Event.writeTo
  cases hcheck : m.checkRange offset Event.wireSize with
  | error err => rfl
  | ok s =>
    obtain ⟨hwrap, hfits, rfl⟩ := Memory.checkRange_eq_ok_iff.mp hcheck
    have hwire : Event.wireSize.toNat = 12 := rfl
    have hwidth : Scalar.width .i32 = 4 := rfl
    rw [hwire] at hwrap hfits
    obtain ⟨hfour, height⟩ := event_word_offsets hwrap
    have hwidth₂ : (Scalar.encode .i32 e.type ++ Scalar.encode .i32 e.field1).length = 4 + 4 := by
      rw [List.length_append, Scalar.length_encode, Scalar.length_encode]
      rfl
    -- each word lies in the range that was checked, so none of them is refused
    have hone : m.write .i32 offset e.type =
        (.ok (), m.splice offset.toNat (Scalar.encode .i32 e.type)) :=
      write_eq_ok .i32 e.type (by omega) (by omega)
    have htwo : (m.splice offset.toNat (Scalar.encode .i32 e.type)).write .i32 (offset + 4) e.field1 =
        (.ok (), m.splice offset.toNat (Scalar.encode .i32 e.type ++ Scalar.encode .i32 e.field1)) :=
      write_behind _ .i32 e.field1 (by rw [Scalar.length_encode]; omega) (by omega) (by omega)
    have hthree : (m.splice offset.toNat (Scalar.encode .i32 e.type ++ Scalar.encode .i32 e.field1)).write
        .i32 (offset + 8) e.field2 = (.ok (), m.splice offset.toNat (wireBytes e)) :=
      write_behind _ .i32 e.field2 (by omega) (by omega) (by omega)
    simp only [Memory.storeEach, hone, htwo, hthree, Memory.putIn]

/-- A written event is read back. -/
lemma event_readFrom_splice {m : Memory} {offset : UInt64} (e : Event)
    (hwrap : offset.toNat + 12 < UInt64.size) (hfits : offset.toNat + 12 ≤ m.size) :
    Event.readFrom (m.splice offset.toNat (wireBytes e)) offset = .ok e := by
  have hwidth : Scalar.width .i32 = 4 := rfl
  have hlength := length_wireBytes e
  have hinside : offset.toNat + (wireBytes e).length ≤ m.size := by
    rw [hlength]
    exact hfits
  obtain ⟨hfour, height⟩ := event_word_offsets hwrap
  have hcheck : (m.splice offset.toNat (wireBytes e)).checkRange offset Event.wireSize =
      .ok ⟨offset.toNat, offset.toNat + 12⟩ := by
    rw [Memory.checkRange_eq_ok_iff, Memory.size_splice hinside]
    exact ⟨hwrap, hfits, rfl⟩
  have htype : (m.splice offset.toNat (wireBytes e)).read .i32 offset = .ok e.type := by
    have hbytes : wireBytes e = [] ++ Scalar.encode .i32 e.type ++
        (Scalar.encode .i32 e.field1 ++ Scalar.encode .i32 e.field2) := by
      rw [List.nil_append, ← List.append_assoc]
      rfl
    rw [hbytes] at hinside ⊢
    exact read_splice _ _ .i32 e.type hinside rfl (by omega)
  have hfield1 : (m.splice offset.toNat (wireBytes e)).read .i32 (offset + 4) = .ok e.field1 := by
    apply read_splice _ _ .i32 e.field1 hinside
    · rw [hfour, Scalar.length_encode, hwidth]
    · omega
  have hfield2 : (m.splice offset.toNat (wireBytes e)).read .i32 (offset + 8) = .ok e.field2 := by
    have hbytes : wireBytes e = Scalar.encode .i32 e.type ++ Scalar.encode .i32 e.field1 ++
        Scalar.encode .i32 e.field2 ++ [] := (List.append_nil _).symm
    rw [hbytes] at hinside ⊢
    apply read_splice _ _ .i32 e.field2 hinside
    · rw [height, List.length_append, Scalar.length_encode, Scalar.length_encode, hwidth]
    · omega
  unfold Event.readFrom
  simp only [bind, Except.bind, hcheck, htype, hfield1, hfield2]
  rfl

/-- A delivery in one equation: the address is looked at first, then the queue, then the memory. -/
lemma deliver_eq (q : EventQueue Event) (m : Memory) (addr : Int32) : Event.deliver q m addr =
    match Memory.guestOffset addr, q.pending with
    | .error cause, _ => ⟨.error cause, m, q⟩
    | .ok _, [] => ⟨.ok none, m, q⟩
    | .ok offset, e :: rest =>
      match m.checkRange offset Event.wireSize with
      | .error cause => ⟨.error cause, m, q⟩
      | .ok s => ⟨.ok (some (e, offset)), m.splice s.start (wireBytes e), { q with pending := rest }⟩ := by
  unfold Event.deliver
  cases Memory.guestOffset addr with
  | error err => rfl
  | ok offset =>
    obtain ⟨pending, signal⟩ := q
    cases pending with
    | nil => rfl
    | cons e rest =>
      simp only [EventQueue.pollWith, Event.accept, event_writeTo_eq]
      cases m.checkRange offset Event.wireSize with
      | error err => rfl
      | ok s => rfl

section Outcomes

variable {q : EventQueue Event} {m : Memory} {addr : Int32}

lemma deliver_negative (hsign : addr.toInt < 0) :
    Event.deliver q m addr = ⟨.error (.negativeAddress addr), m, q⟩ := by
  rw [deliver_eq, guestOffset_of_negative hsign]

lemma deliver_empty (hsign : 0 ≤ addr.toInt) (hq : q.pending = []) :
    Event.deliver q m addr = ⟨.ok none, m, q⟩ := by
  rw [deliver_eq, guestOffset_of_nonneg hsign, hq]

lemma deliver_head {e : Event} {rest : List Event} (hsign : 0 ≤ addr.toInt) (hq : q.pending = e :: rest)
    (hfits : addr.toInt.toNat + 12 ≤ m.size) :
    Event.deliver q m addr = ⟨.ok (some (e, UInt64.ofNat addr.toInt.toNat)),
      m.splice addr.toInt.toNat (wireBytes e), { q with pending := rest }⟩ := by
  have hlt := addr.toInt_lt
  have hsize : UInt64.size = 18446744073709551616 := rfl
  have hwire : Event.wireSize.toNat = 12 := rfl
  have hcheck : m.checkRange (UInt64.ofNat addr.toInt.toNat) Event.wireSize =
      .ok ⟨addr.toInt.toNat, addr.toInt.toNat + 12⟩ := by
    rw [Memory.checkRange_eq_ok_iff, hwire, toNat_guestOffset]
    exact ⟨by omega, hfits, rfl⟩
  rw [deliver_eq, guestOffset_of_nonneg hsign, hq]
  simp only [hcheck]

lemma deliver_outside {e : Event} {rest : List Event} (hsign : 0 ≤ addr.toInt) (hq : q.pending = e :: rest)
    (houtside : m.size < addr.toInt.toNat + 12) :
    Event.deliver q m addr = ⟨.error (.outOfBounds (UInt64.ofNat addr.toInt.toNat) 12 m.size), m, q⟩ := by
  rw [deliver_eq, guestOffset_of_nonneg hsign, hq]
  cases hcheck : m.checkRange (UInt64.ofNat addr.toInt.toNat) Event.wireSize with
  | error err =>
    simp only [hcheck]
    rw [Memory.checkRange_eq_error hcheck]
    rfl
  | ok s =>
    obtain ⟨-, hfits, -⟩ := Memory.checkRange_eq_ok_iff.mp hcheck
    have hwire : Event.wireSize.toNat = 12 := rfl
    rw [hwire, toNat_guestOffset] at hfits
    omega

end Outcomes

/-- What a delivery comes to. Only one that reports an event changes memory or queue. -/
inductive DeliverCases (q : EventQueue Event) (m : Memory) (addr : Int32) : Prop where
  | refused (cause : MemoryError) (hwhy : addr.toInt < 0 ∨ q.pending ≠ [] ∧ m.size < addr.toInt.toNat + 12)
    (h : Event.deliver q m addr = ⟨.error cause, m, q⟩)
  | nothing (hsign : 0 ≤ addr.toInt) (hempty : q.pending = []) (h : Event.deliver q m addr = ⟨.ok none, m, q⟩)
  | head (e : Event) (rest : List Event) (hsign : 0 ≤ addr.toInt) (hq : q.pending = e :: rest)
    (hfits : addr.toInt.toNat + 12 ≤ m.size)
    (h : Event.deliver q m addr = ⟨.ok (some (e, UInt64.ofNat addr.toInt.toNat)),
      m.splice addr.toInt.toNat (wireBytes e), { q with pending := rest }⟩)

lemma deliver_cases (q : EventQueue Event) (m : Memory) (addr : Int32) : DeliverCases q m addr := by
  by_cases hsign : 0 ≤ addr.toInt
  · cases hq : q.pending with
    | nil => exact .nothing hsign hq (deliver_empty hsign hq)
    | cons e rest =>
      by_cases hfits : addr.toInt.toNat + 12 ≤ m.size
      · exact .head e rest hsign hq hfits (deliver_head hsign hq hfits)
      · have houtside := Nat.lt_of_not_le hfits
        have hsome : q.pending ≠ [] := by
          rw [hq]
          exact List.cons_ne_nil e rest
        exact .refused _ (.inr ⟨hsome, houtside⟩) (deliver_outside hsign hq houtside)
  · have hnegative := Int.lt_of_not_ge hsign
    exact .refused _ (.inl hnegative) (deliver_negative hnegative)

lemma sameOutside_wireBytes {m : Memory} {start : Nat} (e : Event) (hfits : start + 12 ≤ m.size) :
    SameOutside start 12 m (m.splice start (wireBytes e)) := by
  have hlength := length_wireBytes e
  rw [← hlength] at hfits
  have hframe := sameOutside_splice hfits
  rw [hlength] at hframe
  exact hframe

end GuestBridge.Proofs
