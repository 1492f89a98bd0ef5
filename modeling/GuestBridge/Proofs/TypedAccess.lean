import GuestBridge.Proofs.Digits
import GuestBridge.Proofs.MemoryAccess

/-!
# Values and bytes of a memory

Values of mixed types are written one after the other, and any of them may cover bytes of another. Each
byte is then a digit of the value that was written over it last, with base 256, and a value that is read
is the number with these digits, whatever types the written values had.
-/

namespace GuestBridge.Proofs

/-- The bit pattern of a value as a number. A negative number stands for what it is congruent to. -/
def bitPattern : (t : Scalar) → t.Value → Nat
  | .u8, v => UInt8.toNat v
  | .i8, v => (Int8.toInt v % 256).toNat
  | .u16, v => UInt16.toNat v
  | .i16, v => (Int16.toInt v % 65536).toNat
  | .u32, v => UInt32.toNat v
  | .i32, v => (Int32.toInt v % 4294967296).toNat
  | .f32, v => v.bits.toNat
  | .f64, v => v.bits.toNat

lemma toNat_of_signed {w n : Nat} (b : BitVec w) (hn : 2 ^ w = n) : (b.toInt % n).toNat = b.toNat := by
  rw [BitVec.toInt_eq_toNat_bmod, hn, Int.bmod_emod, ← Int.natCast_emod, Int.toNat_natCast]
  exact Nat.mod_eq_of_lt (hn ▸ b.isLt)

lemma bits_eq_bitPattern (t : Scalar) (v : t.Value) : t.bits v = bitPattern t v := by
  cases t with
  | u8 | u16 | u32 | f32 | f64 => rfl
  | i8 => exact (toNat_of_signed (Int8.toBitVec v) rfl).symm
  | i16 => exact (toNat_of_signed (Int16.toBitVec v) rfl).symm
  | i32 => exact (toNat_of_signed (Int32.toBitVec v) rfl).symm

/-- What a store puts at a position, if it covers it. -/
def digit? (s : Store) (j : Nat) : Option Nat :=
  if s.offset.toNat ≤ j ∧ j < s.offset.toNat + s.type.width then
    some (bitPattern s.type s.value / 256 ^ (j - s.offset.toNat) % 256)
  else none

def byteAt (m : Memory) (j : Nat) : Nat := (m.bytes.getD j 0).toNat

/-- The byte at a position after some stores: the last of them that covers it decides. -/
def byteAfter (m : Memory) (stores : List Store) (j : Nat) : Nat :=
  (stores.reverse.findSome? fun s => digit? s j).getD (byteAt m j)

/-! ### Stores -/

lemma write_cases {m m' : Memory} {t : Scalar} {offset : UInt64} {v : t.Value}
    (h : m.write t offset v = (.ok (), m')) :
    offset.toNat + t.width ≤ m.size ∧ m' = m.splice offset.toNat (t.encode v) := by
  unfold Memory.write at h
  cases hcheck : m.checkRange offset (UInt64.ofNat t.width) with
  | error e =>
    rw [hcheck] at h
    cases h
  | ok s =>
    obtain ⟨-, hfits, rfl⟩ := Memory.checkRange_eq_ok_iff.mp hcheck
    rw [toNat_width] at hfits
    rw [hcheck] at h
    cases h
    exact ⟨hfits, rfl⟩

lemma byteAt_write {m m' : Memory} {s : Store} (h : m.write s.type s.offset s.value = (.ok (), m')) (j : Nat) :
    byteAt m' j = (digit? s j).getD (byteAt m j) := by
  obtain ⟨hfits, rfl⟩ := write_cases h
  have hinside : s.offset.toNat + (s.type.encode s.value).length ≤ m.size := by
    rw [Scalar.length_encode]
    exact hfits
  unfold byteAt digit?
  rw [List.getD_eq_getElem?_getD, List.getD_eq_getElem?_getD, splice_getElem? hinside, Scalar.length_encode]
  by_cases hstart : s.offset.toNat ≤ j
  · rw [if_neg (Nat.not_lt.mpr hstart)]
    by_cases hend : j < s.offset.toNat + s.type.width
    · have hdigit : j - s.offset.toNat < s.type.width := by omega
      rw [if_pos hend, if_pos ⟨hstart, hend⟩, Scalar.encode, encode_getElem? _ hdigit, Option.getD_some,
        Option.getD_some, UInt8.toNat_ofNat', bits_eq_bitPattern]
    · rw [if_neg hend, if_neg fun h => hend h.2, Option.getD_none]
  · rw [if_pos (Nat.lt_of_not_le hstart), if_neg fun h => hstart h.1, Option.getD_none]

lemma byteAfter_cons {m m' : Memory} {s : Store} (h : m.write s.type s.offset s.value = (.ok (), m'))
    (rest : List Store) (j : Nat) : byteAfter m (s :: rest) j = byteAfter m' rest j := by
  unfold byteAfter
  rw [List.reverse_cons, List.findSome?_append, byteAt_write h, List.findSome?_singleton]
  cases rest.reverse.findSome? fun s => digit? s j <;> rfl

/-- What stores leave at a position does not depend on the types that they went through. -/
lemma storeEach_bytes {m m' : Memory} {stores : List Store} (h : m.storeEach stores = (.ok (), m')) :
    m'.size = m.size ∧ ∀ j, byteAt m' j = byteAfter m stores j := by
  induction stores generalizing m with
  | nil =>
    cases h
    exact ⟨rfl, fun j => rfl⟩
  | cons s rest ih =>
    unfold Memory.storeEach at h
    split at h
    next done m₁ hwrite =>
      obtain ⟨hsize, hbytes⟩ := ih h
      obtain ⟨hfits, hm₁⟩ := write_cases hwrite
      have hsize₁ : m₁.size = m.size := by
        rw [hm₁, Memory.size_splice]
        rw [Scalar.length_encode]
        exact hfits
      refine ⟨hsize.trans hsize₁, fun j => ?_⟩
      rw [hbytes, byteAfter_cons hwrite]
    next e m₁ hwrite => cases h

/-! ### Reading -/

lemma read_bitPattern {m : Memory} (hm : m.size < UInt64.size) (t : Scalar) {offset : UInt64}
    (hfits : offset.toNat + t.width ≤ m.size) :
    ∃ v, m.read t offset = .ok v ∧
      bitPattern t v = ∑ i ∈ Finset.range t.width, byteAt m (offset.toNat + i) * 256 ^ i := by
  have hlength : (cut m.bytes offset.toNat t.width).length = t.width := length_cut hfits
  have hlt : LittleEndian.decode (cut m.bytes offset.toNat t.width) < Nat.pow 256 t.width := by
    have hdecode := LittleEndian.decode_lt (cut m.bytes offset.toNat t.width)
    rw [hlength] at hdecode
    exact hdecode
  refine ⟨t.decode (cut m.bytes offset.toNat t.width), ?_, ?_⟩
  · have hwrap : offset.toNat + t.width < UInt64.size := Nat.lt_of_le_of_lt hfits hm
    unfold Memory.read
    rw [checkRange_width t hwrap hfits, Except.map, slice_eq_cut]
  · rw [← bits_eq_bitPattern, Scalar.decode, Scalar.bits_ofBits t hlt, decode_eq_sum, hlength]
    refine Finset.sum_congr rfl fun i hi => ?_
    have hbyte : (cut m.bytes offset.toNat t.width)[i]? = m.bytes[offset.toNat + i]? := by
      unfold cut
      rw [List.getElem?_take_of_lt (Finset.mem_range.mp hi), List.getElem?_drop]
    unfold byteAt
    rw [List.getD_eq_getElem?_getD, List.getD_eq_getElem?_getD, hbyte]

lemma write_read {m : Memory} (hm : m.size < UInt64.size) {t : Scalar} {offset : UInt64}
    (hfits : offset.toNat + t.width ≤ m.size) (v : t.Value) :
    ∃ m', m.write t offset v = (.ok (), m') ∧ m'.read t offset = .ok v := by
  have hwrap : offset.toNat + t.width < UInt64.size := Nat.lt_of_le_of_lt hfits hm
  have hinside : offset.toNat + ([] ++ t.encode v ++ []).length ≤ m.size := by
    rw [List.append_nil, List.nil_append, Scalar.length_encode]
    exact hfits
  have hread := read_splice [] [] t v hinside rfl hwrap
  rw [List.append_nil, List.nil_append] at hread
  exact ⟨_, write_eq_ok t v hwrap hfits, hread⟩

/-- After any stores a value is read off the digits that were written last, and a value that is stored
once more is read back as it is. -/
theorem typed_access {m m' : Memory} (hm : m.size < UInt64.size) {stores : List Store}
    (h : m.storeEach stores = (.ok (), m')) :
    m'.size = m.size ∧ ∀ (t : Scalar) (offset : UInt64), offset.toNat + t.width ≤ m'.size →
      (∃ v, m'.read t offset = .ok v ∧
        bitPattern t v = ∑ i ∈ Finset.range t.width, byteAfter m stores (offset.toNat + i) * 256 ^ i) ∧
      ∀ v, ∃ m'', m'.write t offset v = (.ok (), m'') ∧ m''.read t offset = .ok v := by
  obtain ⟨hsize, hbytes⟩ := storeEach_bytes h
  have hm' : m'.size < UInt64.size := by
    rw [hsize]
    exact hm
  refine ⟨hsize, fun t offset hfits => ⟨?_, write_read hm' hfits⟩⟩
  obtain ⟨v, hread, hpattern⟩ := read_bitPattern hm' t hfits
  simp only [hbytes] at hpattern
  exact ⟨v, hread, hpattern⟩

def overlappingStores : List Store :=
  [⟨.f64, 2, ⟨0x7FF0000000000001⟩⟩, ⟨.i16, 8, -2⟩, ⟨.i8, 3, -128⟩]

/-- A NaN whose bytes at both ends were written over. -/
theorem typed_access_overlap :
    (Memory.zeroed 12).size < UInt64.size ∧ ∃ m', (Memory.zeroed 12).storeEach overlappingStores = (.ok (), m') ∧
      (6 : UInt64).toNat + Scalar.width .f32 ≤ m'.size ∧
      (∃ v, m'.read .f32 6 = .ok v ∧ bitPattern .f32 v = 0xFFFE0000) ∧
      (∃ v, m'.read .i16 2 = .ok v ∧ bitPattern .i16 v = 0x8001) := by
  have hstores : (Memory.zeroed 12).storeEach overlappingStores = (.ok (), _) := rfl
  obtain ⟨hsize, haccess⟩ := typed_access (by decide) hstores
  refine ⟨by decide, _, rfl, by decide, ?_, ?_⟩
  · obtain ⟨⟨v, hread, hpattern⟩, -⟩ := haccess .f32 6 (by decide)
    exact ⟨v, hread, hpattern.trans (by decide)⟩
  · obtain ⟨⟨v, hread, hpattern⟩, -⟩ := haccess .i16 2 (by decide)
    exact ⟨v, hread, hpattern.trans (by decide)⟩

end GuestBridge.Proofs
