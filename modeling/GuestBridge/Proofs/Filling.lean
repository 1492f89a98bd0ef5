import GuestBridge.Proofs.MemoryAccess

/-!
# Filling from a source

A fill either puts all the bytes that were asked for into the memory and moves past them, or changes no
byte of the memory. The range is judged before the source, so a source loses its place only to a fill
that would have had room.
-/

namespace GuestBridge.Proofs

/-- How many bytes are left to read, also if the position is past the end. -/
def leftToRead (source : Cursor) : Nat := source.bytes.length - min source.position source.bytes.length

lemma length_remaining (source : Cursor) : source.remaining.length = leftToRead source := by
  unfold Cursor.remaining leftToRead
  rw [List.length_drop]
  omega

lemma readExact_of_enough {source : Cursor} {n : Nat} (h : n ≤ leftToRead source) :
    source.readExact n = (some (source.remaining.take n), ⟨source.bytes, source.position + n⟩) := by
  unfold Cursor.readExact
  rw [length_remaining, if_pos h]

lemma readExact_of_short {source : Cursor} {n : Nat} (h : leftToRead source < n) :
    source.readExact n = (none, ⟨source.bytes, source.bytes.length⟩) := by
  unfold Cursor.readExact
  rw [length_remaining, if_neg (Nat.not_le.mpr h)]

/-- A fill in each case: a range that ends outside of the memory, a source with too few bytes left, and
neither of them. -/
structure FillLaw (m : Memory) (source : Cursor) (offset len : UInt64) : Prop where
  outside : m.size < offset.toNat + len.toNat →
    m.fill source offset len = (.error (.outOfBounds offset len m.size), m, source)
  short : offset.toNat + len.toNat ≤ m.size → leftToRead source < len.toNat →
    m.fill source offset len = (.error .shortSource, m, ⟨source.bytes, source.bytes.length⟩)
  filled : offset.toNat + len.toNat ≤ m.size → len.toNat ≤ leftToRead source → ∃ filled,
    m.fill source offset len = (.ok (), filled, ⟨source.bytes, source.position + len.toNat⟩) ∧
      filled.size = m.size ∧ ∀ i, filled.bytes[i]? =
        if offset.toNat ≤ i ∧ i < offset.toNat + len.toNat then
          source.bytes[source.position + (i - offset.toNat)]?
        else m.bytes[i]?

/-- Whatever memory and source, and with any offset and length of 64 bits, a fill does all or nothing. -/
theorem fill_law {m : Memory} (hm : m.size < UInt64.size) (source : Cursor) (offset len : UInt64) :
    FillLaw m source offset len := by
  have hrange : m.checkRange offset len =
      if offset.toNat + len.toNat ≤ m.size then .ok ⟨offset.toNat, offset.toNat + len.toNat⟩
      else .error (.outOfBounds offset len m.size) :=
    checkRange_eq fun hfits => Nat.lt_of_le_of_lt hfits hm
  refine ⟨fun hout => ?_, fun hfits hshort => ?_, fun hfits henough => ?_⟩
  · rw [if_neg (Nat.not_le.mpr hout)] at hrange
    unfold Memory.fill
    rw [hrange]
  · rw [if_pos hfits] at hrange
    unfold Memory.fill
    rw [hrange]
    dsimp only
    rw [readExact_of_short hshort]
  · rw [if_pos hfits] at hrange
    have hlength : (source.remaining.take len.toNat).length = len.toNat := by
      rw [List.length_take, length_remaining, Nat.min_eq_left henough]
    have hinside : offset.toNat + (source.remaining.take len.toNat).length ≤ m.size := by
      rw [hlength]
      exact hfits
    refine ⟨m.splice offset.toNat (source.remaining.take len.toNat), ?_, Memory.size_splice hinside, ?_⟩
    · unfold Memory.fill
      rw [hrange]
      dsimp only
      rw [readExact_of_enough henough]
    · intro i
      rw [splice_getElem? hinside, hlength]
      by_cases hbefore : i < offset.toNat
      · rw [if_pos hbefore, if_neg (by omega)]
      · rw [if_neg hbefore]
        by_cases hin : i < offset.toNat + len.toNat
        · rw [if_pos hin, if_pos (by omega), List.getElem?_take_of_lt (by omega)]
          exact List.getElem?_drop
        · rw [if_neg hin, if_neg (by omega)]

/-- A range that wraps around 64 bits, a source that is read past its end, no bytes at all behind both
ends, and the last bytes of both. -/
theorem fill_law_edges :
    (Memory.mk [1, 2, 3, 4]).size < UInt64.size ∧
      (Memory.mk [1, 2, 3, 4]).fill ⟨[9, 8, 7], 5⟩ 18446744073709551615 1 =
        (.error (.outOfBounds 18446744073709551615 1 4), ⟨[1, 2, 3, 4]⟩, ⟨[9, 8, 7], 5⟩) ∧
      (Memory.mk [1, 2, 3, 4]).fill ⟨[9, 8, 7], 5⟩ 0 1 = (.error .shortSource, ⟨[1, 2, 3, 4]⟩, ⟨[9, 8, 7], 3⟩) ∧
      (∃ filled, (Memory.mk [1, 2, 3, 4]).fill ⟨[9, 8, 7], 5⟩ 4 0 = (.ok (), filled, ⟨[9, 8, 7], 5⟩) ∧
        filled.bytes[3]? = some 4) ∧
      ∃ filled, (Memory.mk [1, 2, 3, 4]).fill ⟨[9, 8, 7], 1⟩ 2 2 = (.ok (), filled, ⟨[9, 8, 7], 3⟩) ∧
        filled.bytes[1]? = some 2 ∧ filled.bytes[2]? = some 8 ∧ filled.bytes[3]? = some 7 := by
  have hm : (Memory.mk [1, 2, 3, 4]).size < UInt64.size := by decide
  obtain ⟨same, hsame, -, hkept⟩ := (fill_law hm ⟨[9, 8, 7], 5⟩ 4 0).filled (by decide) (by decide)
  obtain ⟨two, htwo, -, hbytes⟩ := (fill_law hm ⟨[9, 8, 7], 1⟩ 2 2).filled (by decide) (by decide)
  refine ⟨hm, ?_, ?_, ⟨same, hsame, hkept 3⟩, two, htwo, hbytes 1, hbytes 2, hbytes 3⟩
  · exact (fill_law hm _ _ _).outside (by decide)
  · exact (fill_law hm _ _ _).short (by decide) (by decide)

end GuestBridge.Proofs
