import GuestBridge.Proofs.LoadEffect
import GuestBridge.Proofs.VarintReading

/-!
# The numbers of a container

A number in a stream has at most twenty-eight bits, so the counts of a header and the sums over as many
records as there are handles keep within the words that a load keeps them in.
-/

namespace GuestBridge.Proofs

lemma varint_result_le {bytes rest : List UInt8} {v : Nat}
    (h : (Varint.read bytes).result? = some (v, rest)) : v ≤ Varint.maxValue := by
  apply (readNumber_bounds bytes).2 v
  unfold readNumber
  cases hread : Varint.read bytes with
  | value u after =>
    rw [hread] at h
    cases h
    rfl
  | overflow after =>
    rw [hread] at h
    cases h
    rfl
  | ended =>
    rw [hread] at h
    cases h

lemma frame_size_le (bytes : List UInt8) : ∀ r ∈ (frame bytes).records, r.size ≤ Varint.maxValue := by
  induction bytes using frame_induction with
  | stop bytes why rest hitem =>
    rw [frame_of_stop hitem]
    intro r hr
    cases hr
  | record bytes r rest hitem ih =>
    rw [frame_of_record hitem]
    intro s hs
    rcases List.mem_cons.mp hs with rfl | hs
    · obtain ⟨number, -, -, hread, -⟩ := firstItem_eq_record_iff.mp hitem
      exact varint_result_le hread
    · exact ih s hs

lemma sizeSum_le {rs : List StreamRecord} (h : ∀ r ∈ rs, r.size ≤ Varint.maxValue) :
    sizeSum rs ≤ rs.length * Varint.maxValue := by
  induction rs with
  | nil => exact Nat.zero_le _
  | cons r rs ih =>
    have hrest := ih fun s hs => h s (List.mem_cons_of_mem r hs)
    have hfirst := h r List.mem_cons_self
    have hsum : sizeSum (r :: rs) = r.size + sizeSum rs := rfl
    rw [hsum, List.length_cons, Nat.succ_mul]
    omega

lemma sizeSum_concat (rs : List StreamRecord) (r : StreamRecord) : sizeSum (rs ++ [r]) = sizeSum rs + r.size := by
  induction rs with
  | nil => exact Nat.add_comm r.size 0
  | cons s rs ih =>
    have hsum : sizeSum (s :: rs ++ [r]) = s.size + sizeSum (rs ++ [r]) := rfl
    rw [hsum, ih, ← Nat.add_assoc]
    rfl

lemma toNat_add_size {w : UInt64} {size : Nat} (h : w.toNat + size < UInt64.size) :
    (w + UInt64.ofNat size).toNat = w.toNat + size := by
  rw [UInt64.toNat_add, UInt64.toNat_ofNat_of_lt' (by omega)]
  exact Nat.mod_eq_of_lt h

lemma mul_maxValue_lt {n : Nat} (hn : n ≤ handleCount) : n * Varint.maxValue < 2 ^ 59 := by
  have hbound : handleCount * Varint.maxValue < 2 ^ 59 := by decide
  exact Nat.lt_of_le_of_lt (Nat.mul_le_mul_right _ hn) hbound

/-- The sizes of as many records as there are handles do not come to `2 ^ 59`. -/
lemma frame_sizeSum_lt {bytes : List UInt8} (hroom : (frame bytes).records.length ≤ handleCount) :
    sizeSum (frame bytes).records < 2 ^ 59 :=
  Nat.lt_of_le_of_lt (sizeSum_le (frame_size_le bytes)) (mul_maxValue_lt hroom)

lemma headerOf?_counts_le {bytes body : List UInt8} {count size : Nat}
    (h : headerOf? bytes = some (count, size, body)) : count ≤ Varint.maxValue ∧ size ≤ Varint.maxValue := by
  obtain ⟨-, after, hcount, hsize⟩ := headerOf?_eq_some h
  exact ⟨varint_result_le hcount, varint_result_le hsize⟩

/-- A header tells the truth if both its counts are what the records come to. -/
lemma matchesHeader_iff {count size records total : Nat} (hcount : count < UInt32.size)
    (hsize : size < UInt32.size) (hrecords : records < UInt32.size) (htotal : total < UInt64.size) :
    LoadSummary.matchesHeader ⟨UInt32.ofNat records, UInt32.ofNat count, UInt32.ofNat size, UInt64.ofNat total⟩ =
      true ↔ count = records ∧ size = total := by
  have hcounts : UInt32.ofNat count = UInt32.ofNat records ↔ count = records := by
    rw [← UInt32.toNat_inj, UInt32.toNat_ofNat_of_lt' hcount, UInt32.toNat_ofNat_of_lt' hrecords]
  have hsizes : (UInt32.ofNat size).toUInt64 = UInt64.ofNat total ↔ size = total := by
    rw [← UInt64.toNat_inj, UInt32.toNat_toUInt64, UInt32.toNat_ofNat_of_lt' hsize,
      UInt64.toNat_ofNat_of_lt' htotal]
  unfold LoadSummary.matchesHeader
  rw [Bool.and_eq_true, beq_iff_eq, beq_iff_eq, hcounts, hsizes]

end GuestBridge.Proofs
