import GuestBridge.Memory.LittleEndian
import Mathlib.Algebra.BigOperators.Ring.Finset
import Mathlib.Algebra.Order.Ring.Nat

/-!
# Bytes as digits

The digits of a number stand in its bytes, the low one first, and a number is the sum of its digits with
their weights.
-/

namespace GuestBridge.Proofs

lemma sum_digits_cons (digit : UInt8 → Nat) (base : Nat) (b : UInt8) (rest : List UInt8) (n : Nat) :
    ∑ j ∈ Finset.range (n + 1), digit ((b :: rest).getD j 0) * base ^ j =
      digit b + base * ∑ j ∈ Finset.range n, digit (rest.getD j 0) * base ^ j := by
  have hshift : ∀ j, digit (rest.getD j 0) * base ^ (j + 1) = base * (digit (rest.getD j 0) * base ^ j) := by
    intro j
    rw [pow_succ', mul_left_comm]
  rw [Finset.sum_range_succ', Finset.mul_sum]
  simp only [List.getD_cons_succ, List.getD_cons_zero, hshift, pow_zero, mul_one]
  exact Nat.add_comm _ _

lemma encode_getElem? {width i : Nat} (n : Nat) (hi : i < width) :
    (LittleEndian.encode width n)[i]? = some (UInt8.ofNat (n / 256 ^ i)) := by
  induction width generalizing i n with
  | zero => exact absurd hi (Nat.not_lt_zero i)
  | succ width ih =>
    rw [LittleEndian.encode]
    cases i with
    | zero => rw [List.getElem?_cons_zero, pow_zero, Nat.div_one]
    | succ i =>
      rw [List.getElem?_cons_succ, ih (n / 256) (Nat.lt_of_succ_lt_succ hi), Nat.div_div_eq_div_mul,
        pow_succ']

lemma decode_eq_sum (bytes : List UInt8) :
    LittleEndian.decode bytes = ∑ i ∈ Finset.range bytes.length, (bytes.getD i 0).toNat * 256 ^ i := by
  induction bytes with
  | nil => rfl
  | cons b rest ih =>
    have hsum := sum_digits_cons UInt8.toNat 256 b rest rest.length
    rw [LittleEndian.decode, ih, List.length_cons, hsum]

end GuestBridge.Proofs
