import GuestBridge.Floating.Value

/-!
# Argument words

Guest code passes every value as signed 32-bit words. A single is one word and a double is two, the
low one first. Main statements: no conversion happens on the way, since joining and splitting undo
each other on every bit pattern.
-/

namespace GuestBridge

/-- What one argument or result slot of the guest holds. -/
abbrev Word := Int32

/-- Joins a low and a high word. -/
def Double.ofWords (low high : Word) : Double :=
  ⟨high.toUInt32.toUInt64 <<< 32 ||| low.toUInt32.toUInt64⟩

/-- The low and the high word. -/
def Double.toWords (d : Double) : Word × Word :=
  (d.bits.toUInt32.toInt32, (d.bits >>> 32).toUInt32.toInt32)

def Single.ofWord (w : Word) : Single := ⟨w.toUInt32⟩

def Single.toWord (s : Single) : Word := s.bits.toInt32

/-- The high word counts as often as there are words. -/
theorem Double.pattern_ofWords (low high : Word) :
    (Double.ofWords low high).pattern = high.toUInt32.toNat * UInt32.size + low.toUInt32.toNat := by
  have hl := low.toUInt32.toNat_lt
  have hh := high.toUInt32.toNat_lt
  simp only [pattern, ofWords, UInt64.toNat_or, UInt64.toNat_shiftLeft, UInt32.toNat_toUInt64]
  rw [show (32 : UInt64).toNat % 64 = 32 from rfl, Nat.shiftLeft_eq, Nat.mod_eq_of_lt (by omega),
    ← Nat.shiftLeft_eq, ← Nat.shiftLeft_add_eq_or_of_lt hl, Nat.shiftLeft_eq]

theorem Double.toNat_toWords (d : Double) :
    d.toWords.1.toUInt32.toNat = d.pattern % UInt32.size ∧
      d.toWords.2.toUInt32.toNat = d.pattern / UInt32.size := by
  have h := d.bits.toNat_lt
  simp only [toWords, pattern, UInt32.toUInt32_toInt32, UInt64.toNat_toUInt32, UInt64.toNat_shiftRight]
  rw [show (32 : UInt64).toNat % 64 = 32 from rfl, Nat.shiftRight_eq_div_pow]
  exact ⟨trivial, Nat.mod_eq_of_lt (by omega)⟩

@[simp] theorem Double.ofWords_toWords (d : Double) :
    Double.ofWords d.toWords.1 d.toWords.2 = d := by
  rw [← Double.ofPattern_pattern (Double.ofWords _ _), pattern_ofWords, (toNat_toWords d).1,
    (toNat_toWords d).2, Nat.div_add_mod', Double.ofPattern_pattern]

@[simp] theorem Double.toWords_ofWords (low high : Word) :
    (Double.ofWords low high).toWords = (low, high) := by
  have hl := low.toUInt32.toNat_lt
  obtain ⟨h₁, h₂⟩ := Double.toNat_toWords (Double.ofWords low high)
  rw [pattern_ofWords] at h₁ h₂
  have word_ext {v w : Word} (h : v.toUInt32.toNat = w.toUInt32.toNat) : v = w := by
    rw [← UInt32.toUInt32_toInt32 v.toUInt32] at h
    simpa using congrArg UInt32.toInt32 (UInt32.toNat_inj.mp h)
  refine Prod.ext (word_ext (h₁.trans ?_)) (word_ext (h₂.trans ?_))
  · exact Nat.mul_add_mod_of_lt hl
  · rw [Nat.mul_comm, Nat.mul_add_div (by decide), Nat.div_eq_of_lt hl, Nat.add_zero]

@[simp] theorem Single.ofWord_toWord (s : Single) : Single.ofWord s.toWord = s := by
  simp [ofWord, toWord]

@[simp] theorem Single.toWord_ofWord (w : Word) : (Single.ofWord w).toWord = w := by
  simp [ofWord, toWord]

end GuestBridge
