/-!
# Variable-length numbers

A number below `2 ^ 28` is written as one to four groups of seven bits, the low group first. The
last group, and no other, has the high bit set. Four groups without a last one read as zero.
-/

namespace GuestBridge.Varint

/-- The most groups that a number may take. -/
def maxGroups : Nat := 4

def maxValue : Nat := (1 <<< (7 * maxGroups)) - 1

/-- The number of groups of a value, also of one too large to be written. -/
def length (v : Nat) : Nat := if v < 128 then 1 else length (v / 128) + 1

/-- The groups of a value, also of one too large to be written. -/
def groups (v : Nat) : List UInt8 :=
  if v < 128 then [UInt8.ofNat (v + 128)] else UInt8.ofNat (v % 128) :: groups (v / 128)

/-- The written form of a value that fits. -/
def encode? (v : UInt32) : Option (List UInt8) :=
  if v.toNat ≤ maxValue then some (groups v.toNat) else none

/-- What reading one number from a byte stream comes to. -/
inductive Outcome where
  | value (v : Nat) (rest : List UInt8)
  /-- Four groups went by and none was the last. -/
  | overflow (rest : List UInt8)
  /-- The stream ended first; all of it is consumed. -/
  | ended
deriving DecidableEq, Repr

/-- Reads up to `left` more groups, the next of which counts `weight`. -/
def scan : (left weight sum : Nat) → List UInt8 → Outcome
  | 0, _, _, rest => .overflow rest
  | _ + 1, _, _, [] => .ended
  | left + 1, weight, sum, b :: rest =>
    if 128 ≤ b.toNat then .value (sum + (b.toNat - 128) * weight) rest
    else scan left (weight * 128) (sum + b.toNat * weight) rest

def read (bytes : List UInt8) : Outcome := scan maxGroups 1 0 bytes

namespace Outcome

/-- The number read and the bytes after it. -/
def result? : Outcome → Option (Nat × List UInt8)
  | .value v rest => some (v, rest)
  | .overflow rest => some (0, rest)
  | .ended => none

end Outcome

theorem length_scan_lt {left weight sum : Nat} {bytes rest : List UInt8} {v : Nat}
    (h : (scan left weight sum bytes).result? = some (v, rest)) (hleft : 0 < left) :
    rest.length < bytes.length := by
  induction left generalizing weight sum bytes with
  | zero => omega
  | succ left ih =>
    cases bytes with
    | nil => simp [scan, Outcome.result?] at h
    | cons b tail =>
      rw [scan] at h
      split at h
      · simp only [Outcome.result?, Option.some.injEq, Prod.mk.injEq] at h
        simp [h.2]
      · cases left with
        | zero =>
          simp only [scan, Outcome.result?, Option.some.injEq, Prod.mk.injEq] at h
          simp [h.2]
        | succ left =>
          have := ih h (by omega)
          simp only [List.length_cons]
          omega

theorem length_read_lt {bytes rest : List UInt8} {v : Nat}
    (h : (read bytes).result? = some (v, rest)) : rest.length < bytes.length :=
  length_scan_lt h (by decide)

end GuestBridge.Varint
