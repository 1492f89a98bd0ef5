/-!
# Kinds of resources

The tags that name them in a container and in guest code.
-/

namespace GuestBridge

inductive ResourceKind where
  | placeholder
  | image
  | sprite
  | binary
  /-- Unrestricted binary; its payload is that of `binary`. -/
  | ubin
  | skip
  | label
deriving DecidableEq, Repr

namespace ResourceKind

def tag : ResourceKind → UInt8
  | .placeholder => 1
  | .image => 2
  | .sprite => 3
  | .binary => 4
  | .ubin => 5
  | .skip => 6
  | .label => 9

def ofNat? : Nat → Option ResourceKind
  | 1 => some .placeholder
  | 2 => some .image
  | 3 => some .sprite
  | 4 => some .binary
  | 5 => some .ubin
  | 6 => some .skip
  | 9 => some .label
  | _ => none

/-- The kind that a tag byte names. -/
def ofTag? (tag : UInt8) : Option ResourceKind := ofNat? tag.toNat

/-- The kind that a guest word names. -/
def ofGuest? (word : Int32) : Option ResourceKind :=
  if word.toInt < 0 then none else ofNat? word.toInt.toNat

def name : ResourceKind → String
  | .placeholder => "PLACEHOLDER"
  | .image => "IMAGE"
  | .sprite => "SPRITE"
  | .binary => "BINARY"
  | .ubin => "UBIN"
  | .skip => "SKIP"
  | .label => "LABEL"

/-- The kind among the fields of an error. -/
def caption : ResourceKind → String
  | .placeholder => "Placeholder"
  | .image => "Image"
  | .sprite => "Sprite"
  | .binary => "Binary"
  | .ubin => "UBin"
  | .skip => "Skip"
  | .label => "Label"

@[simp] theorem ofTag?_tag (k : ResourceKind) : ofTag? k.tag = some k := by
  cases k <;> rfl

theorem ofNat?_eq_some_iff {n : Nat} {k : ResourceKind} : ofNat? n = some k ↔ n = k.tag.toNat := by
  constructor
  · intro h
    unfold ofNat? at h
    split at h <;> first | (cases h; rfl) | cases h
  · rintro rfl
    cases k <;> rfl

theorem ofTag?_eq_some_iff {t : UInt8} {k : ResourceKind} : ofTag? t = some k ↔ t = k.tag := by
  rw [ofTag?, ofNat?_eq_some_iff, UInt8.toNat_inj]

theorem tag_ne_zero (k : ResourceKind) : k.tag ≠ 0 := by
  cases k <;> decide

end ResourceKind

end GuestBridge
