import GuestBridge.Resource.Basic

/-!
# The resource table

Resources by handle, in ascending order, and the counter that hands out new handles. Storing at an
explicit handle leaves the counter alone.
-/

namespace GuestBridge

namespace ResourceTable

/-- Handles rise strictly along a list of entries. -/
abbrev Ascending (entries : List (Handle × Resource)) : Prop :=
  entries.Pairwise fun a b => a.1.raw < b.1.raw

/-- Puts a resource at its place in ascending entries. -/
def insertEntry (h : Handle) (r : Resource) : List (Handle × Resource) → List (Handle × Resource)
  | [] => [(h, r)]
  | (k, s) :: rest =>
    if h.raw < k.raw then (h, r) :: (k, s) :: rest
    else if h = k then (h, r) :: rest
    else (k, s) :: insertEntry h r rest

theorem mem_insertEntry {h : Handle} {r : Resource} {entries : List (Handle × Resource)}
    {e : Handle × Resource} (he : e ∈ insertEntry h r entries) : e = (h, r) ∨ e ∈ entries := by
  induction entries with
  | nil => simpa [insertEntry] using he
  | cons head rest ih =>
    obtain ⟨k, s⟩ := head
    rw [insertEntry] at he
    split at he
    · simpa using he
    · split at he
      · rcases List.mem_cons.mp he with he | he
        · exact .inl he
        · exact .inr (List.mem_cons_of_mem _ he)
      · rcases List.mem_cons.mp he with he | he
        · exact .inr (he ▸ List.mem_cons_self)
        · exact (ih he).imp id (List.mem_cons_of_mem _)

theorem ascending_insertEntry (h : Handle) (r : Resource) {entries : List (Handle × Resource)}
    (ha : Ascending entries) : Ascending (insertEntry h r entries) := by
  induction entries with
  | nil => simp [insertEntry]
  | cons head rest ih =>
    obtain ⟨k, s⟩ := head
    have hrest := List.pairwise_cons.mp ha
    rw [insertEntry]
    split
    next hlt =>
      refine List.pairwise_cons.mpr ⟨fun e he => ?_, ha⟩
      rcases List.mem_cons.mp he with rfl | he
      · exact hlt
      · exact UInt32.lt_trans hlt (hrest.1 e he)
    next hge =>
      split
      next heq =>
        subst heq
        exact List.pairwise_cons.mpr ⟨fun e he => hrest.1 e he, hrest.2⟩
      next hne =>
        refine List.pairwise_cons.mpr ⟨fun e he => ?_, ih hrest.2⟩
        rcases mem_insertEntry he with rfl | he
        · have : h.raw ≠ k.raw := fun hraw => hne (by cases h; cases k; simp_all)
          have hle : k.raw ≤ h.raw := UInt32.not_lt.mp hge
          exact UInt32.lt_of_le_of_ne hle (Ne.symm this)
        · exact hrest.1 e he

end ResourceTable

open ResourceTable in
/-- Resources by handle. The counter is none once the last handle has been handed out. -/
structure ResourceTable where
  entries : List (Handle × Resource)
  counter : Option Handle
  ascending : Ascending entries

namespace ResourceTable

def empty : ResourceTable := ⟨[], some .first, .nil⟩

/-- The resource at a handle, whatever its kind. -/
def getAny? (t : ResourceTable) (h : Handle) : Option Resource :=
  (t.entries.find? fun e => e.1 = h).map (·.2)

/-- The resource at a handle if it has the kind asked for. -/
def get? (t : ResourceTable) (kind : ResourceKind) (h : Handle) : Option Resource :=
  (t.getAny? h).filter fun r => r.kind = kind

/-- Stores a resource at a handle. The counter stays. -/
def set (t : ResourceTable) (h : Handle) (r : Resource) : ResourceTable :=
  { t with entries := insertEntry h r t.entries, ascending := ascending_insertEntry h r t.ascending }

/-- What an insertion into ascending entries takes the place of. -/
def displaced? (h : Handle) : List (Handle × Resource) → Option Resource
  | [] => none
  | (k, s) :: rest =>
    if h.raw < k.raw then none
    else if h = k then some s
    else displaced? h rest

/-- Stores a resource at a handle and returns the one that it takes the place of. -/
def replace (t : ResourceTable) (h : Handle) (r : Resource) : Option Resource × ResourceTable :=
  (displaced? h t.entries, t.set h r)

/-- Moves the counter on and returns the handle it stood at; none when the handles are used up. -/
def advance (t : ResourceTable) : Option Handle × ResourceTable :=
  match t.counter with
  | some h => (some h, { t with counter := h.next? })
  | none => (none, t)

/-- Numbering starts again at the first handle. -/
def restart (t : ResourceTable) : ResourceTable := { t with counter := some .first }

/-- Stores a resource at the next handle, if there is one left. The counter moves on first. -/
def add (t : ResourceTable) (r : Resource) : Option Handle × ResourceTable :=
  match t.advance with
  | (some h, t) => (some h, t.set h r)
  | (none, t) => (none, t)

/-- Changes the payload at a handle if the resource there has the kind asked for. -/
def editPayload (t : ResourceTable) (kind : ResourceKind) (h : Handle) (f : Payload → Payload) :
    Option ResourceTable :=
  (t.get? kind h).map fun r => t.set h { r with payload := f r.payload }

/-- The lowest handle whose payload is a label with this text. -/
def findLabel? (t : ResourceTable) (name : String) : Option Handle :=
  (t.entries.find? fun e => e.2.payload = .label name).map (·.1)

def size (t : ResourceTable) : Nat := t.entries.length

def isEmpty (t : ResourceTable) : Bool := t.entries.isEmpty

end ResourceTable

end GuestBridge
