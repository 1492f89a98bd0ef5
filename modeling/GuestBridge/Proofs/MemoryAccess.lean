import GuestBridge.Proofs.MemoryFrame

/-!
# Accesses to buffers

Any number of buffers, and accesses to them in any order. Offsets and lengths have 64 bits and may be as
large as these allow, and still an access succeeds only if its ranges end inside their buffers. The
buffers do what plain lists of bytes would do whose positions are numbers without a bound.
-/

namespace GuestBridge.Proofs

variable {ι : Type}

/-- An access to buffers that are known by their names. Data that is written is as long as a length
can say. -/
inductive MemoryAccess (ι : Type) where
  | check (b : ι) (offset len : UInt64)
  | read (b : ι) (type : Scalar) (offset : UInt64)
  | write (b : ι) (type : Scalar) (offset : UInt64) (value : type.Value)
  | readBytes (b : ι) (offset len : UInt64)
  | writeBytes (b : ι) (offset : UInt64) (data : List UInt8) (short : data.length < UInt64.size)
  | copy (source target : ι) (fromOffset toOffset len : UInt64)

/-- What a successful access returns. -/
inductive MemoryAnswer where
  | span (s : Span)
  | value (type : Scalar) (value : type.Value)
  | bytes (data : List UInt8)
  | done

/-! ### The buffers -/

/-- A buffer becomes what an access leaves of it, whether that succeeded or not. -/
def stored [DecidableEq ι] (buffers : ι → Memory) (b : ι) (out : Except MemoryError Unit × Memory) :
    Except MemoryError MemoryAnswer × (ι → Memory) :=
  (out.1.map fun _ => .done, Function.update buffers b out.2)

def MemoryAccess.run [DecidableEq ι] (buffers : ι → Memory) :
    MemoryAccess ι → Except MemoryError MemoryAnswer × (ι → Memory)
  | .check b offset len => (((buffers b).checkRange offset len).map .span, buffers)
  | .read b t offset => (((buffers b).read t offset).map (.value t), buffers)
  | .write b t offset v => stored buffers b ((buffers b).write t offset v)
  | .readBytes b offset len => (((buffers b).readBytes offset len).map .bytes, buffers)
  | .writeBytes b offset data _ => stored buffers b ((buffers b).writeBytes offset data)
  | .copy s t fromOffset toOffset len =>
    stored buffers t ((buffers s).copyInto (buffers t) fromOffset toOffset len)

/-- Accesses in order, with what each came to and the buffers at the end. -/
def runAccesses [DecidableEq ι] (buffers : ι → Memory) :
    List (MemoryAccess ι) → List (Except MemoryError MemoryAnswer) × (ι → Memory)
  | [] => ([], buffers)
  | a :: rest =>
    let (answers, last) := runAccesses (a.run buffers).2 rest
    ((a.run buffers).1 :: answers, last)

/-! ### Plain lists of bytes -/

structure BufferRange (ι : Type) where
  buffer : ι
  offset : UInt64
  len : UInt64

/-- The range does not end behind the last byte. -/
def BufferRange.Fits (lists : ι → List UInt8) (r : BufferRange ι) : Prop :=
  r.offset.toNat + r.len.toNat ≤ (lists r.buffer).length

instance (lists : ι → List UInt8) (r : BufferRange ι) : Decidable (r.Fits lists) :=
  inferInstanceAs (Decidable (_ ≤ _))

/-- Bytes and where they go. -/
structure Patch (ι : Type) where
  buffer : ι
  start : Nat
  data : List UInt8

def Patch.byte? [DecidableEq ι] (p : Patch ι) (b : ι) (i : Nat) : Option UInt8 :=
  if b = p.buffer ∧ p.start ≤ i then p.data[i - p.start]? else none

/-- The lists with the bytes of a patch in the place of as many others. -/
def patched [DecidableEq ι] (lists : ι → List UInt8) (p : Option (Patch ι)) : ι → List UInt8 :=
  fun b => (lists b).mapIdx fun i old => (p.bind fun p => p.byte? b i).getD old

def cut (list : List UInt8) (start len : Nat) : List UInt8 := (list.drop start).take len

namespace MemoryAccess

/-- The ranges of an access, in the order in which they are checked. -/
def ranges : MemoryAccess ι → List (BufferRange ι)
  | .check b offset len | .readBytes b offset len => [⟨b, offset, len⟩]
  | .read b t offset | .write b t offset _ => [⟨b, offset, UInt64.ofNat t.width⟩]
  | .writeBytes b offset data _ => [⟨b, offset, UInt64.ofNat data.length⟩]
  | .copy s t fromOffset toOffset len => [⟨s, fromOffset, len⟩, ⟨t, toOffset, len⟩]

/-- What a successful access writes. -/
def patch? (lists : ι → List UInt8) : MemoryAccess ι → Option (Patch ι)
  | .write b t offset v => some ⟨b, offset.toNat, t.encode v⟩
  | .writeBytes b offset data _ => some ⟨b, offset.toNat, data⟩
  | .copy s t fromOffset toOffset len => some ⟨t, toOffset.toNat, cut (lists s) fromOffset.toNat len.toNat⟩
  | .check .. | .read .. | .readBytes .. => none

def answer (lists : ι → List UInt8) : MemoryAccess ι → MemoryAnswer
  | .check _ offset len => .span ⟨offset.toNat, offset.toNat + len.toNat⟩
  | .read b t offset => .value t (t.decode (cut (lists b) offset.toNat t.width))
  | .readBytes b offset len => .bytes (cut (lists b) offset.toNat len.toNat)
  | .write .. | .writeBytes .. | .copy .. => .done

def runPlain [DecidableEq ι] (lists : ι → List UInt8) (a : MemoryAccess ι) :
    Except MemoryError MemoryAnswer × (ι → List UInt8) :=
  match a.ranges.find? fun r => ¬r.Fits lists with
  | some r => (.error (.outOfBounds r.offset r.len (lists r.buffer).length), lists)
  | none => (.ok (a.answer lists), patched lists (a.patch? lists))

end MemoryAccess

def runAccessesPlain [DecidableEq ι] (lists : ι → List UInt8) :
    List (MemoryAccess ι) → List (Except MemoryError MemoryAnswer) × (ι → List UInt8)
  | [] => ([], lists)
  | a :: rest =>
    let (answers, last) := runAccessesPlain (a.runPlain lists).2 rest
    ((a.runPlain lists).1 :: answers, last)

def listsOf (buffers : ι → Memory) : ι → List UInt8 := fun b => (buffers b).bytes

/-! ### One range -/

/-- No sum that does not fit 64 bits counts as one that does. -/
lemma checkRange_eq {m : Memory} {offset len : UInt64}
    (hwrap : offset.toNat + len.toNat ≤ m.size → offset.toNat + len.toNat < UInt64.size) :
    m.checkRange offset len =
      if offset.toNat + len.toNat ≤ m.size then .ok ⟨offset.toNat, offset.toNat + len.toNat⟩
      else .error (.outOfBounds offset len m.size) := by
  by_cases hfits : offset.toNat + len.toNat ≤ m.size
  · rw [if_pos hfits, Memory.checkRange_eq_ok_iff]
    exact ⟨hwrap hfits, hfits, rfl⟩
  · rw [if_neg hfits]
    cases hcheck : m.checkRange offset len with
    | error e => rw [Memory.checkRange_eq_error hcheck]
    | ok s => exact absurd (Memory.checkRange_eq_ok_iff.mp hcheck).2.1 hfits

lemma slice_eq_cut (m : Memory) (start len : Nat) : m.slice ⟨start, start + len⟩ = cut m.bytes start len := by
  unfold Memory.slice cut
  rw [Nat.add_sub_cancel_left]

lemma length_cut {list : List UInt8} {start len : Nat} (h : start + len ≤ list.length) :
    (cut list start len).length = len := by
  unfold cut
  rw [List.length_take, List.length_drop]
  omega

lemma checkRange_cases {buffers : ι → Memory} (hbuffers : ∀ b, (buffers b).size < UInt64.size)
    (r : BufferRange ι) :
    r.Fits (listsOf buffers) ∧
        (buffers r.buffer).checkRange r.offset r.len = .ok ⟨r.offset.toNat, r.offset.toNat + r.len.toNat⟩ ∨
      ¬r.Fits (listsOf buffers) ∧ (buffers r.buffer).checkRange r.offset r.len =
        .error (.outOfBounds r.offset r.len (listsOf buffers r.buffer).length) := by
  rw [checkRange_eq fun hfits => Nat.lt_of_le_of_lt hfits (hbuffers r.buffer)]
  by_cases h : r.offset.toNat + r.len.toNat ≤ (buffers r.buffer).size
  · rw [if_pos h]
    exact .inl ⟨h, rfl⟩
  · rw [if_neg h]
    exact .inr ⟨h, rfl⟩

lemma listsOf_inj {buffers others : ι → Memory} (h : listsOf buffers = listsOf others) : buffers = others := by
  funext b
  exact congrArg Memory.mk (congrFun h b)

/-- The range that an access checks last is the one it writes to, and it writes all of it. -/
lemma patch_target {lists : ι → List UInt8} {a : MemoryAccess ι} (h : ∀ r ∈ a.ranges, r.Fits lists)
    {p : Patch ι} (hp : a.patch? lists = some p) :
    ∃ r, a.ranges.getLast? = some r ∧ p.buffer = r.buffer ∧ p.start = r.offset.toNat ∧
      p.data.length = r.len.toNat := by
  cases a with
  | check | read | readBytes => cases hp
  | write b t offset v =>
    cases hp
    have hlength : (t.encode v).length = (UInt64.ofNat t.width).toNat := by
      rw [Scalar.length_encode, toNat_width]
    exact ⟨_, rfl, rfl, rfl, hlength⟩
  | writeBytes b offset data short =>
    cases hp
    have hlength : data.length = (UInt64.ofNat data.length).toNat := by
      rw [UInt64.toNat_ofNat', Nat.mod_eq_of_lt short]
    exact ⟨_, rfl, rfl, rfl, hlength⟩
  | copy s t fromOffset toOffset len =>
    cases hp
    have hsource : (⟨s, fromOffset, len⟩ : BufferRange ι).Fits lists := h _ List.mem_cons_self
    exact ⟨_, rfl, rfl, rfl, length_cut hsource⟩

lemma patch_inside {lists : ι → List UInt8} {a : MemoryAccess ι} (h : ∀ r ∈ a.ranges, r.Fits lists)
    {p : Patch ι} (hp : a.patch? lists = some p) : p.start + p.data.length ≤ (lists p.buffer).length := by
  obtain ⟨r, hlast, hbuffer, hstart, hlength⟩ := patch_target h hp
  rw [hbuffer, hstart, hlength]
  exact h r (List.mem_of_getLast? hlast)

section Patches

variable [DecidableEq ι]

lemma getElem?_patched {lists : ι → List UInt8} {p : Patch ι}
    (h : p.start + p.data.length ≤ (lists p.buffer).length) (b : ι) (i : Nat) :
    (patched lists (some p) b)[i]? = (p.byte? b i).or (lists b)[i]? := by
  unfold patched
  rw [List.getElem?_mapIdx, Option.bind_some]
  cases hbyte : p.byte? b i with
  | none => cases (lists b)[i]? <;> rfl
  | some new =>
    unfold Patch.byte? at hbyte
    split at hbyte
    next hin =>
      obtain ⟨rfl, hstart⟩ := hin
      obtain ⟨hlt, -⟩ := List.getElem?_eq_some_iff.mp hbyte
      have hi : i < (lists p.buffer).length := by omega
      rw [List.getElem?_eq_getElem hi]
      rfl
    next => cases hbyte

lemma patched_none (lists : ι → List UInt8) : patched lists none = lists := by
  funext b
  unfold patched
  exact List.ext_getElem? fun i => by rw [List.getElem?_mapIdx]; cases (lists b)[i]? <;> rfl

lemma length_patched (lists : ι → List UInt8) (p : Option (Patch ι)) (b : ι) :
    (patched lists p b).length = (lists b).length := by
  unfold patched
  exact List.length_mapIdx

lemma listsOf_update_splice {buffers : ι → Memory} {b : ι} {start : Nat} {data : List UInt8}
    (h : start + data.length ≤ (buffers b).size) :
    listsOf (Function.update buffers b ((buffers b).splice start data)) =
      patched (listsOf buffers) (some ⟨b, start, data⟩) := by
  funext other
  apply List.ext_getElem?
  intro i
  have hinside : start + data.length ≤ (listsOf buffers b).length := h
  rw [getElem?_patched (p := ⟨b, start, data⟩) hinside other i]
  unfold listsOf
  by_cases hb : other = b
  · subst hb
    rw [Function.update_self, splice_getElem? h]
    by_cases hstart : start ≤ i
    · have hbyte : Patch.byte? ⟨other, start, data⟩ other i = data[i - start]? := if_pos ⟨rfl, hstart⟩
      rw [hbyte, if_neg (Nat.not_lt.mpr hstart)]
      by_cases hend : i < start + data.length
      · have hin : i - start < data.length := by omega
        rw [if_pos hend, List.getElem?_eq_getElem hin, Option.some_or]
      · have hout : data.length ≤ i - start := by omega
        rw [if_neg hend, List.getElem?_eq_none hout, Option.none_or]
    · have hbyte : Patch.byte? ⟨other, start, data⟩ other i = none := if_neg fun hin => hstart hin.2
      rw [hbyte, if_pos (Nat.lt_of_not_le hstart), Option.none_or]
  · have hbyte : Patch.byte? ⟨b, start, data⟩ other i = none := if_neg fun hin => hb hin.1
    rw [Function.update_of_ne hb, hbyte, Option.none_or]

end Patches

/-! ### Accesses -/

section Accesses

variable [DecidableEq ι]

lemma runPlain_of_fits {lists : ι → List UInt8} {a : MemoryAccess ι} (h : ∀ r ∈ a.ranges, r.Fits lists) :
    a.runPlain lists = (.ok (a.answer lists), patched lists (a.patch? lists)) := by
  have hnone : (a.ranges.find? fun r => ¬r.Fits lists) = none := by
    rw [List.find?_eq_none]
    intro r hr
    rw [decide_eq_true_eq, not_not]
    exact h r hr
  unfold MemoryAccess.runPlain
  rw [hnone]

lemma runPlain_of_leaves {lists : ι → List UInt8} {a : MemoryAccess ι} {before after : List (BufferRange ι)}
    {r : BufferRange ι} (hranges : a.ranges = before ++ r :: after) (hbefore : ∀ q ∈ before, q.Fits lists)
    (hr : ¬r.Fits lists) :
    a.runPlain lists = (.error (.outOfBounds r.offset r.len (lists r.buffer).length), lists) := by
  have hsome : (a.ranges.find? fun r => ¬r.Fits lists) = some r := by
    rw [hranges, List.find?_eq_some_iff_append]
    refine ⟨decide_eq_true hr, before, after, rfl, fun q hq => ?_⟩
    rw [decide_eq_false (not_not.mpr (hbefore q hq))]
    rfl
  unfold MemoryAccess.runPlain
  rw [hsome]

lemma runPlain_of_first_leaves {lists : ι → List UInt8} {a : MemoryAccess ι} {after : List (BufferRange ι)}
    {r : BufferRange ι} (hranges : a.ranges = r :: after) (hr : ¬r.Fits lists) :
    a.runPlain lists = (.error (.outOfBounds r.offset r.len (lists r.buffer).length), lists) := by
  have hsplit : a.ranges = [] ++ r :: after := hranges
  exact runPlain_of_leaves hsplit (List.forall_mem_nil _) hr

section Buffers

variable {buffers : ι → Memory} {a : MemoryAccess ι} {r : BufferRange ι}

/-- An access that looks at one range. -/
lemma run_of_look (hbuffers : ∀ b, (buffers b).size < UInt64.size) {f : Span → MemoryAnswer}
    (hranges : a.ranges = [r]) (hpatch : a.patch? (listsOf buffers) = none)
    (hrun : a.run buffers = (((buffers r.buffer).checkRange r.offset r.len).map f, buffers))
    (hanswer : a.answer (listsOf buffers) = f ⟨r.offset.toNat, r.offset.toNat + r.len.toNat⟩) :
    ((a.run buffers).1, listsOf (a.run buffers).2) = a.runPlain (listsOf buffers) := by
  rcases checkRange_cases hbuffers r with ⟨hfits, hcheck⟩ | ⟨hleaves, hcheck⟩
  · have hall : ∀ q ∈ a.ranges, q.Fits (listsOf buffers) := by
      rw [hranges]
      exact List.forall_mem_singleton.mpr hfits
    rw [hrun, hcheck, runPlain_of_fits hall, hpatch, patched_none, hanswer]
    rfl
  · rw [hrun, hcheck, runPlain_of_first_leaves hranges hleaves]
    rfl

lemma stored_error (buffers : ι → Memory) (b : ι) (e : MemoryError) :
    stored buffers b (.error e, buffers b) = (.error e, buffers) := by
  unfold stored
  rw [Function.update_eq_self]
  rfl

/-- An access that writes to one range. -/
lemma run_of_store (hbuffers : ∀ b, (buffers b).size < UInt64.size) {data : List UInt8}
    (hranges : a.ranges = [r]) (hpatch : a.patch? (listsOf buffers) = some ⟨r.buffer, r.offset.toNat, data⟩)
    (hrun : a.run buffers = stored buffers r.buffer
      ((buffers r.buffer).putIn data ((buffers r.buffer).checkRange r.offset r.len)))
    (hanswer : a.answer (listsOf buffers) = .done) (hlength : data.length = r.len.toNat) :
    ((a.run buffers).1, listsOf (a.run buffers).2) = a.runPlain (listsOf buffers) := by
  rcases checkRange_cases hbuffers r with ⟨hfits, hcheck⟩ | ⟨hleaves, hcheck⟩
  · have hall : ∀ q ∈ a.ranges, q.Fits (listsOf buffers) := by
      rw [hranges]
      exact List.forall_mem_singleton.mpr hfits
    have hinside : r.offset.toNat + data.length ≤ (buffers r.buffer).size := by
      rw [hlength]
      exact hfits
    rw [hrun, hcheck, runPlain_of_fits hall, hpatch, hanswer, ← listsOf_update_splice hinside]
    rfl
  · rw [hrun, hcheck, runPlain_of_first_leaves hranges hleaves, Memory.putIn, stored_error]

lemma run_copy (hbuffers : ∀ b, (buffers b).size < UInt64.size) {s t : ι} {fromOffset toOffset len : UInt64}
    (ha : a = .copy s t fromOffset toOffset len) :
    ((a.run buffers).1, listsOf (a.run buffers).2) = a.runPlain (listsOf buffers) := by
  have hranges : a.ranges = [⟨s, fromOffset, len⟩] ++ ⟨t, toOffset, len⟩ :: [] := by rw [ha]; rfl
  have hrun : a.run buffers = stored buffers t ((buffers s).copyInto (buffers t) fromOffset toOffset len) := by
    rw [ha]
    rfl
  unfold Memory.copyInto at hrun
  rcases checkRange_cases hbuffers ⟨s, fromOffset, len⟩ with ⟨hfrom, hsource⟩ | ⟨hfrom, hsource⟩
  · rcases checkRange_cases hbuffers ⟨t, toOffset, len⟩ with ⟨hto, htarget⟩ | ⟨hto, htarget⟩
    · have hall : ∀ q ∈ a.ranges, q.Fits (listsOf buffers) := by
        rw [hranges]
        exact List.forall_mem_cons.mpr ⟨hfrom, List.forall_mem_singleton.mpr hto⟩
      have hpatch : a.patch? (listsOf buffers) =
          some ⟨t, toOffset.toNat, (buffers s).slice ⟨fromOffset.toNat, fromOffset.toNat + len.toNat⟩⟩ := by
        rw [ha, slice_eq_cut]
        rfl
      have hanswer : a.answer (listsOf buffers) = .done := by rw [ha]; rfl
      have hinside : toOffset.toNat +
          ((buffers s).slice ⟨fromOffset.toNat, fromOffset.toNat + len.toNat⟩).length ≤ (buffers t).size := by
        rw [length_slice hsource]
        exact hto
      rw [hsource, htarget] at hrun
      rw [hrun, runPlain_of_fits hall, hpatch, hanswer, ← listsOf_update_splice hinside]
      rfl
    · rw [hsource, htarget] at hrun
      dsimp only [Memory.putIn] at hrun
      rw [hrun, runPlain_of_leaves hranges (List.forall_mem_singleton.mpr hfrom) hto, stored_error]
  · rw [hsource] at hrun
    rw [hrun, runPlain_of_first_leaves hranges hfrom, stored_error]

lemma run_eq_runPlain (hbuffers : ∀ b, (buffers b).size < UInt64.size) (a : MemoryAccess ι) :
    ((a.run buffers).1, listsOf (a.run buffers).2) = a.runPlain (listsOf buffers) := by
  cases a with
  | check b offset len => exact run_of_look hbuffers rfl rfl rfl rfl
  | read b t offset =>
    apply run_of_look hbuffers (f := fun s => .value t (t.decode ((buffers b).slice s))) rfl rfl
    · rw [MemoryAccess.run, Memory.read]
      cases (buffers b).checkRange offset (UInt64.ofNat t.width) <;> rfl
    · rw [slice_eq_cut, toNat_width]
      rfl
  | write b t offset v =>
    apply run_of_store hbuffers rfl rfl rfl rfl
    rw [Scalar.length_encode, toNat_width]
  | readBytes b offset len =>
    apply run_of_look hbuffers (f := fun s => .bytes ((buffers b).slice s)) rfl rfl
    · rw [MemoryAccess.run, Memory.readBytes]
      cases (buffers b).checkRange offset len <;> rfl
    · rw [slice_eq_cut]
      rfl
  | writeBytes b offset data short =>
    apply run_of_store hbuffers rfl rfl rfl rfl
    rw [UInt64.toNat_ofNat', Nat.mod_eq_of_lt short]
  | copy s t fromOffset toOffset len => exact run_copy hbuffers rfl

/-- What is known of one access: when it succeeds, what it changes then, and what it reports else. -/
structure AccessLaw (buffers : ι → Memory) (a : MemoryAccess ι) : Prop where
  succeeds : (∃ answer, (a.run buffers).1 = .ok answer) ↔
    ∀ r ∈ a.ranges, r.offset.toNat + r.len.toNat ≤ (buffers r.buffer).size
  failed : ∀ e, (a.run buffers).1 = .error e → (a.run buffers).2 = buffers ∧
    ∃ before r after, a.ranges = before ++ r :: after ∧
      (∀ q ∈ before, q.offset.toNat + q.len.toNat ≤ (buffers q.buffer).size) ∧
      (buffers r.buffer).size < r.offset.toNat + r.len.toNat ∧
      e = .outOfBounds r.offset r.len (buffers r.buffer).size
  size : ∀ b, ((a.run buffers).2 b).size = (buffers b).size
  target : (∃ answer, (a.run buffers).1 = .ok answer) → ∀ p, a.patch? (listsOf buffers) = some p →
    ∃ r, a.ranges.getLast? = some r ∧ p.buffer = r.buffer ∧ p.start = r.offset.toNat ∧
      p.data.length = r.len.toNat
  bytes : (∃ answer, (a.run buffers).1 = .ok answer) → ∀ b i, ((a.run buffers).2 b).bytes[i]? =
    ((a.patch? (listsOf buffers)).bind fun p => p.byte? b i).or (buffers b).bytes[i]?

lemma accessLaw_of_fits (hbuffers : ∀ b, (buffers b).size < UInt64.size)
    (hfits : ∀ r ∈ a.ranges, r.Fits (listsOf buffers)) : AccessLaw buffers a := by
  have hrun := run_eq_runPlain hbuffers a
  rw [runPlain_of_fits hfits] at hrun
  obtain ⟨hanswer, hlists⟩ := Prod.ext_iff.mp hrun
  dsimp only at hanswer hlists
  have hbytes : ∀ b, ((a.run buffers).2 b).bytes = patched (listsOf buffers) (a.patch? (listsOf buffers)) b :=
    congrFun hlists
  refine ⟨⟨fun _ => hfits, fun _ => ⟨_, hanswer⟩⟩, fun e he => ?_, fun b => ?_,
    fun _ p => patch_target hfits, fun _ b i => ?_⟩
  · rw [hanswer] at he
    cases he
  · unfold Memory.size
    rw [hbytes, length_patched]
    rfl
  · rw [hbytes]
    cases hp : a.patch? (listsOf buffers) with
    | none => rw [patched_none, Option.bind_none, Option.none_or]; rfl
    | some p => rw [getElem?_patched (patch_inside hfits hp), Option.bind_some]; rfl

lemma accessLaw_of_leaves (hbuffers : ∀ b, (buffers b).size < UInt64.size) {before after : List (BufferRange ι)}
    (hranges : a.ranges = before ++ r :: after) (hbefore : ∀ q ∈ before, q.Fits (listsOf buffers))
    (hr : ¬r.Fits (listsOf buffers)) : AccessLaw buffers a := by
  have hrun := run_eq_runPlain hbuffers a
  rw [runPlain_of_leaves hranges hbefore hr] at hrun
  obtain ⟨hanswer, hlists⟩ := Prod.ext_iff.mp hrun
  dsimp only at hanswer hlists
  have hsame : (a.run buffers).2 = buffers := listsOf_inj hlists
  have hfails : ¬∃ answer, (a.run buffers).1 = .ok answer := by
    rintro ⟨answer, h⟩
    rw [hanswer] at h
    cases h
  have hmem : r ∈ a.ranges := by
    rw [hranges]
    exact List.mem_append_right before List.mem_cons_self
  refine ⟨iff_of_false hfails fun h => hr (h r hmem), fun e he => ?_, fun b => ?_,
    fun h => absurd h hfails, fun h => absurd h hfails⟩
  · rw [hanswer] at he
    cases he
    exact ⟨hsame, before, r, after, hranges, hbefore, Nat.lt_of_not_le hr, rfl⟩
  · rw [hsame]

lemma accessLaw (hbuffers : ∀ b, (buffers b).size < UInt64.size) (a : MemoryAccess ι) : AccessLaw buffers a := by
  cases hfind : a.ranges.find? fun r => ¬r.Fits (listsOf buffers) with
  | none =>
    have hfits : ∀ r ∈ a.ranges, r.Fits (listsOf buffers) := by simpa using hfind
    exact accessLaw_of_fits hbuffers hfits
  | some r =>
    obtain ⟨hr, before, after, hranges, hbefore⟩ := List.find?_eq_some_iff_append.mp hfind
    have hfits : ∀ q ∈ before, q.Fits (listsOf buffers) := by simpa using hbefore
    exact accessLaw_of_leaves hbuffers hranges hfits (of_decide_eq_true hr)

end Buffers

/-! ### Runs -/

variable {buffers : ι → Memory}

lemma addressable_run (hbuffers : ∀ b, (buffers b).size < UInt64.size) (a : MemoryAccess ι) (b : ι) :
    ((a.run buffers).2 b).size < UInt64.size := by
  rw [(accessLaw hbuffers a).size]
  exact hbuffers b

lemma size_runAccesses (hbuffers : ∀ b, (buffers b).size < UInt64.size) (accesses : List (MemoryAccess ι))
    (b : ι) : ((runAccesses buffers accesses).2 b).size = (buffers b).size := by
  induction accesses generalizing buffers with
  | nil => rfl
  | cons a rest ih =>
    exact (ih (addressable_run hbuffers a)).trans ((accessLaw hbuffers a).size b)

lemma runAccesses_eq_plain (hbuffers : ∀ b, (buffers b).size < UInt64.size)
    (accesses : List (MemoryAccess ι)) :
    ((runAccesses buffers accesses).1, listsOf (runAccesses buffers accesses).2) =
      runAccessesPlain (listsOf buffers) accesses := by
  induction accesses generalizing buffers with
  | nil => rfl
  | cons a rest ih =>
    obtain ⟨hanswer, hlists⟩ := Prod.ext_iff.mp (run_eq_runPlain hbuffers a)
    dsimp only at hanswer hlists
    rw [runAccessesPlain, ← hlists, ← hanswer, ← ih (addressable_run hbuffers a)]
    rfl

/-- Buffers under any accesses are plain lists of bytes, and whatever came before, an access either does
all that it should or nothing. -/
theorem memory_accesses (hbuffers : ∀ b, (buffers b).size < UInt64.size) (accesses : List (MemoryAccess ι)) :
    ((runAccesses buffers accesses).1, listsOf (runAccesses buffers accesses).2) =
        runAccessesPlain (listsOf buffers) accesses ∧
      ∀ before a after, accesses = before ++ a :: after → AccessLaw (runAccesses buffers before).2 a := by
  refine ⟨runAccesses_eq_plain hbuffers accesses, fun before a _ _ => accessLaw (fun b => ?_) a⟩
  rw [size_runAccesses hbuffers]
  exact hbuffers b

end Accesses

/-! Two buffers of four bytes. The first two copies have one range that leaves its buffer, and the sum of
the last offset and length is 2^64. -/

def pairOfBuffers : Bool → Memory
  | false => ⟨[1, 2, 3, 4]⟩
  | true => Memory.zeroed 4

def edgeAccesses : List (MemoryAccess Bool) :=
  [.check false 4 0, .copy false true 2 0 3, .copy false true 0 3 2, .copy false true 1 1 3,
    .write false .i16 2 (-2), .check true 18446744073709551615 1]

theorem memory_accesses_edges :
    (∀ b, (pairOfBuffers b).size < UInt64.size) ∧
      (((runAccesses pairOfBuffers edgeAccesses).1, listsOf (runAccesses pairOfBuffers edgeAccesses).2) =
        runAccessesPlain (listsOf pairOfBuffers) edgeAccesses) ∧
      (∀ before a after, edgeAccesses = before ++ a :: after → AccessLaw (runAccesses pairOfBuffers before).2 a) ∧
      (runAccesses pairOfBuffers edgeAccesses).1 = [.ok (.span ⟨4, 4⟩), .error (.outOfBounds 2 3 4),
        .error (.outOfBounds 3 2 4), .ok .done, .ok .done,
        .error (.outOfBounds 18446744073709551615 1 4)] ∧
      listsOf (runAccesses pairOfBuffers edgeAccesses).2 false = [1, 2, 254, 255] ∧
      listsOf (runAccesses pairOfBuffers edgeAccesses).2 true = [0, 2, 3, 4] := by
  have hbuffers : ∀ b, (pairOfBuffers b).size < UInt64.size := by decide
  obtain ⟨hplain, hlaws⟩ := memory_accesses hbuffers edgeAccesses
  exact ⟨hbuffers, hplain, hlaws, rfl, rfl, rfl⟩

end GuestBridge.Proofs
