import GuestBridge.Proofs.MemoryAccess
import GuestBridge.Syscall.Builtin

/-!
# The calls that act

A routine that acts looks up the words of its call by their indices. A call with as many words as the
routine takes is one equation here, in which the words have names and no index is left.
-/

namespace GuestBridge.Proofs
open Services

/-- What the guest is told of a delivery. -/
def eventReturn (d : Event.Delivery) : Except CallFailure Return :=
  (d.answer.map fun delivered => ⟨.i32, if delivered then (1 : Word) else 0⟩).mapError memoryFailure

lemma call_getEvent (ctx : CallContext) (s : CallState) (addr : Word) :
    (Routine.action [.ptr] getEvent).call ctx s [addr] =
      let d := Event.deliver s.events s.memory addr
      ⟨eventReturn d, { s with memory := d.memory, events := d.queue }, d.log ctx.trace⟩ := by
  have hword : wordAt [addr] 0 = .ok addr := rfl
  have hresult (d : Event.Delivery) :
      ((d.answer.map fun delivered => if delivered then (1 : Word) else 0).mapError memoryFailure).map
        (fun w => (⟨.i32, w⟩ : Return)) = eventReturn d := by
    unfold eventReturn
    cases d.answer with
    | error e => rfl
    | ok delivered => rfl
  unfold Routine.call getEvent
  dsimp only
  rw [hword]
  dsimp only [withRead]
  rw [hresult]

/-- The size that a guest is told of the data at its handle. -/
def toldSize (resources : ResourceTable) (handle : Word) : Word :=
  match data? resources handle with
  | some data => Int32.ofNat (min data.size 0x7FFFFFFF)
  | none => -1

lemma call_getDataSize (ctx : CallContext) (s : CallState) (handle : Word) :
    (Routine.action [.i32] getDataSize).call ctx s [handle] =
      ⟨.ok ⟨.i32, toldSize ctx.resources handle⟩, s, []⟩ := rfl

lemma offsetAt_eq {ws : List Word} {i : Nat} {w : Word} (hw : wordAt ws i = .ok w) :
    offsetAt ws i = (Memory.guestOffset w).mapError memoryFailure := by
  unfold offsetAt
  rw [hw]
  rfl

/-- The handle is looked at first, and then the other words in their order. -/
lemma dataCopy_words (resources : ResourceTable) (handle dst off size : Word) :
    dataCopy resources [handle, dst, off, size] =
      match data? resources handle with
      | none => .error (.returned (.notFound .binary handle))
      | some source => (do return ⟨handle, source, ← Memory.guestOffset dst, ← Memory.guestOffset off,
          ← Memory.guestOffset size⟩ : Except MemoryError DataCopy).mapError memoryFailure := by
  have hhandle : wordAt [handle, dst, off, size] 0 = .ok handle := rfl
  unfold dataCopy
  rw [hhandle]
  simp only [bind, Except.bind]
  cases data? resources handle with
  | none => rfl
  | some source =>
    dsimp only
    rw [offsetAt_eq (w := dst) rfl, offsetAt_eq (w := off) rfl, offsetAt_eq (w := size) rfl]
    cases Memory.guestOffset dst with
    | error e => rfl
    | ok d =>
      cases Memory.guestOffset off with
      | error e => rfl
      | ok o => cases Memory.guestOffset size <;> rfl

/-- What a call for a part of the data comes to: an error before the copy, or what the copy came to. -/
def dataCopied (resources : ResourceTable) (m : Memory) (handle dst off size : Word) :
    Except CallFailure Unit × Memory :=
  match dataCopy resources [handle, dst, off, size] with
  | .error e => (.error e, m)
  | .ok copy =>
    let (result, m) := copy.source.copyInto m copy.off copy.dst copy.size
    (result.mapError memoryFailure, m)

lemma call_readData (ctx : CallContext) (s : CallState) (handle dst off size : Word) :
    ∃ log, (Routine.action [.i32, .ptr, .i32, .i32] readData).call ctx s [handle, dst, off, size] =
      ⟨(dataCopied ctx.resources s.memory handle dst off size).1.map fun _ => ⟨.i32, (0 : Word)⟩,
        { s with memory := (dataCopied ctx.resources s.memory handle dst off size).2 }, log⟩ := by
  unfold Routine.call readData dataCopied
  dsimp only
  cases dataCopy ctx.resources [handle, dst, off, size] with
  | error e => exact ⟨[], rfl⟩
  | ok copy =>
    dsimp only [withRead]
    obtain ⟨result, m⟩ := copy.source.copyInto s.memory copy.off copy.dst copy.size
    cases result with
    | error e => exact ⟨_, rfl⟩
    | ok done => exact ⟨_, rfl⟩

lemma call_panic (ctx : CallContext) (s : CallState) (code addr : Word) :
    (Routine.action [.i32, .ptr] Services.panic).call ctx s [code, addr] =
      let text := messageAt s.memory addr
      let message := text.toOption.getD ""
      let dispatch := ctx.host.runBlocking (runHook ctx.hook ⟨code, message⟩) s
      ⟨.error (.returned (.guestPanic code message)), dispatch.1,
        messageLog addr text ++ [Log.error s!"guest panic {code}: {message}"] ++ dispatch.2⟩ := rfl

/-- The routines that act and come with the bridge. -/
inductive IsService : SyscallId → Routine → Prop where
  | getEvent : IsService .getEvent (.action [.ptr] getEvent)
  | getDataSize : IsService .getDataSize (.action [.i32] getDataSize)
  | readData : IsService .readData (.action [.i32, .ptr, .i32, .i32] readData)
  | panic : IsService .panic (.action [.i32, .ptr] Services.panic)

lemma arithmetic_or_service {g : SyscallGroup} (hg : g ∈ SyscallGroup.builtin) {id : SyscallId} {r : Routine}
    (hr : (id, r) ∈ g.routines) :
    g ∈ [Arithmetic.doubleGroup, Arithmetic.singleGroup, Arithmetic.elementaryGroup] ∨ IsService id r := by
  have hsplit : g ∈ [Arithmetic.doubleGroup, Arithmetic.singleGroup, Arithmetic.elementaryGroup] ∨
      g ∈ [eventGroup, resourceGroup, systemGroup] := List.mem_append.mp hg
  refine hsplit.imp_right fun hservice => ?_
  simp only [List.mem_cons, List.not_mem_nil, or_false] at hservice
  rcases hservice with rfl | rfl | rfl
  · simp only [eventGroup, List.mem_cons, List.not_mem_nil, or_false, Prod.mk.injEq] at hr
    obtain ⟨rfl, rfl⟩ := hr
    exact .getEvent
  · simp only [resourceGroup, List.mem_cons, List.not_mem_nil, or_false, Prod.mk.injEq] at hr
    rcases hr with ⟨rfl, rfl⟩ | ⟨rfl, rfl⟩
    · exact .getDataSize
    · exact .readData
  · simp only [systemGroup, List.mem_cons, List.not_mem_nil, or_false, Prod.mk.injEq] at hr
    obtain ⟨rfl, rfl⟩ := hr
    exact .panic

/-! ### The ends of a copy -/

lemma copyInto_guest (data m : Memory) (off dst size : Word) :
    data.copyInto m (UInt64.ofNat off.toInt.toNat) (UInt64.ofNat dst.toInt.toNat) (UInt64.ofNat size.toInt.toNat) =
      if off.toInt.toNat + size.toInt.toNat ≤ data.size then
        if dst.toInt.toNat + size.toInt.toNat ≤ m.size then
          (.ok (), m.splice dst.toInt.toNat (cut data.bytes off.toInt.toNat size.toInt.toNat))
        else (.error (.outOfBounds (UInt64.ofNat dst.toInt.toNat) (UInt64.ofNat size.toInt.toNat) m.size), m)
      else (.error (.outOfBounds (UInt64.ofNat off.toInt.toNat) (UInt64.ofNat size.toInt.toNat) data.size), m) := by
  have hoff := off.toInt_lt
  have hdst := dst.toInt_lt
  have hsize := size.toInt_lt
  have hwords : UInt64.size = 18446744073709551616 := rfl
  unfold Memory.copyInto
  rw [checkRange_eq (by rw [toNat_guestOffset, toNat_guestOffset]; omega),
    checkRange_eq (by rw [toNat_guestOffset, toNat_guestOffset]; omega), toNat_guestOffset, toNat_guestOffset,
    toNat_guestOffset]
  by_cases hinData : off.toInt.toNat + size.toInt.toNat ≤ data.size
  · rw [if_pos hinData, if_pos hinData, ← slice_eq_cut]
    by_cases hinMemory : dst.toInt.toNat + size.toInt.toNat ≤ m.size
    · rw [if_pos hinMemory, if_pos hinMemory]
      rfl
    · rw [if_neg hinMemory, if_neg hinMemory]
      rfl
  · rw [if_neg hinData, if_neg hinData]

/-- The first negative word of a list stops a routine that looks at the words in their order. -/
lemma guestOffset_bind_of_negative {α : Type} {addr w : Word} {rest : List Word}
    {f : UInt64 → Except MemoryError α} (hneg : (addr :: rest).find? (fun w => w.toInt < 0) = some w)
    (hrest : rest.find? (fun w => w.toInt < 0) = some w →
      f (UInt64.ofNat addr.toInt.toNat) = .error (.negativeAddress w)) :
    Memory.guestOffset addr >>= f = .error (.negativeAddress w) := by
  rw [List.find?_cons] at hneg
  by_cases hsign : addr.toInt < 0
  · simp only [decide_eq_true hsign] at hneg
    cases hneg
    rw [guestOffset_of_negative hsign]
    rfl
  · simp only [decide_eq_false hsign] at hneg
    rw [guestOffset_of_nonneg (Int.not_lt.mp hsign)]
    exact hrest hneg

lemma signs_or_negative (words : List Word) :
    (∀ w ∈ words, 0 ≤ w.toInt) ∨ ∃ w, words.find? (fun w => w.toInt < 0) = some w := by
  cases hfind : words.find? fun w => w.toInt < 0 with
  | none =>
    refine .inl fun w hw => Int.not_lt.mp fun hneg => ?_
    exact List.find?_eq_none.mp hfind w hw (decide_eq_true hneg)
  | some w => exact .inr ⟨w, rfl⟩

lemma find?_negative_ne_some {words : List Word} (hsigns : ∀ w ∈ words, 0 ≤ w.toInt) (w : Word) :
    words.find? (fun w => w.toInt < 0) ≠ some w := by
  intro h
  have hneg : w.toInt < 0 := of_decide_eq_true (List.find?_some (p := fun w : Word => w.toInt < 0) h)
  exact absurd (hsigns w (List.mem_of_find?_eq_some h)) (Int.not_le.mpr hneg)

/-- How a call for a part of the data ends. Nothing is copied unless all of it can be. -/
inductive CopyEnds (resources : ResourceTable) (m : Memory) (handle dst off size : Word) : Prop where
  | missing (hdata : data? resources handle = none)
    (h : dataCopied resources m handle dst off size = (.error (.returned (.notFound .binary handle)), m))
  | negative (data : Memory) (hdata : data? resources handle = some data) (w : Word)
    (hneg : [dst, off, size].find? (fun w => w.toInt < 0) = some w)
    (h : dataCopied resources m handle dst off size = (.error (.returned (.memory (.negativeAddress w))), m))
  | behindData (data : Memory) (hdata : data? resources handle = some data)
    (hsigns : ∀ w ∈ [dst, off, size], 0 ≤ w.toInt) (hoff : data.size < off.toInt.toNat + size.toInt.toNat)
    (h : dataCopied resources m handle dst off size = (.error (.returned (.memory
      (.outOfBounds (UInt64.ofNat off.toInt.toNat) (UInt64.ofNat size.toInt.toNat) data.size))), m))
  | behindMemory (data : Memory) (hdata : data? resources handle = some data)
    (hsigns : ∀ w ∈ [dst, off, size], 0 ≤ w.toInt) (hoff : off.toInt.toNat + size.toInt.toNat ≤ data.size)
    (hdst : m.size < dst.toInt.toNat + size.toInt.toNat)
    (h : dataCopied resources m handle dst off size = (.error (.returned (.memory
      (.outOfBounds (UInt64.ofNat dst.toInt.toNat) (UInt64.ofNat size.toInt.toNat) m.size))), m))
  | copied (data : Memory) (hdata : data? resources handle = some data)
    (hsigns : ∀ w ∈ [dst, off, size], 0 ≤ w.toInt) (hoff : off.toInt.toNat + size.toInt.toNat ≤ data.size)
    (hdst : dst.toInt.toNat + size.toInt.toNat ≤ m.size)
    (h : dataCopied resources m handle dst off size =
      (.ok (), m.splice dst.toInt.toNat (cut data.bytes off.toInt.toNat size.toInt.toNat)))

section Ends

variable {resources : ResourceTable} {data : Memory} {handle dst off size : Word}

lemma dataCopy_of_negative (hdata : data? resources handle = some data) {w : Word}
    (hneg : [dst, off, size].find? (fun w => w.toInt < 0) = some w) :
    dataCopy resources [handle, dst, off, size] = .error (.returned (.memory (.negativeAddress w))) := by
  rw [dataCopy_words, hdata]
  refine congrArg (Except.mapError memoryFailure) (guestOffset_bind_of_negative hneg fun hneg => ?_)
  refine guestOffset_bind_of_negative hneg fun hneg => ?_
  exact guestOffset_bind_of_negative hneg nofun

lemma dataCopy_of_nonneg (hdata : data? resources handle = some data)
    (hsigns : ∀ w ∈ [dst, off, size], 0 ≤ w.toInt) :
    dataCopy resources [handle, dst, off, size] = .ok ⟨handle, data, UInt64.ofNat dst.toInt.toNat,
      UInt64.ofNat off.toInt.toNat, UInt64.ofNat size.toInt.toNat⟩ := by
  simp only [List.forall_mem_cons] at hsigns
  obtain ⟨hdst, hoff, hsize, -⟩ := hsigns
  rw [dataCopy_words, hdata, guestOffset_of_nonneg hdst, guestOffset_of_nonneg hoff, guestOffset_of_nonneg hsize]
  rfl

lemma copyEnds (resources : ResourceTable) (m : Memory) (handle dst off size : Word) :
    CopyEnds resources m handle dst off size := by
  cases hdata : data? resources handle with
  | none =>
    apply CopyEnds.missing hdata
    rw [dataCopied, dataCopy_words, hdata]
  | some data =>
    rcases signs_or_negative [dst, off, size] with hsigns | ⟨w, hneg⟩
    · have hcopied : dataCopied resources m handle dst off size =
          ((data.copyInto m (UInt64.ofNat off.toInt.toNat) (UInt64.ofNat dst.toInt.toNat)
            (UInt64.ofNat size.toInt.toNat)).1.mapError memoryFailure,
          (data.copyInto m (UInt64.ofNat off.toInt.toNat) (UInt64.ofNat dst.toInt.toNat)
            (UInt64.ofNat size.toInt.toNat)).2) := by
        rw [dataCopied, dataCopy_of_nonneg hdata hsigns]
      rw [copyInto_guest] at hcopied
      by_cases hoff : off.toInt.toNat + size.toInt.toNat ≤ data.size
      · rw [if_pos hoff] at hcopied
        by_cases hdst : dst.toInt.toNat + size.toInt.toNat ≤ m.size
        · rw [if_pos hdst] at hcopied
          exact .copied data hdata hsigns hoff hdst hcopied
        · rw [if_neg hdst] at hcopied
          exact .behindMemory data hdata hsigns hoff (Nat.lt_of_not_le hdst) hcopied
      · rw [if_neg hoff] at hcopied
        exact .behindData data hdata hsigns (Nat.lt_of_not_le hoff) hcopied
    · apply CopyEnds.negative data hdata w hneg
      rw [dataCopied, dataCopy_of_negative hdata hneg]

end Ends

end GuestBridge.Proofs
