import GuestBridge.Proofs.Registration
import GuestBridge.Proofs.ServiceCalls
import GuestBridge.Proofs.Utf8
import Mathlib.Data.List.TakeWhile

/-!
# The last message of a guest

A text in guest memory ends in front of the first zero byte. A guest that gives up names one, and whatever
lies at the address the host is told: the hook runs once, on the host, with the code and the message that the
call then fails with. A message that cannot be read is empty.
-/

namespace GuestBridge.Proofs
open Services Text

/-- A text without a zero byte stands in the memory from a position on, and a zero byte behind it. -/
def TextAt (m : Memory) (start : Nat) (text : List UInt8) : Prop :=
  0 ∉ text ∧ text ++ [0] <+: m.bytes.drop start

/-- What reading the text at an offset comes to. -/
structure TextLaw (m : Memory) (offset : UInt64) : Prop where
  failed : ∀ e, m.readCString offset = .error e ↔
    (m.size < offset.toNat ∧ e = .outOfBounds offset 0 m.size) ∨
      (offset.toNat ≤ m.size ∧ (∀ i, offset.toNat ≤ i → m.bytes[i]? ≠ some 0) ∧ e = .unterminated offset m.size)
  read : ∀ text, m.readCString offset = .ok text ↔ TextAt m offset.toNat text
  unique : offset.toNat ≤ m.size → (∃ i, offset.toNat ≤ i ∧ m.bytes[i]? = some 0) →
    ∃! text, TextAt m offset.toNat text

/-- The text at an address, as far as there is one that can be read. -/
def lastMessage (m : Memory) (addr : Word) : String :=
  if 0 ≤ addr.toInt then
    match m.readCString (UInt64.ofNat addr.toInt.toNat) with
    | .ok text => Utf8.lenient text
    | .error _ => ""
  else ""

/-- What a call does with which a guest gives up. -/
structure GivenUp (b : Bridge) (m : Memory) (code addr : Word) (out : Bridge.Invoked) : Prop where
  result : out.result = .error (.returned (.guestPanic code (lastMessage m addr)))
  memory : out.memory = m
  told : b.host.executes = true →
    out.bridge = { b with hookRuns := b.hookRuns ++ [⟨code, lastMessage m addr⟩] }
  refused : b.host.executes = false → out.bridge = b
  /-- The hook runs as the host runs things, and leaves its lines before the call as a whole is traced. -/
  dispatched : ∃ before,
    let dispatch := b.host.runBlocking (runHook b.hook ⟨code, lastMessage m addr⟩) (b.callState m)
    out.bridge.hookRuns = dispatch.1.hookRuns ∧ out.log = before ++ dispatch.2 ++ b.trace.syscallLine
      (Registry.callText .panic [code, addr] (.error (.guestPanic code (lastMessage m addr))))

/-! ### Texts in memory -/

lemma mem_drop_iff {β : Type} {a : β} {list : List β} {start : Nat} :
    a ∈ list.drop start ↔ ∃ i, start ≤ i ∧ list[i]? = some a := by
  rw [List.mem_iff_getElem?]
  constructor
  · rintro ⟨i, hi⟩
    rw [List.getElem?_drop] at hi
    exact ⟨start + i, Nat.le_add_right start i, hi⟩
  · rintro ⟨i, hle, hi⟩
    refine ⟨i - start, ?_⟩
    rwa [List.getElem?_drop, Nat.add_sub_cancel' hle]

lemma takeWhile_of_textAt {bytes text : List UInt8} (hplain : 0 ∉ text) (h : text ++ [0] <+: bytes) :
    0 ∈ bytes ∧ bytes.takeWhile (· != 0) = text := by
  obtain ⟨rest, rfl⟩ := h
  have hplain' : ∀ b ∈ text, (b != 0) = true := by
    intro b hb
    rw [bne_iff_ne]
    rintro rfl
    exact hplain hb
  refine ⟨by simp, ?_⟩
  rw [List.append_assoc, List.takeWhile_append_of_pos hplain']
  exact List.append_nil text

lemma textAt_takeWhile {bytes : List UInt8} (h : 0 ∈ bytes) :
    0 ∉ bytes.takeWhile (· != 0) ∧ bytes.takeWhile (· != 0) ++ [0] <+: bytes := by
  refine ⟨fun hmem => ?_, ?_⟩
  · have hne := List.mem_takeWhile_imp hmem
    exact absurd hne (by decide)
  · induction bytes with
    | nil => cases h
    | cons b rest ih =>
      by_cases hb : b = 0
      · subst hb
        exact ⟨rest, rfl⟩
      · have hrest : 0 ∈ rest := (List.mem_cons.mp h).resolve_left (Ne.symm hb)
        rw [List.takeWhile_cons_of_pos (by rwa [bne_iff_ne]), List.cons_append]
        exact List.cons_prefix_cons.mpr ⟨rfl, ih hrest⟩

lemma readBytes_rest {m : Memory} (hm : m.size < UInt64.size) (offset : UInt64) :
    m.readBytes offset (UInt64.ofNat (m.size - offset.toNat)) =
      if offset.toNat ≤ m.size then .ok (m.bytes.drop offset.toNat) else .error (.outOfBounds offset 0 m.size) := by
  have hlen : (UInt64.ofNat (m.size - offset.toNat)).toNat = m.size - offset.toNat := by
    rw [UInt64.toNat_ofNat', Nat.mod_eq_of_lt (by unfold UInt64.size at hm; omega)]
  unfold Memory.readBytes
  rw [checkRange_eq fun hfits => Nat.lt_of_le_of_lt hfits hm, hlen]
  by_cases hinside : offset.toNat ≤ m.size
  · have hall : (m.bytes.drop offset.toNat).take (m.size - offset.toNat) = m.bytes.drop offset.toNat := by
      rw [List.take_of_length_le]
      rw [List.length_drop]
      exact Nat.le_refl _
    rw [if_pos (by omega), if_pos hinside, Except.map, slice_eq_cut, cut, hall]
  · have hnone : m.size - offset.toNat = 0 := by omega
    rw [if_neg (by omega), if_neg hinside, Except.map, hnone]
    rfl

/-- Reading a text in one equation. -/
lemma readCString_eq {m : Memory} (hm : m.size < UInt64.size) (offset : UInt64) :
    m.readCString offset =
      if offset.toNat ≤ m.size then
        if 0 ∈ m.bytes.drop offset.toNat then .ok ((m.bytes.drop offset.toNat).takeWhile (· != 0))
        else .error (.unterminated offset m.size)
      else .error (.outOfBounds offset 0 m.size) := by
  unfold Memory.readCString
  rw [readBytes_rest hm]
  by_cases hinside : offset.toNat ≤ m.size
  · rw [if_pos hinside, if_pos hinside]
    simp only [bind, Except.bind, List.contains_iff_mem]
  · rw [if_neg hinside, if_neg hinside]
    rfl

theorem textLaw {m : Memory} (hm : m.size < UInt64.size) (offset : UInt64) : TextLaw m offset := by
  have hread := readCString_eq hm offset
  have habsent : (∀ i, offset.toNat ≤ i → m.bytes[i]? ≠ some 0) ↔ 0 ∉ m.bytes.drop offset.toNat := by
    rw [mem_drop_iff]
    simp only [not_exists, not_and, ne_eq]
  refine ⟨fun e => ?_, fun text => ?_, fun _ hzero => ?_⟩
  · rw [hread, habsent]
    by_cases hinside : offset.toNat ≤ m.size
    · have hnot := Nat.not_lt.mpr hinside
      rw [if_pos hinside]
      by_cases hzero : 0 ∈ m.bytes.drop offset.toNat
      · rw [if_pos hzero]
        simp [hinside, hnot, hzero]
      · rw [if_neg hzero, Except.error.injEq]
        simp [hinside, hnot, hzero, eq_comm]
    · rw [if_neg hinside, Except.error.injEq]
      simp [hinside, Nat.lt_of_not_le hinside, eq_comm]
  · unfold TextAt
    rw [hread]
    constructor
    · intro h
      split at h
      · split at h
        next hzero =>
          cases h
          exact textAt_takeWhile hzero
        · cases h
      · cases h
    · rintro ⟨hplain, hplace⟩
      obtain ⟨hzero, htext⟩ := takeWhile_of_textAt hplain hplace
      have hinside : offset.toNat ≤ m.size := by
        by_contra hout
        have hempty : m.bytes.drop offset.toNat = [] := List.drop_of_length_le (Nat.le_of_not_le hout)
        rw [hempty] at hzero
        cases hzero
      rw [if_pos hinside, if_pos hzero, htext]
  · have hplace := textAt_takeWhile (mem_drop_iff.mpr hzero)
    exact ⟨_, hplace, fun text htext => (takeWhile_of_textAt htext.1 htext.2).2.symm⟩

/-! ### Giving up -/

def BindsPanic (b : Bridge) : Prop := b.registry.get? .panic = some (.action [.i32, .ptr] Services.panic)

lemma messageAt_eq (m : Memory) (addr : Word) : (messageAt m addr).toOption.getD "" = lastMessage m addr := by
  unfold messageAt lastMessage
  by_cases hsign : 0 ≤ addr.toInt
  · rw [guestOffset_of_nonneg hsign, if_pos hsign]
    simp only [bind, Except.bind]
    cases m.readCString (UInt64.ofNat addr.toInt.toNat) <;> rfl
  · rw [guestOffset_of_negative (Int.lt_of_not_ge hsign), if_neg hsign]
    rfl

/-- The call in one equation, with the hook as the host runs it. -/
lemma invoke_panic {b : Bridge} (hbound : BindsPanic b) (m : Memory) (code addr : Word) :
    b.invoke m .panic [code, addr] =
      let message := lastMessage m addr
      let dispatch := b.host.runBlocking (runHook b.hook ⟨code, message⟩) (b.callState m)
      ⟨.error (.returned (.guestPanic code message)),
        { b with events := dispatch.1.events, hookRuns := dispatch.1.hookRuns }, dispatch.1.memory,
        messageLog addr (messageAt m addr) ++ [Log.error s!"guest panic {code}: {message}"] ++ dispatch.2 ++
          b.trace.syscallLine (Registry.callText .panic [code, addr] (.error (.guestPanic code message)))⟩ := by
  have harity : [code, addr].length = (Routine.action [.i32, .ptr] Services.panic).arity := rfl
  unfold Bridge.invoke
  rw [Registry.invoke_of_arity hbound harity, call_panic]
  unfold Bridge.context Bridge.callState
  dsimp only
  rw [messageAt_eq]
  rfl

lemma givenUp_invoke {b : Bridge} (hbound : BindsPanic b) (m : Memory) (code addr : Word) :
    GivenUp b m code addr (b.invoke m .panic [code, addr]) := by
  have hrun : ∀ action : CallState → CallState × Log, b.host.runBlocking action (b.callState m) =
      if b.host.executes then action (b.callState m) else (b.callState m, HostChannel.refusalLog) := fun _ => rfl
  rw [invoke_panic hbound]
  refine ⟨rfl, ?_, fun hhost => ?_, fun hhost => ?_, _, rfl, rfl⟩
  · dsimp only
    rw [hrun]
    cases b.host.executes <;> rfl
  · dsimp only
    rw [hrun, if_pos hhost]
    rfl
  · dsimp only
    rw [hrun, hhost]
    rfl

/-- A text is what stands in front of the first zero byte, and a guest that gives up is heard with the text
at its address, or with none, whatever the memory and the words. -/
theorem panic_message {o : Bridge.Options} {built : Bridge} (hgroup : systemGroup ∈ o.groups)
    (hbuild : (Bridge.build o).1 = .ok built) (m : Memory) :
    (m.size < UInt64.size → ∀ offset, TextLaw m offset) ∧
      ∀ (resources : ResourceTable) (events : EventQueue Event) (hookRuns : List PanicReport) (code addr : Word),
        let b : Bridge := { built with resources := resources, events := events, hookRuns := hookRuns }
        GivenUp b m code addr (b.invoke m .panic [code, addr]) := by
  refine ⟨fun hm => textLaw hm, fun resources events hookRuns code addr => ?_⟩
  intro b
  have hbound : BindsPanic b := get?_of_build hbuild hgroup List.mem_cons_self
  exact givenUp_invoke hbound m code addr

/-- A message whose zero byte is the last byte of the memory, the empty text there, and an address at the end of
the memory. -/
theorem panic_message_atTheEnd :
    systemGroup ∈ ({ decoder := none } : Bridge.Options).groups ∧
      (Memory.mk [7, 72, 105, 0]).size < UInt64.size ∧
      (Memory.mk [7, 72, 105, 0]).readCString 1 = .ok [72, 105] ∧
      (Memory.mk [7, 72, 105, 0]).readCString 3 = .ok [] ∧
      (Memory.mk [7, 72, 105, 0]).readCString 4 = .error (.unterminated 4 4) ∧
      (Memory.mk [7, 72, 105, 0]).readCString 5 = .error (.outOfBounds 5 0 4) ∧
      ∃ built, (Bridge.build { decoder := none }).1 = .ok built ∧
        (built.invoke ⟨[7, 72, 105, 0]⟩ .panic [3, 1]).result = .error (.returned (.guestPanic 3 "Hi")) ∧
        (built.invoke ⟨[7, 72, 105, 0]⟩ .panic [3, 1]).bridge.hookRuns = [⟨3, "Hi"⟩] ∧
        (built.invoke ⟨[7, 72, 105, 0]⟩ .panic [3, 4]).bridge.hookRuns = [⟨3, ""⟩] := by
  have hgroup : systemGroup ∈ ({ decoder := none } : Bridge.Options).groups := by simp [SyscallGroup.builtin]
  have hbuild : (Bridge.build { decoder := none }).1 = .ok _ := rfl
  have hm : (Memory.mk [7, 72, 105, 0]).size < UInt64.size := by decide
  obtain ⟨hlaw, hcalls⟩ := panic_message hgroup hbuild ⟨[7, 72, 105, 0]⟩
  have htexts := hlaw hm
  have hmessage : lastMessage ⟨[7, 72, 105, 0]⟩ 1 = "Hi" := by
    have hlast : lastMessage ⟨[7, 72, 105, 0]⟩ 1 = Utf8.lenient [72, 105] := rfl
    rw [hlast]
    exact utf8_lenient_flatMap ['H', 'i']
  have hnone : lastMessage ⟨[7, 72, 105, 0]⟩ 4 = "" := rfl
  have hheard := hcalls .empty .empty [] 3 1
  have hunheard := hcalls .empty .empty [] 3 4
  rw [← hmessage, ← hnone]
  refine ⟨hgroup, hm, ?_, ?_, ?_, ?_, _, hbuild, hheard.result, ?_, ?_⟩
  · exact ((htexts 1).read _).mpr ⟨by decide, by decide⟩
  · exact ((htexts 3).read _).mpr ⟨by decide, by decide⟩
  · have hbehind : ∀ i, 4 ≤ i → [7, 72, 105, (0 : UInt8)][i]? ≠ some 0 := by
      intro i hi
      rw [List.getElem?_eq_none hi]
      nofun
    exact ((htexts 4).failed _).mpr (.inr ⟨by decide, hbehind, rfl⟩)
  · exact ((htexts 5).failed _).mpr (.inl ⟨by decide, rfl⟩)
  · exact congrArg (·.hookRuns) (hheard.told rfl)
  · exact congrArg (·.hookRuns) (hunheard.told rfl)

end GuestBridge.Proofs
