import GuestBridge.Syscall.Routine

/-!
# The syscall table

The table binds identifiers to routines. Groups of related routines bind theirs when the bridge is
set up; the first binding of an identifier stays. After that the table is only read.
-/

namespace GuestBridge

/-- A routine and the group that bound it. -/
structure Binding where
  group : String
  routine : Routine

/-- The routines of each identifier. -/
structure Registry where
  binding? : SyscallId → Option Binding

/-- Routines that are bound together, in order. -/
structure SyscallGroup where
  name : String
  routines : List (SyscallId × Routine)

namespace Registry

def empty : Registry := ⟨fun _ => none⟩

/-- Binds an identifier that has no routine yet. The table is that of after it, bound or not. -/
def bind (reg : Registry) (group : String) (id : SyscallId) (routine : Routine) :
    Except RegistryError Unit × Registry :=
  match reg.binding? id with
  | some first => (.error (.duplicateBinding id first.group group), reg)
  | none =>
    (.ok (), ⟨fun other => if other = id then some ⟨group, routine⟩ else reg.binding? other⟩)

theorem binding?_of_bind {reg reg' : Registry} {group : String} {id : SyscallId} {routine : Routine}
    (h : reg.bind group id routine = (.ok (), reg')) (other : SyscallId) :
    reg'.binding? other = if other = id then some ⟨group, routine⟩ else reg.binding? other := by
  unfold bind at h
  split at h
  · simp at h
  · rw [← (Prod.mk.inj h).2]

/-- A binding is refused exactly if the identifier has one, whose group is named first, and then
nothing changes. -/
theorem bind_eq_error_iff {reg reg' : Registry} {group : String} {id : SyscallId} {routine : Routine}
    {e : RegistryError} :
    reg.bind group id routine = (.error e, reg') ↔
      ∃ first, reg.binding? id = some first ∧ e = .duplicateBinding id first.group group ∧ reg' = reg := by
  unfold bind
  split
  next first h => simp [h, eq_comm]
  next h => simp [h]

/-- Binds routines in order, up to the first conflict. What is bound before it stays bound. -/
def bindAll (reg : Registry) (group : String) :
    List (SyscallId × Routine) → Except RegistryError Unit × Registry
  | [] => (.ok (), reg)
  | (id, routine) :: rest =>
    match reg.bind group id routine with
    | (.ok _, reg) => reg.bindAll group rest
    | (.error e, reg) => (.error e, reg)

/-- Binds the routines of a group. -/
def register (reg : Registry) (group : SyscallGroup) : Except RegistryError Unit × Registry :=
  reg.bindAll group.name group.routines

def get? (reg : Registry) (id : SyscallId) : Option Routine := (reg.binding? id).map (·.routine)

def groupOf? (reg : Registry) (id : SyscallId) : Option String := (reg.binding? id).map (·.group)

def isBound (reg : Registry) (id : SyscallId) : Bool := (reg.binding? id).isSome

/-- The bound identifiers in the order of the table. -/
def bound (reg : Registry) : List SyscallId := SyscallId.all.filter reg.isBound

/-- The unbound identifiers in the order of the table. -/
def unbound (reg : Registry) : List SyscallId := SyscallId.all.filter fun id => !reg.isBound id

theorem mem_bound {reg : Registry} {id : SyscallId} : id ∈ reg.bound ↔ reg.isBound id = true := by
  simp [bound]

theorem mem_unbound {reg : Registry} {id : SyscallId} :
    id ∈ reg.unbound ↔ reg.isBound id = false := by
  simp [unbound]

def size (reg : Registry) : Nat := reg.bound.length

def isEmpty (reg : Registry) : Bool := reg.size = 0

/-- The identifier with a name. -/
def lookup (name : String) : Except RegistryError SyscallId :=
  match SyscallId.ofName? name with
  | some id => .ok id
  | none => .error (.unknownName name)

/-- A result or error as trace lines show it. -/
def resultText : Except SyscallError Return → String
  | .ok r => "Ok(" ++ r.text ++ ")"
  | .error e => "Err(" ++ e.fields ++ ")"

/-- A call with its words and what it came to, as trace lines show it. -/
def callText (id : SyscallId) (ws : List Word) (result : Except SyscallError Return) : String :=
  id.name ++ "[" ++ ", ".intercalate (ws.map fun w => toString w.toInt) ++ "] -> " ++ resultText result

/-- The trace of a call, which one that ends the program does not leave. -/
def callLog (trace : Trace) (id : SyscallId) (ws : List Word) : Except CallFailure Return → Log
  | .ok r => trace.syscallLine (callText id ws (.ok r))
  | .error (.returned e) => trace.syscallLine (callText id ws (.error e))
  | .error (.noWord _) => []

/-- Calls the routine of an identifier with argument words. -/
def invoke (reg : Registry) (ctx : CallContext) (s : CallState) (id : SyscallId) (ws : List Word) :
    Called Return :=
  match reg.get? id with
  | none =>
    ⟨.error (.returned (.registry (.unbound id))), s,
      [Log.error s!"syscall {id.name} invoked but never bound"]⟩
  | some routine =>
    if ws.length = routine.arity then
      let called := routine.call ctx s ws
      { called with log := called.log ++ callLog ctx.trace id ws called.result }
    else ⟨.error (.returned (.registry (.arity id routine.arity ws.length))), s, []⟩

theorem invoke_of_arity {reg : Registry} {id : SyscallId} {routine : Routine} {ws : List Word}
    (hid : reg.get? id = some routine) (harity : ws.length = routine.arity) (ctx : CallContext)
    (s : CallState) :
    reg.invoke ctx s id ws = { routine.call ctx s ws with
      log := (routine.call ctx s ws).log ++ callLog ctx.trace id ws (routine.call ctx s ws).result } := by
  unfold invoke
  rw [hid]
  exact if_pos harity

theorem invoke_of_arity_ne {reg : Registry} {id : SyscallId} {routine : Routine} {ws : List Word}
    (hid : reg.get? id = some routine) (harity : ws.length ≠ routine.arity) (ctx : CallContext)
    (s : CallState) :
    reg.invoke ctx s id ws =
      ⟨.error (.returned (.registry (.arity id routine.arity ws.length))), s, []⟩ := by
  unfold invoke
  rw [hid]
  exact if_neg harity

end Registry

end GuestBridge
