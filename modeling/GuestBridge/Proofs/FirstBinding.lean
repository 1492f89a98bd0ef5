import GuestBridge.Proofs.Registration
import Mathlib.Data.List.Dedup

/-!
# The first binding wins

A table is filled by single bindings and by the registration of groups, in any order and as often as one
likes. A registration that is refused half-way leaves its front in the table, so what counts is the history
of the attempts that were made: the table holds the first of them at each identifier, for good.
-/

namespace GuestBridge.Proofs

/-! ### Calls at a table -/

inductive RegistryCall where
  | bind (a : Attempt)
  | register (g : SyscallGroup)

namespace RegistryCall

def run (reg : Registry) : RegistryCall → Except RegistryError Unit × Registry
  | .bind a => reg.bind a.group a.id a.routine
  | .register g => reg.register g

def attempts : RegistryCall → List Attempt
  | .bind a => [a]
  | .register g => Proofs.attempts g.name g.routines

end RegistryCall

lemma run_eq (reg : Registry) (c : RegistryCall) : c.run reg = bindEach reg c.attempts := by
  cases c with
  | bind a =>
    unfold RegistryCall.run RegistryCall.attempts bindEach
    dsimp only
    obtain ⟨result, next⟩ := reg.bind a.group a.id a.routine
    cases result with
    | error e => rfl
    | ok done => rfl
  | register g => exact bindAll_eq reg g.name g.routines

/-- The attempts that are made, the refused one included. -/
def attemptsMade (reg : Registry) : List Attempt → List Attempt
  | [] => []
  | a :: rest =>
    match reg.bind a.group a.id a.routine with
    | (.ok _, next) => a :: attemptsMade next rest
    | (.error _, _) => [a]

def tableAfter (reg : Registry) : List RegistryCall → Registry
  | [] => reg
  | c :: rest => tableAfter (c.run reg).2 rest

def attemptHistory (reg : Registry) : List RegistryCall → List Attempt
  | [] => []
  | c :: rest => attemptsMade reg c.attempts ++ attemptHistory (c.run reg).2 rest

lemma table_bindEach (reg : Registry) (tried : List Attempt) :
    (bindEach reg tried).2 = extend reg (attemptsMade reg tried) := by
  induction tried generalizing reg with
  | nil => exact (extend_nil reg).symm
  | cons a rest ih =>
    unfold attemptsMade
    -- only the last attempt can be refused, and it adds nothing to the table
    cases ha : reg.binding? a.id with
    | some first =>
      rw [bindEach_of_taken ha, bind_of_taken ha]
      exact (extend_of_taken ha).symm
    | none =>
      rw [bindEach_of_free ha, bind_of_free ha, ih, extend_extend]
      rfl

lemma tableAfter_eq (reg : Registry) (calls : List RegistryCall) :
    tableAfter reg calls = extend reg (attemptHistory reg calls) := by
  induction calls generalizing reg with
  | nil => exact (extend_nil reg).symm
  | cons c rest ih =>
    rw [tableAfter, ih, attemptHistory, ← extend_extend, run_eq, table_bindEach]

lemma binding?_extend {reg : Registry} {id : SyscallId} {b : Binding} (h : reg.binding? id = some b)
    (tried : List Attempt) : (extend reg tried).binding? id = some b := by
  unfold extend
  dsimp only
  rw [h, Option.some_or]

/-! ### What a table shows -/

structure TableOf (tried : List Attempt) (reg : Registry) : Prop where
  first : ∀ id, reg.binding? id = (firstAt? tried id).map Attempt.binding
  bound : ∀ id, id ∈ reg.bound ↔ id ∈ tried.map Attempt.id
  partition : (reg.bound ++ reg.unbound).Perm SyscallId.all
  boundOrder : reg.bound.Sublist SyscallId.all
  unboundOrder : reg.unbound.Sublist SyscallId.all
  size : reg.size = (tried.map Attempt.id).dedup.length

lemma firstAt?_isSome (tried : List Attempt) (id : SyscallId) :
    (firstAt? tried id).isSome = true ↔ id ∈ tried.map Attempt.id := by
  unfold firstAt?
  simp only [List.find?_isSome, decide_eq_true_eq, List.mem_map]

lemma mem_bound_extend_empty (tried : List Attempt) (id : SyscallId) :
    id ∈ (extend .empty tried).bound ↔ id ∈ tried.map Attempt.id := by
  rw [Registry.mem_bound, Registry.isBound, extend_empty, Option.isSome_map, firstAt?_isSome]

lemma tableOf_extend (tried : List Attempt) : TableOf tried (extend .empty tried) where
  first := extend_empty tried
  bound := mem_bound_extend_empty tried
  partition := List.filter_append_perm _ _
  boundOrder := List.filter_sublist
  unboundOrder := List.filter_sublist
  size := by
    have hnodup : (extend .empty tried).bound.Nodup := SyscallId.nodup_all.filter _
    have hperm : (extend .empty tried).bound.Perm (tried.map Attempt.id).dedup :=
      (List.perm_ext_iff_of_nodup hnodup (List.nodup_dedup _)).mpr fun id => by
        rw [mem_bound_extend_empty, List.mem_dedup]
    exact hperm.length_eq

/-! ### Setting up a bridge -/

/-- The earliest attempt at an identifier that had occurred, and the one that it repeats. -/
def EarliestRepeat (tried : List Attempt) (first second : Attempt) : Prop :=
  ∃ before between after, tried = before ++ first :: between ++ second :: after ∧
    first.id = second.id ∧ ((before ++ first :: between).map Attempt.id).Nodup

lemma not_nodup_of_earliestRepeat {tried : List Attempt} {first second : Attempt}
    (h : EarliestRepeat tried first second) : ¬(tried.map Attempt.id).Nodup := by
  obtain ⟨before, between, after, rfl, hid, -⟩ := h
  intro hnodup
  rw [List.map_append] at hnodup
  refine List.disjoint_of_nodup_append hnodup (a := first.id) ?_ ?_
  · exact List.mem_map_of_mem (List.mem_append_right _ List.mem_cons_self)
  · rw [hid]
    exact List.mem_map_of_mem List.mem_cons_self

lemma build_cases (o : Bridge.Options) :
    let tried := attemptsOf o.groups
    ((tried.map Attempt.id).Nodup ∧ (Bridge.build o).1 = .ok (bridgeOf o (extend .empty tried))) ∨
    ∃ first second, EarliestRepeat tried first second ∧
      (Bridge.build o).1 = .error (.duplicateBinding second.id first.group second.group) := by
  intro tried
  have hends := bindEnds_bindEach .empty tried
  rw [build_eq]
  generalize bindEach .empty tried = out at hends
  cases hends with
  | complete fits => exact .inl ⟨fits.nodup, rfl⟩
  | refused before second after holder split fits taken =>
    rw [extend_empty, Option.map_eq_some_iff] at taken
    obtain ⟨first, hfirst, rfl⟩ := taken
    obtain ⟨hmem, hid⟩ := mem_of_firstAt? hfirst
    obtain ⟨front, between, rfl⟩ := List.append_of_mem hmem
    exact .inr ⟨first, second, ⟨front, between, after, split, hid, fits.nodup⟩, rfl⟩

/-- After any calls, a table holds the first attempt made at each identifier, and keeps it through all later
calls; another is refused in the name of the group that holds it. A bridge is set up exactly if the groups
name no identifier twice, and is otherwise refused for the earliest repetition. -/
theorem first_binding (calls : List RegistryCall) (o : Bridge.Options) :
    let reg := tableAfter .empty calls
    let tried := attemptsOf o.groups
    TableOf (attemptHistory .empty calls) reg ∧
      (∀ id b, reg.binding? id = some b → ∀ later, (tableAfter reg later).binding? id = some b) ∧
      (∀ a b, reg.binding? a.id = some b →
        (RegistryCall.bind a).run reg = (.error (.duplicateBinding a.id b.group a.group), reg)) ∧
      (∀ call : RegistryCall, BindEnds reg call.attempts (call.run reg)) ∧
      ((∃ b, (Bridge.build o).1 = .ok b) ↔ (tried.map Attempt.id).Nodup) ∧
      (∀ b, (Bridge.build o).1 = .ok b → TableOf tried b.registry) ∧
      (¬(tried.map Attempt.id).Nodup → ∃ first second, EarliestRepeat tried first second ∧
        (Bridge.build o).1 = .error (.duplicateBinding second.id first.group second.group)) := by
  intro reg tried
  refine ⟨?_, ?_, ?_, ?_, ⟨?_, ?_⟩, ?_, ?_⟩
  · rw [show reg = extend .empty (attemptHistory .empty calls) from tableAfter_eq .empty calls]
    exact tableOf_extend _
  · intro id b h later
    rw [tableAfter_eq]
    exact binding?_extend h _
  · intro a b h
    rw [run_eq]
    exact bindEach_of_taken h []
  · intro call
    rw [run_eq]
    exact bindEnds_bindEach reg call.attempts
  · rintro ⟨b, h⟩
    exact (registry_of_build h).1
  · intro hnodup
    rcases build_cases o with ⟨-, hok⟩ | ⟨first, second, hrepeat, -⟩
    · exact ⟨_, hok⟩
    · exact absurd hnodup (not_nodup_of_earliestRepeat hrepeat)
  · intro b h
    rw [(registry_of_build h).2]
    exact tableOf_extend tried
  · intro hrepeats
    rcases build_cases o with ⟨hnodup, -⟩ | hrefused
    · exact absurd hnodup hrepeats
    · exact hrefused

/-- The host binds the cosine itself, so a group stops there and leaves only its sine. -/
def halfRegistered : List RegistryCall :=
  [.bind ⟨"host", .cos, Arithmetic.unaryDouble .cos⟩, .register Arithmetic.elementaryGroup]

def registeredTwice : Bridge.Options :=
  { groups := [Arithmetic.elementaryGroup, Arithmetic.elementaryGroup], decoder := none }

theorem first_binding_halfRegistered :
    let reg := tableAfter .empty halfRegistered
    reg.bound = [.sin, .cos] ∧
      (∀ later, (tableAfter reg later).binding? .cos = some ⟨"host", Arithmetic.unaryDouble .cos⟩) ∧
      ∃ first second, EarliestRepeat (attemptsOf registeredTwice.groups) first second ∧
        (Bridge.build registeredTwice).1 = .error (.duplicateBinding second.id first.group second.group) := by
  obtain ⟨-, hkept, -, -, -, -, hrefused⟩ := first_binding halfRegistered registeredTwice
  have hrepeats : ¬((attemptsOf registeredTwice.groups).map Attempt.id).Nodup := by decide
  exact ⟨rfl, hkept .cos _ rfl, hrefused hrepeats⟩

end GuestBridge.Proofs
