import GuestBridge.Bridge.Basic
import Mathlib.Tactic.Common

/-!
# How a table is filled

Everything that fills a table comes down to attempts to bind one routine, made in order up to the first
that is refused. The first attempt at an identifier takes it. So a table holds what it held before and,
where it held nothing, the first of the attempts made; and a bridge gets its table exactly if no two
attempts of its groups are at one identifier.
-/

namespace GuestBridge.Proofs

/-- What a group asks of a table: one routine under one identifier. -/
structure Attempt where
  group : String
  id : SyscallId
  routine : Routine

def Attempt.binding (a : Attempt) : Binding := ⟨a.group, a.routine⟩

def attempts (group : String) (routines : List (SyscallId × Routine)) : List Attempt :=
  routines.map fun r => ⟨group, r.1, r.2⟩

def attemptsOf (groups : List SyscallGroup) : List Attempt :=
  groups.flatMap fun g => attempts g.name g.routines

def firstAt? (tried : List Attempt) (id : SyscallId) : Option Attempt :=
  tried.find? fun a => a.id = id

lemma firstAt?_eq_of_nodup {tried : List Attempt} (h : (tried.map Attempt.id).Nodup) {a : Attempt}
    (ha : a ∈ tried) : firstAt? tried a.id = some a := by
  induction tried with
  | nil => cases ha
  | cons first rest ih =>
    obtain ⟨hnew, hrest⟩ := List.nodup_cons.mp h
    unfold firstAt?
    rcases List.mem_cons.mp ha with rfl | hmem
    · exact List.find?_cons_of_pos (decide_eq_true rfl)
    · have hne : first.id ≠ a.id := fun heq => hnew (heq ▸ List.mem_map_of_mem hmem)
      rw [List.find?_cons_of_neg (by rwa [decide_eq_true_eq])]
      exact ih hrest hmem

lemma mem_of_firstAt? {tried : List Attempt} {id : SyscallId} {a : Attempt} (h : firstAt? tried id = some a) :
    a ∈ tried ∧ a.id = id := by
  have hid := List.find?_some (p := fun a : Attempt => decide (a.id = id)) h
  exact ⟨List.mem_of_find?_eq_some h, of_decide_eq_true hid⟩

/-- A table after attempts: what was taken stays, and otherwise the first attempt counts. -/
def extend (reg : Registry) (tried : List Attempt) : Registry :=
  ⟨fun id => (reg.binding? id).or ((firstAt? tried id).map Attempt.binding)⟩

lemma registry_ext {reg reg' : Registry} (h : ∀ id, reg.binding? id = reg'.binding? id) : reg = reg' := by
  obtain ⟨binding?⟩ := reg
  congr 1
  exact funext h

lemma extend_nil (reg : Registry) : extend reg [] = reg :=
  registry_ext fun _ => Option.or_none

lemma extend_extend (reg : Registry) (tried more : List Attempt) :
    extend (extend reg tried) more = extend reg (tried ++ more) := by
  unfold extend
  simp only [firstAt?, List.find?_append, Option.map_or, Option.or_assoc]

lemma extend_empty (tried : List Attempt) (id : SyscallId) :
    (extend .empty tried).binding? id = (firstAt? tried id).map Attempt.binding :=
  Option.none_or

lemma binding?_extend_singleton (reg : Registry) (a : Attempt) (id : SyscallId) :
    (extend reg [a]).binding? id = (reg.binding? id).or (if a.id = id then some a.binding else none) := by
  unfold extend firstAt?
  dsimp only
  rw [List.find?_singleton]
  by_cases hid : a.id = id
  · rw [if_pos (decide_eq_true hid), if_pos hid, Option.map_some]
  · rw [if_neg (by rwa [decide_eq_true_eq]), if_neg hid, Option.map_none]

/-! ### One attempt -/

lemma bind_of_free {reg : Registry} {a : Attempt} (h : reg.binding? a.id = none) :
    reg.bind a.group a.id a.routine = (.ok (), extend reg [a]) := by
  rcases hbind : reg.bind a.group a.id a.routine with ⟨result, next⟩
  cases result with
  | error e =>
    obtain ⟨first, hfirst, -⟩ := Registry.bind_eq_error_iff.mp hbind
    rw [h] at hfirst
    cases hfirst
  | ok done =>
    congr 1
    refine registry_ext fun other => ?_
    rw [Registry.binding?_of_bind hbind, binding?_extend_singleton]
    by_cases hid : other = a.id
    · rw [if_pos hid, if_pos hid.symm, hid, h, Option.none_or]
      rfl
    · rw [if_neg hid, if_neg (Ne.symm hid), Option.or_none]

lemma bind_of_taken {reg : Registry} {a : Attempt} {first : Binding} (h : reg.binding? a.id = some first) :
    reg.bind a.group a.id a.routine = (.error (.duplicateBinding a.id first.group a.group), reg) :=
  Registry.bind_eq_error_iff.mpr ⟨first, h, rfl, rfl⟩

lemma extend_of_taken {reg : Registry} {a : Attempt} {first : Binding} (h : reg.binding? a.id = some first) :
    extend reg [a] = reg := by
  refine registry_ext fun other => ?_
  rw [binding?_extend_singleton]
  by_cases hid : a.id = other
  · rw [if_pos hid, ← hid, h, Option.some_or]
  · rw [if_neg hid, Option.or_none]

/-! ### Attempts in order -/

/-- Attempts in order, up to the first that is refused. -/
def bindEach (reg : Registry) : List Attempt → Except RegistryError Unit × Registry
  | [] => (.ok (), reg)
  | a :: rest =>
    match reg.bind a.group a.id a.routine with
    | (.ok _, reg) => bindEach reg rest
    | (.error e, reg) => (.error e, reg)

lemma bindEach_of_free {reg : Registry} {a : Attempt} (h : reg.binding? a.id = none) (rest : List Attempt) :
    bindEach reg (a :: rest) = bindEach (extend reg [a]) rest := by
  rw [bindEach, bind_of_free h]

lemma bindEach_of_taken {reg : Registry} {a : Attempt} {first : Binding} (h : reg.binding? a.id = some first)
    (rest : List Attempt) :
    bindEach reg (a :: rest) = (.error (.duplicateBinding a.id first.group a.group), reg) := by
  rw [bindEach, bind_of_taken h]

lemma bindAll_eq (reg : Registry) (group : String) (routines : List (SyscallId × Routine)) :
    reg.bindAll group routines = bindEach reg (attempts group routines) := by
  induction routines generalizing reg with
  | nil => rfl
  | cons r rest ih =>
    unfold Registry.bindAll attempts
    rw [List.map_cons, bindEach]
    obtain ⟨result, next⟩ := reg.bind group r.1 r.2
    cases result with
    | error e => rfl
    | ok done => exact ih next

lemma bindEach_append (reg : Registry) (front rest : List Attempt) :
    bindEach reg (front ++ rest) =
      match bindEach reg front with
      | (.ok _, next) => bindEach next rest
      | (.error e, next) => (.error e, next) := by
  induction front generalizing reg with
  | nil => rfl
  | cons a front ih =>
    rw [List.cons_append, bindEach, bindEach]
    obtain ⟨result, next⟩ := reg.bind a.group a.id a.routine
    cases result with
    | error e => rfl
    | ok done => exact ih next

lemma registerGroups_eq (reg : Registry) (groups : List SyscallGroup) :
    (Bridge.registerGroups reg groups).1 =
      (bindEach reg (attemptsOf groups)).1.map fun _ => (bindEach reg (attemptsOf groups)).2 := by
  induction groups generalizing reg with
  | nil => rfl
  | cons g rest ih =>
    rw [attemptsOf, List.flatMap_cons, bindEach_append, ← bindAll_eq, Bridge.registerGroups, Registry.register]
    cases reg.bindAll g.name g.routines with
    | mk result next =>
      cases result with
      | error e => rfl
      | ok u => exact ih next

/-- Attempts that a table takes one and all. -/
structure Fits (reg : Registry) (tried : List Attempt) : Prop where
  nodup : (tried.map Attempt.id).Nodup
  free : ∀ a ∈ tried, reg.binding? a.id = none

lemma fits_nil (reg : Registry) : Fits reg [] :=
  ⟨List.nodup_nil, fun _ ha => absurd ha List.not_mem_nil⟩

lemma fits_cons {reg : Registry} {a : Attempt} {rest : List Attempt} (hfree : reg.binding? a.id = none)
    (hrest : Fits (extend reg [a]) rest) : Fits reg (a :: rest) := by
  have hother : ∀ b ∈ rest, reg.binding? b.id = none ∧ a.id ≠ b.id := by
    intro b hb
    have h := hrest.free b hb
    rw [binding?_extend_singleton, Option.or_eq_none_iff] at h
    refine ⟨h.1, fun heq => ?_⟩
    rw [if_pos heq] at h
    cases h.2
  have hnew : a.id ∉ rest.map Attempt.id := by
    intro hmem
    obtain ⟨b, hb, heq⟩ := List.mem_map.mp hmem
    exact (hother b hb).2 heq.symm
  exact ⟨List.nodup_cons.mpr ⟨hnew, hrest.nodup⟩, List.forall_mem_cons.mpr ⟨hfree, fun b hb => (hother b hb).1⟩⟩

/-- How attempts at a table end, and with which table. -/
inductive BindEnds (reg : Registry) (tried : List Attempt) : Except RegistryError Unit × Registry → Prop where
  /-- The table takes them all. -/
  | complete (fits : Fits reg tried) : BindEnds reg tried (.ok (), extend reg tried)
  /-- The first at an identifier that is taken is refused, and no more are made. -/
  | refused (before : List Attempt) (second : Attempt) (after : List Attempt) (first : Binding)
      (split : tried = before ++ second :: after) (fits : Fits reg before)
      (taken : (extend reg before).binding? second.id = some first) :
      BindEnds reg tried (.error (.duplicateBinding second.id first.group second.group), extend reg before)

lemma bindEnds_bindEach (reg : Registry) (tried : List Attempt) : BindEnds reg tried (bindEach reg tried) := by
  induction tried generalizing reg with
  | nil =>
    have h := BindEnds.complete (fits_nil reg)
    rwa [extend_nil] at h
  | cons a rest ih =>
    cases ha : reg.binding? a.id with
    | some first =>
      have h := BindEnds.refused [] a rest first rfl (fits_nil reg) (by rwa [extend_nil])
      rw [extend_nil] at h
      rwa [bindEach_of_taken ha]
    | none =>
      -- the others are made at the table that this one extended
      rw [bindEach_of_free ha]
      have hrest := ih (extend reg [a])
      generalize bindEach (extend reg [a]) rest = out at hrest
      cases hrest with
      | complete fits =>
        rw [extend_extend]
        exact .complete (fits_cons ha fits)
      | refused before second after first split fits taken =>
        rw [extend_extend] at taken ⊢
        exact .refused (a :: before) second after first (by rw [split]; rfl) (fits_cons ha fits) taken

/-! ### Setting up a bridge -/

def bridgeOf (o : Bridge.Options) (reg : Registry) : Bridge :=
  ⟨reg, .empty, .empty, o.host, o.hook, [], o.decoder, o.trace⟩

lemma build_eq (o : Bridge.Options) :
    (Bridge.build o).1 = (bindEach .empty (attemptsOf o.groups)).1.map fun _ =>
      bridgeOf o (bindEach .empty (attemptsOf o.groups)).2 := by
  have hregister := registerGroups_eq .empty o.groups
  unfold Bridge.build
  generalize Bridge.registerGroups .empty o.groups = out at hregister
  obtain ⟨result, log⟩ := out
  dsimp only at hregister
  rw [hregister]
  cases (bindEach .empty (attemptsOf o.groups)).1 with
  | error e => rfl
  | ok u => rfl

lemma registry_of_build {o : Bridge.Options} {b : Bridge} (h : (Bridge.build o).1 = .ok b) :
    ((attemptsOf o.groups).map Attempt.id).Nodup ∧ b = bridgeOf o (extend .empty (attemptsOf o.groups)) := by
  have hends := bindEnds_bindEach .empty (attemptsOf o.groups)
  rw [build_eq] at h
  generalize bindEach .empty (attemptsOf o.groups) = out at h hends
  cases hends with
  | complete fits =>
    cases h
    exact ⟨fits.nodup, rfl⟩
  | refused => cases h

/-- A bridge binds what its groups ask for. -/
theorem binding?_of_build {o : Bridge.Options} {b : Bridge} (h : (Bridge.build o).1 = .ok b)
    {g : SyscallGroup} (hg : g ∈ o.groups) {id : SyscallId} {r : Routine} (hr : (id, r) ∈ g.routines) :
    b.registry.binding? id = some ⟨g.name, r⟩ := by
  obtain ⟨hnodup, rfl⟩ := registry_of_build h
  have hmem : ⟨g.name, id, r⟩ ∈ attemptsOf o.groups :=
    List.mem_flatMap.mpr ⟨g, hg, List.mem_map.mpr ⟨(id, r), hr, rfl⟩⟩
  have hfirst := firstAt?_eq_of_nodup hnodup hmem
  unfold bridgeOf
  rw [extend_empty, hfirst]
  rfl

lemma get?_of_build {o : Bridge.Options} {b : Bridge} (h : (Bridge.build o).1 = .ok b)
    {g : SyscallGroup} (hg : g ∈ o.groups) {id : SyscallId} {r : Routine} (hr : (id, r) ∈ g.routines) :
    b.registry.get? id = some r :=
  congrArg (Option.map Binding.routine) (binding?_of_build h hg hr)

/-- A routine in the table of a bridge stands in one of its groups, under the same identifier. -/
theorem mem_of_build {o : Bridge.Options} {b : Bridge} (h : (Bridge.build o).1 = .ok b)
    {id : SyscallId} {r : Routine} (hr : b.registry.get? id = some r) :
    ∃ g ∈ o.groups, (id, r) ∈ g.routines := by
  obtain ⟨-, rfl⟩ := registry_of_build h
  unfold Registry.get? bridgeOf at hr
  rw [extend_empty, Option.map_map, Option.map_eq_some_iff] at hr
  obtain ⟨a, hfirst, rfl⟩ := hr
  obtain ⟨hmem, rfl⟩ := mem_of_firstAt? hfirst
  obtain ⟨g, hg, ha⟩ := List.mem_flatMap.mp hmem
  obtain ⟨r, hroutine, rfl⟩ := List.mem_map.mp ha
  exact ⟨g, hg, hroutine⟩

end GuestBridge.Proofs
