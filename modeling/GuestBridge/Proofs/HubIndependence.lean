import GuestBridge.Proofs.HubHistory

/-!
# Hubs that share a queue do not see each other

Calls at several hubs and their clones mix in any order, and all of them post to one queue. A hub goes its own
way through the mix: what it posts and what it remembers is what a lone hub makes of the same gestures. So the
calls at the other hubs can be left out, and a clone can be exchanged for its original.
-/

namespace GuestBridge.Proofs

/-! ### What the calls at one hub come to -/

/-- What came of a gesture: the hub that it reached, by its number, the event that was posted, and the hub after
it. -/
structure HubReport where
  hub : Nat
  posted : Option Event
  after : Hub

def hubReport (g : HubGroup) : HubCall → List HubReport
  | .act handle gesture =>
    [⟨hubIndex g handle, (g.act handle gesture).1, (g.act handle gesture).2.hubOf handle⟩]
  | _ => []

def hubReports (g : HubGroup) : List HubCall → List HubReport
  | [] => []
  | call :: rest => hubReport g call ++ hubReports (hubCall g call).2 rest

def reportsOf (i : Nat) (reports : List HubReport) : List HubReport := reports.filter fun r => r.hub = i

/-- Whether a call is no gesture at another hub. -/
def isOwn (i : Nat) (g : HubGroup) : HubCall → Bool
  | .act handle _ => hubIndex g handle = i
  | _ => true

/-- The calls without the gestures at other hubs. -/
def ownCalls (i : Nat) (g : HubGroup) : List HubCall → List HubCall
  | [] => []
  | call :: rest =>
    if isOwn i g call then call :: ownCalls i (hubCall g call).2 rest else ownCalls i (hubCall g call).2 rest

/-- The gestures that reached a hub. -/
def gesturesAt (i : Nat) (g : HubGroup) : List HubCall → List Gesture
  | [] => []
  | .act handle gesture :: rest =>
    if hubIndex g handle = i then gesture :: gesturesAt i (g.act handle gesture).2 rest
    else gesturesAt i (g.act handle gesture).2 rest
  | call :: rest => gesturesAt i (hubCall g call).2 rest

/-- The reports of a hub with no others beside it. -/
def loneReports (i : Nat) (h : Hub) : List Gesture → List HubReport
  | [] => []
  | gesture :: rest => ⟨i, (h.apply gesture).2, (h.apply gesture).1⟩ :: loneReports i (h.apply gesture).1 rest

def loneHub (h : Hub) (gestures : List Gesture) : Hub := gestures.foldl (fun h gesture => (h.apply gesture).1) h

lemma hubs_newHub (g : HubGroup) (i : Nat) : g.newHub.2.hubs.getD i .initial = g.hubs.getD i .initial := by
  dsimp only [HubGroup.newHub]
  rw [getD_concat]
  split
  next hi => rw [hi, List.getD_eq_default _ _ (Nat.le_refl _)]
  next => rfl

/-- In the mix a hub goes the way of a lone one. -/
lemma follows_lone (i : Nat) (calls : List HubCall) {g : HubGroup} (h : HandlesInside g) :
    reportsOf i (hubReports g calls) = loneReports i (g.hubs.getD i .initial) (gesturesAt i g calls) ∧
      (hubCalls g calls).2.hubs.getD i .initial = loneHub (g.hubs.getD i .initial) (gesturesAt i g calls) := by
  induction calls generalizing g with
  | nil => exact ⟨rfl, rfl⟩
  | cons call rest ih =>
    have hrest := ih (handlesInside_hubCall h call)
    cases call with
    | newHub =>
      rw [show (hubCall g .newHub).2.hubs.getD i .initial = g.hubs.getD i .initial from hubs_newHub g i] at hrest
      exact hrest
    | clone handle => exact hrest
    | act handle gesture =>
      have hhub := hubs_act gesture i (h handle)
      have hafter := hubOf_act h handle gesture
      dsimp only [hubCall] at hrest
      by_cases hi : hubIndex g handle = i
      · have hof : g.hubOf handle = g.hubs.getD i .initial := by rw [← hi]; rfl
        rw [if_pos hi.symm, hof] at hhub
        rw [hof] at hafter
        rw [hhub] at hrest
        have hposted : (g.act handle gesture).1 = ((g.hubs.getD i .initial).apply gesture).2 := by rw [← hof]; rfl
        refine ⟨?_, ?_⟩
        · simp only [hubReports, hubReport, gesturesAt, hi, if_true, loneReports, reportsOf,
            List.singleton_append, List.filter_cons, decide_true, hafter, hposted]
          rw [← hrest.1]
          rfl
        · simp only [gesturesAt, hi, if_true]
          exact hrest.2
      · rw [if_neg (Ne.symm hi)] at hhub
        rw [hhub] at hrest
        refine ⟨?_, ?_⟩
        · simp only [hubReports, hubReport, gesturesAt, hi, if_false, reportsOf, List.singleton_append,
            List.filter_cons, decide_false, Bool.false_eq_true]
          exact hrest.1
        · simp only [gesturesAt, hi, if_false]
          exact hrest.2

lemma pending_hubCalls (calls : List HubCall) (g : HubGroup) :
    (hubCalls g calls).2.queue.pending = g.queue.pending ++ (hubReports g calls).filterMap (·.posted) := by
  induction calls generalizing g with
  | nil => exact (List.append_nil _).symm
  | cons call rest ih =>
    have hrest := ih (hubCall g call).2
    cases call with
    | act handle gesture =>
      dsimp only [hubCalls, hubReports]
      rw [hrest, List.filterMap_append, ← List.append_assoc]
      congr 1
      dsimp only [hubCall, HubGroup.act, hubReport]
      rw [pending_postTo]
      cases ((g.hubOf handle).apply gesture).2 <;> rfl
    | _ => exact hrest

/-! ### Leaving out the calls at the others -/

/-- Two groups whose handles act on the same hubs. -/
structure SameHandles (g g' : HubGroup) : Prop where
  handles : g'.handles = g.handles
  hubs : g'.hubs.length = g.hubs.length

lemma SameHandles.hubIndex {g g' : HubGroup} (h : SameHandles g g') (handle : Nat) :
    hubIndex g' handle = hubIndex g handle := by
  unfold Proofs.hubIndex
  rw [h.handles]

lemma SameHandles.hubCall {g g' : HubGroup} (h : SameHandles g g') (call : HubCall) :
    SameHandles (hubCall g call).2 (hubCall g' call).2 := by
  obtain ⟨hhandles, hhubs⟩ := h
  cases call with
  | newHub => constructor <;> simp [Proofs.hubCall, HubGroup.newHub, hhandles, hhubs]
  | clone handle => constructor <;> simp [Proofs.hubCall, HubGroup.cloneHandle, hhandles, hhubs]
  | act handle gesture => constructor <;> simp [Proofs.hubCall, HubGroup.act, hhandles, hhubs]

lemma SameHandles.act {g g' : HubGroup} (h : SameHandles g g') (handle : Nat) (gesture : Gesture) :
    SameHandles (g.act handle gesture).2 g' := by
  obtain ⟨hhandles, hhubs⟩ := h
  constructor <;> simp [HubGroup.act, hhandles, hhubs]

/-- The calls that stay bring the hub the same gestures, and no others are left. -/
lemma gesturesAt_ownCalls (i : Nat) (calls : List HubCall) {g g' : HubGroup} (h : SameHandles g g') :
    gesturesAt i g' (ownCalls i g calls) = gesturesAt i g calls ∧
      ∀ r ∈ hubReports g' (ownCalls i g calls), r.hub = i := by
  induction calls generalizing g g' with
  | nil => exact ⟨rfl, fun r hr => by cases hr⟩
  | cons call rest ih =>
    have hkept := ih (h.hubCall call)
    cases call with
    | act handle gesture =>
      have hindex := h.hubIndex handle
      by_cases hi : hubIndex g handle = i
      · rw [hi] at hindex
        simp only [ownCalls, isOwn, gesturesAt, hi, hindex, if_true, decide_true]
        refine ⟨congrArg (gesture :: ·) hkept.1, ?_⟩
        intro r hr
        rcases List.mem_cons.mp hr with rfl | hr
        · exact hindex
        · exact hkept.2 r hr
      · have hleft := ih (h.act handle gesture)
        simp only [ownCalls, isOwn, gesturesAt, hi, if_false, decide_false, Bool.false_eq_true]
        exact hleft
    | _ => exact hkept

/-! ### Clones -/

lemma hubCalls_append (before later : List HubCall) (g : HubGroup) : hubCalls g (before ++ later) =
    ((hubCalls g before).1 ++ (hubCalls (hubCalls g before).2 later).1, (hubCalls (hubCalls g before).2 later).2) := by
  induction before generalizing g with
  | nil => rfl
  | cons call rest ih =>
    have hrest := ih (hubCall g call).2
    rw [List.cons_append]
    dsimp only [hubCalls]
    rw [hrest]
    simp only [List.append_assoc]

lemma hubReports_append (before later : List HubCall) (g : HubGroup) :
    hubReports g (before ++ later) = hubReports g before ++ hubReports (hubCalls g before).2 later := by
  induction before generalizing g with
  | nil => rfl
  | cons call rest ih =>
    have hrest := ih (hubCall g call).2
    rw [List.cons_append]
    dsimp only [hubReports]
    rw [hrest, List.append_assoc]
    rfl

lemma length_handles_hubCall (g : HubGroup) (call : HubCall) :
    g.handles.length ≤ (hubCall g call).2.handles.length := by
  cases call with
  | newHub => simp [hubCall, HubGroup.newHub]
  | clone handle => simp [hubCall, HubGroup.cloneHandle]
  | act handle gesture => exact Nat.le_refl _

/-- A handle stays with its hub. -/
lemma hubIndex_hubCalls (calls : List HubCall) {g : HubGroup} {handle : Nat} (h : handle < g.handles.length) :
    hubIndex (hubCalls g calls).2 handle = hubIndex g handle := by
  induction calls generalizing g with
  | nil => rfl
  | cons call rest ih =>
    have hrest := ih (Nat.lt_of_lt_of_le h (length_handles_hubCall g call))
    rw [← hubIndex_hubCall h call]
    exact hrest

/-- A call goes to the hub and not to the handle. -/
lemma hubCall_act_congr {g : HubGroup} {handle other : Nat} (h : hubIndex g handle = hubIndex g other)
    (gesture : Gesture) : hubCall g (.act handle gesture) = hubCall g (.act other gesture) ∧
      hubReport g (.act handle gesture) = hubReport g (.act other gesture) := by
  have hactor : g.handles.getD handle 0 = g.handles.getD other 0 := h
  have hact : g.act handle gesture = g.act other gesture := by
    unfold HubGroup.act HubGroup.hubOf
    rw [hactor]
  have hafter : (g.act handle gesture).2.hubOf handle = (g.act other gesture).2.hubOf other := by
    rw [hact]
    exact congrArg (fun n => (g.act other gesture).2.hubs.getD n .initial) hactor
  rw [hact] at hafter
  simp only [hubCall, hubReport, h, hact, hafter, and_self]

/-- Calls before and behind an exchanged one are not touched by the exchange. -/
lemma exchange {g : HubGroup} {handle other : Nat} (before later : List HubCall) (gesture : Gesture)
    (h : hubIndex (hubCalls g before).2 handle = hubIndex (hubCalls g before).2 other) :
    hubCalls g (before ++ .act handle gesture :: later) = hubCalls g (before ++ .act other gesture :: later) ∧
      hubReports g (before ++ .act handle gesture :: later) =
        hubReports g (before ++ .act other gesture :: later) := by
  obtain ⟨hcall, hreport⟩ := hubCall_act_congr h gesture
  rw [hubCalls_append, hubCalls_append, hubReports_append, hubReports_append]
  simp only [hubCalls, hubReports, hcall, hreport, and_self]

lemma hubIndex_clone {g : HubGroup} {original : Nat} (h : original < g.handles.length) (middle : List HubCall) :
    hubIndex (hubCalls g (.clone original :: middle)).2 (g.cloneHandle original).1 =
      hubIndex (hubCalls g (.clone original :: middle)).2 original := by
  have hcopy : (g.cloneHandle original).1 < (g.cloneHandle original).2.handles.length := by
    simp [HubGroup.cloneHandle]
  have hcloned : hubIndex (hubCalls g (.clone original :: middle)).2 (g.cloneHandle original).1 = _ :=
    hubIndex_hubCalls middle hcopy
  rw [hcloned, hubIndex_cloneHandle, hubIndex_hubCalls _ h]

/-! ### The law -/

lemma handlesInside_single (q : EventQueue Event) : HandlesInside { HubGroup.single with queue := q } :=
  follows_single.handles

lemma handlesInside_hubCalls (calls : List HubCall) {g : HubGroup} (h : HandlesInside g) :
    HandlesInside (hubCalls g calls).2 := by
  induction calls generalizing g with
  | nil => exact h
  | cons call rest ih => exact ih (handlesInside_hubCall h call)

lemma hubReports_single (h : Hub) (q : EventQueue Event) (gestures : List Gesture) :
    hubReports ⟨[h], [0], q⟩ (gestures.map (.act 0 ·)) = loneReports 0 h gestures := by
  induction gestures generalizing h q with
  | nil => rfl
  | cons gesture rest ih => exact congrArg _ (ih (h.apply gesture).1 (Hub.postTo (h.apply gesture).2 q))

lemma loneReports_hub (i j : Nat) (h : Hub) (gestures : List Gesture) :
    (loneReports i h gestures).map (fun r => { r with hub := j }) = loneReports j h gestures := by
  induction gestures generalizing h with
  | nil => rfl
  | cons gesture rest ih => exact congrArg _ (ih (h.apply gesture).1)

/-- What the calls at a hub come to, in a mix with calls at others, is what they come to without those, and even
without the others. -/
structure GoesItsWay (start : HubGroup) (calls : List HubCall) (i : Nat) : Prop where
  reports : hubReports start (ownCalls i start calls) = reportsOf i (hubReports start calls)
  posted : (hubCalls start (ownCalls i start calls)).2.queue.pending =
    start.queue.pending ++ (reportsOf i (hubReports start calls)).filterMap (·.posted)
  hub : (hubCalls start (ownCalls i start calls)).2.hubs.getD i .initial =
    (hubCalls start calls).2.hubs.getD i .initial
  alone : reportsOf i (hubReports start calls) =
    (hubReports .single ((gesturesAt i start calls).map (.act 0 ·))).map fun r => { r with hub := i }

lemma goesItsWay (q : EventQueue Event) (calls : List HubCall) (i : Nat) :
    GoesItsWay { HubGroup.single with queue := q } calls i := by
  have hinside := handlesInside_single q
  have hnew : ({ HubGroup.single with queue := q } : HubGroup).hubs.getD i .initial = .initial := by
    cases i <;> rfl
  generalize hstart : ({ HubGroup.single with queue := q } : HubGroup) = start at hinside hnew ⊢
  obtain ⟨hmix, hmixHub⟩ := follows_lone i calls hinside
  obtain ⟨hown, hownHub⟩ := follows_lone i (ownCalls i start calls) hinside
  obtain ⟨hgestures, hothers⟩ := gesturesAt_ownCalls i calls (g := start) ⟨rfl, rfl⟩
  have hall : reportsOf i (hubReports start (ownCalls i start calls)) = hubReports start (ownCalls i start calls) := by
    unfold reportsOf
    rw [List.filter_eq_self]
    exact fun r hr => decide_eq_true (hothers r hr)
  rw [hgestures] at hown hownHub
  have hreports : hubReports start (ownCalls i start calls) = reportsOf i (hubReports start calls) := by
    rw [← hall, hown, hmix]
  refine ⟨hreports, ?_, ?_, ?_⟩
  · rw [pending_hubCalls, hreports]
  · rw [hownHub, hmixHub]
  · have hlone : hubReports .single ((gesturesAt i start calls).map (.act 0 ·)) = _ :=
      hubReports_single .initial .empty (gesturesAt i start calls)
    rw [hmix, hnew, hlone, loneReports_hub]

/-- Hubs at one queue, called in any order through whichever handles: each goes its own way, and the queue holds
what they posted in the order of the calls. A new hub shares its state with no other, a clone with its original,
so that a call through the one is as good as a call through the other. -/
theorem hub_independence (q : EventQueue Event) (calls : List HubCall) :
    let start : HubGroup := { HubGroup.single with queue := q }
    let reports := hubReports start calls
    let g := (hubCalls start calls).2
    (∀ i, GoesItsWay start calls i) ∧
      g.queue.pending = q.pending ++ reports.filterMap (·.posted) ∧
      (∀ handle < g.handles.length, hubIndex g.newHub.2 handle ≠ hubIndex g.newHub.2 g.newHub.1) ∧
      ∀ original < g.handles.length, ∀ middle gesture later,
        let copy := (g.cloneHandle original).1
        let cloned := calls ++ .clone original :: middle
        hubCalls start (cloned ++ .act copy gesture :: later) =
            hubCalls start (cloned ++ .act original gesture :: later) ∧
          hubReports start (cloned ++ .act copy gesture :: later) =
            hubReports start (cloned ++ .act original gesture :: later) := by
  intro start reports g
  have hinside : HandlesInside g := handlesInside_hubCalls calls (handlesInside_single q)
  refine ⟨goesItsWay q calls, pending_hubCalls calls start, ?_, ?_⟩
  · intro handle hhandle
    have hold := hinside handle
    dsimp only [hubIndex, HubGroup.newHub] at hold ⊢
    rw [getD_concat, getD_concat, if_neg (Nat.ne_of_lt hhandle), if_pos rfl]
    exact Nat.ne_of_lt hold
  · intro original horiginal middle gesture later copy cloned
    apply exchange
    dsimp only [cloned]
    rw [hubCalls_append]
    exact hubIndex_clone horiginal middle

/-- A press at one hub, and a move at another that is no drag there. -/
def pressAndMove : List HubCall := [.newHub, .act 0 (.pressed 1 2), .act 1 (.moved 9 9)]

theorem hub_independence_pressAndMove :
    let start : HubGroup := { HubGroup.single with queue := .empty }
    let cloned := pressAndMove ++ .clone 0 :: []
    0 < (hubCalls start pressAndMove).2.handles.length ∧
      hubReports start (cloned ++ .act 2 (.moved 3 4) :: []) = hubReports start (cloned ++ .act 0 (.moved 3 4) :: []) ∧
      ownCalls 0 start pressAndMove = [.newHub, .act 0 (.pressed 1 2)] ∧ GoesItsWay start pressAndMove 0 := by
  obtain ⟨hway, -, -, hclone⟩ := hub_independence .empty pressAndMove
  have hhandle : 0 < (hubCalls { HubGroup.single with queue := .empty } pressAndMove).2.handles.length := by decide
  exact ⟨hhandle, (hclone 0 hhandle [] (.moved 3 4) []).2, rfl, hway 0⟩

end GuestBridge.Proofs
