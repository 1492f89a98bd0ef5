import GuestBridge.Input.Hub
import Mathlib.Data.List.GetD
import Mathlib.Tactic.Common

/-!
# What a hub makes of its gestures

A hub remembers no more than the latest gestures about its button, its pointer and its focus. So which drags
and changes of focus it posts is told by the gestures that reached it, through whichever of its handles, and
what else happens at the queue has no part in it.
-/

namespace GuestBridge.Proofs

/-! ### Gestures and what came of them -/

/-- A gesture that reached a hub, and the event that it posted. -/
structure Act where
  gesture : Gesture
  posted : Option Event

/-- What became of a new hub by some acts. -/
inductive History : List Act → Hub → Prop where
  | new : History [] .initial
  | next {past : List Act} {h : Hub} (hpast : History past h) (g : Gesture) :
    History (past ++ [⟨g, (h.apply g).2⟩]) (h.apply g).1

namespace Act

/-- Whether the button is down, if the gesture is about it. -/
def button? (a : Act) : Option Bool :=
  match a.gesture with
  | .pressed _ _ => some true
  | .released _ _ | .focusLost => some false
  | _ => none

/-- Where the pointer is, if the gesture is about it. -/
def place? (a : Act) : Option (Int32 × Int32) :=
  match a.gesture with
  | .pressed x y | .released x y | .moved x y | .dragged x y => some (x, y)
  | _ => none

def focus? (a : Act) : Option Bool :=
  match a.gesture with
  | .focusGained => some true
  | .focusLost => some false
  | _ => none

def isRaw (a : Act) : Bool :=
  match a.gesture with
  | .raw _ => true
  | _ => false

end Act

section Latest

variable {β : Type}

/-- The latest of what the acts say. -/
def latest (tells : Act → Option β) (past : List Act) : Option β := (past.filterMap tells).getLast?

lemma latest_concat (tells : Act → Option β) (past : List Act) (a : Act) :
    latest tells (past ++ [a]) = (tells a).or (latest tells past) := by
  unfold latest
  rw [List.filterMap_append]
  cases h : tells a with
  | none => simp [h]
  | some b => simp [h]

end Latest

def isDown (past : List Act) : Bool := (latest Act.button? past).getD false

def lastPlace (past : List Act) : Int32 × Int32 := (latest Act.place? past).getD (0, 0)

def hasFocus (past : List Act) : Bool := (latest Act.focus? past).getD true

lemma isDown_concat (past : List Act) (a : Act) : isDown (past ++ [a]) = a.button?.getD (isDown past) := by
  unfold isDown
  rw [latest_concat]
  cases a.button? <;> rfl

lemma lastPlace_concat (past : List Act) (a : Act) :
    lastPlace (past ++ [a]) = a.place?.getD (lastPlace past) := by
  unfold lastPlace
  rw [latest_concat]
  cases a.place? <;> rfl

lemma hasFocus_concat (past : List Act) (a : Act) : hasFocus (past ++ [a]) = a.focus?.getD (hasFocus past) := by
  unfold hasFocus
  rw [latest_concat]
  cases a.focus? <;> rfl

lemma hub_eq_of_history {past : List Act} {h : Hub} (hpast : History past h) :
    h = ⟨isDown past, lastPlace past, hasFocus past⟩ := by
  induction hpast with
  | new => rfl
  | @next past h hpast g ih =>
    rw [isDown_concat, lastPlace_concat, hasFocus_concat, ih]
    cases g <;> rfl

lemma concat_split {β : Type} {past before later : List β} {a b : β}
    (h : past ++ [b] = before ++ a :: later) :
    (past = before ∧ b = a ∧ later = []) ∨
      ∃ later', later = later' ++ [b] ∧ past = before ++ a :: later' := by
  rcases List.eq_nil_or_concat later with rfl | ⟨later', c, rfl⟩
  · obtain ⟨hpast, hlast⟩ := List.append_inj' h rfl
    exact .inl ⟨hpast, List.singleton_inj.mp hlast, rfl⟩
  · rw [List.concat_eq_append, ← List.cons_append, ← List.append_assoc] at h
    obtain ⟨hpast, hlast⟩ := List.append_inj' h rfl
    obtain rfl : b = c := List.singleton_inj.mp hlast
    exact .inr ⟨later', List.concat_eq_append, hpast⟩

lemma history_split {past before later : List Act} {h : Hub} {a : Act} (hpast : History past h)
    (hsplit : past = before ++ a :: later) :
    ∃ h', History before h' ∧ a.posted = (h'.apply a.gesture).2 := by
  induction hpast generalizing later with
  | new => simp at hsplit
  | @next past h hpast g ih =>
    rcases concat_split hsplit with ⟨rfl, rfl, -⟩ | ⟨later', -, hpast'⟩
    · exact ⟨h, hpast, rfl⟩
    · exact ih hpast'

/-! ### Events about the button and the focus -/

/-- The kind of an event that tells the guest of the button. -/
def buttonKind? (e : Event) : Option EventKind :=
  match e.kind? with
  | some .pointerPressed => some .pointerPressed
  | some .pointerReleased => some .pointerReleased
  | some .focusLost => some .focusLost
  | _ => none

/-- The events that some of the acts posted. -/
def eventsOf (counts : Act → Bool) (past : List Act) : List Event :=
  (past.filter counts).filterMap (·.posted)

/-- The events that came of gestures other than raw ones. -/
def gestureEvents : List Act → List Event := eventsOf fun a => !a.isRaw

/-- The events that came of losing or gaining the focus. -/
def focusEvents : List Act → List Event := eventsOf fun a => a.focus?.isSome

/-- What an act tells the guest of the button. -/
def Act.told? (a : Act) : Option EventKind := if a.isRaw then none else a.posted.bind buttonKind?

lemma eventsOf_concat_of_counts {counts : Act → Bool} {a : Act} (h : counts a = true) (past : List Act) :
    eventsOf counts (past ++ [a]) = eventsOf counts past ++ a.posted.toList := by
  unfold eventsOf
  rw [List.filter_append, List.filterMap_append]
  cases hposted : a.posted with
  | none => simp [h, hposted]
  | some e => simp [h, hposted]

lemma eventsOf_concat_of_not {counts : Act → Bool} {a : Act} (h : counts a = false) (past : List Act) :
    eventsOf counts (past ++ [a]) = eventsOf counts past := by
  unfold eventsOf
  rw [List.filter_append]
  simp [h]

lemma filterMap_gestureEvents (past : List Act) :
    (gestureEvents past).filterMap buttonKind? = past.filterMap Act.told? := by
  unfold gestureEvents eventsOf
  rw [List.filterMap_filterMap, List.filterMap_filter]
  congr 1
  funext a
  unfold Act.told?
  cases a.isRaw <;> rfl

@[simp] lemma buttonKind?_ofKind (k : EventKind) (x y : Int32) : buttonKind? (.ofKind k x y) =
    if k = .pointerPressed ∨ k = .pointerReleased ∨ k = .focusLost then some k else none := by
  unfold buttonKind? Event.kind? Event.ofKind
  dsimp only
  rw [EventKind.ofCode?_code]
  cases k <;> rfl

lemma told?_of_not_raw {a : Act} (h : a.isRaw = false) : a.told? = a.posted.bind buttonKind? := by
  unfold Act.told?
  rw [h, if_neg Bool.false_ne_true]

lemma told?_apply (h : Hub) (g : Gesture) : Act.told? ⟨g, (h.apply g).2⟩ =
    match g with
    | .pressed _ _ => some .pointerPressed
    | .released _ _ => some .pointerReleased
    | .focusLost => if h.focused then some .focusLost else none
    | _ => none := by
  cases g with
  | moved x y =>
    rw [told?_of_not_raw rfl]
    dsimp only [Hub.apply]
    cases h.pointerDown && h.cursor != (x, y) with
    | false => rfl
    | true => simp [Event.pointer]
  | focusLost =>
    rw [told?_of_not_raw rfl]
    dsimp only [Hub.apply]
    cases h.focused with
    | false => rfl
    | true => simp
  | focusGained =>
    rw [told?_of_not_raw rfl]
    dsimp only [Hub.apply]
    cases h.focused with
    | false => simp
    | true => rfl
  | raw e => rfl
  | _ =>
    rw [told?_of_not_raw rfl]
    simp [Hub.apply, Event.pointer, Event.key, Event.close]

/-- A button that is down was told to the guest, with no release and no loss of the focus behind it. -/
lemma told_of_isDown {past : List Act} {h : Hub} (hpast : History past h) (hdown : isDown past = true) :
    latest Act.told? past = some .pointerPressed := by
  induction hpast with
  | new => cases hdown
  | @next past h hpast g ih =>
    rw [isDown_concat] at hdown
    rw [latest_concat, told?_apply]
    cases g with
    | pressed x y => rfl
    | released x y => cases hdown
    | focusLost => cases hdown
    | _ => exact ih hdown

/-- Losses and gains of the focus in turn, a loss first. -/
def focusTurn (n : Nat) : Event := .ofKind (if n % 2 = 0 then .focusLost else .focusGained) 0 0

structure InTurn (focused : Bool) (events : List Event) : Prop where
  parity : focused = true ↔ events.length % 2 = 0
  turn : ∀ n e, events[n]? = some e → e = focusTurn n

lemma InTurn.told {focused : Bool} {events : List Event} (h : InTurn focused events) :
    InTurn (!focused) (events ++ [.ofKind (if focused then .focusLost else .focusGained) 0 0]) := by
  have hparity := h.parity
  refine ⟨?_, ?_⟩
  · rw [List.length_append, List.length_singleton]
    cases focused with
    | true =>
      have heven := hparity.mp rfl
      constructor
      · intro hfalse
        cases hfalse
      · omega
    | false =>
      have hodd : ¬events.length % 2 = 0 := by
        intro heven
        cases hparity.mpr heven
      constructor
      · omega
      · intro _
        rfl
  · intro n e he
    by_cases hn : n < events.length
    · rw [List.getElem?_append_left hn] at he
      exact h.turn n e he
    · have hlast : n = events.length := by
        obtain ⟨hlt, -⟩ := List.getElem?_eq_some_iff.mp he
        rw [List.length_append, List.length_singleton] at hlt
        omega
      subst hlast
      rw [List.getElem?_append_right (Nat.le_refl _), Nat.sub_self] at he
      cases he
      unfold focusTurn
      simp only [hparity]

lemma InTurn.change {focused : Bool} {events : List Event} (h : InTurn focused events) (now : Bool) :
    InTurn now (events ++ (if focused = now then none
      else some (Event.ofKind (if focused then .focusLost else .focusGained) 0 0)).toList) := by
  by_cases hsame : focused = now
  · rw [if_pos hsame, Option.toList_none, List.append_nil, ← hsame]
    exact h
  · rw [if_neg hsame, Option.toList_some, ← Bool.not_eq.mpr hsame]
    exact h.told

lemma inTurn_focusEvents {past : List Act} {h : Hub} (hpast : History past h) :
    InTurn (hasFocus past) (focusEvents past) := by
  induction hpast with
  | new => exact ⟨⟨fun _ => rfl, fun _ => rfl⟩, fun n e he => by cases he⟩
  | @next past h hpast g ih =>
    have hfocused : h.focused = hasFocus past := congrArg Hub.focused (hub_eq_of_history hpast)
    rw [hasFocus_concat]
    unfold focusEvents at ih ⊢
    cases g with
    | focusLost =>
      have hchange := ih.change false
      rw [eventsOf_concat_of_counts rfl]
      dsimp only [Hub.apply]
      rw [hfocused]
      cases hlast : hasFocus past <;> rw [hlast] at hchange <;> exact hchange
    | focusGained =>
      have hchange := ih.change true
      rw [eventsOf_concat_of_counts rfl]
      dsimp only [Hub.apply]
      rw [hfocused]
      cases hlast : hasFocus past <;> rw [hlast] at hchange <;> exact hchange
    | _ =>
      rw [eventsOf_concat_of_not rfl]
      exact ih

/-! ### Hubs that share a queue -/

inductive HubCall where
  | newHub
  | clone (handle : Nat)
  | act (handle : Nat) (g : Gesture)

/-- The hub that a handle acts on, by its number. -/
def hubIndex (g : HubGroup) (handle : Nat) : Nat := g.handles.getD handle 0

def HubCall.gesture? : HubCall → Option Gesture
  | .act _ g => some g
  | _ => none

/-- Makes a call, and notes which hub acted how. -/
def hubCall (g : HubGroup) : HubCall → List (Nat × Act) × HubGroup
  | .newHub => ([], g.newHub.2)
  | .clone handle => ([], (g.cloneHandle handle).2)
  | .act handle gesture =>
    ([(hubIndex g handle, ⟨gesture, (g.act handle gesture).1⟩)], (g.act handle gesture).2)

def hubCalls (g : HubGroup) : List HubCall → List (Nat × Act) × HubGroup
  | [] => ([], g)
  | call :: rest =>
    let (acts, g) := hubCall g call
    let (later, g) := hubCalls g rest
    (acts ++ later, g)

/-- The acts of one hub. -/
def actsOf (i : Nat) (acts : List (Nat × Act)) : List Act := (acts.filter fun a => a.1 = i).map (·.2)

lemma actsOf_concat (i n : Nat) (acts : List (Nat × Act)) (a : Act) :
    actsOf i (acts ++ [(n, a)]) = if n = i then actsOf i acts ++ [a] else actsOf i acts := by
  unfold actsOf
  rw [List.filter_append]
  by_cases hn : n = i
  · simp [hn]
  · simp [hn]

/-- Some acts on new hubs have come to these hubs and filled this queue. -/
structure Follows (acts : List (Nat × Act)) (g : HubGroup) : Prop where
  handles : ∀ handle, hubIndex g handle < g.hubs.length
  actors : ∀ a ∈ acts, a.1 < g.hubs.length
  hubs : ∀ i, History (actsOf i acts) (g.hubs.getD i .initial)
  queue : g.queue.pending = acts.filterMap (·.2.posted)

lemma follows_single : Follows [] .single where
  handles := by
    intro handle
    cases handle with
    | zero => exact Nat.zero_lt_one
    | succ n => exact Nat.zero_lt_one
  actors := by
    intro a ha
    cases ha
  hubs := by
    intro i
    cases i with
    | zero => exact .new
    | succ n => exact .new
  queue := rfl

lemma getD_concat {β : Type} (xs : List β) (b d : β) (i : Nat) :
    (xs ++ [b]).getD i d = if i = xs.length then b else xs.getD i d := by
  rcases Nat.lt_trichotomy i xs.length with hlt | rfl | hgt
  · rw [List.getD_append _ _ _ _ hlt, if_neg (Nat.ne_of_lt hlt)]
  · simp
  · rw [List.getD_eq_default _ _ (by simp; omega), List.getD_eq_default _ _ (Nat.le_of_lt hgt),
      if_neg (Nat.ne_of_gt hgt)]

lemma getD_set {β : Type} (xs : List β) {n : Nat} (b d : β) (i : Nat) (hn : n < xs.length) :
    (xs.set n b).getD i d = if i = n then b else xs.getD i d := by
  rw [List.getD_eq_getElem?_getD, List.getD_eq_getElem?_getD, List.getElem?_set]
  by_cases hi : n = i
  · subst hi
    simp [hn]
  · simp [hi, Ne.symm hi]

lemma pending_postTo (event : Option Event) (q : EventQueue Event) :
    (Hub.postTo event q).pending = q.pending ++ event.toList := by
  cases event with
  | none => exact (List.append_nil _).symm
  | some e => rfl

lemma hubs_act {g : HubGroup} {handle : Nat} (gesture : Gesture) (i : Nat)
    (h : hubIndex g handle < g.hubs.length) :
    (g.act handle gesture).2.hubs.getD i .initial =
      if i = hubIndex g handle then ((g.hubOf handle).apply gesture).1 else g.hubs.getD i .initial :=
  getD_set _ _ _ _ h

/-- Every handle acts on a hub that exists. -/
def HandlesInside (g : HubGroup) : Prop := ∀ handle, hubIndex g handle < g.hubs.length

lemma hubOf_act {g : HubGroup} (h : HandlesInside g) (handle : Nat) (gesture : Gesture) :
    (g.act handle gesture).2.hubOf handle = ((g.hubOf handle).apply gesture).1 := by
  have hact := hubs_act gesture (hubIndex g handle) (h handle)
  rw [if_pos rfl] at hact
  exact hact

lemma handlesInside_hubCall {g : HubGroup} (h : HandlesInside g) (call : HubCall) :
    HandlesInside (hubCall g call).2 := by
  intro handle
  have hold := h handle
  cases call with
  | newHub =>
    dsimp only [hubIndex, hubCall, HubGroup.newHub] at hold ⊢
    rw [getD_concat, List.length_append, List.length_singleton]
    split <;> omega
  | clone other =>
    have hcloned := h other
    dsimp only [hubIndex, hubCall, HubGroup.cloneHandle] at hold hcloned ⊢
    rw [getD_concat]
    split
    · exact hcloned
    · exact hold
  | act other gesture =>
    dsimp only [hubIndex, hubCall, HubGroup.act] at hold ⊢
    rw [List.length_set]
    exact hold

lemma follows_call {acts : List (Nat × Act)} {g : HubGroup} (h : Follows acts g) (call : HubCall) :
    Follows (acts ++ (hubCall g call).1) (hubCall g call).2 := by
  have hhandles := handlesInside_hubCall h.handles call
  cases call with
  | newHub =>
    rw [show acts ++ (hubCall g .newHub).1 = acts from List.append_nil acts]
    dsimp only [hubCall, HubGroup.newHub] at hhandles ⊢
    refine ⟨hhandles, ?_, ?_, h.queue⟩
    · intro a ha
      rw [List.length_append, List.length_singleton]
      exact Nat.lt_succ_of_lt (h.actors a ha)
    · intro i
      have hold := h.hubs i
      rw [getD_concat]
      split
      next hi =>
        -- no hub had this number yet, so none of the acts is its own
        rw [hi, List.getD_eq_default _ _ (Nat.le_refl _)] at hold
        rw [hi]
        exact hold
      next => exact hold
  | clone handle =>
    rw [show acts ++ (hubCall g (.clone handle)).1 = acts from List.append_nil acts]
    exact ⟨hhandles, h.actors, h.hubs, h.queue⟩
  | act handle gesture =>
    refine ⟨hhandles, ?_, ?_, ?_⟩
    · intro a ha
      dsimp only [hubCall, HubGroup.act] at ha ⊢
      rw [List.length_set]
      rcases List.mem_append.mp ha with ha | ha
      · exact h.actors a ha
      · rw [List.mem_singleton.mp ha]
        exact h.handles handle
    · intro i
      have hold := h.hubs i
      dsimp only [hubCall]
      rw [hubs_act gesture i (h.handles handle), actsOf_concat]
      by_cases hi : i = hubIndex g handle
      · rw [hi] at hold ⊢
        rw [if_pos rfl, if_pos rfl]
        exact hold.next gesture
      · rw [if_neg hi, if_neg (Ne.symm hi)]
        exact hold
    · dsimp only [hubCall, HubGroup.act]
      rw [pending_postTo, h.queue, List.filterMap_append]
      cases ((g.hubOf handle).apply gesture).2 <;> rfl

lemma follows_calls (calls : List HubCall) {acts : List (Nat × Act)} {g : HubGroup} (h : Follows acts g) :
    Follows (acts ++ (hubCalls g calls).1) (hubCalls g calls).2 := by
  induction calls generalizing acts g with
  | nil =>
    rw [show (hubCalls g []).1 = [] from rfl, List.append_nil]
    exact h
  | cons call rest ih =>
    have hrest := ih (follows_call h call)
    rw [List.append_assoc] at hrest
    exact hrest

lemma gestures_hubCalls (calls : List HubCall) (g : HubGroup) :
    (hubCalls g calls).1.map (·.2.gesture) = calls.filterMap HubCall.gesture? := by
  induction calls generalizing g with
  | nil => rfl
  | cons call rest ih =>
    have hrest := ih (hubCall g call).2
    dsimp only [hubCalls]
    rw [List.map_append, hrest]
    cases call <;> rfl

lemma hubIndex_cloneHandle (g : HubGroup) (handle : Nat) :
    hubIndex (g.cloneHandle handle).2 (g.cloneHandle handle).1 = hubIndex g handle := by
  dsimp only [hubIndex, HubGroup.cloneHandle]
  rw [getD_concat, if_pos rfl]

lemma hubIndex_hubCall {g : HubGroup} {handle : Nat} (h : handle < g.handles.length) (call : HubCall) :
    hubIndex (hubCall g call).2 handle = hubIndex g handle := by
  cases call with
  | newHub => exact List.getD_append _ _ _ _ h
  | clone other => exact List.getD_append _ _ _ _ h
  | act other gesture => rfl

/-! ### The law of drags and of the focus -/

/-- What an act posts, by the acts of the hub before it. -/
structure ActLaw (before : List Act) (a : Act) : Prop where
  moved : ∀ x y, a.gesture = .moved x y →
    a.posted =
      if isDown before = true ∧ lastPlace before ≠ (x, y) then some (.pointer .pointerDragged x y) else none
  underPress : ∀ x y, a.gesture = .moved x y → a.posted ≠ none →
    ((gestureEvents before).filterMap buttonKind?).getLast? = some .pointerPressed
  focusLost : a.gesture = .focusLost →
    a.posted = if hasFocus before = true then some (.ofKind .focusLost 0 0) else none
  focusGained : a.gesture = .focusGained →
    a.posted = if hasFocus before = true then none else some (.ofKind .focusGained 0 0)

lemma actLaw_of_history {before : List Act} {h : Hub} {a : Act} (hbefore : History before h)
    (ha : a.posted = (h.apply a.gesture).2) : ActLaw before a := by
  have hmoved : ∀ x y, a.gesture = .moved x y →
      a.posted = if isDown before = true ∧ lastPlace before ≠ (x, y) then some (.pointer .pointerDragged x y)
        else none := by
    intro x y hg
    rw [ha, hg, hub_eq_of_history hbefore]
    simp [Hub.apply]
  refine ⟨hmoved, ?_, ?_, ?_⟩
  · intro x y hg hposted
    have hdown : isDown before = true := by
      by_contra hup
      apply hposted
      rw [hmoved x y hg, if_neg]
      intro hboth
      exact hup hboth.1
    rw [filterMap_gestureEvents]
    exact told_of_isDown hbefore hdown
  · intro hg
    rw [ha, hg, hub_eq_of_history hbefore]
    rfl
  · intro hg
    rw [ha, hg, hub_eq_of_history hbefore]
    rfl

/-- Through whichever handles a hub was called, and whatever else was posted to its queue, the hub's own
gestures tell when a move is a drag, when the focus changes and where the pointer is. -/
theorem hub_history (calls : List HubCall) (handle : Nat) :
    let (acts, g) := hubCalls .single calls
    let past := actsOf (hubIndex g handle) acts
    acts.map (·.2.gesture) = calls.filterMap HubCall.gesture? ∧
      g.queue.pending = acts.filterMap (·.2.posted) ∧
      hubIndex (g.cloneHandle handle).2 (g.cloneHandle handle).1 = hubIndex g handle ∧
      (handle < g.handles.length → ∀ call, hubIndex (hubCall g call).2 handle = hubIndex g handle) ∧
      (g.hubOf handle).cursor = lastPlace past ∧
      (∀ before a later, past = before ++ a :: later → ActLaw before a) ∧
      ∀ n e, (focusEvents past)[n]? = some e → e = focusTurn n := by
  have hfollows := follows_calls calls follows_single
  rw [List.nil_append] at hfollows
  have hgestures := gestures_hubCalls calls .single
  generalize hubCalls .single calls = made at hfollows hgestures ⊢
  obtain ⟨acts, g⟩ := made
  dsimp only at hfollows hgestures ⊢
  have hpast := hfollows.hubs (hubIndex g handle)
  refine ⟨hgestures, hfollows.queue, hubIndex_cloneHandle g handle, hubIndex_hubCall, ?_, ?_, ?_⟩
  · exact congrArg Hub.cursor (hub_eq_of_history hpast)
  · intro before a later hsplit
    obtain ⟨h, hbefore, ha⟩ := history_split hpast hsplit
    exact actLaw_of_history hbefore ha
  · exact (inTurn_focusEvents hpast).turn

end GuestBridge.Proofs
