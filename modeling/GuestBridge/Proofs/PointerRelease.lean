import GuestBridge.Proofs.HubHistory
import Mathlib.Data.List.Induction

/-!
# The button as the guest sees it

A guest knows the button only from the events. It is told of every press and every release, and of a loss of
the focus only where the hub had the focus. A press without the focus, ended by another loss, is the one way in
which the guest and the hub part; they are together again when the guest next hears of the button.
-/

namespace GuestBridge.Proofs

/-- The button after an event, for a guest that goes by the events. -/
def heard (down : Bool) (e : Event) : Bool :=
  match e.kind? with
  | some .pointerPressed => true
  | some .pointerReleased | some .focusLost => false
  | _ => down

def replay (events : List Event) : Bool := events.foldl heard false

/-- A loss of the focus let the button go and posted nothing, and no event told of the button since. -/
def Unheard (past : List Act) : Prop :=
  ∃ before a later, past = before ++ a :: later ∧ a.gesture = .focusLost ∧ a.posted = none ∧
    isDown before = true ∧ ∀ b ∈ later, b.told? = none

lemma unheard_concat (past : List Act) (b : Act) : Unheard (past ++ [b]) ↔
    (b.gesture = .focusLost ∧ b.posted = none ∧ isDown past = true) ∨ (Unheard past ∧ b.told? = none) := by
  constructor
  · rintro ⟨before, a, later, hsplit, hlost, hposted, hdown, hlater⟩
    rcases concat_split hsplit with ⟨rfl, rfl, -⟩ | ⟨later', rfl, hpast⟩
    · exact .inl ⟨hlost, hposted, hdown⟩
    · refine .inr ⟨⟨before, a, later', hpast, hlost, hposted, hdown, ?_⟩, ?_⟩
      · intro c hc
        exact hlater c (List.mem_append_left _ hc)
      · exact hlater b (List.mem_append_right _ List.mem_cons_self)
  · rintro (⟨hlost, hposted, hdown⟩ | ⟨⟨before, a, later, hpast, hlost, hposted, hdown, hlater⟩, hb⟩)
    · refine ⟨past, b, [], rfl, hlost, hposted, hdown, ?_⟩
      intro c hc
      cases hc
    · refine ⟨before, a, later ++ [b], ?_, hlost, hposted, hdown, ?_⟩
      · rw [hpast, List.append_assoc, List.cons_append]
      · intro c hc
        rcases List.mem_append.mp hc with hc | hc
        · exact hlater c hc
        · rw [List.mem_singleton.mp hc]
          exact hb

/-! ### The guest goes by the last word on the button -/

lemma heard_eq (down : Bool) (e : Event) :
    heard down e = ((buttonKind? e).map (· == .pointerPressed)).getD down := by
  unfold heard buttonKind?
  cases e.kind? with
  | none => rfl
  | some k => cases k <;> rfl

lemma replay_eq {past : List Act} (hraw : ∀ a ∈ past, a.isRaw = false) :
    replay (past.filterMap (·.posted)) = ((latest Act.told? past).map (· == .pointerPressed)).getD false := by
  induction past using List.reverseRecOn with
  | nil => rfl
  | append_singleton past a ih =>
    have hpast := ih fun b hb => hraw b (List.mem_append_left _ hb)
    have ha := told?_of_not_raw (hraw a (List.mem_append_right _ List.mem_cons_self))
    unfold replay at hpast ⊢
    rw [List.filterMap_append, List.foldl_append, hpast, latest_concat, ha]
    cases hposted : a.posted with
    | none => simp [hposted]
    | some e =>
      simp only [List.filterMap_cons, hposted, List.filterMap_nil, List.foldl_cons, List.foldl_nil, heard_eq,
        Option.bind_some]
      cases buttonKind? e <;> rfl

lemma up_of_unheard {past : List Act} {h : Hub} (hpast : History past h) (hunheard : Unheard past) :
    isDown past = false := by
  induction hpast with
  | new =>
    obtain ⟨before, a, later, hsplit, -⟩ := hunheard
    simp at hsplit
  | @next past h hpast g ih =>
    rw [isDown_concat]
    rcases (unheard_concat _ _).mp hunheard with ⟨hlost, -, -⟩ | ⟨hbefore, htold⟩
    · dsimp only at hlost
      rw [hlost]
      rfl
    · rw [told?_apply] at htold
      cases g with
      | pressed x y => cases htold
      | released x y => rfl
      | focusLost => rfl
      | _ => exact ih hbefore

lemma told_pressed_iff {past : List Act} {h : Hub} (hpast : History past h) :
    latest Act.told? past = some .pointerPressed ↔ isDown past = true ∨ Unheard past := by
  induction hpast with
  | new =>
    constructor
    · intro hnone
      cases hnone
    · rintro (hdown | ⟨before, a, later, hsplit, -⟩)
      · cases hdown
      · simp at hsplit
  | @next past h hpast g ih =>
    rw [latest_concat, isDown_concat, unheard_concat, told?_apply]
    cases g with
    | pressed x y => simp [Act.button?]
    | released x y => simp [Act.button?]
    | focusLost =>
      dsimp only [Hub.apply]
      cases hfocused : h.focused with
      | true => simp [Act.button?]
      | false => simpa [Act.button?] using ih
    | _ => simpa [Act.button?] using ih

/-! ### Calls to one hub -/

/-- Neither a hub of its own nor a raw event. -/
def HubCall.isPlain : HubCall → Bool
  | .newHub | .act _ (.raw _) => false
  | .clone _ | .act _ _ => true

lemma length_hubs_of_plain {calls : List HubCall} (hplain : ∀ call ∈ calls, call.isPlain = true)
    (g : HubGroup) : (hubCalls g calls).2.hubs.length = g.hubs.length := by
  induction calls generalizing g with
  | nil => rfl
  | cons call rest ih =>
    have hcall := hplain call List.mem_cons_self
    have hrest := ih (fun c hc => hplain c (List.mem_cons_of_mem _ hc)) (hubCall g call).2
    refine hrest.trans ?_
    cases call with
    | newHub => cases hcall
    | clone handle => rfl
    | act handle gesture => exact List.length_set

lemma not_raw_of_plain {calls : List HubCall} (hplain : ∀ call ∈ calls, call.isPlain = true) (g : HubGroup)
    {a : Nat × Act} (ha : a ∈ (hubCalls g calls).1) : a.2.isRaw = false := by
  have hgesture : a.2.gesture ∈ (hubCalls g calls).1.map (·.2.gesture) := List.mem_map_of_mem ha
  rw [gestures_hubCalls] at hgesture
  obtain ⟨call, hcall, hsome⟩ := List.mem_filterMap.mp hgesture
  have hthis := hplain call hcall
  cases call with
  | newHub => cases hsome
  | clone handle => cases hsome
  | act handle gesture =>
    obtain rfl : gesture = a.2.gesture := Option.some.inj hsome
    unfold Act.isRaw
    cases hg : a.2.gesture with
    | raw e =>
      rw [hg] at hthis
      cases hthis
    | _ => rfl

lemma actsOf_of_single {acts : List (Nat × Act)} {g : HubGroup} (h : Follows acts g) (hone : g.hubs.length = 1)
    (handle : Nat) : actsOf (hubIndex g handle) acts = acts.map (·.2) := by
  unfold actsOf
  congr 1
  rw [List.filter_eq_self]
  intro a ha
  have hactor := h.actors a ha
  have hhandle := h.handles handle
  apply decide_eq_true
  omega

lemma act_hubOf {acts : List (Nat × Act)} {g : HubGroup} (h : Follows acts g) (handle : Nat) (gesture : Gesture) :
    (g.act handle gesture).2.hubOf handle = ((g.hubOf handle).apply gesture).1 :=
  hubOf_act h.handles handle gesture

/-! ### What goes unheard -/

lemma release_cases (h : Hub) (g : Gesture) (hdown : h.pointerDown = true)
    (hup : (h.apply g).1.pointerDown = false) :
    (∃ e, (h.apply g).2 = some e ∧ (e.kind? = some .pointerReleased ∨ e.kind? = some .focusLost)) ∨
      (g = .focusLost ∧ h.focused = false ∧ (h.apply g).2 = none) := by
  cases g with
  | pressed x y => cases hup
  | released x y => exact .inl ⟨_, rfl, .inl rfl⟩
  | focusLost =>
    cases hfocused : h.focused with
    | true =>
      refine .inl ⟨.ofKind .focusLost 0 0, ?_, .inr rfl⟩
      simp [Hub.apply, hfocused]
    | false =>
      refine .inr ⟨rfl, rfl, ?_⟩
      simp [Hub.apply, hfocused]
  | _ =>
    dsimp only [Hub.apply] at hup
    rw [hdown] at hup
    cases hup

/-- A button that goes up posts a release or a loss of the focus, unless the focus was lost before the press.
The guest has the button down wherever the hub has, and besides only while such a loss is unheard. -/
theorem pointer_release (calls : List HubCall) (handle : Nat) (hplain : ∀ call ∈ calls, call.isPlain = true) :
    let (acts, g) := hubCalls .single calls
    let past := acts.map (·.2)
    (∀ gesture, (g.hubOf handle).pointerDown = true →
      ((g.act handle gesture).2.hubOf handle).pointerDown = false →
        (∃ e, (g.act handle gesture).1 = some e ∧
          (e.kind? = some .pointerReleased ∨ e.kind? = some .focusLost)) ∨
        (gesture = .focusLost ∧ hasFocus past = false ∧ (g.act handle gesture).1 = none)) ∧
      (replay g.queue.pending = true ↔ (g.hubOf handle).pointerDown = true ∨ Unheard past) ∧
      (Unheard past → (g.hubOf handle).pointerDown = false) := by
  have hfollows := follows_calls calls follows_single
  rw [List.nil_append] at hfollows
  have hone : (hubCalls .single calls).2.hubs.length = 1 := length_hubs_of_plain hplain .single
  have hraw := fun a => not_raw_of_plain (a := a) hplain .single
  generalize hubCalls .single calls = made at hfollows hone hraw ⊢
  obtain ⟨acts, g⟩ := made
  dsimp only at hfollows hone hraw ⊢
  have hpast := hfollows.hubs (hubIndex g handle)
  rw [actsOf_of_single hfollows hone] at hpast
  have hhub : g.hubOf handle = ⟨_, _, _⟩ := hub_eq_of_history hpast
  have hdown : (g.hubOf handle).pointerDown = isDown (acts.map (·.2)) := congrArg Hub.pointerDown hhub
  refine ⟨?_, ?_, ?_⟩
  · intro gesture hbefore hafter
    rw [act_hubOf hfollows] at hafter
    rw [← show (g.hubOf handle).focused = hasFocus (acts.map (·.2)) from congrArg Hub.focused hhub]
    exact release_cases _ _ hbefore hafter
  · have hposted : g.queue.pending = (acts.map (·.2)).filterMap (·.posted) := by
      rw [hfollows.queue, List.filterMap_map]
      rfl
    have hplainActs : ∀ a ∈ acts.map (·.2), a.isRaw = false := by
      intro a ha
      obtain ⟨b, hb, rfl⟩ := List.mem_map.mp ha
      exact hraw b hb
    rw [hposted, replay_eq hplainActs, hdown, ← told_pressed_iff hpast]
    cases latest Act.told? (acts.map (·.2)) with
    | none => simp
    | some k => simp
  · intro hunheard
    rw [hdown]
    exact up_of_unheard hpast hunheard

/-- A press that comes while the focus is elsewhere. -/
def unfocusedPress : List HubCall := [.act 0 .focusLost, .act 0 (.pressed 1 2)]

theorem pointer_release_unfocusedPress :
    let calls := unfocusedPress ++ [.act 0 .focusLost]
    let (acts, g) := hubCalls .single calls
    (∀ call ∈ calls, call.isPlain = true) ∧ (g.hubOf 0).pointerDown = false ∧ Unheard (acts.map (·.2)) := by
  have hplain : ∀ call ∈ unfocusedPress ++ [.act 0 .focusLost], call.isPlain = true := by decide
  obtain ⟨-, hreplay, -⟩ := pointer_release _ 0 hplain
  rcases hreplay.mp rfl with hdown | hunheard
  · cases hdown
  · exact ⟨hplain, rfl, hunheard⟩

/-- Losing the focus once more ends that press, and posts nothing that would tell the guest. -/
theorem silent_release :
    let g := (hubCalls .single unfocusedPress).2
    let (posted, lost) := g.act 0 .focusLost
    (∀ call ∈ unfocusedPress, call.isPlain = true) ∧
      (g.hubOf 0).pointerDown = true ∧ (lost.hubOf 0).pointerDown = false ∧ posted = none ∧
      replay lost.queue.pending ≠ (lost.hubOf 0).pointerDown := by
  refine ⟨by decide, rfl, rfl, rfl, ?_⟩
  intro hsame
  cases hsame

end GuestBridge.Proofs
