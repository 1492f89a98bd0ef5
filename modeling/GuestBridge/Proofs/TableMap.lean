import GuestBridge.Proofs.HandleCounter
import GuestBridge.Proofs.OrderedTable
import Mathlib.Data.Finmap

/-!
# The resource table as a finite map

`TableMap` is a finite map from handles to resources beside the handle that comes next, and `Step` says what
a request to it answers and leaves behind, in terms of that map alone. A resource table behaves like it:
through any requests on a new table the answers are those of the map, and no others are allowed.
-/

namespace GuestBridge.Proofs
open ResourceTable

/-! ### Requests -/

inductive TableRequest where
  | change (call : TableCall)
  | get (kind : ResourceKind) (h : Handle)
  | getAny (h : Handle)
  | findLabel (name : String)
  | iterate
  | size

inductive TableAnswer where
  | done
  | handle (h? : Option Handle)
  | resource (r? : Option Resource)
  | entries (all : List (Handle × Resource))
  | count (n : Nat)

/-- What a request answers: an add the handle that it used, a store the resource whose place it took, an
edit the resource as it is then read. -/
def answer (t : ResourceTable) : TableRequest → TableAnswer
  | .change (.add r) => .handle (t.add r).1
  | .change (.set h r) => .resource (t.replace h r).1
  | .change (.edit kind h f) => .resource ((t.editPayload kind h f).bind fun u => u.get? kind h)
  | .change (.load _ _) => .done
  | .get kind h => .resource (t.get? kind h)
  | .getAny h => .resource (t.getAny? h)
  | .findLabel name => .handle (t.findLabel? name)
  | .iterate => .entries t.entries
  | .size => .count t.size

def TableRequest.apply (t : ResourceTable) : TableRequest → ResourceTable
  | .change call => call.apply t
  | _ => t

def answerAll (t : ResourceTable) : List TableRequest → List TableAnswer × ResourceTable
  | [] => ([], t)
  | request :: rest =>
    let (answers, u) := answerAll (request.apply t) rest
    (answer t request :: answers, u)

/-! ### The finite map -/

structure TableMap where
  entries : Finmap fun _ : Handle => Resource
  next : Option Handle

namespace TableMap

def empty : TableMap := ⟨∅, some .first⟩

def get? (m : TableMap) (kind : ResourceKind) (h : Handle) : Option Resource :=
  (m.entries.lookup h).filter fun r => r.kind = kind

/-- The handle holds a label with this text, whatever the kind of the resource. -/
def HasLabel (m : TableMap) (name : String) (h : Handle) : Prop :=
  ∃ r, m.entries.lookup h = some r ∧ r.payload = .label name

end TableMap

/-- What a load of the bytes puts under the handles from the first one on. -/
def loadedResources (decoder : Option ImageDecoder) (bytes : List UInt8) : List Resource :=
  (headerOf? bytes).elim [] fun (_, _, body) =>
    ((frame body).records.take handleCount).map (·.resource decoder) ++ (leftover? bytes).toList

/-- A request to a finite map, with its answer and the map after it. -/
inductive Behaves : TableMap → TableRequest → TableAnswer → TableMap → Prop where
  | add (m : TableMap) (r : Resource) (h : Handle) (hnext : m.next = some h) :
    Behaves m (.change (.add r)) (.handle (some h)) ⟨m.entries.insert h r, h.next?⟩
  | addNone (m : TableMap) (r : Resource) (hnext : m.next = none) :
    Behaves m (.change (.add r)) (.handle none) m
  | set (m : TableMap) (h : Handle) (r : Resource) :
    Behaves m (.change (.set h r)) (.resource (m.entries.lookup h)) { m with entries := m.entries.insert h r }
  | edit (m : TableMap) (kind : ResourceKind) (h : Handle) (f : Payload → Payload) (r : Resource)
    (hget : m.get? kind h = some r) :
    Behaves m (.change (.edit kind h f)) (.resource (some ⟨r.kind, f r.payload⟩))
      { m with entries := m.entries.insert h ⟨r.kind, f r.payload⟩ }
  | editNone (m : TableMap) (kind : ResourceKind) (h : Handle) (f : Payload → Payload)
    (hget : m.get? kind h = none) : Behaves m (.change (.edit kind h f)) (.resource none) m
  | load (m m' : TableMap) (decoder : Option ImageDecoder) (bytes : List UInt8)
    (hentries : ∀ k, m'.entries.lookup k =
      ((loadedResources decoder bytes)[k.raw.toNat - 1]?).or (m.entries.lookup k))
    (hnext : m'.next = (completedRecords? bytes).elim m.next handleAfter?) :
    Behaves m (.change (.load decoder bytes)) .done m'
  | get (m : TableMap) (kind : ResourceKind) (h : Handle) : Behaves m (.get kind h) (.resource (m.get? kind h)) m
  | getAny (m : TableMap) (h : Handle) : Behaves m (.getAny h) (.resource (m.entries.lookup h)) m
  | label (m : TableMap) (name : String) (h : Handle) (hlabel : m.HasLabel name h)
    (hleast : ∀ k, m.HasLabel name k → h.raw ≤ k.raw) : Behaves m (.findLabel name) (.handle (some h)) m
  | labelNone (m : TableMap) (name : String) (hnone : ∀ h, ¬m.HasLabel name h) :
    Behaves m (.findLabel name) (.handle none) m
  | iterate (m : TableMap) (all : List (Handle × Resource)) (hrise : all.Pairwise fun a b => a.1.raw < b.1.raw)
    (hall : ∀ h r, (h, r) ∈ all ↔ m.entries.lookup h = some r) (hcount : all.length = m.entries.keys.card) :
    Behaves m .iterate (.entries all) m
  | size (m : TableMap) : Behaves m .size (.count m.entries.keys.card) m

inductive MapRun : TableMap → List TableRequest → List TableAnswer → TableMap → Prop where
  | nil (m : TableMap) : MapRun m [] [] m
  | cons {m m' m'' : TableMap} {request : TableRequest} {rest : List TableRequest} {a : TableAnswer}
    {later : List TableAnswer} (hfirst : Behaves m request a m') (hrest : MapRun m' rest later m'') :
    MapRun m (request :: rest) (a :: later) m''

/-! ### The map of a table -/

def mapOf (t : ResourceTable) : TableMap :=
  ⟨(t.entries.map fun e => (⟨e.1, e.2⟩ : (_ : Handle) × Resource)).toFinmap, t.counter⟩

lemma dlookup_entries (entries : List (Handle × Resource)) (h : Handle) :
    (entries.map fun e => (⟨e.1, e.2⟩ : (_ : Handle) × Resource)).dlookup h =
      (entries.find? (fun e => e.1 = h)).map (·.2) := by
  induction entries with
  | nil => rfl
  | cons head rest ih =>
    obtain ⟨k, s⟩ := head
    rw [List.map_cons]
    by_cases hk : h = k
    · subst hk
      simp
    · rw [List.dlookup_cons_ne _ _ hk, ih]
      simp [Ne.symm hk]

@[simp] lemma lookup_mapOf (t : ResourceTable) (h : Handle) : (mapOf t).entries.lookup h = t.getAny? h := by
  unfold mapOf
  rw [Finmap.dlookup_list_toFinmap, dlookup_entries]
  rfl

lemma get?_mapOf (t : ResourceTable) (kind : ResourceKind) (h : Handle) :
    (mapOf t).get? kind h = t.get? kind h := by
  unfold TableMap.get?
  rw [lookup_mapOf]
  rfl

lemma tableMap_ext {m m' : TableMap} (hentries : ∀ h, m.entries.lookup h = m'.entries.lookup h)
    (hnext : m.next = m'.next) : m = m' := by
  obtain ⟨entries, next⟩ := m
  obtain ⟨entries', next'⟩ := m'
  obtain rfl : entries = entries' := Finmap.ext_lookup hentries
  obtain rfl : next = next' := hnext
  rfl

lemma lookup_insert (entries : Finmap fun _ : Handle => Resource) (h k : Handle) (r : Resource) :
    (entries.insert h r).lookup k = if k = h then some r else entries.lookup k := by
  by_cases hk : k = h
  · subst hk
    rw [if_pos rfl, Finmap.lookup_insert]
  · rw [if_neg hk, Finmap.lookup_insert_of_ne _ hk]

lemma mapOf_set (t : ResourceTable) (h : Handle) (r : Resource) :
    mapOf (t.set h r) = { mapOf t with entries := (mapOf t).entries.insert h r } := by
  apply tableMap_ext
  · intro k
    rw [lookup_mapOf, table_getAny?_set, lookup_insert, lookup_mapOf]
  · rfl

lemma mapOf_counter (t : ResourceTable) (c : Option Handle) :
    mapOf { t with counter := c } = { mapOf t with next := c } := rfl

lemma card_keys_mapOf (t : ResourceTable) : (mapOf t).entries.keys.card = t.size := by
  have hkeys : (mapOf t).entries.keys = (handles t).toFinset := by
    ext h
    rw [Finmap.mem_keys, ← Finmap.lookup_isSome, lookup_mapOf, List.mem_toFinset, mem_handles_iff]
  rw [hkeys, List.toFinset_card_of_nodup (nodup_handles t)]
  exact List.length_map _

lemma hasLabel_mapOf_iff {t : ResourceTable} {name : String} {h : Handle} :
    (mapOf t).HasLabel name h ↔ ∃ r, (h, r) ∈ t.entries ∧ r.payload = .label name := by
  unfold TableMap.HasLabel
  simp only [lookup_mapOf, getAny?_eq_some_iff]

/-! ### One request -/

lemma behaves_add (t : ResourceTable) (r : Resource) :
    Behaves (mapOf t) (.change (.add r)) (.handle (t.add r).1) (mapOf ((TableCall.add r).apply t)) := by
  unfold TableCall.apply
  dsimp only
  cases hc : t.counter with
  | none =>
    have hadd : t.add r = (none, t) := by
      unfold ResourceTable.add ResourceTable.advance
      rw [hc]
    rw [hadd]
    exact .addNone _ r hc
  | some h =>
    have hmap : mapOf { t.set h r with counter := h.next? } =
        ⟨(mapOf t).entries.insert h r, h.next?⟩ := by
      rw [mapOf_counter, mapOf_set]
    rw [table_add_eq hc r]
    dsimp only
    rw [hmap]
    exact .add _ r h hc

lemma get?_set_self (t : ResourceTable) (h : Handle) (r : Resource) :
    (t.set h r).get? r.kind h = some r := by
  unfold ResourceTable.get?
  rw [table_getAny?_set, if_pos rfl]
  exact Option.filter_eq_some_iff.mpr ⟨rfl, decide_eq_true rfl⟩

lemma kind_of_get? {t : ResourceTable} {kind : ResourceKind} {h : Handle} {r : Resource}
    (hget : t.get? kind h = some r) : r.kind = kind := by
  have hfilter := (Option.filter_eq_some_iff.mp hget).2
  exact of_decide_eq_true hfilter

lemma behaves_edit (t : ResourceTable) (kind : ResourceKind) (h : Handle) (f : Payload → Payload) :
    Behaves (mapOf t) (.change (.edit kind h f))
      (.resource ((t.editPayload kind h f).bind fun u => u.get? kind h))
      (mapOf ((TableCall.edit kind h f).apply t)) := by
  unfold TableCall.apply ResourceTable.editPayload
  dsimp only
  cases hget : t.get? kind h with
  | none => exact .editNone _ kind h f ((get?_mapOf t kind h).trans hget)
  | some r =>
    obtain rfl : r.kind = kind := kind_of_get? hget
    have hread : (t.set h ⟨r.kind, f r.payload⟩).get? r.kind h = some ⟨r.kind, f r.payload⟩ :=
      get?_set_self t h ⟨r.kind, f r.payload⟩
    simp only [Option.map_some, Option.bind_some, Option.getD_some, hread]
    rw [mapOf_set]
    exact .edit _ _ h f r ((get?_mapOf t r.kind h).trans hget)

lemma behaves_load (t : ResourceTable) (decoder : Option ImageDecoder) (bytes : List UInt8) :
    Behaves (mapOf t) (.change (.load decoder bytes)) .done
      (mapOf ((TableCall.load decoder bytes).apply t)) := by
  unfold TableCall.apply
  dsimp only
  cases hheader : headerOf? bytes with
  | none =>
    have htable := (load_of_no_header hheader t decoder).2
    have hcompleted : completedRecords? bytes = none := by
      unfold completedRecords?
      rw [hheader]
      rfl
    rw [htable]
    apply Behaves.load
    · intro k
      unfold loadedResources
      rw [hheader]
      rfl
    · rw [hcompleted]
      rfl
  | some header =>
    obtain ⟨count, size, body⟩ := header
    have hcompleted := completedRecords?_of_header hheader
    apply Behaves.load
    · intro k
      unfold loadedResources
      rw [hheader, lookup_mapOf, lookup_mapOf, load_entries hheader t decoder k]
      rfl
    · rw [hcompleted]
      exact load_counter hcompleted t decoder

lemma behaves_findLabel (t : ResourceTable) (name : String) :
    Behaves (mapOf t) (.findLabel name) (.handle (t.findLabel? name)) (mapOf t) := by
  unfold ResourceTable.findLabel?
  cases hfind : t.entries.find? (fun e => e.2.payload = .label name) with
  | none =>
    apply Behaves.labelNone
    intro h hlabel
    obtain ⟨r, hmem, hr⟩ := hasLabel_mapOf_iff.mp hlabel
    have hnot := List.find?_eq_none.mp hfind (h, r) hmem
    simp [hr] at hnot
  | some e =>
    obtain ⟨h, r⟩ := e
    obtain ⟨hmem, hr, hleast⟩ := find?_ascending_eq_some t.ascending hfind
    apply Behaves.label
    · exact hasLabel_mapOf_iff.mpr ⟨r, hmem, by simpa using hr⟩
    · intro k hk
      obtain ⟨s, hs, hlabel⟩ := hasLabel_mapOf_iff.mp hk
      exact hleast (k, s) hs (by simpa using hlabel)

theorem behaves_answer (t : ResourceTable) (request : TableRequest) :
    Behaves (mapOf t) request (answer t request) (mapOf (request.apply t)) := by
  cases request with
  | change call =>
    cases call with
    | add r => exact behaves_add t r
    | set h r =>
      have hanswer : answer t (.change (.set h r)) = .resource ((mapOf t).entries.lookup h) := by
        rw [lookup_mapOf]
        exact congrArg (fun replaced => TableAnswer.resource replaced.1) (replace_eq t h r)
      have hmap : mapOf ((TableRequest.change (.set h r)).apply t) = _ := mapOf_set t h r
      rw [hanswer, hmap]
      exact .set _ h r
    | edit kind h f => exact behaves_edit t kind h f
    | load decoder bytes => exact behaves_load t decoder bytes
  | get kind h =>
    unfold answer
    dsimp only
    rw [← get?_mapOf]
    exact .get _ kind h
  | getAny h =>
    unfold answer
    dsimp only
    rw [← lookup_mapOf]
    exact .getAny _ h
  | findLabel name => exact behaves_findLabel t name
  | iterate =>
    apply Behaves.iterate
    · exact t.ascending
    · intro h r
      rw [lookup_mapOf]
      exact getAny?_eq_some_iff.symm
    · exact (card_keys_mapOf t).symm
  | size =>
    unfold answer
    dsimp only
    rw [← card_keys_mapOf]
    exact .size _

/-- A finite map allows one answer to a request, and leaves one map. -/
theorem behaves_unique {m m₁ m₂ : TableMap} {request : TableRequest} {a₁ a₂ : TableAnswer}
    (h₁ : Behaves m request a₁ m₁) (h₂ : Behaves m request a₂ m₂) : a₁ = a₂ ∧ m₁ = m₂ := by
  cases h₁ with
  | add r h hnext =>
    cases h₂ with
    | add r h' hnext' =>
      rw [hnext] at hnext'
      cases hnext'
      exact ⟨rfl, rfl⟩
    | addNone r hnone =>
      rw [hnext] at hnone
      cases hnone
  | addNone r hnone =>
    cases h₂ with
    | add r h hnext =>
      rw [hnone] at hnext
      cases hnext
    | addNone r hnone' => exact ⟨rfl, rfl⟩
  | edit kind h f r hget =>
    cases h₂ with
    | edit kind h f r' hget' =>
      rw [hget] at hget'
      cases hget'
      exact ⟨rfl, rfl⟩
    | editNone kind h f hnone =>
      rw [hget] at hnone
      cases hnone
  | editNone kind h f hnone =>
    cases h₂ with
    | edit kind h f r hget =>
      rw [hnone] at hget
      cases hget
    | editNone kind h f hnone' => exact ⟨rfl, rfl⟩
  | load m' decoder bytes hentries hnext =>
    cases h₂ with
    | load m'' decoder bytes hentries' hnext' =>
      refine ⟨rfl, tableMap_ext ?_ (hnext.trans hnext'.symm)⟩
      intro k
      exact (hentries k).trans (hentries' k).symm
  | label name h hlabel hleast =>
    cases h₂ with
    | label name h' hlabel' hleast' =>
      obtain rfl : h = h' := handle_eq_of_raw_le (hleast h' hlabel') (hleast' h hlabel)
      exact ⟨rfl, rfl⟩
    | labelNone name hnone => exact absurd hlabel (hnone h)
  | labelNone name hnone =>
    cases h₂ with
    | label name h hlabel hleast => exact absurd hlabel (hnone h)
    | labelNone name hnone' => exact ⟨rfl, rfl⟩
  | iterate all hrise hall hcount =>
    cases h₂ with
    | iterate all' hrise' hall' hcount' =>
      have hsame : all = all' := by
        apply eq_of_rising (fun e => e.1.raw) hrise hrise'
        rintro ⟨h, r⟩
        rw [hall h r, hall' h r]
      exact ⟨congrArg TableAnswer.entries hsame, rfl⟩
  | set | get | getAny | size =>
    cases h₂
    exact ⟨rfl, rfl⟩

/-! ### Runs of requests -/

theorem run_iff (requests : List TableRequest) (t : ResourceTable) (as : List TableAnswer) (m : TableMap) :
    MapRun (mapOf t) requests as m ↔ as = (answerAll t requests).1 ∧ m = mapOf (answerAll t requests).2 := by
  induction requests generalizing t as with
  | nil =>
    constructor
    · intro h
      cases h
      exact ⟨rfl, rfl⟩
    · rintro ⟨rfl, rfl⟩
      exact .nil _
  | cons request rest ih =>
    constructor
    · intro h
      cases h with
      | cons hfirst hrest =>
        obtain ⟨rfl, rfl⟩ := behaves_unique hfirst (behaves_answer t request)
        obtain ⟨rfl, rfl⟩ := (ih _ _).mp hrest
        exact ⟨rfl, rfl⟩
    · rintro ⟨rfl, rfl⟩
      exact .cons (behaves_answer t request) ((ih _ _).mpr ⟨rfl, rfl⟩)

lemma mapOf_empty : mapOf .empty = .empty := rfl

/-- Through any requests on a new table the answers, and the map of the table after them, are the ones
that a finite map allows. -/
theorem table_refines_map (requests : List TableRequest) (as : List TableAnswer) (m : TableMap) :
    MapRun .empty requests as m ↔
      as = (answerAll .empty requests).1 ∧ m = mapOf (answerAll .empty requests).2 := by
  rw [← mapOf_empty]
  exact run_iff requests .empty as m

end GuestBridge.Proofs
