import GuestBridge.Trace
import Mathlib.Data.List.Basic
import Mathlib.Data.List.TakeWhile
import Mathlib.Tactic.Common

/-!
# Lists of categories

A list names a category exactly if one of its tokens does, and its tokens are the longest pieces without
a separator. So what a list turns on hangs on nothing but which known names are among its tokens. Their
order and case, how often each occurs and what stands between them do not matter.
-/

namespace GuestBridge.Proofs
open Trace

inductive TraceCategory where
  | syscall
  | event
  | resource
deriving DecidableEq, Repr

namespace TraceCategory

/-- The bit of a category in a mask. -/
def bit : TraceCategory → Nat
  | .syscall => 0
  | .event => 1
  | .resource => 2

/-- The names that are a category's own. -/
def names : TraceCategory → List String
  | .syscall => ["syscall", "sc"]
  | .event => ["event", "ev"]
  | .resource => ["resource", "res"]

def isOn : TraceCategory → Trace → Bool
  | .syscall, t => t.syscall
  | .event, t => t.event
  | .resource, t => t.resource

end TraceCategory

def SameButCase (t u : List Char) : Prop := t.map Char.toLower = u.map Char.toLower

/-- A text names a category, be it alone or with all others. -/
def Names (t : List Char) (category : TraceCategory) : Prop :=
  ∃ name ∈ "all" :: category.names, SameButCase t name.toList

/-- Some characters without a separator among them. -/
structure IsWord (t : List Char) : Prop where
  ne_nil : t ≠ []
  plain : ∀ c ∈ t, isSeparator c = false

/-- A word that stands in a text as a maximal piece: a separator or an end of the text is on either side. -/
structure IsToken (t text : List Char) : Prop extends IsWord t where
  place : ∃ before after, text = before ++ t ++ after ∧ (∀ c ∈ before.getLast?, isSeparator c = true) ∧
    ∀ c ∈ after.head?, isSeparator c = true

/-- A text is a list of some tokens: any separators may stand in front of each of them and behind the last
one, and at least one stands between two. -/
inductive Lists : List Char → List (List Char) → Prop where
  | nil {separators : List Char} (only : ∀ c ∈ separators, isSeparator c = true) : Lists separators []
  | cons {separators t rest : List Char} {ts : List (List Char)} (only : ∀ c ∈ separators, isSeparator c = true)
      (word : IsWord t) (ends : ∀ c ∈ rest.head?, isSeparator c = true) (tail : Lists rest ts) :
      Lists (separators ++ t ++ rest) (t :: ts)

/-- Changes to some tokens that change none of the categories that they name. -/
inductive Rephrased : List (List Char) → List (List Char) → Prop where
  | reorder {ts us : List (List Char)} (perm : ts.Perm us) : Rephrased ts us
  | repeated {t : List Char} {ts : List (List Char)} (mem : t ∈ ts) : Rephrased ts (t :: ts)
  | recase {t u : List Char} (ts : List (List Char)) (same : SameButCase t u) : Rephrased (t :: ts) (u :: ts)
  | unknown {t : List Char} (ts : List (List Char)) (unknown : ∀ category, ¬Names t category) :
      Rephrased ts (t :: ts)
  | symm {ts us : List (List Char)} (h : Rephrased ts us) : Rephrased us ts
  | trans {ts us vs : List (List Char)} (h : Rephrased ts us) (h' : Rephrased us vs) : Rephrased ts vs

/-! ### Tokens -/

lemma tokens_ne_nil (s : List Char) : tokens s ≠ [] := by
  cases s with
  | nil => exact List.cons_ne_nil _ _
  | cons c rest =>
    unfold tokens
    split
    · exact List.cons_ne_nil _ _
    · split <;> exact List.cons_ne_nil _ _

lemma tokens_separator {c : Char} (hc : isSeparator c = true) (rest : List Char) :
    tokens (c :: rest) = [] :: tokens rest := by
  rw [tokens, if_pos hc]

/-- A separator ends a token wherever it stands. -/
lemma tokens_append {c : Char} (hc : isSeparator c = true) (a b : List Char) :
    tokens (a ++ c :: b) = tokens a ++ tokens b := by
  induction a with
  | nil => exact tokens_separator hc b
  | cons d a ih =>
    rw [List.cons_append]
    by_cases hd : isSeparator d = true
    · rw [tokens_separator hd, tokens_separator hd, ih, List.cons_append]
    · rw [tokens, tokens, if_neg hd, if_neg hd, ih]
      obtain ⟨first, others, hfirst⟩ := List.exists_cons_of_ne_nil (tokens_ne_nil a)
      rw [hfirst]
      rfl

lemma tokens_of_plain {t : List Char} (ht : ∀ c ∈ t, isSeparator c = false) : tokens t = [t] := by
  induction t with
  | nil => rfl
  | cons c t ih =>
    obtain ⟨hc, hrest⟩ := List.forall_mem_cons.mp ht
    rw [tokens, hc, ih hrest]
    rfl

/-- Follows a text from one separator to the next. -/
lemma separator_induction {motive : List Char → Prop}
    (last : ∀ t, (∀ c ∈ t, isSeparator c = false) → motive t)
    (more : ∀ t c rest, (∀ d ∈ t, isSeparator d = false) → isSeparator c = true → motive rest →
      motive (t ++ c :: rest))
    (s : List Char) : motive s := by
  induction hn : s.length using Nat.strongRecOn generalizing s with
  | ind n ih =>
    have hplain : ∀ c ∈ s.takeWhile (!isSeparator ·), isSeparator c = false := by
      intro c hc
      simpa using List.mem_takeWhile_imp hc
    have hsplit := List.takeWhile_append_dropWhile (p := (!isSeparator ·)) (l := s)
    have hhead := List.head?_dropWhile_not (!isSeparator ·) s
    cases hrest : s.dropWhile (!isSeparator ·) with
    | nil =>
      rw [hrest, List.append_nil] at hsplit
      rw [← hsplit]
      exact last _ hplain
    | cons c rest =>
      rw [hrest] at hsplit hhead
      have hlength := congrArg List.length hsplit
      rw [List.length_append, List.length_cons] at hlength
      rw [← hsplit]
      exact more _ c rest hplain (by simpa using hhead) (ih rest.length (by omega) rest rfl)

lemma tokens_first {t after : List Char} (ht : ∀ c ∈ t, isSeparator c = false)
    (hafter : ∀ c ∈ after.head?, isSeparator c = true) : t ∈ tokens (t ++ after) := by
  cases after with
  | nil =>
    rw [List.append_nil, tokens_of_plain ht]
    exact List.mem_singleton_self t
  | cons c rest =>
    rw [tokens_append (hafter c rfl), tokens_of_plain ht]
    exact List.mem_cons_self

lemma mem_tokens_of_isToken {t s : List Char} (h : IsToken t s) : t ∈ tokens s := by
  obtain ⟨before, after, rfl, hbefore, hafter⟩ := h.place
  have hfirst := tokens_first h.plain hafter
  rw [List.append_assoc]
  rcases List.eq_nil_or_concat before with rfl | ⟨front, c, rfl⟩
  · exact hfirst
  · have hc : isSeparator c = true := hbefore c (by rw [List.concat_eq_append, List.getLast?_concat]; rfl)
    rw [List.concat_eq_append, List.append_assoc, List.singleton_append, tokens_append hc]
    exact List.mem_append_right _ hfirst

lemma IsToken.behind {t s : List Char} (h : IsToken t s) (front : List Char) {c : Char}
    (hc : isSeparator c = true) : IsToken t (front ++ c :: s) := by
  obtain ⟨before, after, rfl, hbefore, hafter⟩ := h.place
  refine ⟨h.toIsWord, front ++ c :: before, after, by simp, ?_, hafter⟩
  cases before with
  | nil =>
    rw [List.getLast?_concat]
    intro d hd
    cases hd
    exact hc
  | cons d before =>
    rw [List.getLast?_append, List.getLast?_cons_cons, List.getLast?_cons, Option.some_or]
    rwa [List.getLast?_cons] at hbefore

/-- The pieces of a text that are not empty are its tokens. -/
theorem mem_tokens_iff {t s : List Char} (ht : t ≠ []) : t ∈ tokens s ↔ IsToken t s := by
  refine ⟨fun h => ?_, mem_tokens_of_isToken⟩
  induction s using separator_induction with
  | last s hs =>
    rw [tokens_of_plain hs, List.mem_singleton] at h
    subst h
    exact ⟨⟨ht, hs⟩, [], [], by simp, nofun, nofun⟩
  | more s c rest hs hc ih =>
    rw [tokens_append hc, tokens_of_plain hs, List.singleton_append, List.mem_cons] at h
    rcases h with rfl | h
    · refine ⟨⟨ht, hs⟩, [], c :: rest, by simp, nofun, ?_⟩
      intro d hd
      cases hd
      exact hc
    · exact (ih h).behind s hc

lemma Lists.behind {s : List Char} {ts : List (List Char)} (h : Lists s ts) {c : Char}
    (hc : isSeparator c = true) : Lists (c :: s) ts := by
  cases h with
  | nil only => exact .nil (List.forall_mem_cons.mpr ⟨hc, only⟩)
  | @cons separators t rest ts only word ends tail =>
    rw [← List.cons_append, ← List.cons_append]
    exact .cons (List.forall_mem_cons.mpr ⟨hc, only⟩) word ends tail

/-- Every text is a list of its pieces that are not empty. -/
theorem exists_lists (s : List Char) : ∃ ts, Lists s ts := by
  have single {t rest : List Char} {ts : List (List Char)} (ht : ∀ c ∈ t, isSeparator c = false)
      (ends : ∀ c ∈ rest.head?, isSeparator c = true) (tail : Lists rest ts) : ∃ ts, Lists (t ++ rest) ts := by
    by_cases hnil : t = []
    · rw [hnil]
      exact ⟨ts, tail⟩
    · exact ⟨t :: ts, .cons (List.forall_mem_nil _) ⟨hnil, ht⟩ ends tail⟩
  induction s using separator_induction with
  | last t ht =>
    have hend : ∀ c ∈ ([] : List Char).head?, isSeparator c = true := nofun
    have h := single ht hend (.nil (List.forall_mem_nil _))
    rwa [List.append_nil] at h
  | more t c rest ht hc ih =>
    obtain ⟨ts, tail⟩ := ih
    refine single ht ?_ (tail.behind hc)
    intro d hd
    cases hd
    exact hc

lemma mem_tokens_separators {separators : List Char} (only : ∀ c ∈ separators, isSeparator c = true)
    (s : List Char) {t : List Char} (ht : t ≠ []) : t ∈ tokens (separators ++ s) ↔ t ∈ tokens s := by
  induction separators with
  | nil => rfl
  | cons c separators ih =>
    obtain ⟨hc, hrest⟩ := List.forall_mem_cons.mp only
    rw [List.cons_append, tokens_separator hc, List.mem_cons, ih hrest, or_iff_right ht]

lemma Lists.mem_iff {s : List Char} {ts : List (List Char)} (h : Lists s ts) {t : List Char} (ht : t ≠ []) :
    t ∈ tokens s ↔ t ∈ ts := by
  induction h with
  | @nil separators only =>
    rw [← List.append_nil separators, mem_tokens_separators only [] ht]
    exact iff_of_false (fun hmem => ht (List.mem_singleton.mp hmem)) List.not_mem_nil
  | @cons separators u rest ts only word ends tail ih =>
    rw [List.append_assoc, mem_tokens_separators only _ ht, List.mem_cons, ← ih]
    cases rest with
    | nil =>
      have hnone : t ∉ tokens [] := fun hmem => ht (List.mem_singleton.mp hmem)
      rw [List.append_nil, tokens_of_plain word.plain, List.mem_singleton, or_iff_left hnone]
    | cons c rest =>
      have hc := ends c rfl
      rw [tokens_append hc, tokens_of_plain word.plain, tokens_separator hc, List.singleton_append, List.mem_cons,
        List.mem_cons, or_iff_right ht]

lemma Lists.ne_nil {s : List Char} {ts : List (List Char)} (h : Lists s ts) : [] ∉ ts := by
  induction h with
  | nil only => exact List.not_mem_nil
  | cons only word ends tail ih => exact fun hmem => (List.mem_cons.mp hmem).elim word.ne_nil.symm ih

/-! ### What tokens turn on -/

lemma lowerAscii_eq_toLower (c : Char) : Text.lowerAscii c = c.toLower := by
  unfold Text.lowerAscii Char.toLower
  by_cases h : c.val ≥ 'A'.val ∧ c.val ≤ 'Z'.val
  · have h' : 'A' ≤ c ∧ c ≤ 'Z' := h
    have hlow : 65 ≤ c.val.toNat := h.1
    have hhigh : c.val.toNat ≤ 90 := h.2
    have hvalid : (c.toNat + 32).isValidChar := .inl (by unfold Char.toNat; omega)
    have hstep : ('a'.val - 'A'.val).toNat = 32 := rfl
    have hsum : (c.val + ('a'.val - 'A'.val)).toNat = c.val.toNat + 32 := by
      rw [UInt32.toNat_add, hstep, Nat.mod_eq_of_lt (by omega)]
    rw [if_pos h', dif_pos h, Char.ofNat, dif_pos hvalid]
    exact Char.ext (UInt32.toNat_inj.mp hsum.symm)
  · have h' : ¬('A' ≤ c ∧ c ≤ 'Z') := h
    rw [if_neg h', dif_neg h]

lemma names_iff {t : List Char} {category : TraceCategory} :
    Names t category ↔ normalized t ∈ "all" :: category.names := by
  have hlower : Text.lowerAscii = Char.toLower := funext lowerAscii_eq_toLower
  have hsmall : ∀ name ∈ "all" :: category.names, name.toList.map Char.toLower = name.toList := by
    cases category <;> decide
  unfold Names SameButCase normalized
  rw [hlower]
  constructor
  · rintro ⟨name, hname, hsame⟩
    rw [hsame, hsmall name hname, String.ofList_toList]
    exact hname
  · intro h
    refine ⟨_, h, ?_⟩
    rw [hsmall _ h, String.toList_ofList]

lemma isOn_named? (category : TraceCategory) (name : String) :
    category.isOn ((named? name).getD .none) = true ↔ name ∈ "all" :: category.names := by
  unfold named?
  split
  all_goals cases category <;> simp_all [TraceCategory.isOn, TraceCategory.names, Trace.all, Trace.none]

lemma isOn_ofToken {category : TraceCategory} {t : List Char} :
    category.isOn (ofToken t) = true ↔ Names t category := by
  rw [names_iff]
  exact isOn_named? category (normalized t)

lemma isOn_union (category : TraceCategory) (a b : Trace) :
    category.isOn (a.union b) = (category.isOn a || category.isOn b) := by
  cases category <;> rfl

lemma isOn_foldl (category : TraceCategory) (t : Trace) (pieces : List (List Char)) :
    category.isOn (pieces.foldl (fun t piece => t.union (ofToken piece)) t) =
      (category.isOn t || pieces.any fun piece => category.isOn (ofToken piece)) := by
  induction pieces generalizing t with
  | nil => simp
  | cons piece rest ih => rw [List.foldl_cons, ih, isOn_union, List.any_cons, Bool.or_assoc]

lemma isOn_ofNames {category : TraceCategory} {s : String} :
    category.isOn (ofNames s) = true ↔ ∃ t ∈ tokens s.toList, Names t category := by
  have hnone : category.isOn .none = false := by
    cases category <;> rfl
  unfold ofNames
  rw [isOn_foldl, hnone, Bool.false_or, List.any_eq_true]
  simp only [isOn_ofToken]

lemma Names.ne_nil {t : List Char} {category : TraceCategory} (h : Names t category) : t ≠ [] := by
  obtain ⟨name, hname, hsame⟩ := h
  rintro rfl
  have hlong : ∀ name ∈ "all" :: category.names, name.toList.map Char.toLower ≠ [] := by
    cases category <;> decide
  exact hlong name hname hsame.symm

lemma trace_ext {a b : Trace} (h : ∀ category, TraceCategory.isOn category a = TraceCategory.isOn category b) :
    a = b := by
  obtain ⟨syscall, event, resource⟩ := a
  congr 1
  · exact h .syscall
  · exact h .event
  · exact h .resource

/-! ### Masks -/

lemma testBit_mask {t : Trace} {k : Nat} :
    t.mask.testBit k = true ↔ ∃ category : TraceCategory, category.bit = k ∧ category.isOn t = true := by
  have hbit : ∀ category : TraceCategory, t.mask.testBit category.bit = category.isOn t := by
    obtain ⟨a, b, c⟩ := t
    intro category
    cases category <;> cases a <;> cases b <;> cases c <;> decide
  constructor
  · intro h
    match k with
    | 0 => exact ⟨.syscall, rfl, hbit .syscall ▸ h⟩
    | 1 => exact ⟨.event, rfl, hbit .event ▸ h⟩
    | 2 => exact ⟨.resource, rfl, hbit .resource ▸ h⟩
    | k + 3 =>
      have hlt : t.mask < 2 ^ 3 := by
        obtain ⟨a, b, c⟩ := t
        cases a <;> cases b <;> cases c <;> decide
      have hpow : 2 ^ 3 ≤ 2 ^ (k + 3) := Nat.pow_le_pow_right (by omega) (by omega)
      rw [Nat.testBit_lt_two_pow (Nat.lt_of_lt_of_le hlt hpow)] at h
      cases h
  · rintro ⟨category, rfl, hon⟩
    rw [hbit, hon]

lemma mask_union (a b : Trace) : (a.union b).mask = a.mask ||| b.mask := by
  obtain ⟨a₁, a₂, a₃⟩ := a
  obtain ⟨b₁, b₂, b₃⟩ := b
  cases a₁ <;> cases a₂ <;> cases a₃ <;> cases b₁ <;> cases b₂ <;> cases b₃ <;> rfl

lemma ofNames_append (a b : String) {c : Char} (hc : isSeparator c = true) :
    ofNames (a ++ String.singleton c ++ b) = (ofNames a).union (ofNames b) := by
  apply trace_ext
  intro category
  have hpieces : tokens (a ++ String.singleton c ++ b).toList = tokens a.toList ++ tokens b.toList := by
    rw [String.toList_append, String.toList_append, String.toList_singleton, List.append_assoc,
      List.singleton_append, tokens_append hc]
  rw [isOn_union, Bool.eq_iff_iff, Bool.or_eq_true, isOn_ofNames, isOn_ofNames, isOn_ofNames, hpieces]
  simp only [List.mem_append, or_and_right, exists_or]

/-! ### Other forms of a list -/

lemma SameButCase.names_iff {t u : List Char} (h : SameButCase t u) (category : TraceCategory) :
    Names t category ↔ Names u category := by
  unfold SameButCase at h
  unfold Names SameButCase
  rw [h]

lemma Rephrased.names_iff {ts us : List (List Char)} (h : Rephrased ts us) (category : TraceCategory) :
    (∃ t ∈ ts, Names t category) ↔ ∃ t ∈ us, Names t category := by
  induction h with
  | reorder perm => simp only [perm.mem_iff]
  | @repeated t ts mem =>
    rw [List.exists_mem_cons_iff]
    exact ⟨.inr, fun h => h.elim (fun ht => ⟨t, mem, ht⟩) id⟩
  | recase ts same => rw [List.exists_mem_cons_iff, List.exists_mem_cons_iff, same.names_iff category]
  | unknown ts unknown => rw [List.exists_mem_cons_iff, or_iff_right (unknown category)]
  | symm h ih => exact ih.symm
  | trans h h' ih ih' => exact ih.trans ih'

lemma isOn_of_lists {s : String} {ts : List (List Char)} (h : Lists s.toList ts) (category : TraceCategory) :
    category.isOn (ofNames s) = true ↔ ∃ t ∈ ts, Names t category := by
  rw [isOn_ofNames]
  refine exists_congr fun t => ?_
  constructor
  · rintro ⟨hmem, hnames⟩
    exact ⟨(h.mem_iff hnames.ne_nil).mp hmem, hnames⟩
  · rintro ⟨hmem, hnames⟩
    exact ⟨(h.mem_iff hnames.ne_nil).mpr hmem, hnames⟩

/-- What a list turns on: the categories that its tokens name. Lists joined by a separator turn on what
either of them does, and no change that keeps the known names changes anything. -/
theorem category_lists :
    (∀ (s : String) (k : Nat), (ofNames s).mask.testBit k = true ↔
      ∃ category : TraceCategory, category.bit = k ∧ ∃ t, IsToken t s.toList ∧ Names t category) ∧
    (∀ (a b : String) (c : Char), isSeparator c = true →
      (ofNames (a ++ String.singleton c ++ b)).mask = (ofNames a).mask ||| (ofNames b).mask) ∧
    (∀ s : String, ∃ ts, Lists s.toList ts ∧ ∀ t, t ∈ ts ↔ IsToken t s.toList) ∧
    ∀ (s s' : String) (ts ts' : List (List Char)), Lists s.toList ts → Lists s'.toList ts' → Rephrased ts ts' →
      (ofNames s).mask = (ofNames s').mask := by
  refine ⟨fun s k => ?_, fun a b c hc => ?_, fun s => ?_, fun s s' ts ts' hs hs' hsame => ?_⟩
  · rw [testBit_mask]
    refine exists_congr fun category => and_congr_right fun _ => ?_
    rw [isOn_ofNames]
    refine exists_congr fun t => and_congr_left fun hnames => ?_
    exact mem_tokens_iff hnames.ne_nil
  · rw [ofNames_append a b hc, mask_union]
  · obtain ⟨ts, hts⟩ := exists_lists s.toList
    refine ⟨ts, hts, fun t => ?_⟩
    by_cases ht : t = []
    · rw [ht]
      exact iff_of_false hts.ne_nil fun h => h.ne_nil rfl
    · rw [← hts.mem_iff ht, mem_tokens_iff ht]
  · have hequal : ofNames s = ofNames s' := by
      apply trace_ext
      intro category
      rw [Bool.eq_iff_iff, isOn_of_lists hs, isOn_of_lists hs', hsame.names_iff]
    rw [hequal]

/-- Two names in a list with blanks around them, and the same two in another order and case, one of them
twice and with a token between them that is no name. -/
theorem category_lists_respelled :
    (ofNames " res ; sc ").mask.testBit 2 = true ∧
      isSeparator ';' = true ∧
      (ofNames (" res " ++ String.singleton ';' ++ " sc ")).mask = (ofNames " res ").mask ||| (ofNames " sc ").mask ∧
      Lists " res ; sc ".toList ["res".toList, "sc".toList] ∧
      Lists "SC,bogus, Res,sc".toList ["SC".toList, "bogus".toList, "Res".toList, "sc".toList] ∧
      Rephrased ["res".toList, "sc".toList] ["SC".toList, "bogus".toList, "Res".toList, "sc".toList] ∧
      (ofNames " res ; sc ").mask = (ofNames "SC,bogus, Res,sc").mask := by
  obtain ⟨hbits, hjoined, -, hsame⟩ := category_lists
  have only {t : List Char} (ht : t.all isSeparator = true) : ∀ c ∈ t, isSeparator c = true :=
    List.all_eq_true.mp ht
  have ends {t : List Char} (ht : (t.head?.all isSeparator) = true) : ∀ c ∈ t.head?, isSeparator c = true := by
    intro c hc
    rwa [Option.mem_def.mp hc] at ht
  have word {t : List Char} (hne : t ≠ []) (ht : t.all (fun c => isSeparator c == false) = true) : IsWord t :=
    ⟨hne, fun c hc => beq_iff_eq.mp (List.all_eq_true.mp ht c hc)⟩
  have hblank : Lists " ".toList [] := .nil (only rfl)
  have hres : IsToken "res".toList " res ; sc ".toList := by
    refine ⟨word (by decide) rfl, [' '], " ; sc ".toList, rfl, fun c hc => ?_, ends rfl⟩
    cases hc
    rfl
  have hblanks : Lists (" ".toList ++ "res".toList ++ (" ; ".toList ++ "sc".toList ++ " ".toList))
      ["res".toList, "sc".toList] :=
    .cons (only rfl) (word (by decide) rfl) (ends rfl) (.cons (only rfl) (word (by decide) rfl) (ends rfl) hblank)
  have hlast : Lists (", ".toList ++ "Res".toList ++ (",".toList ++ "sc".toList ++ [])) ["Res".toList, "sc".toList] :=
    .cons (only rfl) (word (by decide) rfl) (ends rfl)
      (.cons (only rfl) (word (by decide) rfl) (ends rfl) (.nil (only rfl)))
  have hcommas : Lists ([] ++ "SC".toList ++ (",".toList ++ "bogus".toList ++ ", Res,sc".toList))
      ["SC".toList, "bogus".toList, "Res".toList, "sc".toList] :=
    .cons (only rfl) (word (by decide) rfl) (ends rfl) (.cons (only rfl) (word (by decide) rfl) (ends rfl) hlast)
  have hbogus : ∀ category, ¬Names "bogus".toList category := by
    intro category
    rw [names_iff]
    cases category <;> decide
  have htwice : Rephrased ["res".toList, "sc".toList] ["SC".toList, "res".toList, "sc".toList] :=
    .trans (.repeated (t := "sc".toList) (by decide)) (.recase _ rfl)
  have hswapped : Rephrased ["SC".toList, "res".toList, "sc".toList] ["Res".toList, "SC".toList, "sc".toList] :=
    .trans (.reorder (.swap _ _ _)) (.recase _ rfl)
  have hlonger : Rephrased ["Res".toList, "SC".toList, "sc".toList]
      ["SC".toList, "bogus".toList, "Res".toList, "sc".toList] :=
    .trans (.unknown _ hbogus) (.reorder (by decide))
  have hrephrased := htwice.trans (hswapped.trans hlonger)
  exact ⟨(hbits _ _).mpr ⟨.resource, rfl, _, hres, "res", by decide, rfl⟩, by decide, hjoined _ _ _ (by decide),
    hblanks, hcommas, hrephrased, hsame _ _ _ _ hblanks hcommas hrephrased⟩

end GuestBridge.Proofs
