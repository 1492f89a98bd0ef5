import GuestBridge.Report
import Mathlib.Tactic.Common

/-!
# The lines of a report

The table is a heading and a line for each record, and a line ends nowhere but at its end. A label may hold
any characters at all: inside the quotes none of them is a line break.
-/

namespace GuestBridge.Proofs
open Report

/-- A text without a line break. -/
def OneLine (cs : List Char) : Prop := '\n' ∉ cs

instance (cs : List Char) : Decidable (OneLine cs) := inferInstanceAs (Decidable ('\n' ∉ cs))

/-- The text is these lines, each with a line break behind it and none inside. -/
structure EndedLines (lines : List (List Char)) (s : String) : Prop where
  text : s.toList = lines.flatMap (· ++ ['\n'])
  oneLine : ∀ line ∈ lines, OneLine line

/-- The line starts with a mark and the number `n`, and a blank ends the number. -/
def Numbered (n : Nat) (line : List Char) : Prop := ∃ rest, line = '#' :: Nat.toDigits 10 n ++ ' ' :: rest

/-! ### Without a line break -/

lemma oneLine_append {cs ds : List Char} : OneLine (cs ++ ds) ↔ OneLine cs ∧ OneLine ds := by
  unfold OneLine
  rw [List.mem_append, not_or]

lemma oneLine_of_toList_append {s t : String} (hs : OneLine s.toList) (ht : OneLine t.toList) :
    OneLine (s ++ t).toList := by
  rw [String.toList_append]
  exact oneLine_append.mpr ⟨hs, ht⟩

lemma oneLine_toDigits {base : Nat} (hbase : 1 < base) (n : Nat) : OneLine (Nat.toDigits base n) := by
  have hdigit : ∀ d, OneLine [Nat.digitChar d] := by
    intro d hmem
    exact Nat.digitChar_ne '\n' rfl (List.mem_singleton.mp hmem).symm
  induction n using Nat.strongRecOn with
  | ind n ih =>
    rw [Nat.toDigits_eq_if hbase]
    by_cases hn : n < base
    · rw [if_pos hn]
      exact hdigit n
    · rw [if_neg hn]
      exact oneLine_append.mpr ⟨ih (n / base) (Nat.div_lt_self (by omega) hbase), hdigit (n % base)⟩

lemma oneLine_quotedChar (c : Char) : OneLine (Text.quotedChar c) := by
  unfold Text.quotedChar
  by_cases hplain : c = '"' ∨ c = '\\' ∨ c = '\n' ∨ c = '\r' ∨ c = '\t' ∨ c = '\x00'
  · rcases hplain with rfl | rfl | rfl | rfl | rfl | rfl <;> decide
  simp only [not_or] at hplain
  obtain ⟨hquote, hback, hnew, hreturn, htab, hnul⟩ := hplain
  rw [if_neg hquote, if_neg hback, if_neg hnew, if_neg hreturn, if_neg htab, if_neg hnul]
  by_cases hprint : Text.isUnprintable c = true
  · have hbefore : OneLine ['\\', 'u', '\x7b'] := by decide
    have hafter : OneLine ['\x7d'] := by decide
    rw [if_pos hprint, oneLine_append, oneLine_append]
    exact ⟨⟨hbefore, oneLine_toDigits (by decide) c.toNat⟩, hafter⟩
  · rw [if_neg hprint]
    intro hmem
    exact hnew (List.mem_singleton.mp hmem).symm

/-- Quoted text is one line whatever it quotes. -/
theorem oneLine_quoted (s : String) : OneLine (Text.quoted s).toList := by
  have hmark : OneLine ['"'] := by decide
  have hchars : OneLine (s.toList.flatMap Text.quotedChar) := by
    intro hmem
    obtain ⟨c, -, hc⟩ := List.mem_flatMap.mp hmem
    exact oneLine_quotedChar c hc
  unfold Text.quoted
  rw [String.toList_ofList, ← List.singleton_append, oneLine_append, oneLine_append]
  exact ⟨⟨hmark, hchars⟩, hmark⟩

lemma toList_pushn (s : String) (c : Char) (n : Nat) :
    (s.pushn c n).toList = s.toList ++ List.replicate n c := by
  induction n with
  | zero => exact (List.append_nil _).symm
  | succ n ih =>
    have hstep : s.pushn c (n + 1) = (s.pushn c n).push c := rfl
    rw [hstep, String.toList_push, ih, List.append_assoc, List.replicate_succ']

lemma toList_padding (n : Nat) : ("".pushn ' ' n).toList = List.replicate n ' ' := by
  rw [toList_pushn]
  rfl

lemma oneLine_padding (n : Nat) : OneLine ("".pushn ' ' n).toList := by
  rw [toList_padding]
  intro hmem
  exact absurd (List.eq_of_mem_replicate hmem) (by decide)

lemma toList_number (n : Nat) : (toString n).toList = Nat.toDigits 10 n := by
  rw [Nat.toString_eq_ofList_toDigits, String.toList_ofList]

lemma oneLine_number (n : Nat) : OneLine (toString n).toList := by
  rw [toList_number]
  exact oneLine_toDigits (by decide) n

lemma oneLine_kind_name (k : ResourceKind) : OneLine k.name.toList := by
  cases k <;> decide

/-! ### The lines -/

lemma endedLines_nil : EndedLines [] "" := ⟨rfl, by simp⟩

lemma endedLines_append {ls ms : List (List Char)} {s t : String} (hs : EndedLines ls s) (ht : EndedLines ms t) :
    EndedLines (ls ++ ms) (s ++ t) := by
  refine ⟨by rw [String.toList_append, hs.text, ht.text, List.flatMap_append], fun line hline => ?_⟩
  rcases List.mem_append.mp hline with hline | hline
  · exact hs.oneLine line hline
  · exact ht.oneLine line hline

lemma endedLines_singleton {s : String} (hs : OneLine s.toList) : EndedLines [s.toList] (s ++ "\n") := by
  refine ⟨?_, fun line hline => by rwa [List.mem_singleton.mp hline]⟩
  rw [String.toList_append, List.flatMap_singleton]
  rfl

lemma oneLine_heading (s : LoadSummary) :
    OneLine (s!"{s.records} records, header declares {s.declaredCount} resources / {s.declaredSize} bytes"
      ++ (if s.matchesHeader then "" else " (mismatch)")).toList := by
  have hdeclares : OneLine " records, header declares ".toList := by decide
  have hresources : OneLine " resources / ".toList := by decide
  have hbytes : OneLine " bytes".toList := by decide
  have hrecords := oneLine_of_toList_append (oneLine_number s.records.toNat) hdeclares
  have hcount := oneLine_of_toList_append (oneLine_of_toList_append hrecords (oneLine_number s.declaredCount.toNat))
    hresources
  have hsize := oneLine_of_toList_append (oneLine_of_toList_append hcount (oneLine_number s.declaredSize.toNat))
    hbytes
  apply oneLine_of_toList_append hsize
  cases s.matchesHeader <;> decide

/-- What stands on the line of a record behind the blank that ends its handle. -/
def behindHandle (e : Entry) : String :=
  let dimensions := match e.dimensions with
    | some (width, height) => s!"  {width}x{height}"
    | none => ""
  let label := match e.label with
    | some s => "  " ++ Text.quoted s
    | none => ""
  padRight 12 e.kind.name ++ " " ++ padLeft 10 (toString e.size) ++ dimensions ++ label

lemma entry_line_eq (e : Entry) :
    e.line = "#" ++ padRight 5 e.handle.text ++ " " ++ behindHandle e ++ "\n" := by
  obtain ⟨handle, kind, size, label, dimensions⟩ := e
  cases label <;> cases dimensions <;> simp only [Entry.line, behindHandle, String.append_assoc]

lemma oneLine_behindHandle (e : Entry) : OneLine (behindHandle e).toList := by
  have hkind := oneLine_of_toList_append (oneLine_kind_name e.kind) (oneLine_padding (12 - e.kind.name.length))
  have hsize := oneLine_of_toList_append (oneLine_padding (10 - (toString e.size).length)) (oneLine_number e.size)
  have hblanks : OneLine "  ".toList := by decide
  unfold behindHandle
  apply oneLine_of_toList_append
  · apply oneLine_of_toList_append
    · exact oneLine_of_toList_append (oneLine_of_toList_append hkind (by decide)) hsize
    · cases e.dimensions with
      | none => exact (by decide : OneLine "".toList)
      | some d =>
        have hwidth := oneLine_of_toList_append hblanks (oneLine_number d.1)
        exact oneLine_of_toList_append (oneLine_of_toList_append hwidth (by decide)) (oneLine_number d.2)
  · cases e.label with
    | none => exact (by decide : OneLine "".toList)
    | some s => exact oneLine_of_toList_append hblanks (oneLine_quoted s)

/-- The line of a record is one line, and starts with its handle. -/
lemma exists_entry_line (e : Entry) : ∃ line, EndedLines [line] e.line ∧ Numbered e.handle.raw.toNat line := by
  have hhandle : e.handle.text = toString e.handle.raw.toNat := rfl
  have hpadded := oneLine_of_toList_append (oneLine_number e.handle.raw.toNat)
    (oneLine_padding (5 - e.handle.text.length))
  have hone : OneLine ("#" ++ padRight 5 e.handle.text ++ " " ++ behindHandle e).toList :=
    oneLine_of_toList_append (oneLine_of_toList_append (oneLine_of_toList_append (by decide) hpadded) (by decide))
      (oneLine_behindHandle e)
  refine ⟨_, entry_line_eq e ▸ endedLines_singleton hone, ?_⟩
  -- the blanks that fill up the handle and the blank behind them are all the same
  have hblanks : ∀ (n : Nat) (cs : List Char),
      List.replicate n ' ' ++ ' ' :: cs = ' ' :: (List.replicate n ' ' ++ cs) := by
    intro n cs
    rw [List.append_cons, ← List.replicate_succ', List.replicate_succ, List.cons_append]
  refine ⟨List.replicate (5 - e.handle.text.length) ' ' ++ (behindHandle e).toList, ?_⟩
  have hmark : "#".toList = ['#'] := rfl
  have hblank : " ".toList = [' '] := rfl
  rw [← hblanks]
  unfold padRight
  simp only [String.toList_append, toList_padding, hhandle, toList_number, hmark, hblank, List.append_assoc,
    List.cons_append, List.nil_append]

/-- The table is a heading and one line for each record, whatever characters its labels hold. -/
theorem report_text_lines (r : Report) : ∃ first lines, EndedLines (first :: lines) r.text ∧
    List.Forall₂ (fun e line => Numbered e.handle.raw.toNat line) r.entries lines := by
  have hlines : ∃ lines, EndedLines lines (String.join (r.entries.map Entry.line)) ∧
      List.Forall₂ (fun e line => Numbered e.handle.raw.toNat line) r.entries lines := by
    induction r.entries with
    | nil => exact ⟨[], endedLines_nil, .nil⟩
    | cons e rest ih =>
      obtain ⟨line, hline, hnumber⟩ := exists_entry_line e
      obtain ⟨lines, hlines, hnumbers⟩ := ih
      refine ⟨line :: lines, ?_, .cons hnumber hnumbers⟩
      rw [List.map_cons, String.join_cons]
      exact endedLines_append hline hlines
  obtain ⟨lines, hlines, hnumbers⟩ := hlines
  exact ⟨_, lines, endedLines_append (endedLines_singleton (oneLine_heading r.summary)) hlines, hnumbers⟩

end GuestBridge.Proofs
