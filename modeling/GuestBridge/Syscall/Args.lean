import GuestBridge.Syscall.Error
import GuestBridge.Word

/-!
# Typed arguments

Guest code passes a list of words. A routine says which values it takes, and its arguments are those
values, read from the words left to right. Main statements: writing arguments as words and reading
them back loses nothing, and as many words as the values take are the words of some arguments.
-/

namespace GuestBridge

/-- The word at an index. -/
def wordAt (ws : List Word) (i : Nat) : Except CallFailure Word :=
  match ws[i]? with
  | some w => .ok w
  | none => .error (.noWord i)

theorem wordAt_append (front : List Word) (w : Word) (rest : List Word) :
    wordAt (front ++ w :: rest) front.length = .ok w := by
  simp [wordAt]

/-- What one argument or result of a routine is. -/
inductive Prim where
  | i32
  | u32
  | f32
  | f64
  /-- A guest address. -/
  | ptr
deriving DecidableEq, Repr

namespace Prim

def name : Prim → String
  | .i32 => "I32"
  | .u32 => "U32"
  | .f32 => "F32"
  | .f64 => "F64"
  | .ptr => "Ptr"

def ofName? (s : String) : Option Prim := [i32, u32, f32, f64, ptr].find? fun t => t.name = s

/-- How many words a value takes. -/
def width : Prim → Nat
  | .f64 => 2
  | _ => 1

abbrev Value : Prim → Type
  | .i32 | .ptr => Word
  | .u32 => UInt32
  | .f32 => Single
  | .f64 => Double

/-- The words of a value, the low one first. -/
def words : (t : Prim) → t.Value → List Word
  | .i32, (v : Word) | .ptr, (v : Word) => [v]
  | .u32, v => [UInt32.toInt32 v]
  | .f32, v => [Single.toWord v]
  | .f64, v => [(Double.toWords v).1, (Double.toWords v).2]

/-- Reads the value that stands at an index of some words. -/
def readAt (ws : List Word) (i : Nat) : (t : Prim) → Except CallFailure t.Value
  | .i32 | .ptr => wordAt ws i
  | .u32 => (wordAt ws i).map Int32.toUInt32
  | .f32 => (wordAt ws i).map Single.ofWord
  | .f64 => do return Double.ofWords (← wordAt ws i) (← wordAt ws (i + 1))

/-- A value as log lines show it. -/
def text : (t : Prim) → t.Value → String
  | .i32, (v : Word) | .ptr, (v : Word) => toString v.toInt
  | .u32, v => toString (UInt32.toNat v)
  | .f32, v => Single.text v
  | .f64, v => Double.text v

@[simp] theorem length_words (t : Prim) (v : t.Value) : (t.words v).length = t.width := by
  cases t <;> rfl

/-- A written value is read back, whatever stands before and behind it. -/
theorem readAt_words (front : List Word) (t : Prim) (v : t.Value) (rest : List Word) :
    t.readAt (front ++ (t.words v ++ rest)) front.length = .ok v := by
  cases t with
  | i32 | ptr => exact wordAt_append front v rest
  | u32 =>
    have h := wordAt_append front (UInt32.toInt32 v) rest
    simp [readAt, words, h, Except.map]
  | f32 =>
    have h := wordAt_append front (Single.toWord v) rest
    simp [readAt, words, h, Except.map]
  | f64 =>
    have hlow := wordAt_append front (Double.toWords v).1 ((Double.toWords v).2 :: rest)
    have hhigh : wordAt (front ++ (Double.toWords v).1 :: (Double.toWords v).2 :: rest)
        (front.length + 1) = .ok (Double.toWords v).2 := by
      simpa using wordAt_append (front ++ [(Double.toWords v).1]) (Double.toWords v).2 rest
    show (do return Double.ofWords (← wordAt _ _) (← wordAt _ _)) = _
    rw [words, List.cons_append, List.singleton_append, hlow, hhigh]
    exact congrArg Except.ok (Double.ofWords_toWords v)

/-- As many words as a value takes are the words of a value. -/
theorem exists_words_eq {t : Prim} {ws : List Word} (h : ws.length = t.width) :
    ∃ v, t.words v = ws := by
  cases t with
  | f64 =>
    match ws, h with
    | [low, high], _ => exact ⟨Double.ofWords low high, by simp [words]⟩
  | i32 | ptr =>
    obtain ⟨w, rfl⟩ := List.length_eq_one_iff.mp h
    exact ⟨w, rfl⟩
  | u32 =>
    obtain ⟨w, rfl⟩ := List.length_eq_one_iff.mp h
    exact ⟨w.toUInt32, by simp [words]⟩
  | f32 =>
    obtain ⟨w, rfl⟩ := List.length_eq_one_iff.mp h
    exact ⟨Single.ofWord w, by simp [words]⟩

end Prim

/-- The arguments for a list of parameters. -/
abbrev Args : List Prim → Type
  | [] => Unit
  | t :: rest => t.Value × Args rest

namespace Args

/-- How many words a list of parameters takes. -/
def arity : List Prim → Nat
  | [] => 0
  | t :: params => t.width + arity params

/-- The words of some arguments, left to right. -/
def words : (params : List Prim) → Args params → List Word
  | [], _ => []
  | t :: params, (v, rest) => t.words v ++ words params rest

/-- Reads arguments from the words at an index and behind it. -/
def readAt (ws : List Word) (i : Nat) : (params : List Prim) → Except CallFailure (Args params)
  | [] => .ok ()
  | t :: params => do return (← t.readAt ws i, ← readAt ws (i + t.width) params)

@[simp] theorem length_words (params : List Prim) (args : Args params) :
    (words params args).length = arity params := by
  induction params with
  | nil => rfl
  | cons t params ih => simp [words, arity, ih args.2]

/-- Written arguments are read back, whatever stands before and behind them. -/
theorem readAt_words (front : List Word) (params : List Prim) (args : Args params) (rest : List Word) :
    readAt (front ++ (words params args ++ rest)) front.length params = .ok args := by
  induction params generalizing front with
  | nil => rfl
  | cons t params ih =>
    obtain ⟨v, args⟩ := args
    have hv := Prim.readAt_words front t v (words params args ++ rest)
    have hargs := ih (front ++ t.words v) args
    rw [List.length_append, Prim.length_words, List.append_assoc] at hargs
    rw [words, List.append_assoc, readAt, hv, hargs]
    rfl

/-- As many words as some parameters take are the words of arguments. -/
theorem exists_words_eq {params : List Prim} {ws : List Word} (h : ws.length = arity params) :
    ∃ args, words params args = ws := by
  induction params generalizing ws with
  | nil => exact ⟨(), (List.eq_nil_of_length_eq_zero h).symm⟩
  | cons t params ih =>
    have hfront : (ws.take t.width).length = t.width := by
      rw [List.length_take, h, arity]
      omega
    have hrest : (ws.drop t.width).length = arity params := by
      rw [List.length_drop, h, arity]
      omega
    obtain ⟨v, hv⟩ := Prim.exists_words_eq hfront
    obtain ⟨args, hargs⟩ := ih hrest
    exact ⟨(v, args), by rw [words, hv, hargs, List.take_append_drop]⟩

end Args

/-- What a routine gives back: a value with its type. -/
structure Return where
  type : Prim
  value : type.Value

namespace Return

def words (r : Return) : List Word := r.type.words r.value

/-- Whether the result is a floating-point value that is no number. -/
def isNaN : Return → Bool
  | ⟨.f64, d⟩ => Double.isNaN d
  | ⟨.f32, s⟩ => Single.isNaN s
  | _ => false

/-- The result as log lines show it. -/
def text (r : Return) : String := r.type.name ++ "(" ++ r.type.text r.value ++ ")"

/-- The words of a result are read back as the same value. -/
theorem readAt_words (r : Return) : r.type.readAt r.words 0 = .ok r.value := by
  simpa [words] using Prim.readAt_words [] r.type r.value []

end Return

end GuestBridge
