import GuestBridge.Proofs.ServiceCalls
import Mathlib.Algebra.Order.Ring.Nat
import Mathlib.Data.List.Basic

/-!
# From words to arguments and back

A routine is called with a list of words. If they are as many as its parameters take, they are read from
left to right, a double from two of them, and the routine is applied to what was read, bit by bit. Otherwise
it is not run at all. A fixed shape of arithmetic is a routine that computes, with its parameters. A routine
that acts gets the words themselves, and those that come with the bridge look for none that is not there.
-/

namespace GuestBridge.Proofs

/-! ### Values and their bits -/

/-- The bits of a value, as a number. -/
def bitsOf : (t : Prim) → t.Value → Nat
  | .i32, (v : Word) | .ptr, (v : Word) => v.toUInt32.toNat
  | .u32, v => UInt32.toNat v
  | .f32, v => Single.pattern v
  | .f64, v => Double.pattern v

/-- The bits that stand in the words at an index; none if there is no word. A double has its low word
first. -/
def bitsAt? (ws : List Word) (i : Nat) : Prim → Option Nat
  | .f64 => do
    let low ← ws[i]?
    let high ← ws[i + 1]?
    return low.toUInt32.toNat + 2 ^ 32 * high.toUInt32.toNat
  | .i32 | .u32 | .f32 | .ptr => ws[i]?.map fun w => w.toUInt32.toNat

lemma word_of_bits {v w : Word} (h : v.toUInt32.toNat = w.toUInt32.toNat) : v = w := by
  rw [← Int32.toInt32_toUInt32 v, ← Int32.toInt32_toUInt32 w]
  exact congrArg UInt32.toInt32 (UInt32.toNat_inj.mp h)

lemma eq_of_bitsOf {t : Prim} {v w : t.Value} (h : bitsOf t v = bitsOf t w) : v = w := by
  cases t with
  | i32 => exact word_of_bits h
  | u32 => exact UInt32.toNat_inj.mp h
  | f32 => rw [← Single.ofPattern_pattern v, ← Single.ofPattern_pattern w]; exact congrArg Single.ofPattern h
  | f64 => rw [← Double.ofPattern_pattern v, ← Double.ofPattern_pattern w]; exact congrArg Double.ofPattern h
  | ptr => exact word_of_bits h

lemma getElem?_behind (front : List Word) (w : Word) (rest : List Word) :
    (front ++ w :: rest)[front.length]? = some w := by
  rw [List.getElem?_append_right (Nat.le_refl _), Nat.sub_self]
  rfl

lemma bitsAt?_of_single {ws : List Word} {i : Nat} {w : Word} {t : Prim} (h : ws[i]? = some w)
    (ht : t.width = 1) : bitsAt? ws i t = some w.toUInt32.toNat := by
  cases t with
  | f64 => cases ht
  | i32 | u32 | f32 | ptr => exact congrArg (Option.map fun w : Word => w.toUInt32.toNat) h

lemma bitsAt?_of_double {ws : List Word} {i : Nat} {d : Double} (hlow : ws[i]? = some d.toWords.1)
    (hhigh : ws[i + 1]? = some d.toWords.2) : bitsAt? ws i .f64 = some d.pattern := by
  obtain ⟨hlowBits, hhighBits⟩ := Double.toNat_toWords d
  have hsum : d.toWords.1.toUInt32.toNat + 2 ^ 32 * d.toWords.2.toUInt32.toNat = d.pattern := by
    rw [hlowBits, hhighBits]
    exact Nat.mod_add_div d.pattern UInt32.size
  unfold bitsAt?
  rw [hlow, hhigh, ← hsum]
  rfl

/-- A written value stands at its place. -/
lemma bitsAt?_words (front : List Word) (t : Prim) (v : t.Value) (rest : List Word) :
    bitsAt? (front ++ (t.words v ++ rest)) front.length t = some (bitsOf t v) := by
  cases t with
  | i32 => exact bitsAt?_of_single (getElem?_behind front v rest) rfl
  | ptr => exact bitsAt?_of_single (getElem?_behind front v rest) rfl
  | u32 =>
    have hbits := bitsAt?_of_single (t := .u32) (getElem?_behind front (UInt32.toInt32 v) rest) rfl
    have hword := congrArg UInt32.toNat (UInt32.toUInt32_toInt32 v)
    exact hbits.trans (congrArg some hword)
  | f32 =>
    have hbits := bitsAt?_of_single (t := .f32) (getElem?_behind front (Single.toWord v) rest) rfl
    have hword := congrArg Single.pattern (Single.ofWord_toWord v)
    exact hbits.trans (congrArg some hword)
  | f64 =>
    have hhigh := getElem?_behind (front ++ [(Double.toWords v).1]) (Double.toWords v).2 rest
    rw [List.append_assoc, List.length_append] at hhigh
    exact bitsAt?_of_double (getElem?_behind front (Double.toWords v).1 _) hhigh

/-! ### Arguments -/

/-- That arguments stand in the words from an index on, one parameter after the other. -/
def ReadAt (ws : List Word) : (params : List Prim) → Nat → Args params → Prop
  | [], _, _ => True
  | t :: params, i, (v, args) => bitsAt? ws i t = some (bitsOf t v) ∧ ReadAt ws params (i + t.width) args

lemma readAt_words (params : List Prim) (args : Args params) (front : List Word) :
    ReadAt (front ++ Args.words params args) params front.length args := by
  induction params generalizing front with
  | nil => trivial
  | cons t params ih =>
    obtain ⟨v, args⟩ := args
    refine ⟨bitsAt?_words front t v _, ?_⟩
    have hrest := ih args (front ++ t.words v)
    rw [List.length_append, Prim.length_words, List.append_assoc] at hrest
    exact hrest

lemma readAt_unique {ws : List Word} {params : List Prim} {i : Nat} {args args' : Args params}
    (h : ReadAt ws params i args) (h' : ReadAt ws params i args') : args' = args := by
  induction params generalizing i with
  | nil => rfl
  | cons t params ih =>
    obtain ⟨v, args⟩ := args
    obtain ⟨v', args'⟩ := args'
    obtain ⟨hv, hargs⟩ := h
    obtain ⟨hv', hargs'⟩ := h'
    exact Prod.ext (eq_of_bitsOf (Option.some.inj (hv'.symm.trans hv))) (ih hargs hargs')

/-- How many words some parameters take together. -/
def wordCount (params : List Prim) : Nat := (params.map Prim.width).sum

lemma arity_eq (params : List Prim) : Args.arity params = wordCount params := by
  induction params with
  | nil => rfl
  | cons t params ih =>
    unfold Args.arity wordCount
    rw [ih, List.map_cons, List.sum_cons]
    rfl

/-! ### The shapes of arithmetic -/

/-- The signatures that arithmetic comes in, each with a function. -/
inductive Shape where
  | doubleBinary (f : Double → Double → Double)
  | doubleUnary (f : Double → Double)
  | doubleCompare (f : Double → Double → Word)
  | doubleToInt (f : Double → Word)
  | doubleToUnsigned (f : Double → UInt32)
  | doubleToSingle (f : Double → Single)
  | intToDouble (f : Word → Double)
  | singleToDouble (f : Single → Double)
  | singleBinary (f : Single → Single → Single)
  | singleUnary (f : Single → Single)
  | singleCompare (f : Single → Single → Word)
  | singleToInt (f : Single → Word)
  | singleToUnsigned (f : Single → UInt32)
  | intToSingle (f : Word → Single)

namespace Shape

def routine : Shape → Routine
  | doubleBinary f => Arithmetic.binaryDouble f
  | doubleUnary f => Arithmetic.unaryDouble f
  | doubleCompare f => .compute [.f64, .f64] .i32 fun (a, b, _) => f a b
  | doubleToInt f => .compute [.f64] .i32 fun (a, _) => f a
  | doubleToUnsigned f => .compute [.f64] .u32 fun (a, _) => f a
  | doubleToSingle f => .compute [.f64] .f32 fun (a, _) => f a
  | intToDouble f => .compute [.i32] .f64 fun (i, _) => f i
  | singleToDouble f => .compute [.f32] .f64 fun (a, _) => f a
  | singleBinary f => Arithmetic.binarySingle f
  | singleUnary f => Arithmetic.unarySingle f
  | singleCompare f => .compute [.f32, .f32] .i32 fun (a, b, _) => f a b
  | singleToInt f => .compute [.f32] .i32 fun (a, _) => f a
  | singleToUnsigned f => .compute [.f32] .u32 fun (a, _) => f a
  | intToSingle f => .compute [.i32] .f32 fun (i, _) => f i

def doubleAt? (ws : List Word) (i : Nat) : Option Double := do
  let low ← ws[i]?
  let high ← ws[i + 1]?
  return Double.ofWords low high

def singleAt? (ws : List Word) (i : Nat) : Option Single := ws[i]?.map Single.ofWord

/-- The function applied to the words by their indices; none if there is no word at one of them. -/
def run? (ws : List Word) : Shape → Option Return
  | doubleBinary f => do return ⟨.f64, f (← doubleAt? ws 0) (← doubleAt? ws 2)⟩
  | doubleUnary f => do return ⟨.f64, f (← doubleAt? ws 0)⟩
  | doubleCompare f => do return ⟨.i32, f (← doubleAt? ws 0) (← doubleAt? ws 2)⟩
  | doubleToInt f => do return ⟨.i32, f (← doubleAt? ws 0)⟩
  | doubleToUnsigned f => do return ⟨.u32, f (← doubleAt? ws 0)⟩
  | doubleToSingle f => do return ⟨.f32, f (← doubleAt? ws 0)⟩
  | intToDouble f => do return ⟨.f64, f (← ws[0]?)⟩
  | singleToDouble f => do return ⟨.f64, f (← singleAt? ws 0)⟩
  | singleBinary f => do return ⟨.f32, f (← singleAt? ws 0) (← singleAt? ws 1)⟩
  | singleUnary f => do return ⟨.f32, f (← singleAt? ws 0)⟩
  | singleCompare f => do return ⟨.i32, f (← singleAt? ws 0) (← singleAt? ws 1)⟩
  | singleToInt f => do return ⟨.i32, f (← singleAt? ws 0)⟩
  | singleToUnsigned f => do return ⟨.u32, f (← singleAt? ws 0)⟩
  | intToSingle f => do return ⟨.f32, f (← ws[0]?)⟩

/-- The indices agree with the parameters. -/
lemma run?_eq (shape : Shape) {ws : List Word} (hlength : ws.length = wordCount shape.routine.params)
    (ctx : CallContext) (s : CallState) :
    ∃ r, shape.run? ws = some r ∧ shape.routine.call ctx s ws = ⟨.ok r, s, []⟩ := by
  cases shape with
  | doubleBinary f | doubleCompare f =>
    obtain ⟨a, b, c, d, rfl⟩ := List.length_eq_four.mp hlength
    exact ⟨_, rfl, rfl⟩
  | doubleUnary f | doubleToInt f | doubleToUnsigned f | doubleToSingle f | singleBinary f | singleCompare f =>
    obtain ⟨a, b, rfl⟩ := List.length_eq_two.mp hlength
    exact ⟨_, rfl, rfl⟩
  | intToDouble f | singleToDouble f | singleUnary f | singleToInt f | singleToUnsigned f | intToSingle f =>
    obtain ⟨a, rfl⟩ := List.length_eq_one_iff.mp hlength
    exact ⟨_, rfl, rfl⟩

end Shape

/-- The shapes of the routines that come with the bridge and compute, in their order. -/
def builtinShapes : List Shape :=
  [.doubleBinary .add, .doubleBinary .sub, .doubleBinary .mul, .doubleBinary .div, .doubleUnary .neg,
    .doubleToInt Double.toInt32, .doubleToUnsigned Double.toUInt32, .intToDouble Double.ofInt32,
    .singleToDouble Single.toDouble, .doubleCompare fun a b => Arithmetic.sign (a.compare? b),
    .singleBinary .add, .singleBinary .sub, .singleBinary .mul, .singleBinary .div, .singleUnary .neg,
    .singleToInt Single.toInt32, .singleToUnsigned Single.toUInt32, .intToSingle Single.ofInt32,
    .doubleToSingle Double.toSingle, .singleCompare fun a b => Arithmetic.sign (a.compare? b),
    .doubleUnary .sin, .doubleUnary .cos, .doubleUnary .tan, .doubleUnary .sqrt]

/-- Called with as many words as it takes, a routine looks for no other. -/
def StaysInRange (routine : Routine) : Prop :=
  ∀ (ctx : CallContext) (s : CallState) (ws : List Word), ws.length = wordCount routine.params →
    ∀ i, (routine.call ctx s ws).result ≠ .error (.noWord i)

lemma Shape.staysInRange (shape : Shape) : StaysInRange shape.routine := by
  intro ctx s ws hlength i
  obtain ⟨r, -, hcall⟩ := shape.run?_eq hlength ctx s
  rw [hcall]
  nofun

lemma mapError_returned_ne_noWord {ε α : Type} (f : ε → SyscallError) (x : Except ε α) (i : Nat) :
    x.mapError (fun e => CallFailure.returned (f e)) ≠ .error (.noWord i) := by
  cases x <;> nofun

lemma staysInRange_getEvent : StaysInRange (.action [.ptr] Services.getEvent) := by
  intro ctx s ws hlength i
  obtain ⟨addr, rfl⟩ := List.length_eq_one_iff.mp hlength
  rw [call_getEvent]
  exact mapError_returned_ne_noWord SyscallError.memory _ i

lemma staysInRange_getDataSize : StaysInRange (.action [.i32] Services.getDataSize) := by
  intro ctx s ws hlength i
  obtain ⟨handle, rfl⟩ := List.length_eq_one_iff.mp hlength
  rw [call_getDataSize]
  nofun

lemma staysInRange_readData : StaysInRange (.action [.i32, .ptr, .i32, .i32] Services.readData) := by
  intro ctx s ws hlength i
  obtain ⟨handle, dst, off, size, rfl⟩ := List.length_eq_four.mp hlength
  obtain ⟨log, hcall⟩ := call_readData ctx s handle dst off size
  rw [hcall]
  cases copyEnds ctx.resources s.memory handle dst off size with
  | missing hdata h | negative data hdata w hneg h | behindData data hdata hsigns hoff h
  | behindMemory data hdata hsigns hoff hdst h | copied data hdata hsigns hoff hdst h =>
    rw [h]
    nofun

lemma staysInRange_panic : StaysInRange (.action [.i32, .ptr] Services.panic) := by
  intro ctx s ws hlength i
  obtain ⟨code, addr, rfl⟩ := List.length_eq_two.mp hlength
  rw [call_panic]
  nofun

/-- The routines that come with the bridge, and that none of them looks for a word too many. -/
lemma builtin_cases {g : SyscallGroup} (hg : g ∈ SyscallGroup.builtin) {entry : SyscallId × Routine}
    (hentry : entry ∈ g.routines) :
    ((∃ shape ∈ builtinShapes, entry.2 = shape.routine) ∨ ∃ params run, entry.2 = .action params run) ∧
      StaysInRange entry.2 := by
  have harithmetic : [Arithmetic.doubleGroup, Arithmetic.singleGroup, Arithmetic.elementaryGroup].flatMap
      (fun g => g.routines.map Prod.snd) = builtinShapes.map Shape.routine := rfl
  rcases arithmetic_or_service hg hentry with hg | hservice
  · have hroutine : entry.2 ∈ g.routines.map Prod.snd := List.mem_map_of_mem hentry
    have hmem := List.mem_flatMap_of_mem (f := fun g : SyscallGroup => g.routines.map Prod.snd) hg hroutine
    rw [harithmetic] at hmem
    obtain ⟨shape, hshape, heq⟩ := List.mem_map.mp hmem
    rw [← heq]
    exact ⟨.inl ⟨shape, hshape, rfl⟩, shape.staysInRange⟩
  · obtain ⟨id, routine⟩ := entry
    cases hservice with
    | getEvent => exact ⟨.inr ⟨_, _, rfl⟩, staysInRange_getEvent⟩
    | getDataSize => exact ⟨.inr ⟨_, _, rfl⟩, staysInRange_getDataSize⟩
    | readData => exact ⟨.inr ⟨_, _, rfl⟩, staysInRange_readData⟩
    | panic => exact ⟨.inr ⟨_, _, rfl⟩, staysInRange_panic⟩

/-! ### Calls -/

/-- What a routine does with its arguments. One that acts has them as the words that they are. -/
def outcome (r : Routine) (ctx : CallContext) (s : CallState) (args : Args r.params) : Called Return :=
  match r, args with
  | .compute _ ret f, args => ⟨.ok ⟨ret, f args⟩, s, []⟩
  | .action params run, args =>
    let called := run ctx s (Args.words params args)
    ⟨called.result.map fun w => ⟨.i32, w⟩, called.state, called.log⟩

/-- What a call of a routine with that outcome comes to. -/
def reported (ctx : CallContext) (id : SyscallId) (ws : List Word) (called : Called Return) : Called Return :=
  { called with log := called.log ++ Registry.callLog ctx.trace id ws called.result }

/-- The call comes to the same whatever routine with these parameters is bound. -/
def NotRun (routine : Routine) (ctx : CallContext) (s : CallState) (id : SyscallId) (ws : List Word)
    (out : Called Return) : Prop :=
  ∀ (reg : Registry) (other : Routine), reg.get? id = some other → other.params = routine.params →
    reg.invoke ctx s id ws = out

/-- What a call of a routine with these words has to do with its signature. -/
structure Marshalled (routine : Routine) (ctx : CallContext) (s : CallState) (id : SyscallId) (ws : List Word)
    (out : Called Return) : Prop where
  arity : out.result = .error (.returned (.registry (.arity id (wordCount routine.params) ws.length))) ∧
    NotRun routine ctx s id ws out ↔ ws.length ≠ wordCount routine.params
  /-- Nothing but the error comes of the call. -/
  refused : ws.length ≠ wordCount routine.params →
    out = ⟨.error (.returned (.registry (.arity id (wordCount routine.params) ws.length))), s, []⟩
  applied : ws.length = wordCount routine.params →
    ∃ args : Args routine.params, (∀ other, ReadAt ws routine.params 0 other ↔ other = args) ∧
      out = reported ctx id ws (outcome routine ctx s args)
  computed : ∀ params ret f, routine = .compute params ret f → ws.length = wordCount params →
    ∃ args : Args params, (∀ other, ReadAt ws params 0 other ↔ other = args) ∧
      out.result = .ok ⟨ret, f args⟩ ∧ out.state = s
  shaped : ∀ shape : Shape, routine = shape.routine → ws.length = wordCount routine.params →
    ∃ r, shape.run? ws = some r ∧ out.result = .ok r ∧ out.state = s
  acted : ∀ params run, routine = .action params run → ws.length = wordCount params →
    out.state = (run ctx s ws).state ∧ out.result = (run ctx s ws).result.map fun w => (⟨.i32, w⟩ : Return)
  returned : ∀ r, out.result = .ok r → r.type = routine.ret ∧ r.words.length = r.type.width ∧
    bitsAt? r.words 0 r.type = some (bitsOf r.type r.value)

lemma call_words (r : Routine) (ctx : CallContext) (s : CallState) (args : Args r.params) :
    r.call ctx s (Args.words r.params args) = outcome r ctx s args := by
  cases r with
  | compute params ret f =>
    have hread : Args.readAt (Args.words params args) 0 params = .ok args := by
      have h := Args.readAt_words [] params args []
      rw [List.nil_append, List.append_nil] at h
      exact h
    unfold Routine.call
    dsimp only
    rw [show Args.readAt (Args.words (Routine.compute params ret f).params args) 0 params = .ok args from hread]
    rfl
  | action params run => rfl

lemma invoke_words {reg : Registry} {id : SyscallId} {routine : Routine} (hbound : reg.get? id = some routine)
    (ctx : CallContext) (s : CallState) (args : Args routine.params) :
    reg.invoke ctx s id (Args.words routine.params args) =
      reported ctx id (Args.words routine.params args) (outcome routine ctx s args) := by
  rw [Registry.invoke_of_arity hbound (Args.length_words _ args), call_words]
  rfl

lemma exists_args {params : List Prim} {ws : List Word} (hlength : ws.length = wordCount params) :
    ∃ args : Args params, Args.words params args = ws := by
  rw [← arity_eq] at hlength
  exact Args.exists_words_eq hlength

lemma type_of_outcome {routine : Routine} {ctx : CallContext} {s : CallState} {args : Args routine.params}
    {r : Return} (h : (outcome routine ctx s args).result = .ok r) : r.type = routine.ret := by
  cases routine with
  | compute params ret f =>
    cases h
    rfl
  | action params run =>
    change (run ctx s (Args.words params args)).result.map (fun w => (⟨.i32, w⟩ : Return)) = .ok r at h
    cases hrun : (run ctx s (Args.words params args)).result with
    | error e =>
      rw [hrun] at h
      cases h
    | ok w =>
      rw [hrun] at h
      cases h
      rfl

lemma bitsAt?_return (r : Return) : bitsAt? r.words 0 r.type = some (bitsOf r.type r.value) := by
  have h := bitsAt?_words [] r.type r.value []
  rw [List.append_nil] at h
  exact h

lemma invoke_of_wrong_count {reg : Registry} {id : SyscallId} {routine : Routine}
    (hbound : reg.get? id = some routine) (ctx : CallContext) (s : CallState) {ws : List Word}
    (hlength : ws.length ≠ wordCount routine.params) :
    reg.invoke ctx s id ws =
      ⟨.error (.returned (.registry (.arity id (wordCount routine.params) ws.length))), s, []⟩ := by
  have harity : routine.arity = wordCount routine.params := arity_eq routine.params
  rw [Registry.invoke_of_arity_ne hbound (by rw [harity]; exact hlength), harity]

/-- With the right number of words it shows whether the routine was run: one that returns zero is no error. -/
lemma run_of_count {routine : Routine} {ctx : CallContext} {s : CallState} {id : SyscallId} {ws : List Word}
    {out : Called Return} (hlength : ws.length = wordCount routine.params) {e : CallFailure}
    (herror : out.result = .error e) : ¬NotRun routine ctx s id ws out := by
  intro hnotRun
  let zero : Routine := .action routine.params fun _ s _ => ⟨.ok 0, s, []⟩
  let reg : Registry := ⟨fun _ => some ⟨"", zero⟩⟩
  have hbound : reg.get? id = some zero := rfl
  have harity : ws.length = zero.arity := hlength.trans (arity_eq routine.params).symm
  have hsame := hnotRun reg zero rfl rfl
  rw [Registry.invoke_of_arity hbound harity] at hsame
  rw [← hsame] at herror
  cases herror

lemma marshalled_invoke {reg : Registry} {id : SyscallId} {routine : Routine}
    (hbound : reg.get? id = some routine) (ctx : CallContext) (s : CallState) (ws : List Word) :
    Marshalled routine ctx s id ws (reg.invoke ctx s id ws) := by
  by_cases hlength : ws.length = wordCount routine.params
  · obtain ⟨args, rfl⟩ := exists_args hlength
    have hinvoke := invoke_words hbound ctx s args
    have hreads : ∀ other, ReadAt (Args.words routine.params args) routine.params 0 other ↔ other = args := by
      intro other
      constructor
      · exact readAt_unique (readAt_words routine.params args [])
      · rintro rfl
        exact readAt_words routine.params other []
    rw [hinvoke]
    refine ⟨iff_of_false (fun h => ?_) fun h => h hlength, fun h => absurd hlength h, fun _ => ⟨args, hreads, rfl⟩,
      ?_, ?_, ?_, ?_⟩
    · exact run_of_count hlength h.1 h.2
    · rintro params ret f rfl -
      exact ⟨args, hreads, rfl, rfl⟩
    · rintro shape rfl hcount
      obtain ⟨r, hrun, hcall⟩ := shape.run?_eq hcount ctx s
      rw [call_words] at hcall
      rw [hcall]
      exact ⟨r, hrun, rfl, rfl⟩
    · rintro params run rfl -
      exact ⟨rfl, rfl⟩
    · intro r h
      exact ⟨type_of_outcome h, Prim.length_words r.type r.value, bitsAt?_return r⟩
  · have hinvoke := invoke_of_wrong_count hbound ctx s hlength
    rw [hinvoke]
    refine ⟨iff_of_true ⟨rfl, fun reg' other hother hparams => ?_⟩ hlength, fun _ => rfl, fun h => absurd h hlength,
      ?_, ?_, ?_, nofun⟩
    · have hother' := invoke_of_wrong_count hother ctx s (by rw [hparams]; exact hlength)
      rw [hother', hparams]
    · rintro params ret f rfl h
      exact absurd h hlength
    · rintro shape rfl h
      exact absurd h hlength
    · rintro params run rfl h
      exact absurd h hlength

/-- Every call of every bound routine. A call with written arguments, of any bits, is a call with these
arguments. The routines that come with the bridge compute in one of the shapes or act, and find all the words
that they look for. -/
theorem marshalling {reg : Registry} {id : SyscallId} {routine : Routine} (hbound : reg.get? id = some routine)
    (ctx : CallContext) (s : CallState) :
    (∀ ws, Marshalled routine ctx s id ws (reg.invoke ctx s id ws)) ∧
    (∀ args : Args routine.params, reg.invoke ctx s id (Args.words routine.params args) =
      reported ctx id (Args.words routine.params args) (outcome routine ctx s args)) ∧
    ∀ g ∈ SyscallGroup.builtin, ∀ entry ∈ g.routines,
      ((∃ shape ∈ builtinShapes, entry.2 = shape.routine) ∨ ∃ params run, entry.2 = .action params run) ∧
        StaysInRange entry.2 :=
  ⟨marshalled_invoke hbound ctx s, invoke_words hbound ctx s, fun _ hg _ hentry => builtin_cases hg hentry⟩

/-- Keeps the second of a word, a double and a single. -/
def sampleRoutine : Routine := .compute [.i32, .f64, .f32] .f64 fun (_, d, _, _) => d

/-- Acts, and refuses its one word as if there were too few. -/
def refusingRoutine : Routine :=
  .action [.i32] fun _ s _ => ⟨.error (.returned (.registry (.arity .panic 1 1))), s, []⟩

def sampleRegistry : Registry :=
  ⟨fun id =>
    if id = .addDouble then some ⟨"sample", sampleRoutine⟩
    else if id = .panic then some ⟨"sample", refusingRoutine⟩
    else none⟩

/-- A double that is no number goes through with the rest of its bits. A routine that returns the error of a wrong
count itself was run. -/
theorem marshalling_sample :
    sampleRegistry.get? .addDouble = some sampleRoutine ∧ sampleRegistry.get? .panic = some refusingRoutine ∧
      let ctx : CallContext := ⟨.empty, .inline, .announce, .none⟩
      let s : CallState := ⟨Memory.zeroed 0, .empty, []⟩
      let out := sampleRegistry.invoke ctx s .addDouble [5, 0x12345678, 0x7FF80001, 6]
      let refused := sampleRegistry.invoke ctx s .panic [5]
      (∃ r, out.result = .ok r ∧ r.words = [0x12345678, 0x7FF80001]) ∧
        Marshalled sampleRoutine ctx s .addDouble [5, 0x12345678, 0x7FF80001, 6] out ∧
        refused.result = .error (.returned (.registry (.arity .panic 1 1))) ∧
        ¬NotRun refusingRoutine ctx s .panic [5] refused := by
  have hbound : sampleRegistry.get? .addDouble = some sampleRoutine := rfl
  have hrefusing : sampleRegistry.get? .panic = some refusingRoutine := rfl
  obtain ⟨hcalls, hwords, -⟩ := marshalling hbound ⟨.empty, .inline, .announce, .none⟩ ⟨Memory.zeroed 0, .empty, []⟩
  obtain ⟨hrefused, -⟩ := marshalling hrefusing ⟨.empty, .inline, .announce, .none⟩ ⟨Memory.zeroed 0, .empty, []⟩
  have hargs : Args.words sampleRoutine.params (5, Double.ofWords 0x12345678 0x7FF80001, Single.ofWord 6, ()) =
      [5, 0x12345678, 0x7FF80001, 6] := by decide
  have hout := hwords (5, Double.ofWords 0x12345678 0x7FF80001, Single.ofWord 6, ())
  rw [hargs] at hout
  refine ⟨hbound, hrefusing, ⟨⟨.f64, Double.ofWords 0x12345678 0x7FF80001⟩, ?_, by decide⟩, hcalls _, rfl, ?_⟩
  · rw [hout]
    rfl
  · intro hnotRun
    exact (hrefused [5]).arity.mp ⟨rfl, hnotRun⟩ rfl

end GuestBridge.Proofs
