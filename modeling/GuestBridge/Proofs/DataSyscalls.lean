import GuestBridge.Proofs.Handles
import GuestBridge.Proofs.Registration
import GuestBridge.Proofs.ServiceCalls
import Mathlib.Algebra.Order.Ring.Int

/-!
# Data for a guest

A guest asks for the size of the data at a handle, and for a part of it at an address. Both calls agree on
which handles have data, so a guest that was told a size can read that many bytes. It may read them in
pieces, one behind the other, and has the same in its memory as after one read.
-/

namespace GuestBridge.Proofs
open Services

/-- A guest's word names a resource of one of the two data kinds whose payload is data. -/
def DataAt (resources : ResourceTable) (h : Word) (data : Memory) : Prop :=
  ∃ handle : Handle, (handle.raw.toNat : Int) = h.toInt ∧
    ∃ kind, (kind = .binary ∨ kind = .ubin) ∧ resources.getAny? handle = some ⟨kind, .binary data⟩

/-- No data is longer than the largest word. -/
def DataFitsWord (resources : ResourceTable) : Prop :=
  ∀ handle kind data, resources.getAny? handle = some ⟨kind, .binary data⟩ → data.size ≤ 2147483647

/-! ### What a call comes to -/

structure DataSizeOutcome (b : Bridge) (m : Memory) (h : Word) (out : Bridge.Invoked) : Prop where
  size : ∀ data, DataAt b.resources h data →
    ∃ n : Word, out.result = .ok ⟨.i32, n⟩ ∧ n.toInt = data.size
  missing : (∀ data, ¬DataAt b.resources h data) → out.result = .ok ⟨.i32, (-1 : Word)⟩
  unchanged : out.bridge = b ∧ out.memory = m

/-- What a read from some data comes to. The words are looked at in order, then the data, then the memory. -/
structure ReadFrom (data m : Memory) (dst off size : Word) (out : Bridge.Invoked) : Prop where
  negative : ∀ w, out.result = .error (.returned (.memory (.negativeAddress w))) ↔
    [dst, off, size].find? (fun w => w.toInt < 0) = some w
  behindData : (∀ w ∈ [dst, off, size], 0 ≤ w.toInt) → data.size < off.toInt.toNat + size.toInt.toNat →
    out.result = .error (.returned (.memory (.outOfBounds (UInt64.ofNat off.toInt.toNat)
      (UInt64.ofNat size.toInt.toNat) data.size)))
  behindMemory : (∀ w ∈ [dst, off, size], 0 ≤ w.toInt) → off.toInt.toNat + size.toInt.toNat ≤ data.size →
    m.size < dst.toInt.toNat + size.toInt.toNat →
    out.result = .error (.returned (.memory (.outOfBounds (UInt64.ofNat dst.toInt.toNat)
      (UInt64.ofNat size.toInt.toNat) m.size)))
  succeeds : out.result = .ok ⟨.i32, (0 : Word)⟩ ↔ (∀ w ∈ [dst, off, size], 0 ≤ w.toInt) ∧
    off.toInt.toNat + size.toInt.toNat ≤ data.size ∧ dst.toInt.toNat + size.toInt.toNat ≤ m.size
  read : out.result = .ok ⟨.i32, (0 : Word)⟩ → out.memory.bytes = m.bytes.take dst.toInt.toNat ++
    cut data.bytes off.toInt.toNat size.toInt.toNat ++ m.bytes.drop (dst.toInt.toNat + size.toInt.toNat)

structure ReadDataOutcome (b : Bridge) (m : Memory) (h dst off size : Word) (out : Bridge.Invoked) : Prop where
  missing : out.result = .error (.returned (.notFound .binary h)) ↔ ∀ data, ¬DataAt b.resources h data
  found : ∀ data, DataAt b.resources h data → ReadFrom data m dst off size out
  failed : out.result ≠ .ok ⟨.i32, (0 : Word)⟩ → (∃ e, out.result = .error e) ∧ out.memory = m
  bridge : out.bridge = b

/-! ### Reading in pieces -/

structure Chunk where
  dst : Word
  off : Word
  size : Word

/-- Each chunk starts where the one before it ended, at the address and in the data. -/
def Consecutive (dst off : Int) : List Chunk → Prop
  | [] => True
  | c :: rest => c.dst.toInt = dst ∧ c.off.toInt = off ∧ 0 ≤ c.size.toInt ∧
      Consecutive (dst + c.size.toInt) (off + c.size.toInt) rest

def totalSize (chunks : List Chunk) : Int := (chunks.map fun c => c.size.toInt).sum

/-- Reads the chunks in order, whatever becomes of each. -/
def readChunks (b : Bridge) (m : Memory) (h : Word) :
    List Chunk → List (Except CallFailure Return) × Bridge × Memory
  | [] => ([], b, m)
  | c :: rest =>
    let out := b.invoke m .readData [h, c.dst, c.off, c.size]
    let (results, last) := readChunks out.bridge out.memory h rest
    (out.result :: results, last)

/-- What chunks have to do with a read of as many bytes at once. -/
structure ChunksOutcome (b : Bridge) (m : Memory) (h : Word) (chunks : List Chunk) (whole : Bridge.Invoked) :
    Prop where
  pieces : whole.result = .ok ⟨.i32, (0 : Word)⟩ → readChunks b m h chunks =
    (List.replicate chunks.length (.ok ⟨.i32, (0 : Word)⟩), whole.bridge, whole.memory)
  joined : chunks ≠ [] → (∀ r ∈ (readChunks b m h chunks).1, r = .ok ⟨.i32, (0 : Word)⟩) →
    whole.result = .ok ⟨.i32, (0 : Word)⟩

/-! ### Data at a handle -/

lemma toInt_eq_of_nonneg {h : Word} (hsign : 0 ≤ h.toInt) : h.toInt = h.toUInt32.toNat := by
  have hword : h.toInt = Int.bmod h.toUInt32.toNat 4294967296 := h.toBitVec.toInt_eq_toNat_bmod
  have hlt := h.toUInt32.toNat_lt
  rw [Int.bmod_def] at hword
  split at hword <;> omega

lemma ofGuest?_eq_some_iff {h : Word} {handle : Handle} :
    Handle.ofGuest? h = some handle ↔ (handle.raw.toNat : Int) = h.toInt := by
  obtain ⟨raw, hraw⟩ := handle
  unfold Handle.ofGuest? Handle.ofRaw?
  by_cases hsign : h.toInt < 0
  · rw [if_pos hsign]
    refine iff_of_false nofun fun heq => ?_
    dsimp only at heq
    omega
  · rw [if_neg hsign, toInt_eq_of_nonneg (Int.not_lt.mp hsign), Int.natCast_inj, UInt32.toNat_inj]
    by_cases hzero : h.toUInt32 = 0
    · rw [dif_pos hzero, hzero]
      exact iff_of_false nofun hraw
    · rw [dif_neg hzero, Option.some.injEq, Handle.mk.injEq]
      exact eq_comm

/-- A resource at a handle has one kind, so that the order in which the kinds are tried does not matter. -/
lemma get?_data_eq_some_iff {t : ResourceTable} {handle : Handle} {r : Resource} :
    (t.get? .binary handle).or (t.get? .ubin handle) = some r ↔
      t.getAny? handle = some r ∧ (r.kind = .binary ∨ r.kind = .ubin) := by
  unfold ResourceTable.get?
  cases t.getAny? handle with
  | none => exact iff_of_false nofun fun h => nomatch h.1
  | some found =>
    obtain ⟨kind, payload⟩ := found
    have hkind : ((some (⟨kind, payload⟩ : Resource)).filter fun r => r.kind = .binary).or
        ((some ⟨kind, payload⟩).filter fun r => r.kind = .ubin) =
          if kind = .binary ∨ kind = .ubin then some ⟨kind, payload⟩ else none := by
      cases kind <;> rfl
    rw [hkind, Option.ite_none_right_eq_some, and_comm]
    refine and_congr_right fun heq => ?_
    cases heq
    rfl

lemma memory?_eq_some_iff {r : Resource} {data : Memory} : r.memory? = some data ↔ r.payload = .binary data := by
  obtain ⟨kind, payload⟩ := r
  cases payload <;> simp [Resource.memory?]

lemma data?_eq_some_iff {t : ResourceTable} {h : Word} {data : Memory} :
    data? t h = some data ↔ DataAt t h data := by
  unfold data? DataAt
  simp only [Option.bind_eq_bind, Option.bind_eq_some_iff, ofGuest?_eq_some_iff, get?_data_eq_some_iff,
    memory?_eq_some_iff]
  constructor
  · rintro ⟨handle, hhandle, ⟨kind, payload⟩, ⟨hfound, hkind⟩, rfl⟩
    exact ⟨handle, hhandle, kind, hkind, hfound⟩
  · rintro ⟨handle, hhandle, kind, hkind, hfound⟩
    exact ⟨handle, hhandle, _, ⟨hfound, hkind⟩, rfl⟩

lemma data?_eq_none_iff {t : ResourceTable} {h : Word} : data? t h = none ↔ ∀ data, ¬DataAt t h data := by
  rw [Option.eq_none_iff_forall_ne_some]
  exact forall_congr' fun data => not_congr data?_eq_some_iff

/-! ### The calls -/

def BindsDataSize (b : Bridge) : Prop := b.registry.get? .getDataSize = some (.action [.i32] getDataSize)

def BindsReadData (b : Bridge) : Prop :=
  b.registry.get? .readData = some (.action [.i32, .ptr, .i32, .i32] readData)

section Calls

variable {b : Bridge} {data m : Memory} {h dst off size : Word}

lemma invoke_getDataSize (hbound : BindsDataSize b) (m : Memory) (h : Word) :
    (b.invoke m .getDataSize [h]).bridge = b ∧ (b.invoke m .getDataSize [h]).memory = m ∧
      (b.invoke m .getDataSize [h]).result = .ok ⟨.i32, toldSize b.resources h⟩ := by
  have harity : [h].length = (Routine.action [.i32] getDataSize).arity := rfl
  unfold Bridge.invoke
  rw [Registry.invoke_of_arity hbound harity, call_getDataSize]
  exact ⟨rfl, rfl, rfl⟩

lemma invoke_readData (hbound : BindsReadData b) (m : Memory) (h dst off size : Word) :
    (b.invoke m .readData [h, dst, off, size]).bridge = b ∧
      (b.invoke m .readData [h, dst, off, size]).result =
        (dataCopied b.resources m h dst off size).1.map (fun _ => ⟨.i32, (0 : Word)⟩) ∧
      (b.invoke m .readData [h, dst, off, size]).memory = (dataCopied b.resources m h dst off size).2 := by
  have harity : [h, dst, off, size].length = (Routine.action [.i32, .ptr, .i32, .i32] readData).arity := rfl
  obtain ⟨log, hcall⟩ := call_readData b.context (b.callState m) h dst off size
  unfold Bridge.invoke
  rw [Registry.invoke_of_arity hbound harity, hcall]
  exact ⟨rfl, rfl, rfl⟩

lemma dataSizeOutcome (hbound : BindsDataSize b) (hsizes : DataFitsWord b.resources) (m : Memory) (h : Word) :
    DataSizeOutcome b m h (b.invoke m .getDataSize [h]) := by
  obtain ⟨hbridge, hmemory, hresult⟩ := invoke_getDataSize hbound m h
  refine ⟨fun data hdata => ?_, fun hnone => ?_, hbridge, hmemory⟩
  · rw [toldSize, data?_eq_some_iff.mpr hdata] at hresult
    obtain ⟨handle, -, kind, -, hfound⟩ := hdata
    have hsize := hsizes handle kind data hfound
    refine ⟨_, hresult, ?_⟩
    dsimp only
    rw [Nat.min_eq_left hsize]
    exact Int32.toInt_ofNat_of_lt (Nat.lt_of_le_of_lt hsize (by decide))
  · rw [toldSize, data?_eq_none_iff.mpr hnone] at hresult
    exact hresult

section Results

variable {out : Bridge.Invoked}

lemma ne_ok_of_error {e : CallFailure} (herror : out.result = .error e) (r : Return) : out.result ≠ .ok r := by
  intro hok
  rw [herror] at hok
  cases hok

lemma ne_negative_of_outside {offset len : UInt64} {size : Nat}
    (houtside : out.result = .error (.returned (.memory (.outOfBounds offset len size)))) (w : Word) :
    out.result ≠ .error (.returned (.memory (.negativeAddress w))) := by
  intro hnegative
  rw [houtside] at hnegative
  cases hnegative

end Results

lemma readFrom_of_negative {out : Bridge.Invoked} {w : Word}
    (hneg : [dst, off, size].find? (fun w => w.toInt < 0) = some w)
    (hresult : out.result = .error (.returned (.memory (.negativeAddress w)))) :
    ReadFrom data m dst off size out := by
  have hsigns : ¬∀ w ∈ [dst, off, size], 0 ≤ w.toInt := fun h => find?_negative_ne_some h w hneg
  exact {
    negative := fun other => by
      rw [hresult, hneg]
      simp only [Except.error.injEq, CallFailure.returned.injEq, SyscallError.memory.injEq,
        MemoryError.negativeAddress.injEq, Option.some.injEq]
    behindData := fun h => absurd h hsigns
    behindMemory := fun h => absurd h hsigns
    succeeds := iff_of_false (ne_ok_of_error hresult _) fun h => hsigns h.1
    read := fun h => absurd h (ne_ok_of_error hresult _) }

lemma readFrom_of_behindData {out : Bridge.Invoked} (hsigns : ∀ w ∈ [dst, off, size], 0 ≤ w.toInt)
    (hoff : data.size < off.toInt.toNat + size.toInt.toNat)
    (hresult : out.result = .error (.returned (.memory (.outOfBounds (UInt64.ofNat off.toInt.toNat)
      (UInt64.ofNat size.toInt.toNat) data.size)))) :
    ReadFrom data m dst off size out where
  negative := fun w => iff_of_false (ne_negative_of_outside hresult w) (find?_negative_ne_some hsigns w)
  behindData := fun _ _ => hresult
  behindMemory := fun _ hle _ => absurd hle (Nat.not_le.mpr hoff)
  succeeds := iff_of_false (ne_ok_of_error hresult _) fun h => Nat.not_le.mpr hoff h.2.1
  read := fun h => absurd h (ne_ok_of_error hresult _)

lemma readFrom_of_behindMemory {out : Bridge.Invoked} (hsigns : ∀ w ∈ [dst, off, size], 0 ≤ w.toInt)
    (hoff : off.toInt.toNat + size.toInt.toNat ≤ data.size) (hdst : m.size < dst.toInt.toNat + size.toInt.toNat)
    (hresult : out.result = .error (.returned (.memory (.outOfBounds (UInt64.ofNat dst.toInt.toNat)
      (UInt64.ofNat size.toInt.toNat) m.size)))) :
    ReadFrom data m dst off size out where
  negative := fun w => iff_of_false (ne_negative_of_outside hresult w) (find?_negative_ne_some hsigns w)
  behindData := fun _ hlt => absurd hoff (Nat.not_le.mpr hlt)
  behindMemory := fun _ _ _ => hresult
  succeeds := iff_of_false (ne_ok_of_error hresult _) fun h => Nat.not_le.mpr hdst h.2.2
  read := fun h => absurd h (ne_ok_of_error hresult _)

lemma readFrom_of_copied {out : Bridge.Invoked} (hsigns : ∀ w ∈ [dst, off, size], 0 ≤ w.toInt)
    (hoff : off.toInt.toNat + size.toInt.toNat ≤ data.size) (hdst : dst.toInt.toNat + size.toInt.toNat ≤ m.size)
    (hresult : out.result = .ok ⟨.i32, (0 : Word)⟩)
    (hmemory : out.memory = m.splice dst.toInt.toNat (cut data.bytes off.toInt.toNat size.toInt.toNat)) :
    ReadFrom data m dst off size out where
  negative := fun w =>
    iff_of_false (fun hnegative => ne_ok_of_error hnegative _ hresult) (find?_negative_ne_some hsigns w)
  behindData := fun _ hlt => absurd hoff (Nat.not_le.mpr hlt)
  behindMemory := fun _ _ hlt => absurd hdst (Nat.not_le.mpr hlt)
  succeeds := iff_of_true hresult ⟨hsigns, hoff, hdst⟩
  read := fun _ => by rw [hmemory, Memory.splice, length_cut hoff]

lemma readDataOutcome_of_data {out : Bridge.Invoked} (hdata : data? b.resources h = some data)
    (hread : ReadFrom data m dst off size out) (hne : out.result ≠ .error (.returned (.notFound .binary h)))
    (hfailed : out.result ≠ .ok ⟨.i32, (0 : Word)⟩ → (∃ e, out.result = .error e) ∧ out.memory = m)
    (hbridge : out.bridge = b) : ReadDataOutcome b m h dst off size out where
  missing := iff_of_false hne fun hnone => hnone data (data?_eq_some_iff.mp hdata)
  found := by
    intro data' hdata'
    rw [← data?_eq_some_iff, hdata] at hdata'
    cases hdata'
    exact hread
  failed := hfailed
  bridge := hbridge

lemma readDataOutcome (hbound : BindsReadData b) (m : Memory) (h dst off size : Word) :
    ReadDataOutcome b m h dst off size (b.invoke m .readData [h, dst, off, size]) := by
  obtain ⟨hbridge, hresult, hmemory⟩ := invoke_readData hbound m h dst off size
  generalize b.invoke m .readData [h, dst, off, size] = out at hbridge hresult hmemory ⊢
  cases copyEnds b.resources m h dst off size with
  | missing hdata hcopy =>
    rw [hcopy] at hresult hmemory
    have hnone := data?_eq_none_iff.mp hdata
    exact ⟨iff_of_true hresult hnone, fun data hdata => absurd hdata (hnone data),
      fun _ => ⟨⟨_, hresult⟩, hmemory⟩, hbridge⟩
  | negative data hdata w hneg hcopy =>
    rw [hcopy] at hresult hmemory
    exact readDataOutcome_of_data hdata (readFrom_of_negative hneg hresult)
      (by rw [hresult]; nofun) (fun _ => ⟨⟨_, hresult⟩, hmemory⟩) hbridge
  | behindData data hdata hsigns hoff hcopy =>
    rw [hcopy] at hresult hmemory
    exact readDataOutcome_of_data hdata (readFrom_of_behindData hsigns hoff hresult)
      (by rw [hresult]; nofun) (fun _ => ⟨⟨_, hresult⟩, hmemory⟩) hbridge
  | behindMemory data hdata hsigns hoff hdst hcopy =>
    rw [hcopy] at hresult hmemory
    exact readDataOutcome_of_data hdata (readFrom_of_behindMemory hsigns hoff hdst hresult)
      (by rw [hresult]; nofun) (fun _ => ⟨⟨_, hresult⟩, hmemory⟩) hbridge
  | copied data hdata hsigns hoff hdst hcopy =>
    rw [hcopy] at hresult hmemory
    exact readDataOutcome_of_data hdata (readFrom_of_copied hsigns hoff hdst hresult hmemory)
      (by rw [hresult]; nofun) (fun hfails => absurd hresult hfails) hbridge

end Calls

/-! ### Chunks -/

section Chunks

variable {b : Bridge} {data m : Memory} {h : Word}

lemma readData_of_fits (hbound : BindsReadData b) (hdata : DataAt b.resources h data) {dst off size : Word}
    (hsigns : ∀ w ∈ [dst, off, size], 0 ≤ w.toInt)
    (hoff : off.toInt.toNat + size.toInt.toNat ≤ data.size) (hdst : dst.toInt.toNat + size.toInt.toNat ≤ m.size) :
    (b.invoke m .readData [h, dst, off, size]).result = .ok ⟨.i32, (0 : Word)⟩ ∧
      (b.invoke m .readData [h, dst, off, size]).bridge = b ∧
      (b.invoke m .readData [h, dst, off, size]).memory =
        m.splice dst.toInt.toNat (cut data.bytes off.toInt.toNat size.toInt.toNat) := by
  obtain ⟨hbridge, hresult, hmemory⟩ := invoke_readData hbound m h dst off size
  have hcopy : dataCopied b.resources m h dst off size =
      (.ok (), m.splice dst.toInt.toNat (cut data.bytes off.toInt.toNat size.toInt.toNat)) := by
    rw [dataCopied, dataCopy_of_nonneg (data?_eq_some_iff.mpr hdata) hsigns]
    dsimp only
    rw [copyInto_guest, if_pos hoff, if_pos hdst]
    rfl
  rw [hcopy] at hresult hmemory
  exact ⟨hresult, hbridge, hmemory⟩

lemma fits_of_readData (hbound : BindsReadData b) {dst off size : Word}
    (hok : (b.invoke m .readData [h, dst, off, size]).result = .ok ⟨.i32, (0 : Word)⟩) :
    ∃ data, DataAt b.resources h data ∧ (∀ w ∈ [dst, off, size], 0 ≤ w.toInt) ∧
      off.toInt.toNat + size.toInt.toNat ≤ data.size ∧ dst.toInt.toNat + size.toInt.toNat ≤ m.size := by
  have houtcome := readDataOutcome hbound m h dst off size
  have hsome : ¬∀ data, ¬DataAt b.resources h data := by
    rw [← houtcome.missing, hok]
    nofun
  obtain ⟨data, hdata⟩ := not_forall_not.mp hsome
  exact ⟨data, hdata, (houtcome.found data hdata).succeeds.mp hok⟩

lemma totalSize_cons (c : Chunk) (rest : List Chunk) :
    totalSize (c :: rest) = c.size.toInt + totalSize rest :=
  List.sum_cons

lemma totalSize_nonneg {chunks : List Chunk} {dst off : Int} (hchunks : Consecutive dst off chunks) :
    0 ≤ totalSize chunks := by
  induction chunks generalizing dst off with
  | nil => exact le_rfl
  | cons c rest ih =>
    obtain ⟨-, -, hsign, hrest⟩ := hchunks
    rw [totalSize_cons]
    exact Int.add_nonneg hsign (ih hrest)

lemma cut_append_cut (list : List UInt8) (start len more : Nat) :
    cut list start len ++ cut list (start + len) more = cut list start (len + more) := by
  unfold cut
  rw [List.take_add, List.drop_drop]

/-- One chunk, with its words as numbers. -/
lemma readData_chunk (hbound : BindsReadData b) (hdata : DataAt b.resources h data) {c : Chunk}
    {dst off size : Nat} (hcdst : c.dst.toInt = dst) (hcoff : c.off.toInt = off) (hcsize : c.size.toInt = size)
    (hoff : off + size ≤ data.size) (hdst : dst + size ≤ m.size) :
    (b.invoke m .readData [h, c.dst, c.off, c.size]).result = .ok ⟨.i32, (0 : Word)⟩ ∧
      (b.invoke m .readData [h, c.dst, c.off, c.size]).bridge = b ∧
      (b.invoke m .readData [h, c.dst, c.off, c.size]).memory = m.splice dst (cut data.bytes off size) := by
  have hsigns : ∀ w ∈ [c.dst, c.off, c.size], 0 ≤ w.toInt := by
    simp only [List.forall_mem_cons, hcdst, hcoff, hcsize]
    exact ⟨Int.natCast_nonneg dst, Int.natCast_nonneg off, Int.natCast_nonneg size, nofun⟩
  have hread := readData_of_fits (m := m) hbound hdata hsigns
  rw [hcdst, hcoff, hcsize, Int.toNat_natCast, Int.toNat_natCast, Int.toNat_natCast] at hread
  exact hread hoff hdst

lemma readChunks_of_fits (hbound : BindsReadData b) (hdata : DataAt b.resources h data) {chunks : List Chunk}
    {dst off size : Nat} (hchunks : Consecutive dst off chunks) (hsize : totalSize chunks = size)
    (hoff : off + size ≤ data.size) (hdst : dst + size ≤ m.size) :
    readChunks b m h chunks = (List.replicate chunks.length (.ok ⟨.i32, (0 : Word)⟩), b,
      m.splice dst (cut data.bytes off size)) := by
  -- the data stays, so the rest is read from where the first chunk ended, into what it left
  induction chunks generalizing m dst off size with
  | nil =>
    cases Int.natCast_inj.mp (hsize : ((0 : Nat) : Int) = size)
    have hsame : m.splice dst (cut data.bytes off 0) = m := by
      unfold Memory.splice cut
      rw [List.take_zero, List.append_nil, List.length_nil, Nat.add_zero, List.take_append_drop]
    rw [hsame]
    rfl
  | cons c rest ih =>
    obtain ⟨hcdst, hcoff, hsign, hrest⟩ := hchunks
    obtain ⟨first, hfirst⟩ := Int.eq_ofNat_of_zero_le hsign
    obtain ⟨later, hlater⟩ := Int.eq_ofNat_of_zero_le (totalSize_nonneg hrest)
    have hsum : size = first + later := by
      rw [totalSize_cons, hfirst, hlater] at hsize
      omega
    subst hsum
    rw [hfirst, ← Int.natCast_add, ← Int.natCast_add] at hrest
    have hoffFirst : off + first ≤ data.size :=
      Nat.le_trans (Nat.add_le_add_left (Nat.le_add_right first later) off) hoff
    obtain ⟨hresult, hbridge, hmemory⟩ :=
      readData_chunk (m := m) hbound hdata hcdst hcoff hfirst hoffFirst (by omega)
    have hlength : (cut data.bytes off first).length = first := length_cut hoffFirst
    have hinside : dst + (cut data.bytes off first).length ≤ m.size := by omega
    have hrestChunks := ih (m := m.splice dst (cut data.bytes off first)) hrest hlater (by omega)
      (by rw [Memory.size_splice hinside]; omega)
    have hjoin := splice_splice hinside (cut data.bytes (off + first) later)
    rw [hlength, cut_append_cut] at hjoin
    rw [hjoin] at hrestChunks
    unfold readChunks
    dsimp only
    rw [hresult, hbridge, hmemory, hrestChunks]
    rfl

lemma fits_of_readChunks (hbound : BindsReadData b)
    {c : Chunk} {rest : List Chunk} {dst off : Int} (hchunks : Consecutive dst off (c :: rest))
    (hall : ∀ r ∈ (readChunks b m h (c :: rest)).1, r = .ok ⟨.i32, (0 : Word)⟩) :
    ∃ data, DataAt b.resources h data ∧ 0 ≤ dst ∧ 0 ≤ off ∧ off + totalSize (c :: rest) ≤ data.size ∧
      dst + totalSize (c :: rest) ≤ m.size := by
  induction rest generalizing c m dst off with
  | nil =>
    obtain ⟨rfl, rfl, hsign, -⟩ := hchunks
    obtain ⟨data, hdata, hsigns, hoff, hdst⟩ := fits_of_readData hbound (hall _ List.mem_cons_self)
    simp only [List.forall_mem_cons] at hsigns
    refine ⟨data, hdata, hsigns.1, hsigns.2.1, ?_⟩
    have htotal : totalSize [c] = c.size.toInt := Int.add_zero _
    omega
  | cons next rest ih =>
    obtain ⟨rfl, rfl, hsign, hrest⟩ := hchunks
    have hok := hall _ List.mem_cons_self
    obtain ⟨data, hdata, hsigns, hoff, hdst⟩ := fits_of_readData hbound hok
    obtain ⟨-, hbridge, hmemory⟩ := readData_of_fits hbound hdata hsigns hoff hdst
    have htail : ∀ r ∈ (readChunks (b.invoke m .readData [h, c.dst, c.off, c.size]).bridge
        (b.invoke m .readData [h, c.dst, c.off, c.size]).memory h (next :: rest)).1,
        r = .ok ⟨.i32, (0 : Word)⟩ :=
      fun r hr => hall r (List.mem_cons_of_mem _ hr)
    rw [hbridge, hmemory] at htail
    obtain ⟨data', hdata', -, -, hoff', hdst'⟩ := ih hrest htail
    rw [Memory.size_splice (by rw [length_cut hoff]; exact hdst)] at hdst'
    simp only [List.forall_mem_cons] at hsigns
    refine ⟨data', hdata', hsigns.1, hsigns.2.1, ?_⟩
    rw [totalSize_cons]
    omega

lemma chunksOutcome (hbound : BindsReadData b)
    {dst off size : Word} {chunks : List Chunk} (hchunks : Consecutive dst.toInt off.toInt chunks)
    (htotal : totalSize chunks = size.toInt) :
    ChunksOutcome b m h chunks (b.invoke m .readData [h, dst, off, size]) := by
  refine ⟨fun hok => ?_, fun hne hall => ?_⟩
  · obtain ⟨data, hdata, hsigns, hoff, hdst⟩ := fits_of_readData hbound hok
    obtain ⟨-, hbridge, hmemory⟩ := readData_of_fits hbound hdata hsigns hoff hdst
    simp only [List.forall_mem_cons] at hsigns
    obtain ⟨hdstSign, hoffSign, hsizeSign, -⟩ := hsigns
    rw [← Int.toNat_of_nonneg hdstSign, ← Int.toNat_of_nonneg hoffSign] at hchunks
    rw [← Int.toNat_of_nonneg hsizeSign] at htotal
    rw [hbridge, hmemory]
    exact readChunks_of_fits hbound hdata hchunks htotal hoff hdst
  · obtain ⟨c, rest, rfl⟩ := List.exists_cons_of_ne_nil hne
    obtain ⟨data, hdata, hdstSign, hoffSign, hoff, hdst⟩ := fits_of_readChunks hbound hchunks hall
    have hsizeSign := totalSize_nonneg hchunks
    rw [htotal] at hoff hdst hsizeSign
    have hsigns : ∀ w ∈ [dst, off, size], 0 ≤ w.toInt := by
      simp only [List.forall_mem_cons]
      exact ⟨hdstSign, hoffSign, hsizeSign, nofun⟩
    exact (readData_of_fits hbound hdata hsigns (by omega) (by omega)).1

/-- The size that a guest was told is one that it can read. -/
lemma readData_whole (hdataSize : BindsDataSize b)
    (hbound : BindsReadData b)
    (hsizes : DataFitsWord b.resources) {n : Word}
    (hn : (b.invoke m .getDataSize [h]).result = .ok ⟨.i32, n⟩) (hsign : 0 ≤ n.toInt) {dst : Word}
    (hdst : 0 ≤ dst.toInt) (hfits : dst.toInt + n.toInt ≤ m.size) :
    (b.invoke m .readData [h, dst, 0, n]).result = .ok ⟨.i32, (0 : Word)⟩ := by
  have houtcome := dataSizeOutcome hdataSize hsizes m h
  have hsome : ¬∀ data, ¬DataAt b.resources h data := by
    intro hnone
    rw [houtcome.missing hnone] at hn
    cases hn
    exact absurd hsign (by decide)
  obtain ⟨data, hdata⟩ := not_forall_not.mp hsome
  obtain ⟨n', hn', hsize⟩ := houtcome.size data hdata
  rw [hn'] at hn
  cases hn
  have hsigns : ∀ w ∈ [dst, 0, n], 0 ≤ w.toInt := by
    simp only [List.forall_mem_cons]
    exact ⟨hdst, Int.le_refl 0, hsign, nofun⟩
  have hzero : (0 : Word).toInt = 0 := rfl
  exact (readData_of_fits hbound hdata hsigns (by omega) (by omega)).1

end Chunks

/-- Every call for the size of data or for a part of it, by a guest of a bridge that has the group for them. -/
theorem data_syscalls {o : Bridge.Options} {built : Bridge} (hgroup : resourceGroup ∈ o.groups)
    (hbuild : (Bridge.build o).1 = .ok built) {resources : ResourceTable} (hsizes : DataFitsWord resources)
    (events : EventQueue Event) (hookRuns : List PanicReport) (memory : Memory) (h : Word) :
    let b : Bridge := { built with resources := resources, events := events, hookRuns := hookRuns }
    DataSizeOutcome b memory h (b.invoke memory .getDataSize [h]) ∧
    (∀ dst off size, ReadDataOutcome b memory h dst off size (b.invoke memory .readData [h, dst, off, size])) ∧
    (∀ n : Word, (b.invoke memory .getDataSize [h]).result = .ok ⟨.i32, n⟩ → 0 ≤ n.toInt →
      ∀ dst : Word, 0 ≤ dst.toInt → dst.toInt + n.toInt ≤ memory.size →
        (b.invoke memory .readData [h, dst, 0, n]).result = .ok ⟨.i32, (0 : Word)⟩) ∧
    ∀ (dst off size : Word) (chunks : List Chunk), Consecutive dst.toInt off.toInt chunks →
      totalSize chunks = size.toInt →
        ChunksOutcome b memory h chunks (b.invoke memory .readData [h, dst, off, size]) := by
  intro b
  have hdataSize : BindsDataSize b := get?_of_build hbuild hgroup List.mem_cons_self
  have hreadData : BindsReadData b := get?_of_build hbuild hgroup (List.mem_cons_of_mem _ List.mem_cons_self)
  exact ⟨dataSizeOutcome hdataSize hsizes memory h, readDataOutcome hreadData memory h,
    fun n hn hsign dst hdst hfits => readData_whole hdataSize hreadData hsizes hn hsign hdst hfits,
    fun dst off size chunks hchunks htotal => chunksOutcome hreadData hchunks htotal⟩

def fiveBytes : ResourceTable := ResourceTable.empty.set .first ⟨.ubin, .binary ⟨[1, 2, 3, 4, 5]⟩⟩

def threeChunks : List Chunk := [⟨4, 1, 2⟩, ⟨6, 3, 0⟩, ⟨6, 3, 1⟩]

/-- Three of five bytes, at once and in pieces. -/
theorem data_syscalls_threeChunks :
    resourceGroup ∈ ({ decoder := none } : Bridge.Options).groups ∧ DataFitsWord fiveBytes ∧
    ∃ built, (Bridge.build { decoder := none }).1 = .ok built ∧
      let b : Bridge := { built with resources := fiveBytes }
      let whole := b.invoke (Memory.zeroed 8) .readData [1, 4, 1, 3]
      (b.invoke (Memory.zeroed 8) .getDataSize [1]).result = .ok ⟨.i32, (5 : Word)⟩ ∧
      whole.memory.bytes = [0, 0, 0, 0, 2, 3, 4, 0] ∧
      readChunks b (Memory.zeroed 8) 1 threeChunks =
        (List.replicate 3 (.ok ⟨.i32, (0 : Word)⟩), whole.bridge, whole.memory) := by
  have hgroup : resourceGroup ∈ ({ decoder := none } : Bridge.Options).groups := by simp [SyscallGroup.builtin]
  have hsizes : DataFitsWord fiveBytes := by
    intro handle kind data hfound
    unfold fiveBytes at hfound
    rw [table_getAny?_set] at hfound
    split at hfound
    · cases hfound
      decide
    · cases hfound
  have hbuild : (Bridge.build { decoder := none }).1 = .ok _ := rfl
  obtain ⟨-, -, -, hchunks⟩ := data_syscalls hgroup hbuild hsizes .empty [] (Memory.zeroed 8) 1
  have houtcome := hchunks 4 1 3 threeChunks
    ⟨rfl, rfl, by decide, rfl, rfl, by decide, rfl, rfl, by decide, trivial⟩ rfl
  exact ⟨hgroup, hsizes, _, hbuild, rfl, rfl, houtcome.pieces rfl⟩

end GuestBridge.Proofs
