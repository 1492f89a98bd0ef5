import GuestBridge.Container.Writer
import GuestBridge.Proofs.Varint

/-!
# What writing puts into a sink

`Writes w data a` says that the action `w` writes `data` and returns `a` when the sink has room for
all of it; otherwise as much as fits is written and the action fails. A container whose counts fit
writes its mark, its two counts, its records and the end mark.
-/

namespace GuestBridge.Proofs

/-- The action writes exactly these bytes, as far as they fit. -/
def Writes {α : Type} (w : Writing α) (data : List UInt8) (a : α) : Prop :=
  ∀ s : Sink, w.run.run s =
    (if (s.push data).1 then .ok a else .error (.stream .sinkFull), (s.push data).2)

lemma sink_push_nil (s : Sink) : s.push [] = (true, s) := by
  obtain ⟨reversed, room⟩ := s
  cases room with
  | none => rfl
  | some n => simp [Sink.push]

lemma sink_push_append (s : Sink) (d e : List UInt8) :
    s.push (d ++ e) = ((s.push d).1 && ((s.push d).2.push e).1, ((s.push d).2.push e).2) := by
  obtain ⟨reversed, room⟩ := s
  cases room with
  | none => simp [Sink.push, List.reverseAux_eq]
  | some n =>
    have hfit : (d.length + e.length ≤ n) ↔ d.length ≤ n ∧ e.length ≤ n - d.length := by omega
    simp only [Sink.push, List.length_append, List.take_append, List.reverseAux_eq, hfit,
      Bool.decide_and, List.reverse_append, List.append_assoc, Nat.sub_sub]

/-- Nothing fits behind bytes that did not fit. -/
lemma sink_push_of_full {s : Sink} {d : List UInt8} (h : (s.push d).1 = false) (e : List UInt8) :
    ((s.push d).2.push e).2 = (s.push d).2 := by
  obtain ⟨reversed, room⟩ := s
  cases room with
  | none => cases h
  | some n =>
    have hlt : n < d.length := by simpa [Sink.push] using h
    have hzero : n - d.length = 0 := by omega
    simp [Sink.push, hzero]

lemma writes_pure {α : Type} (a : α) : Writes (pure a) [] a := by
  intro s
  rw [sink_push_nil]
  rfl

lemma writing_run_bind {α β : Type} (w : Writing α) (f : α → Writing β) (s : Sink) :
    (w >>= f).run.run s =
      match w.run.run s with
      | (.ok a, t) => (f a).run.run t
      | (.error e, t) => (.error e, t) := by
  simp only [bind, ExceptT.bind, ExceptT.run, ExceptT.mk, StateT.bind, StateT.run]
  cases w s with
  | mk result t => cases result <;> rfl

lemma writes_bytes (data : List UInt8) : Writes (Writing.bytes data) data () := by
  intro s
  have hpush : (modifyGet (fun s => s.push data) : Writing Bool).run.run s =
      (.ok (s.push data).1, (s.push data).2) := rfl
  unfold Writing.bytes
  rw [writing_run_bind, hpush]
  dsimp only
  cases (s.push data).1 <;> rfl

theorem writes_bind {α β : Type} {w : Writing α} {f : α → Writing β} {d e : List UInt8} {a : α} {b : β}
    (hw : Writes w d a) (hf : Writes (f a) e b) : Writes (w >>= f) (d ++ e) b := by
  intro s
  rw [writing_run_bind, hw s, sink_push_append]
  cases hfits : (s.push d).1 with
  | true =>
    simp only [if_true, Bool.true_and]
    exact hf (s.push d).2
  | false =>
    have hfull := sink_push_of_full hfits e
    simp only [Bool.false_eq_true, if_false, Bool.false_and, hfull]

lemma writes_varint {v : UInt32} (hv : v.toNat ≤ Varint.maxValue) :
    Writes (Writing.varint v) (Varint.groups v.toNat) (Varint.groups v.toNat).length := by
  have hencode : Varint.encode? v = some (Varint.groups v.toNat) := by
    unfold Varint.encode?
    rw [if_pos hv]
  unfold Writing.varint
  rw [hencode]
  dsimp only
  have h := writes_bind (f := fun _ => pure (Varint.groups v.toNat).length)
    (writes_bytes (Varint.groups v.toNat)) (writes_pure _)
  rwa [List.append_nil] at h

lemma writes_discard {α : Type} {w : Writing α} {data : List UInt8} {a : α} (h : Writes w data a) :
    Writes (discard w) data () := by
  have hbind := writes_bind (f := fun _ => pure ()) h (writes_pure ())
  rwa [List.append_nil] at hbind

theorem writes_forM {α : Type} {f : α → Writing Unit} {encoding : α → List UInt8} (items : List α)
    (h : ∀ a ∈ items, Writes (f a) (encoding a) ()) :
    Writes (items.forM f) (items.flatMap encoding) () := by
  induction items with
  | nil => exact writes_pure ()
  | cons a items ih =>
    rw [List.flatMap_cons]
    change Writes (f a >>= fun _ => items.forM f) _ ()
    apply writes_bind (h a List.mem_cons_self)
    exact ih fun b hb => h b (List.mem_cons_of_mem _ hb)

/-! ### Containers -/

/-- A record as it is written: its tag, its size and its payload. -/
def recordBytes (r : Record) : List UInt8 := r.tag :: (Varint.groups r.payload.length ++ r.payload)

/-- The bytes behind the header of a written container. -/
def bodyBytes (records : List Record) : List UInt8 := records.flatMap recordBytes ++ [0]

def containerBytes (c : Container) : List UInt8 :=
  Container.magic ++ (Varint.groups c.records.length ++ (Varint.groups c.payloadBytes ++ bodyBytes c.records))

/-- The numbers of a container can be written: that of its records and that of its payload bytes. -/
def Writable (c : Container) : Prop :=
  c.records.length ≤ Varint.maxValue ∧ c.payloadBytes ≤ Varint.maxValue

lemma clampedSize_of_le {n : Nat} (hn : n ≤ Varint.maxValue) : (clampedSize n).toNat = n := by
  rw [varint_maxValue_eq] at hn
  unfold clampedSize
  rw [UInt32.toNat_ofNat', Nat.min_eq_left (by omega), Nat.mod_eq_of_lt (by omega)]

lemma payload_length_le {c : Container} {r : Record} (hr : r ∈ c.records) :
    r.payload.length ≤ c.payloadBytes := by
  unfold Container.payloadBytes
  generalize c.records = records at hr
  induction records with
  | nil => cases hr
  | cons first rest ih =>
    rw [List.foldr_cons]
    rcases List.mem_cons.mp hr with rfl | hr
    · omega
    · have hle := ih hr
      omega

lemma writes_varint_clamped {n : Nat} (hn : n ≤ Varint.maxValue) :
    Writes (discard <| Writing.varint (clampedSize n)) (Varint.groups n) () := by
  have hsize := clampedSize_of_le hn
  have h := writes_varint (v := clampedSize n) (by omega)
  rw [hsize] at h
  exact writes_discard h

lemma writes_record {r : Record} (hr : r.payload.length ≤ Varint.maxValue) :
    Writes (Container.writeRecord r) (recordBytes r) () := by
  apply writes_bind (writes_bytes [r.tag])
  apply writes_bind (writes_varint_clamped hr)
  exact writes_bytes r.payload

theorem writes_container {c : Container} (hc : Writable c) : Writes c.write (containerBytes c) () := by
  obtain ⟨hcount, hsize⟩ := hc
  apply writes_bind (writes_bytes Container.magic)
  apply writes_bind (writes_varint_clamped hcount)
  apply writes_bind (writes_varint_clamped hsize)
  apply writes_bind (writes_forM c.records fun r hr => writes_record (Nat.le_trans (payload_length_le hr) hsize))
  exact writes_bytes [0]

/-- A container whose numbers can be written has a written form. -/
theorem toBytes_eq {c : Container} (hc : Writable c) : c.toBytes = .ok (containerBytes c) := by
  unfold Container.toBytes
  rw [writes_container hc Sink.unlimited]
  simp [Sink.push, Sink.unlimited, Sink.bytes, List.reverseAux_eq, Except.map]

end GuestBridge.Proofs
