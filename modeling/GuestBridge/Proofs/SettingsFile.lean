import GuestBridge.Proofs.JsonReading
import GuestBridge.Settings.Document
import Mathlib.Data.List.Perm.Basic

/-!
# Settings files that were edited

A settings file may be edited: members taken away, others put in under names that settings do not have, and
all of them brought into another order. What is read from it are the settings with the missing fields at
their defaults. A member that is null is not missing.
-/

namespace GuestBridge.Proofs
open JsonToken JsonValue Settings Text

/-- The settings with the fields of some names back at their defaults. -/
def withDefaults (dropped : List String) (s : Settings) : Settings :=
  let default : Settings := {}
  { appName := if "app_name" ∈ dropped then default.appName else s.appName
    logger := if "logger_config" ∈ dropped then default.logger else s.logger
    resourcePath := if "resource_path" ∈ dropped then default.resourcePath else s.resourcePath
    decodeImages := if "decode_images" ∈ dropped then default.decodeImages else s.decodeImages
    warnUnbound := if "warn_unbound_syscalls" ∈ dropped then default.warnUnbound else s.warnUnbound }

/-- The members of the document of `s` but for those with a dropped name, and others with foreign names, in
any order. -/
def Edited (s : Settings) (dropped : List String) (members : List (String × JsonValue)) : Prop :=
  ∃ written foreign, s.document = .record written ∧ (∀ m ∈ foreign, m.1 ∉ Settings.names) ∧
    members.Perm (written.filter (·.1 ∉ dropped) ++ foreign)

/-- A document is read back from what a format prints for it. -/
def ReadsBack (format : DocumentFormat) (v : JsonValue) : Prop :=
  format.read? (Utf8.encode (format.print v)) = some v

/-- What is read back from the members, in any format that reads them back and in the printed form of
documents. -/
structure ReadBack (s : Settings) (dropped : List String) (members : List (String × JsonValue)) : Prop where
  document : Settings.ofDocument? (.record members) = some (withDefaults dropped s)
  file : ∀ format, ReadsBack format (.record members) →
    Settings.load format (.ok (Utf8.encode (format.print (.record members)))) = .ok (withDefaults dropped s)
  json : (∀ m ∈ members, m.1 ∉ Settings.names → Printable m.2) → ReadsBack .json (.record members)
  nullLogger : s.logger = none → "logger_config" ∉ dropped →
    ("logger_config", .null) ∈ members ∧ (withDefaults dropped s).logger = none

/-! ### Members by name -/

/-- The members with a name. -/
def named (name : String) (members : List (String × JsonValue)) : List (String × JsonValue) :=
  members.filter (·.1 == name)

lemma lookup_eq_named (name : String) (members : List (String × JsonValue)) :
    members.lookup name = (named name members).head?.map (·.2) := by
  induction members with
  | nil => rfl
  | cons m rest ih =>
    obtain ⟨key, v⟩ := m
    by_cases h : key = name
    · subst h
      simp [named]
    · have hne : (name == key) = false := beq_false_of_ne (Ne.symm h)
      rw [List.lookup_cons, hne, ih]
      simp [named, h]

lemma named_append (name : String) (members others : List (String × JsonValue)) :
    named name (members ++ others) = named name members ++ named name others := List.filter_append members others

lemma named_kept (name : String) (dropped : List String) (members : List (String × JsonValue)) :
    named name (members.filter (·.1 ∉ dropped)) = if name ∈ dropped then [] else named name members := by
  unfold named
  rw [List.filter_filter]
  by_cases hname : name ∈ dropped
  · rw [if_pos hname]
    apply List.filter_eq_nil_iff.mpr
    intro m _ hm
    simp only [Bool.and_eq_true, beq_iff_eq, decide_eq_true_eq] at hm
    exact hm.2 (by rwa [hm.1])
  · rw [if_neg hname]
    apply List.filter_congr
    intro m _
    by_cases hm : m.1 = name <;> simp [hm, hname]

/-- Only what may stand under a name once is looked up, so its place among the other members is of no concern. -/
lemma named_eq_of_perm {name : String} {members others : List (String × JsonValue)} (h : members.Perm others)
    (hone : (named name others).length ≤ 1) : named name members = named name others := by
  have hperm : (named name members).Perm (named name others) := h.filter _
  cases hothers : named name others with
  | nil =>
    rw [hothers] at hperm
    exact hperm.eq_nil
  | cons m rest =>
    rw [hothers, List.length_cons] at hone
    obtain rfl : rest = [] := List.eq_nil_of_length_eq_zero (by omega)
    rw [hothers] at hperm
    exact List.perm_singleton.mp hperm

/-- The values of an object's members under some names that none of them has twice. -/
lemma known?_record {names : List String} {members : List (String × JsonValue)}
    (h : ∀ name ∈ names, (named name members).length ≤ 1) :
    JsonValue.known? names (members.map fun (name, v) => (some name, v)) = some fun name => members.lookup name := by
  have hnames : (members.map fun (name, v) => (some name, v)).all (fun m => m.1.isSome) = true := by
    simp
  have honce : names.all (fun name =>
      decide (((members.map fun (name, v) => (some name, v)).filter (·.1 == some name)).length ≤ 1)) = true := by
    rw [List.all_eq_true]
    intro name hname
    rw [List.filter_map, List.length_map, decide_eq_true_eq]
    exact h name hname
  have hlookup : ∀ name : String,
      (members.map fun (name, v) => (some name, v)).lookup (some name) = members.lookup name := by
    intro name
    clear h hnames honce
    induction members with
    | nil => rfl
    | cons m rest ih =>
      rw [List.map_cons, List.lookup_cons, List.lookup_cons, ih]
      rfl
  unfold JsonValue.known?
  simp only [hnames, honce, hlookup, Bool.and_self, if_true]

/-! ### Fields -/

lemma orNull?_logger (l : Option LoggerSettings) :
    orNull? LoggerSettings.ofDocument? ((l.map LoggerSettings.document).getD .null) = some l := by
  cases l with
  | none => rfl
  | some l => exact congrArg (Option.map some) l.ofDocument?_document

lemma orNull?_path (path : Option String) :
    orNull? string? ((path.map JsonValue.text).getD .null) = some path := by
  cases path <;> rfl

/-- The members of the document of some settings. -/
def writtenMembers (s : Settings) : List (String × JsonValue) :=
  [("app_name", .text s.appName),
    ("logger_config", (s.logger.map LoggerSettings.document).getD .null),
    ("resource_path", (s.resourcePath.map JsonValue.text).getD .null),
    ("decode_images", .bool s.decodeImages),
    ("warn_unbound_syscalls", .bool s.warnUnbound)]

lemma record_inj {members others : List (String × JsonValue)}
    (h : JsonValue.record members = JsonValue.record others) : members = others := by
  have hinj : Function.Injective fun m : String × JsonValue => (some m.1, m.2) := by
    rintro ⟨name, v⟩ ⟨name', v'⟩ heq
    cases heq
    rfl
  exact List.map_injective_iff.mpr hinj (JsonValue.object.inj h)

lemma named_written {s : Settings} {name : String} (h : name ∈ Settings.names) :
    (named name (writtenMembers s)).length = 1 := by
  simp only [Settings.names, List.mem_cons, List.not_mem_nil, or_false] at h
  rcases h with rfl | rfl | rfl | rfl | rfl <;> rfl

lemma named_edited {s : Settings} {dropped : List String} {members : List (String × JsonValue)}
    (h : Edited s dropped members) {name : String} (hname : name ∈ Settings.names) :
    named name members = if name ∈ dropped then [] else named name (writtenMembers s) := by
  obtain ⟨written, foreign, hwritten, hforeign, hperm⟩ := h
  obtain rfl : written = writtenMembers s := record_inj hwritten.symm
  have hnone : named name foreign = [] := by
    apply List.filter_eq_nil_iff.mpr
    intro m hm heq
    exact hforeign m hm (by rwa [← beq_iff_eq.mp heq] at hname)
  have hothers : named name ((writtenMembers s).filter (·.1 ∉ dropped) ++ foreign) =
      if name ∈ dropped then [] else named name (writtenMembers s) := by
    rw [named_append, hnone, named_kept, List.append_nil]
  rw [named_eq_of_perm hperm, hothers]
  rw [hothers]
  split_ifs
  · exact Nat.zero_le 1
  · exact (named_written hname).le

lemma lookup_edited {s : Settings} {dropped : List String} {members : List (String × JsonValue)}
    (h : Edited s dropped members) {name : String} (hname : name ∈ Settings.names) :
    members.lookup name = if name ∈ dropped then none else (writtenMembers s).lookup name := by
  rw [lookup_eq_named, named_edited h hname, lookup_eq_named]
  split_ifs <;> rfl

/-- The values by name of the members that were kept. -/
def Kept (s : Settings) (dropped : List String) (value : String → Option JsonValue) : Prop :=
  ∀ name ∈ Settings.names, value name = if name ∈ dropped then none else (writtenMembers s).lookup name

/-- A field is read from its member, or has its default if the member was dropped. -/
lemma field_of_kept {s : Settings} {dropped : List String} {value : String → Option JsonValue}
    (h : Kept s dropped value) {α : Type} {read? : JsonValue → Option α} {name : String} {v : JsonValue} {x : α}
    (hname : name ∈ Settings.names) (hv : (writtenMembers s).lookup name = some v) (hx : read? v = some x)
    (default : α) : orDefault? read? default (value name) = some (if name ∈ dropped then default else x) := by
  rw [h name hname, hv]
  by_cases hdropped : name ∈ dropped
  · rw [if_pos hdropped, if_pos hdropped]
    rfl
  · rw [if_neg hdropped, if_neg hdropped]
    exact hx

lemma ofValues?_of_kept {s : Settings} {dropped : List String} {value : String → Option JsonValue}
    (h : Kept s dropped value) : ofValues? value = some (withDefaults dropped s) := by
  let default : Settings := {}
  have happName : string? (.text s.appName) = some s.appName := rfl
  have hdecode : bool? (.bool s.decodeImages) = some s.decodeImages := rfl
  have hwarn : bool? (.bool s.warnUnbound) = some s.warnUnbound := rfl
  unfold ofValues?
  dsimp only
  rw [field_of_kept h (by decide) rfl happName default.appName,
    field_of_kept h (by decide) rfl (orNull?_logger s.logger) default.logger,
    field_of_kept h (by decide) rfl (orNull?_path s.resourcePath) default.resourcePath,
    field_of_kept h (by decide) rfl hdecode default.decodeImages,
    field_of_kept h (by decide) rfl hwarn default.warnUnbound]
  rfl

/-! ### Files -/

lemma printable_written (s : Settings) : ∀ m ∈ writtenMembers s, Printable m.2 := by
  have hlogger : Printable ((s.logger.map LoggerSettings.document).getD .null) := by
    cases s.logger with
    | none => exact .null
    | some l =>
      apply Printable.record
      intro m hm
      simp only [List.mem_cons, List.not_mem_nil, or_false] at hm
      rcases hm with rfl | rfl <;> exact .text _
  have hpath : Printable ((s.resourcePath.map JsonValue.text).getD .null) := by
    cases s.resourcePath with
    | none => exact .null
    | some path => exact .text path
  intro m hm
  simp only [writtenMembers, List.mem_cons, List.not_mem_nil, or_false] at hm
  rcases hm with rfl | rfl | rfl | rfl | rfl
  · exact .text s.appName
  · exact hlogger
  · exact hpath
  · exact .bool s.decodeImages
  · exact .bool s.warnUnbound

lemma mem_edited_iff {s : Settings} {dropped : List String} {members : List (String × JsonValue)}
    (h : Edited s dropped members) {m : String × JsonValue} (hname : m.1 ∈ Settings.names) :
    m ∈ members ↔ m ∈ writtenMembers s ∧ m.1 ∉ dropped := by
  obtain ⟨written, foreign, hwritten, hforeign, hperm⟩ := h
  obtain rfl : written = writtenMembers s := record_inj hwritten.symm
  have hnot : m ∉ foreign := fun hm => hforeign m hm hname
  rw [hperm.mem_iff, List.mem_append, List.mem_filter, decide_eq_true_eq, or_iff_left hnot]

lemma ofDocument?_edited {s : Settings} {dropped : List String} {members : List (String × JsonValue)}
    (h : Edited s dropped members) :
    Settings.ofDocument? (.record members) = some (withDefaults dropped s) := by
  have hone : ∀ name ∈ Settings.names, (named name members).length ≤ 1 := by
    intro name hname
    rw [named_edited h hname]
    split_ifs
    · exact Nat.zero_le 1
    · exact (named_written hname).le
  have hkept : Kept s dropped fun name => members.lookup name := fun name hname => lookup_edited h hname
  unfold JsonValue.record Settings.ofDocument?
  dsimp only
  rw [known?_record hone, Option.bind_some]
  exact ofValues?_of_kept hkept

lemma load_printed {format : DocumentFormat} {v : JsonValue} (hv : ReadsBack format v) {s : Settings}
    (h : Settings.ofDocument? v = some s) :
    Settings.load format (.ok (Utf8.encode (format.print v))) = .ok s := by
  unfold Settings.load
  dsimp only
  rw [hv, Option.bind_some, h]

lemma readsBack_json {v : JsonValue} (h : Printable v) : ReadsBack .json v := ofBytes?_pretty h

lemma readBack_of_edited {s : Settings} {dropped : List String} {members : List (String × JsonValue)}
    (h : Edited s dropped members) : ReadBack s dropped members where
  document := ofDocument?_edited h
  file := fun _ hread => load_printed hread (ofDocument?_edited h)
  json := by
    intro hforeign
    refine readsBack_json (.record fun m hm => ?_)
    by_cases hname : m.1 ∈ Settings.names
    · exact printable_written s m ((mem_edited_iff h hname).mp hm).1
    · exact hforeign m hm hname
  nullLogger := by
    intro hlogger hkept
    have hwritten : ("logger_config", JsonValue.null) ∈ writtenMembers s := by
      unfold writtenMembers
      rw [hlogger]
      exact List.mem_cons_of_mem _ List.mem_cons_self
    refine ⟨(mem_edited_iff h (by decide)).mpr ⟨hwritten, hkept⟩, ?_⟩
    unfold withDefaults
    dsimp only
    rw [if_neg hkept, hlogger]

/-- Settings are read back from their file, however it was edited: what was taken away is at its default, and
neither the order nor anything under a foreign name matters. The printed form of documents always reads back
what was written. -/
theorem settings_file (s : Settings) :
    (∀ dropped members, Edited s dropped members → ReadBack s dropped members) ∧
      (∀ format, ReadsBack format s.document →
        Settings.load format (.ok (Utf8.encode (s.text format))) = .ok s) ∧
      ReadsBack .json s.document :=
  ⟨fun _ _ h => readBack_of_edited h, fun _ hread => load_printed hread s.ofDocument?_document,
    readsBack_json (.record (printable_written s))⟩

def sampleSettings : Settings :=
  { appName := "demo", logger := none, resourcePath := some "a/b.mars", decodeImages := false }

/-- The name taken away, a note put in, and the order turned round. -/
def sampleMembers : List (String × JsonValue) :=
  [("note", .array [.number "1.5e3", .null]), ("warn_unbound_syscalls", .bool true), ("decode_images", .bool false),
    ("resource_path", .text "a/b.mars"), ("logger_config", .null)]

theorem settings_file_sample :
    Edited sampleSettings ["app_name"] sampleMembers ∧
    (∀ m ∈ sampleMembers, m.1 ∉ Settings.names → Printable m.2) ∧
    sampleSettings.logger = none ∧ "logger_config" ∉ ["app_name"] ∧
    Settings.load .json (.ok (Utf8.encode (JsonValue.record sampleMembers).pretty)) =
      .ok { sampleSettings with appName := "MARS application" } := by
  have hedited : Edited sampleSettings ["app_name"] sampleMembers := by
    refine ⟨writtenMembers sampleSettings, [("note", .array [.number "1.5e3", .null])], rfl, ?_, ?_⟩
    · intro m hm
      rw [List.mem_singleton.mp hm]
      decide
    · exact List.reverse_perm [("logger_config", JsonValue.null), ("resource_path", .text "a/b.mars"),
        ("decode_images", .bool false), ("warn_unbound_syscalls", .bool true),
        ("note", .array [.number "1.5e3", .null])]
  have hnumber : IsNumber (Utf8.encode "1.5e3") := by
    have hdigit : ∀ b, isDigit b = true → IsDigits [b] := by
      intro b hb
      refine ⟨List.cons_ne_nil b [], fun c hc => ?_⟩
      rwa [List.mem_singleton.mp hc]
    have hwhole : IsWhole [0x31] := .digits (hdigit 0x31 rfl) (by decide)
    have hfraction : IsFraction [0x2e, 0x35] := .digits (hdigit 0x35 rfl)
    have hexponent : IsExponent [0x65, 0x33] := .digits (.inl rfl) (.inl rfl) (hdigit 0x33 rfl)
    have hbytes : IsNumber ([] ++ ([0x31] ++ [0x2e, 0x35] ++ [0x65, 0x33])) :=
      .of (.inl rfl) hwhole hfraction hexponent
    exact hbytes
  have hnote : Printable (.array [.number "1.5e3", .null]) := by
    apply Printable.array
    intro v hv
    simp only [List.mem_cons, List.not_mem_nil, or_false] at hv
    rcases hv with rfl | rfl
    · exact .number hnumber
    · exact .null
  have hforeign : ∀ m ∈ sampleMembers, m.1 ∉ Settings.names → Printable m.2 := by
    intro m hm hname
    simp only [sampleMembers, List.mem_cons, List.not_mem_nil, or_false] at hm
    rcases hm with rfl | hm
    · exact hnote
    · rcases hm with rfl | rfl | rfl | rfl <;> exact absurd (by decide) hname
  have hread := (settings_file sampleSettings).1 ["app_name"] sampleMembers hedited
  exact ⟨hedited, hforeign, rfl, by decide, hread.file .json (hread.json hforeign)⟩

end GuestBridge.Proofs
