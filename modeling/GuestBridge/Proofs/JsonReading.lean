import GuestBridge.Json.Reader
import GuestBridge.Proofs.JsonTokens
import Mathlib.Data.List.Forall2

/-!
# Printed documents are read back

The printed form of a value falls into the tokens of the value, with blanks and line ends in between, and
these tokens are read as the value. The tokens of a container are those of its parts with commas between them.
-/

namespace GuestBridge.Proofs
open JsonToken JsonValue Text

/-- A value that can be printed: its numbers are written as numbers, and its strings are texts. -/
inductive Printable : JsonValue → Prop
  | null : Printable .null
  | bool (b : Bool) : Printable (.bool b)
  | number {lit : String} (h : IsNumber (Utf8.encode lit)) : Printable (.number lit)
  | text (s : String) : Printable (.text s)
  | array {items : List JsonValue} (h : ∀ v ∈ items, Printable v) : Printable (.array items)
  | record {members : List (String × JsonValue)} (h : ∀ m ∈ members, Printable m.2) :
    Printable (.record members)

/-- The tokens stand for the value, both in its printed form and where a value is read. -/
structure TokensOf (v : JsonValue) (ts : List JsonToken) : Prop where
  printed : ∀ depth, Lexes Delimited (Utf8.encode (v.prettyAt depth)) ts
  read : ∀ fuel rest, 2 * ts.length ≤ fuel → read? fuel (ts ++ rest) = some (v, rest)

/-- The tokens stand for a member of an object. -/
def MemberTokensOf (m : String × JsonValue) (us : List JsonToken) : Prop :=
  ∃ ts, us = .string (some m.1) :: .colon :: ts ∧ TokensOf m.2 ts

/-- Tokens of parts with commas between them. -/
def commaJoin (tss : List (List JsonToken)) : List JsonToken := [JsonToken.comma].intercalate tss

lemma commaJoin_singleton (ts : List JsonToken) : commaJoin [ts] = ts := List.intercalate_singleton

lemma commaJoin_cons_cons (ts us : List JsonToken) (tss : List (List JsonToken)) :
    commaJoin (ts :: us :: tss) = ts ++ .comma :: commaJoin (us :: tss) := by
  unfold commaJoin
  rw [List.intercalate_cons_cons, List.append_assoc]
  rfl

/-! ### Printing -/

lemma encode_append (s t : String) : Utf8.encode (s ++ t) = Utf8.encode s ++ Utf8.encode t := by
  unfold Utf8.encode
  rw [String.toList_append, List.flatMap_append]

lemma encode_newline (depth : Nat) :
    Utf8.encode (newline depth) = 0x0a :: List.replicate (2 * depth) 0x20 := by
  unfold Utf8.encode newline
  rw [String.toList_ofList, List.flatMap_cons, List.flatMap_replicate]
  have hblank : String.utf8EncodeChar ' ' = [0x20] := rfl
  rw [hblank, List.flatten_replicate_singleton]
  rfl

lemma lexes_newline {P : List UInt8 → Prop} (depth : Nat) : Lexes P (Utf8.encode (newline depth)) [] := by
  rw [encode_newline]
  apply lexes_blanks
  intro b hb
  rcases List.mem_cons.mp hb with rfl | hb
  · rfl
  · rw [List.eq_of_mem_replicate hb]
    rfl

lemma delimited_newline (depth : Nat) (rest : List UInt8) : Delimited (Utf8.encode (newline depth) ++ rest) := by
  rw [encode_newline]
  intro b hb
  cases hb
  decide

lemma lexes_separator {P : List UInt8 → Prop} (depth : Nat) :
    Lexes P (Utf8.encode ("," ++ newline depth)) [.comma] := by
  rw [encode_append]
  have hcomma : Lexes (fun _ => True) (Utf8.encode ",") [.comma] := lexes_token rfl fun rest _ => rfl
  exact hcomma.append (lexes_newline depth) fun _ _ => trivial

lemma encode_intercalate_cons_cons (sep s t : String) (rest : List String) :
    Utf8.encode (sep.intercalate (s :: t :: rest)) =
      Utf8.encode s ++ (Utf8.encode sep ++ Utf8.encode (sep.intercalate (t :: rest))) := by
  unfold Utf8.encode
  rw [String.toList_intercalate, String.toList_intercalate, List.map_cons, List.map_cons,
    List.intercalate_cons_cons, List.flatMap_append, List.flatMap_append, List.append_assoc]

lemma lexes_intercalate (depth : Nat) {parts : List String} {tss : List (List JsonToken)}
    (h : List.Forall₂ (fun part ts => Lexes Delimited (Utf8.encode part) ts) parts tss) :
    Lexes Delimited (Utf8.encode (("," ++ newline depth).intercalate parts)) (commaJoin tss) := by
  induction h with
  | nil => exact lexes_nil
  | cons hpart hparts ih =>
    cases hparts with
    | nil =>
      rw [String.intercalate_singleton, commaJoin_singleton]
      exact hpart
    | cons hnext hrest =>
      rw [encode_intercalate_cons_cons, commaJoin_cons_cons, ← List.singleton_append]
      have hbehind := (lexes_separator (P := fun _ => True) depth).append ih fun _ _ => trivial
      -- a part ends where the comma behind it starts
      refine hpart.append hbehind fun rest _ => ?_
      rw [encode_append]
      intro b hb
      cases hb
      decide

/-- A container falls into the tokens of its parts with commas between them and its brackets around them. -/
lemma lexes_enclose {P : List UInt8 → Prop} {left right : String} {l r : JsonToken} (depth : Nat)
    (hleft : Lexes (fun _ => True) (Utf8.encode left) [l]) (hright : Lexes P (Utf8.encode right) [r])
    {parts : List String} {tss : List (List JsonToken)}
    (h : List.Forall₂ (fun part ts => Lexes Delimited (Utf8.encode part) ts) parts tss) :
    Lexes P (Utf8.encode (enclose left right depth parts)) (l :: commaJoin tss ++ [r]) := by
  have hjoined := lexes_intercalate (depth + 1) h
  cases h with
  | nil =>
    unfold enclose
    rw [encode_append]
    exact hleft.append hright fun _ _ => trivial
  | cons hpart hparts =>
    unfold enclose
    rw [encode_append, encode_append, encode_append, encode_append, List.append_assoc, List.append_assoc,
      List.append_assoc, List.cons_append, ← List.singleton_append]
    have hend := (lexes_newline (P := fun _ => True) depth).append hright fun _ _ => trivial
    have hbody := hjoined.append hend fun rest _ => by
      rw [List.append_assoc]
      exact delimited_newline depth _
    have hbehind := (lexes_newline (P := fun _ => True) (depth + 1)).append hbody fun _ _ => trivial
    exact hleft.append hbehind fun _ _ => trivial

/-! ### Reading -/

lemma readItems?_commaJoin {items : List JsonValue} {tss : List (List JsonToken)}
    (h : List.Forall₂ TokensOf items tss) (hne : items ≠ []) (fuel : Nat) (rest : List JsonToken)
    (hfuel : 2 * (commaJoin tss).length + 1 ≤ fuel) :
    readItems? fuel (commaJoin tss ++ .closeBracket :: rest) = some (items, rest) := by
  induction h generalizing fuel with
  | nil => exact absurd rfl hne
  | @cons v ts items tss hv hitems ih =>
    obtain ⟨fuel, rfl⟩ := Nat.exists_eq_succ_of_ne_zero (n := fuel) (by omega)
    cases hitems with
    | nil =>
      rw [commaJoin_singleton] at hfuel ⊢
      rw [readItems?, hv.read fuel _ (by omega)]
    | cons hnext hrest =>
      rw [commaJoin_cons_cons, List.length_append, List.length_cons] at hfuel
      rw [commaJoin_cons_cons, List.append_assoc, List.cons_append, readItems?, hv.read fuel _ (by omega)]
      dsimp only
      rw [ih (by simp) fuel (by omega)]
      rfl

lemma readMembers?_commaJoin {members : List (String × JsonValue)} {uss : List (List JsonToken)}
    (h : List.Forall₂ MemberTokensOf members uss) (hne : members ≠ []) (fuel : Nat) (rest : List JsonToken)
    (hfuel : 2 * (commaJoin uss).length + 1 ≤ fuel) :
    readMembers? fuel (commaJoin uss ++ .closeBrace :: rest) =
      some (members.map fun (name, value) => (some name, value), rest) := by
  induction h generalizing fuel with
  | nil => exact absurd rfl hne
  | @cons m us members uss hm hmembers ih =>
    obtain ⟨fuel, rfl⟩ := Nat.exists_eq_succ_of_ne_zero (n := fuel) (by omega)
    obtain ⟨ts, rfl, hv⟩ := hm
    cases hmembers with
    | nil =>
      rw [commaJoin_singleton, List.length_cons, List.length_cons] at hfuel
      rw [commaJoin_singleton, List.cons_append, List.cons_append, readMembers?, hv.read fuel _ (by omega)]
      rfl
    | cons hnext hrest =>
      rw [commaJoin_cons_cons, List.length_append, List.length_cons, List.length_cons, List.length_cons] at hfuel
      rw [commaJoin_cons_cons, List.append_assoc, List.cons_append, List.cons_append, List.cons_append,
        readMembers?, hv.read fuel _ (by omega)]
      dsimp only
      rw [ih (by simp) fuel (by omega)]
      rfl

/-! ### A value -/

/-- A value of a single token. -/
lemma tokensOf_singleton {v : JsonValue} {t : JsonToken}
    (hprinted : ∀ depth, Lexes Delimited (Utf8.encode (v.prettyAt depth)) [t])
    (hread : ∀ fuel rest, read? (fuel + 1) (t :: rest) = some (v, rest)) : TokensOf v [t] := by
  refine ⟨hprinted, fun fuel rest hfuel => ?_⟩
  rw [List.length_singleton] at hfuel
  obtain ⟨fuel, rfl⟩ := Nat.exists_eq_succ_of_ne_zero (n := fuel) (by omega)
  exact hread fuel rest

lemma prettyItems_eq (depth : Nat) (items : List JsonValue) :
    prettyItems depth items = items.map (·.prettyAt depth) := by
  induction items with
  | nil => rfl
  | cons v rest ih => rw [prettyItems, ih, List.map_cons]

lemma prettyMembers_record (depth : Nat) (members : List (String × JsonValue)) :
    prettyMembers depth (members.map fun (name, value) => (some name, value)) =
      members.map fun m => quote m.1 ++ ": " ++ m.2.prettyAt depth := by
  induction members with
  | nil => rfl
  | cons m rest ih =>
    rw [List.map_cons, List.map_cons, prettyMembers, ih]
    rfl

lemma exists_forall₂ {α β : Type} {R : α → β → Prop} {as : List α} (h : ∀ a ∈ as, ∃ b, R a b) :
    ∃ bs, List.Forall₂ R as bs := by
  induction as with
  | nil => exact ⟨[], .nil⟩
  | cons a as ih =>
    obtain ⟨b, hb⟩ := h a List.mem_cons_self
    obtain ⟨bs, hbs⟩ := ih fun c hc => h c (List.mem_cons_of_mem a hc)
    exact ⟨b :: bs, .cons hb hbs⟩

lemma commaJoin_cons (ts : List JsonToken) (tss : List (List JsonToken)) :
    ∃ tail, commaJoin (ts :: tss) = ts ++ tail := by
  cases tss with
  | nil => exact ⟨[], by rw [commaJoin_singleton, List.append_nil]⟩
  | cons us tss => exact ⟨_, commaJoin_cons_cons ts us tss⟩

/-- No value starts with the end of an array. -/
lemma commaJoin_ne_closeBracket {v : JsonValue} {ts : List JsonToken} {tss : List (List JsonToken)}
    (h : TokensOf v ts) (rest after : List JsonToken) :
    commaJoin (ts :: tss) ++ rest = .closeBracket :: after → False := by
  obtain ⟨tail, htail⟩ := commaJoin_cons ts tss
  intro heq
  rw [htail, List.append_assoc] at heq
  have hread := h.read (2 * ts.length) (tail ++ rest) (Nat.le_refl _)
  rw [heq] at hread
  cases hfuel : 2 * ts.length with
  | zero =>
    rw [hfuel] at hread
    cases hread
  | succ fuel =>
    rw [hfuel] at hread
    cases hread

lemma commaJoin_ne_closeBrace {m : String × JsonValue} {us : List JsonToken} {uss : List (List JsonToken)}
    (h : MemberTokensOf m us) (rest after : List JsonToken) :
    commaJoin (us :: uss) ++ rest = .closeBrace :: after → False := by
  obtain ⟨tail, htail⟩ := commaJoin_cons us uss
  obtain ⟨ts, rfl, -⟩ := h
  intro heq
  rw [htail] at heq
  cases heq

lemma lexes_member {m : String × JsonValue} {us : List JsonToken} (h : MemberTokensOf m us) (depth : Nat) :
    Lexes Delimited (Utf8.encode (quote m.1 ++ ": " ++ m.2.prettyAt depth)) us := by
  obtain ⟨ts, rfl, hv⟩ := h
  have hcolon : Lexes (fun _ => True) [0x3a] [.colon] := lexes_token rfl fun _ _ => rfl
  have hblank : Lexes (fun _ => True) [0x20] [] := lexes_blank rfl
  have hquote := (lexes_quote (P := fun _ => True) m.1).append (hcolon.append hblank fun _ _ => trivial)
    fun _ _ => trivial
  rw [encode_append, encode_append]
  exact hquote.append (hv.printed depth) fun _ _ => trivial

lemma tokensOf_array {items : List JsonValue} {tss : List (List JsonToken)} (h : List.Forall₂ TokensOf items tss) :
    TokensOf (.array items) (.openBracket :: commaJoin tss ++ [.closeBracket]) := by
  constructor
  · intro depth
    have hparts : List.Forall₂ (fun part ts => Lexes Delimited (Utf8.encode part) ts)
        (prettyItems (depth + 1) items) tss := by
      rw [prettyItems_eq, List.forall₂_map_left_iff]
      exact h.imp fun v ts hv => hv.printed (depth + 1)
    rw [prettyAt]
    exact lexes_enclose depth (lexes_token rfl fun _ _ => rfl) (lexes_token rfl fun _ _ => rfl) hparts
  · intro fuel rest hfuel
    rw [List.cons_append, List.length_cons, List.length_append, List.length_singleton] at hfuel
    obtain ⟨fuel, rfl⟩ := Nat.exists_eq_succ_of_ne_zero (n := fuel) (by omega)
    cases h with
    | nil => rfl
    | cons hv hitems =>
      have hread := readItems?_commaJoin (.cons hv hitems) (by simp) fuel rest (by omega)
      rw [List.cons_append, List.cons_append, List.append_assoc, List.singleton_append, read?, hread]
      · rfl
      · exact commaJoin_ne_closeBracket hv _

lemma tokensOf_record {members : List (String × JsonValue)} {uss : List (List JsonToken)}
    (h : List.Forall₂ MemberTokensOf members uss) :
    TokensOf (.record members) (.openBrace :: commaJoin uss ++ [.closeBrace]) := by
  constructor
  · intro depth
    have hparts : List.Forall₂ (fun part us => Lexes Delimited (Utf8.encode part) us)
        (prettyMembers (depth + 1) (members.map fun (name, value) => (some name, value))) uss := by
      rw [prettyMembers_record, List.forall₂_map_left_iff]
      exact h.imp fun m us hm => lexes_member hm (depth + 1)
    unfold record
    rw [prettyAt]
    exact lexes_enclose depth (lexes_token rfl fun _ _ => rfl) (lexes_token rfl fun _ _ => rfl) hparts
  · intro fuel rest hfuel
    rw [List.cons_append, List.length_cons, List.length_append, List.length_singleton] at hfuel
    obtain ⟨fuel, rfl⟩ := Nat.exists_eq_succ_of_ne_zero (n := fuel) (by omega)
    cases h with
    | nil => rfl
    | cons hm hmembers =>
      have hread := readMembers?_commaJoin (.cons hm hmembers) (by simp) fuel rest (by omega)
      rw [List.cons_append, List.cons_append, List.append_assoc, List.singleton_append, read?, hread]
      · rfl
      · exact commaJoin_ne_closeBrace hm _

/-- Every value that can be printed has its tokens. -/
theorem exists_tokensOf {v : JsonValue} (h : Printable v) : ∃ ts, TokensOf v ts := by
  induction h with
  | null =>
    have hword : Lexes Delimited [0x6e, 0x75, 0x6c, 0x6c] [.null] := lexes_token rfl fun _ _ => rfl
    refine ⟨[.null], tokensOf_singleton (fun _ => ?_) fun _ _ => rfl⟩
    rw [prettyAt]
    exact hword
  | bool b =>
    have htrue : Lexes Delimited [0x74, 0x72, 0x75, 0x65] [.bool true] := lexes_token rfl fun _ _ => rfl
    have hfalse : Lexes Delimited [0x66, 0x61, 0x6c, 0x73, 0x65] [.bool false] := lexes_token rfl fun _ _ => rfl
    refine ⟨[.bool b], tokensOf_singleton (fun _ => ?_) fun _ _ => rfl⟩
    rw [prettyAt]
    cases b
    · exact hfalse
    · exact htrue
  | number h => exact ⟨_, tokensOf_singleton (fun _ => lexes_number h) fun _ _ => rfl⟩
  | text s => exact ⟨_, tokensOf_singleton (fun _ => lexes_quote s) fun _ _ => rfl⟩
  | array _ ih =>
    obtain ⟨tss, htss⟩ := exists_forall₂ ih
    exact ⟨_, tokensOf_array htss⟩
  | record _ ih =>
    obtain ⟨uss, huss⟩ := exists_forall₂ (R := MemberTokensOf) fun m hm => by
      obtain ⟨ts, hts⟩ := ih m hm
      exact ⟨_, ts, rfl, hts⟩
    exact ⟨_, tokensOf_record huss⟩

/-- A document is read back from its printed form. -/
theorem ofBytes?_pretty {v : JsonValue} (h : Printable v) : ofBytes? (Utf8.encode v.pretty) = some v := by
  obtain ⟨ts, hts⟩ := exists_tokensOf h
  have hlexed := tokens?_of_lexes (hts.printed 0) (fun b hb => by cases hb)
  have hread := hts.read (2 * ts.length + 1) [] (by omega)
  rw [List.append_nil] at hread
  unfold ofBytes? pretty
  rw [hlexed, Option.bind_some]
  unfold ofTokens?
  rw [hread]

end GuestBridge.Proofs
