import Airdrop.Proofs.Json.Token

/-!
# Proofs/Json/Layout — a document is cut into the words it was laid out from

A document spells tokens if it is those words, in order, with **any blanks between them**
(`Spelled`).  Cutting it gives the tokens back (`Spelled.tokens_eq`), so what is read from a document
does not depend on its layout.  Tokens of which no two numbers stand side by side (`Tidy`) are
spelled by their compact layout and by their pretty one.
-/

namespace Airdrop.Json

open Text.Utf8

/-! ## Cutting, word by word -/

theorem lexemesAfter_blank {byte : UInt8} (h : Token.isBlank byte = true) (found : List Lexeme)
    (bytes : List UInt8) : lexemesAfter found (byte :: bytes) = lexemesAfter found bytes := by
  rw [lexemesAfter, lexemesAfter, List.dropWhile_cons_of_pos h]

theorem lexemesAfter_word {byte : UInt8} {token : Token} {rest after : List UInt8}
    (hbyte : Token.isBlank byte = false) (h : Token.first byte rest = some (token, after))
    (found : List Lexeme) :
    lexemesAfter found (byte :: rest) = lexemesAfter (⟨token, after⟩ :: found) after := by
  have hdrop : (byte :: rest).dropWhile Token.isBlank = byte :: rest :=
    List.dropWhile_cons_of_neg (by rw [hbyte]; exact Bool.false_ne_true)
  rw [lexemesAfter]
  split
  · next hnil =>
    rw [hdrop] at hnil
    cases hnil
  · next byte' rest' hcons =>
    rw [hdrop] at hcons
    obtain ⟨rfl, rfl⟩ := List.cons.inj hcons
    split
    · next hnone =>
      rw [h] at hnone
      cases hnone
    · next token' after' hsome =>
      rw [h] at hsome
      cases hsome
      rfl

/-- **A document spells tokens**: it is those words, with blanks before, between and after them, and
no number runs into what follows it. -/
inductive Spelled : List Token → List UInt8 → Prop
  | nothing : Spelled [] []
  | blank {ts : List Token} {byte : UInt8} {bytes : List UInt8} (hbyte : Token.isBlank byte = true)
      (h : Spelled ts bytes) : Spelled ts (byte :: bytes)
  | word {token : Token} {ts : List Token} {bytes : List UInt8} (hword : token.Writable)
      (hends : token.isNumber = true → Token.Ends bytes) (h : Spelled ts bytes) :
      Spelled (token :: ts) (token.bytes ++ bytes)

theorem Spelled.map_token_lexemesAfter {ts : List Token} {bytes : List UInt8}
    (h : Spelled ts bytes) : ∀ found : List Lexeme,
      (lexemesAfter found bytes).map Lexeme.token = found.reverse.map Lexeme.token ++ ts := by
  induction h with
  | nothing =>
    intro found
    rw [lexemesAfter, List.append_nil]
    rfl
  | blank hbyte _ ih =>
    intro found
    rw [lexemesAfter_blank hbyte, ih]
  | word hword hends _ ih =>
    intro found
    obtain ⟨byte, more, hbytes, hblank, -, hfirst⟩ := hword.first_append
    rw [hbytes, List.cons_append, lexemesAfter_word hblank (hfirst _ hends), ih,
      List.reverse_cons, List.map_append, List.append_assoc]
    rfl

/-- **A document is cut into the tokens that it spells.** -/
theorem Spelled.tokens_eq {ts : List Token} {document : List UInt8} (h : Spelled ts document) :
    tokens document = ts := h.map_token_lexemesAfter []

theorem Spelled.blanks {ts : List Token} {bytes : List UInt8} (h : Spelled ts bytes) :
    ∀ {blanks : List UInt8}, (∀ b ∈ blanks, Token.isBlank b = true) → Spelled ts (blanks ++ bytes)
  | [], _ => h
  | _ :: _, hblanks =>
      .blank (List.forall_mem_cons.1 hblanks).1 (h.blanks (List.forall_mem_cons.1 hblanks).2)

/-! ## Tokens that can be laid out -/

/-- **Tokens that can be laid out**: all of them words, and no two numbers side by side. -/
inductive Tidy : List Token → Prop
  | nil : Tidy []
  | cons {token : Token} {ts : List Token} (hword : token.Writable)
      (hapart : token.isNumber = true → ∀ t ∈ ts.head?, t.isNumber = false) (h : Tidy ts) :
      Tidy (token :: ts)

theorem Tidy.append {ts ts' : List Token} (h : Tidy ts) (h' : Tidy ts')
    (hapart : ∀ t ∈ ts'.head?, t.isNumber = false) : Tidy (ts ++ ts') := by
  induction h with
  | nil => exact h'
  | @cons token ts hword hnext _ ih =>
    refine .cons hword (fun hnumber t ht => ?_) ih
    match ts, ht with
    | [], ht => exact hapart t ht
    | _ :: _, ht => exact hnext hnumber t ht

/-- A single word. -/
theorem Token.Writable.tidy {token : Token} (h : token.Writable) : Tidy [token] :=
  .cons h (fun _ _ => nofun) .nil

theorem tidy_natural (n : Nat) : Tidy (Write.natural n) := (Token.Writable.number n).tidy

theorem tidy_text (content : String) : Tidy (Write.text content) :=
  (Token.Writable.text content.toList).tidy

theorem tidy_separated : ∀ {values : List (List Token)}, (∀ value ∈ values, Tidy value) →
    Tidy (Write.separated values)
  | [], _ => .nil
  | [value], h => h value List.mem_cons_self
  | value :: next :: values, h => by
      obtain ⟨hvalue, hvalues⟩ := List.forall_mem_cons.1 h
      refine hvalue.append (.cons .comma nofun (tidy_separated hvalues)) fun t ht => ?_
      cases ht
      rfl

theorem tidy_array {values : List (List Token)} (h : ∀ value ∈ values, Tidy value) :
    Tidy (Write.array values) := by
  refine .cons .openArray nofun ((tidy_separated h).append Token.Writable.closeArray.tidy ?_)
  intro t ht
  cases ht
  rfl

theorem tidy_member (name : String) {value : List Token} (h : Tidy value) :
    Tidy (Write.member name value) :=
  .cons (.text _) nofun (.cons .colon nofun h)

theorem tidy_object {members : List (String × List Token)} (h : ∀ m ∈ members, Tidy m.2) :
    Tidy (Write.object members) := by
  have hmembers : Tidy (Write.separated (members.map fun m => Write.member m.1 m.2)) :=
    tidy_separated (List.forall_mem_map.2 fun m hm => tidy_member m.1 (h m hm))
  refine .cons .openObject nofun (hmembers.append Token.Writable.closeObject.tidy ?_)
  intro t ht
  cases ht
  rfl

theorem tidy_bytes (values : List UInt8) : Tidy (Write.bytes values) :=
  tidy_array (List.forall_mem_map.2 fun b _ => tidy_natural b.toNat)

/-! ## The compact layout -/

/-- A word that is no number ends the one before it. -/
theorem Token.Writable.ends {token : Token} (h : token.Writable) (hnumber : token.isNumber = false)
    (bytes : List UInt8) : Token.Ends (token.bytes ++ bytes) := by
  obtain ⟨byte, more, hbytes, -, hcontinues, -⟩ := h.first_append
  rw [hbytes]
  intro byte' hbyte'
  cases hbyte'
  exact hcontinues hnumber

/-- **Tokens are spelled by their compact layout.** -/
theorem spelled_compact {ts : List Token} (h : Tidy ts) :
    Spelled ts (encode (Layout.compact ts)) := by
  induction h with
  | nil => exact .nothing
  | @cons token ts hword hapart h ih =>
    rw [Layout.compact, List.flatMap_cons, encode_append]
    refine .word hword (fun hnumber => ?_) ih
    match h with
    | .nil => exact fun _ => nofun
    | @Tidy.cons next ts hnext _ _ =>
      rw [List.flatMap_cons, encode_append]
      exact hnext.ends (hapart hnumber next rfl) _

/-! ## The pretty layout -/

namespace Layout

/-- Characters that are blanks of a document. -/
def AllBlank (text : List Char) : Prop := ∀ c ∈ text, c = '\n' ∨ c = ' '

theorem allBlank_newLine (depth : Nat) : AllBlank (newLine depth) := by
  intro c hc
  rcases List.mem_cons.1 hc with rfl | hc
  · exact .inl rfl
  · exact .inr (List.eq_of_mem_replicate hc)

theorem AllBlank.isBlank {text : List Char} (h : AllBlank text) :
    ∀ b ∈ encode text, Token.isBlank b = true := by
  intro b hb
  obtain ⟨c, hc, hb⟩ := List.mem_flatMap.1 hb
  rcases h c hc with rfl | rfl
  · rw [List.mem_singleton.1 hb]
    rfl
  · rw [List.mem_singleton.1 hb]
    rfl

/-- **A token is laid out as its word**, with blanks before or after it. -/
theorem prettyFrom_cons (depth : Nat) (fresh : Bool) (token : Token) (ts : List Token) :
    ∃ before after depth' fresh', AllBlank before ∧ AllBlank after ∧
      prettyFrom depth fresh (token :: ts) =
        before ++ (word token ++ (after ++ prettyFrom depth' fresh' ts)) := by
  have hnone : AllBlank [] := fun c hc => absurd hc List.not_mem_nil
  have hopening : AllBlank (if fresh then newLine depth else []) := by
    split
    · exact allBlank_newLine depth
    · exact hnone
  have hclosing : AllBlank (if fresh then [] else newLine (depth - 1)) := by
    split
    · exact hnone
    · exact allBlank_newLine _
  match token with
  | .openObject | .openArray =>
    exact ⟨_, [], depth + 1, true, hopening, hnone, by simp [prettyFrom]⟩
  | .closeObject | .closeArray =>
    exact ⟨_, [], depth - 1, false, hclosing, hnone, by simp [prettyFrom]⟩
  | .comma =>
    exact ⟨[], newLine depth, depth, false, hnone, allBlank_newLine depth, by simp [prettyFrom]⟩
  | .colon =>
    exact ⟨[], [' '], depth, false, hnone, by simp [AllBlank], by simp [prettyFrom]⟩
  | .text _ | .number _ | .truth _ | .null | .broken =>
    exact ⟨_, [], depth, false, hopening, hnone, by simp [prettyFrom]⟩

end Layout

theorem Token.Ends.blanks {blanks bytes : List UInt8} (h : Ends bytes)
    (hblanks : ∀ b ∈ blanks, isBlank b = true) : Ends (blanks ++ bytes) := by
  match blanks, hblanks with
  | [], _ => exact h
  | b :: _, hblanks =>
    intro byte hbyte
    cases hbyte
    have hb := hblanks b List.mem_cons_self
    grind [isBlank, continues, isDigit]

/-- What is laid out after a number lets it end. -/
theorem ends_prettyFrom {ts : List Token} (h : Tidy ts) (hapart : ∀ t ∈ ts.head?, t.isNumber = false)
    (depth : Nat) (fresh : Bool) : Token.Ends (encode (Layout.prettyFrom depth fresh ts)) := by
  match h with
  | .nil => exact fun _ => nofun
  | @Tidy.cons token ts hword _ _ =>
    obtain ⟨before, after, depth', fresh', hbefore, -, heq⟩ :=
      Layout.prettyFrom_cons depth fresh token ts
    rw [heq, encode_append, encode_append]
    exact Token.Ends.blanks (hword.ends (hapart token rfl) _) hbefore.isBlank

/-- **The pretty layout of tokens spells them.** -/
theorem spelled_prettyFrom {ts : List Token} (h : Tidy ts) :
    ∀ depth fresh, Spelled ts (encode (Layout.prettyFrom depth fresh ts)) := by
  induction h with
  | nil => exact fun _ _ => .nothing
  | @cons token ts hword hapart h ih =>
    intro depth fresh
    obtain ⟨before, after, depth', fresh', hbefore, hafter, heq⟩ :=
      Layout.prettyFrom_cons depth fresh token ts
    rw [heq, encode_append, encode_append, encode_append]
    refine Spelled.blanks (.word hword (fun hnumber => ?_) ?_) hbefore.isBlank
    · exact (ends_prettyFrom h (hapart hnumber) depth' fresh').blanks hafter.isBlank
    · exact (ih depth' fresh').blanks hafter.isBlank

/-- …so they are read back from it. -/
theorem spelled_pretty {ts : List Token} (h : Tidy ts) : Spelled ts (encode (Layout.pretty ts)) :=
  spelled_prettyFrom h 0 false

end Airdrop.Json
