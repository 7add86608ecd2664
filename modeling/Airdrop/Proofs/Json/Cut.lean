import Airdrop.Proofs.Json.Layout
import Mathlib.Data.List.Induction
import Mathlib.Data.List.TakeWhile

/-!
# Proofs/Json/Cut — the words of a document stand in it

Whatever a document is, it is the words that it was cut into, in order, with blanks between them
(`cut_tokens`), up to the place where it stops being a document.  **A natural number stands in it as
its digits and nothing else** (`Token.IsWord`): no dot, no exponent, no sign, no zero in front.
-/

namespace Airdrop.Json

open Text.Utf8

namespace Token

/-! ## Numbers -/

theorem valueOf_concat (ds : List UInt8) (d : UInt8) :
    valueOf (ds ++ [d]) = 10 * valueOf ds + (d.toNat - 48) := by
  rw [valueOf, List.foldl_append]
  rfl

theorem ascii_digitChar {d : UInt8} (h : isDigit d = true) :
    d.toNat - 48 < 10 ∧ ascii (d.toNat - 48).digitChar = d := by
  have hdigit : ∀ m : Fin 10, ascii m.val.digitChar = .ofNat (48 + m) := by decide
  simp only [isDigit, Bool.and_eq_true, decide_eq_true_eq, UInt8.le_iff_toNat_le] at h
  obtain ⟨hlow, hhigh⟩ : 48 ≤ d.toNat ∧ d.toNat ≤ 57 := h
  have hlt : d.toNat - 48 < 10 := by omega
  refine ⟨hlt, (hdigit ⟨d.toNat - 48, hlt⟩).trans ?_⟩
  rw [← UInt8.toNat_inj, UInt8.toNat_ofNat']
  dsimp only
  omega

/-- **Digits are those of their number**, unless a zero stands in front. -/
theorem toDigits_valueOf {ds : List UInt8} (hne : ds ≠ []) (hds : ∀ d ∈ ds, isDigit d = true)
    (hzero : ds.head? = some 48 → ds = [48]) : (Nat.toDigits 10 (valueOf ds)).map ascii = ds := by
  induction ds using List.reverseRecOn with
  | nil => exact absurd rfl hne
  | append_singleton ds d ih =>
    obtain ⟨hlt, hd⟩ := ascii_digitChar (hds d (List.mem_append_right _ List.mem_cons_self))
    rcases eq_or_ne ds [] with rfl | hne'
    · have hvalue : valueOf ([] ++ [d]) = d.toNat - 48 := Nat.zero_add _
      rw [hvalue, Nat.toDigits_of_lt_base hlt, List.map_singleton, hd, List.nil_append]
    · have hhead : ds.head? ≠ some 48 := fun h => by
        have heq := hzero (by rw [List.head?_append, h]; rfl)
        rcases List.append_eq_singleton_iff.1 heq with ⟨hnil, -⟩ | ⟨-, hnil⟩
        · exact hne' hnil
        · exact List.cons_ne_nil _ _ hnil
      have hinit := ih hne' (fun d' hd' => hds d' (List.mem_append_left _ hd')) fun h =>
        absurd h hhead
      have hpos : 0 < valueOf ds := by
        rw [Nat.pos_iff_ne_zero]
        intro h
        rw [h] at hinit
        exact hhead (by rw [← hinit]; rfl)
      rw [valueOf_concat, ← Nat.toDigits_append_toDigits (by decide) hpos hlt, List.map_append,
        hinit, Nat.toDigits_of_lt_base hlt, List.map_singleton, hd]

theorem wholePart_eq_some {bytes whole after : List UInt8}
    (h : wholePart bytes = some (whole, after)) :
    bytes = whole ++ after ∧ whole ≠ [] ∧ (∀ d ∈ whole, isDigit d = true) ∧
      (whole.head? = some 48 → whole = [48]) := by
  have hsplit : bytes.takeWhile isDigit ++ bytes.dropWhile isDigit = bytes :=
    List.takeWhile_append_dropWhile
  have hdigits : ∀ d ∈ bytes.takeWhile isDigit, isDigit d = true := fun d hd =>
    List.mem_takeWhile_imp hd
  unfold wholePart digits at h
  dsimp only at h
  split at h
  · cases h
  · next d hd =>
    cases h
    refine ⟨hsplit.symm, by simp [hd], hdigits, fun hhead => ?_⟩
    rw [hd] at hhead ⊢
    simpa using hhead
  · next d ds hne hd =>
    split at h
    · cases h
    · next hzero =>
      cases h
      refine ⟨hsplit.symm, by simp [hd], hdigits, fun hhead => ?_⟩
      rw [hd] at hhead
      exact absurd (Option.some.inj hhead) hzero

/-- **A number that denotes a natural one is its digits.** -/
theorem unsigned_natural {negative : Bool} {bytes after : List UInt8} {numeral : Numeral} {n : Nat}
    (h : unsigned negative bytes = some (numeral, after)) (hn : numeral.natural? = some n) :
    negative = false ∧ numeral = .ofNat n ∧ bytes = (Nat.toDigits 10 n).map ascii ++ after := by
  unfold unsigned at h
  simp only [bind, Option.bind_eq_some_iff, pure, Option.some.injEq, Prod.mk.injEq] at h
  obtain ⟨⟨whole, r₁⟩, hwhole, ⟨fraction, r₂⟩, hfraction, ⟨exponent, r₃⟩, hexponent, rfl, rfl⟩ := h
  obtain ⟨rfl, hne, hdigits, hzero⟩ := wholePart_eq_some hwhole
  simp only [Numeral.natural?, Option.ite_none_right_eq_some, Option.some.injEq, Bool.and_eq_true,
    Option.isNone_iff_eq_none, Bool.not_eq_true'] at hn
  obtain ⟨⟨⟨rfl, rfl⟩, rfl⟩, rfl⟩ := hn
  have hfraction' : r₂ = r₁ := by
    unfold fractionPart at hfraction
    grind
  have hexponent' : r₃ = r₂ := by
    unfold exponentPart at hexponent
    grind
  subst hexponent' hfraction'
  refine ⟨rfl, ?_, ?_⟩
  · simp [Numeral.ofNat]
  · rw [Option.getD_none, List.append_nil, toDigits_valueOf hne hdigits hzero]

/-! ## Texts and words -/

/-- Parts of a text are those of its bytes alone. -/
theorem parts_eq_some {bytes after : List UInt8} {ps : List Part}
    (h : parts bytes = some (ps, after)) :
    ∃ body, bytes = body ++ after ∧ parts body = some (ps, []) := by
  fun_induction parts bytes generalizing ps after with
  | case2 rest =>
    cases h
    exact ⟨[0x22], rfl, parts.eq_def _⟩
  | case4 a b c d rest unit more after' hparts hunit _ ih =>
    cases h
    obtain ⟨body, rfl, hbody⟩ := ih hparts
    exact ⟨0x5c :: 0x75 :: a :: b :: c :: d :: body, rfl, by simp [parts, hunit, hbody]⟩
  | case7 letter rest hletter value more after' hparts hvalue _ ih =>
    cases h
    obtain ⟨body, rfl, hbody⟩ := ih hparts
    refine ⟨0x5c :: letter :: body, rfl, ?_⟩
    rw [parts.eq_def]
    simp only [hletter, hvalue, hbody, if_true, if_false, show ¬(0x5c : UInt8) = 0x22 by decide]
  | case10 byte rest hquote hslash hcontrol more after' hparts ih =>
    cases h
    obtain ⟨body, rfl, hbody⟩ := ih hparts
    refine ⟨byte :: body, rfl, ?_⟩
    rw [parts.eq_def]
    simp only [hquote, hslash, hcontrol, hbody, if_false]
  | _ => cases h

theorem suffix_fractionPart {bytes after : List UInt8} {fraction : Option (List UInt8)}
    (h : fractionPart bytes = some (fraction, after)) : after <:+ bytes := by
  match bytes, h with
  | [], h =>
    cases h
    exact List.suffix_rfl
  | byte :: rest, h =>
    rw [fractionPart, digits] at h
    split at h
    · dsimp only at h
      split at h
      · cases h
      · cases h
        exact (List.dropWhile_suffix _).trans (List.suffix_cons _ _)
    · cases h
      exact List.suffix_rfl

theorem suffix_exponentSign : ∀ bytes : List UInt8, (exponentSign bytes).2 <:+ bytes
  | [] => List.suffix_rfl
  | byte :: rest => by
      rw [exponentSign]
      split
      · exact List.suffix_cons _ _
      · split
        · exact List.suffix_cons _ _
        · exact List.suffix_rfl

theorem suffix_exponentPart {bytes after : List UInt8} {exponent : Option Int}
    (h : exponentPart bytes = some (exponent, after)) : after <:+ bytes := by
  match bytes, h with
  | [], h =>
    cases h
    exact List.suffix_rfl
  | byte :: rest, h =>
    have hsign := suffix_exponentSign rest
    unfold exponentPart digits at h
    dsimp only at h
    split at h
    · split at h
      · cases h
      · cases h
        exact ((List.dropWhile_suffix _).trans hsign).trans (List.suffix_cons _ _)
    · cases h
      exact List.suffix_rfl

theorem suffix_unsigned {negative : Bool} {bytes after : List UInt8} {numeral : Numeral}
    (h : unsigned negative bytes = some (numeral, after)) : after <:+ bytes := by
  unfold unsigned at h
  simp only [bind, Option.bind_eq_some_iff, pure, Option.some.injEq, Prod.mk.injEq] at h
  obtain ⟨⟨whole, r₁⟩, hwhole, ⟨fraction, r₂⟩, hfraction, ⟨exponent, r₃⟩, hexponent, -, rfl⟩ := h
  rw [(wholePart_eq_some hwhole).1]
  exact ((suffix_exponentPart hexponent).trans (suffix_fractionPart hfraction)).trans
    (List.suffix_append _ _)

/-- **Bytes are how a word is written**: a text in quotes, a natural number in its digits, brackets
and names as they are. -/
def IsWord : Token → List UInt8 → Prop
  | .text content, bytes => ∃ body ps, bytes = 0x22 :: body ∧ parts body = some (ps, []) ∧
      Token.content ps = content
  | .number numeral, bytes => ∀ n, numeral.natural? = some n →
      numeral = .ofNat n ∧ bytes = Token.bytes (.number (.ofNat n))
  | .broken, _ => False
  | token, bytes => bytes = token.bytes

theorem isWord_of_punctuation? {byte : UInt8} {token : Token} (h : punctuation? byte = some token) :
    IsWord token [byte] := by
  unfold punctuation? at h
  iterate 6
    split at h
    · next hbyte =>
      cases h
      rw [hbyte]
      rfl
  cases h

theorem isWord_of_literal? {byte : UInt8} {letters : List UInt8} {token : Token}
    (h : literal? byte = some (token, letters)) : IsWord token (byte :: letters) := by
  unfold literal? at h
  iterate 3
    split at h
    · next hbyte =>
      cases h
      rw [hbyte]
      rfl
  cases h

theorem word_eq_some {letters bytes after : List UInt8} (h : word letters bytes = some after) :
    bytes = letters ++ after := by
  unfold word at h
  split at h
  · next hletters =>
    obtain ⟨rest, rfl⟩ := List.isPrefixOf_iff_prefix.1 hletters
    cases h
    rw [List.drop_left]
  · cases h

theorem isWord_of_unsigned {negative : Bool} {sign bytes after : List UInt8} {numeral : Numeral}
    (h : unsigned negative bytes = some (numeral, after)) (hsign : negative = false → sign = []) :
    ∃ word, sign ++ bytes = word ++ after ∧ IsWord (.number numeral) word := by
  obtain ⟨word, rfl⟩ := suffix_unsigned h
  refine ⟨sign ++ word, (List.append_assoc _ _ _).symm, fun n hn => ?_⟩
  obtain ⟨rfl, rfl, hdigits⟩ := unsigned_natural h hn
  refine ⟨rfl, ?_⟩
  rw [hsign rfl, List.nil_append, bytes, Layout.word, numeral_ofNat,
    encode_of_lt lt_of_mem_toDigits]
  exact List.append_cancel_right hdigits

/-- **What is cut off as a word is how the word is written.** -/
theorem exists_isWord {byte : UInt8} {rest after : List UInt8} {token : Token}
    (h : first byte rest = some (token, after)) :
    ∃ word, byte :: rest = word ++ after ∧ IsWord token word := by
  unfold first at h
  split at h
  · next hpunctuation =>
    cases h
    exact ⟨[byte], rfl, isWord_of_punctuation? hpunctuation⟩
  · next letters _ hliteral =>
    obtain ⟨after', hword, heq⟩ := Option.map_eq_some_iff.1 h
    cases heq
    rw [word_eq_some hword]
    exact ⟨byte :: letters, rfl, isWord_of_literal? hliteral⟩
  · split at h
    · next hquote =>
      obtain ⟨⟨ps, after'⟩, hparts, heq⟩ := Option.map_eq_some_iff.1 h
      cases heq
      obtain ⟨body, rfl, hbody⟩ := parts_eq_some hparts
      exact ⟨byte :: body, rfl, body, ps, by rw [hquote], hbody, rfl⟩
    · split at h
      · obtain ⟨⟨numeral, after'⟩, hnumber, heq⟩ := Option.map_eq_some_iff.1 h
        cases heq
        exact @isWord_of_unsigned true [byte] _ _ _ hnumber nofun
      · obtain ⟨⟨numeral, after'⟩, hnumber, heq⟩ := Option.map_eq_some_iff.1 h
        cases heq
        exact isWord_of_unsigned hnumber fun _ => rfl

end Token

/-! ## Documents -/

/-- **A document is cut into words**: they stand in it, with blanks before, between and after them,
up to where it stops being a document. -/
inductive Cut : List Token → List UInt8 → Prop
  | nothing : Cut [] []
  | broken (bytes : List UInt8) : Cut [.broken] bytes
  | blank {ts : List Token} {byte : UInt8} {bytes : List UInt8} (hbyte : Token.isBlank byte = true)
      (h : Cut ts bytes) : Cut ts (byte :: bytes)
  | word {token : Token} {ts : List Token} {word bytes : List UInt8} (hword : token.IsWord word)
      (h : Cut ts bytes) : Cut (token :: ts) (word ++ bytes)

/-- Blanks in front cut nothing off. -/
theorem Cut.of_dropWhile {ts : List Token} {bytes : List UInt8}
    (h : Cut ts (bytes.dropWhile Token.isBlank)) : Cut ts bytes := by
  induction bytes with
  | nil => exact h
  | cons byte bytes ih =>
    by_cases hbyte : Token.isBlank byte = true
    · rw [List.dropWhile_cons_of_pos hbyte] at h
      exact .blank hbyte (ih h)
    · rwa [List.dropWhile_cons_of_neg hbyte] at h

theorem exists_cut (found : List Lexeme) (bytes : List UInt8) : ∃ ts,
    (lexemesAfter found bytes).map Lexeme.token = found.reverse.map Lexeme.token ++ ts ∧
      Cut ts bytes := by
  fun_induction lexemesAfter found bytes with
  | case1 found bytes hnil =>
    exact ⟨[], (List.append_nil _).symm, .of_dropWhile (hnil ▸ .nothing)⟩
  | case2 found bytes byte rest hbytes _ =>
    refine ⟨[.broken], ?_, .of_dropWhile (hbytes ▸ .broken _)⟩
    rw [List.reverse_cons, List.map_append]
    rfl
  | case3 found bytes byte rest hbytes token after hfirst ih =>
    obtain ⟨ts, heq, hcut⟩ := ih
    obtain ⟨word, hword, hstands⟩ := Token.exists_isWord hfirst
    refine ⟨token :: ts, ?_, .of_dropWhile (hbytes ▸ hword ▸ .word hstands hcut)⟩
    rw [heq, List.reverse_cons, List.map_append, List.append_assoc]
    rfl

/-- **A document is cut into the words that stand in it.** -/
theorem cut_tokens (document : List UInt8) : Cut (tokens document) document := by
  obtain ⟨ts, heq, hcut⟩ := exists_cut [] document
  rw [tokens, lexemes, heq]
  exact hcut

/-- The first word of a document is the first of its tokens. -/
theorem exists_tokens_eq_cons {document rest after : List UInt8} {byte : UInt8} {token : Token}
    (hbytes : document.dropWhile Token.isBlank = byte :: rest)
    (hfirst : Token.first byte rest = some (token, after)) :
    ∃ ts, tokens document = token :: ts := by
  obtain ⟨ts, heq, -⟩ := exists_cut [⟨token, after⟩] after
  refine ⟨ts, ?_⟩
  rw [tokens, lexemes, lexemesAfter]
  split
  · next hnil => rw [hbytes] at hnil; cases hnil
  · next hcons =>
    rw [hbytes] at hcons
    obtain ⟨rfl, rfl⟩ := List.cons.inj hcons
    split
    · next hnone => rw [hfirst] at hnone; cases hnone
    · next hsome =>
      rw [hfirst] at hsome
      cases hsome
      exact heq

/-- Tokens whose natural numbers are nothing more than their digits. -/
def Lexed (ts : List Token) : Prop :=
  ∀ numeral n, .number numeral ∈ ts → numeral.natural? = some n → numeral = .ofNat n

theorem Cut.lexed {ts : List Token} {bytes : List UInt8} (h : Cut ts bytes) : Lexed ts := by
  intro numeral n hmem hn
  induction h with
  | nothing => cases hmem
  | broken => cases List.mem_singleton.1 hmem
  | blank _ _ ih => exact ih hmem
  | word hword _ ih =>
    rcases List.mem_cons.1 hmem with rfl | hmem
    · exact (hword n hn).1
    · exact ih hmem

theorem Lexed.mono {ts ts' : List Token} (h : Lexed ts) (hsub : ts' ⊆ ts) : Lexed ts' :=
  fun numeral n hmem => h numeral n (hsub hmem)

end Airdrop.Json
