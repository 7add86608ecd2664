import Airdrop.Proofs.Claim.Body

/-!
# Proofs/Claim/Marks — which texts are proof nodes

A text at any place of a proof is a node if 64 hexadecimal digits stand in it behind marks `0x`
(`IsNode`), and the body that it stands in is then read with those 32 bytes at that place; **any
other text keeps the body from being read** (`text_nodes_exact`).  One mark is meant, or none; but
reading drops every mark, so a text that repeats it is a node like any other
(`text_nodes_exact_beyond_one_mark`).
-/

namespace Airdrop.Claim

open Json Text.Utf8

variable {content : Option (List Char)} {marks : Nat} {digest : Digest}

/-- **A text is a node**: the digits of a digest, two a byte, behind so many marks. -/
def IsNode (marks : Nat) (content : Option (List Char)) (digest : Digest) : Prop :=
  ∃ digits, content = some (marked marks digits) ∧ Hex.Spells digits digest.toList

/-- A text that begins with the mark twice. -/
def RepeatsMark (content : Option (List Char)) : Prop := ∃ rest, content = some (marked 2 rest)

/-- No digits begin with a mark, for `x` is none. -/
theorem not_spells_marked {rest : List Char} {bytes : List UInt8} :
    ¬Hex.Spells (marked (marks + 1) rest) bytes := by
  intro h
  cases h with
  | cons _ hlow => exact hlow.ne_x (Hex.low_lt _) rfl

/-- **The nodes that repeat the mark** are those behind more than one. -/
theorem IsNode.repeatsMark_iff (h : IsNode marks content digest) :
    RepeatsMark content ↔ ¬marks ≤ 1 := by
  obtain ⟨digits, rfl, hspells⟩ := h
  match marks with
  | 0 =>
    refine iff_of_false ?_ (not_not_intro (by decide))
    rintro ⟨rest, heq⟩
    obtain rfl : digits = marked 2 rest := Option.some.inj heq
    exact not_spells_marked hspells
  | 1 =>
    refine iff_of_false ?_ (not_not_intro (by decide))
    rintro ⟨rest, heq⟩
    obtain rfl : digits = marked 1 rest :=
      (List.cons.inj (List.cons.inj (Option.some.inj heq)).2).2
    exact not_spells_marked hspells
  | marks + 2 => exact iff_of_true ⟨marked marks digits, rfl⟩ (by omega)

theorem length_marked (text : List Char) : ∀ marks,
    (marked marks text).length = 2 * marks + text.length
  | 0 => (Nat.zero_add _).symm
  | marks + 1 => by
      rw [marked, List.length_cons, List.length_cons, length_marked text marks]
      omega

/-- The text of a node is 64 digits long, and two characters longer a mark. -/
theorem IsNode.length {text : List Char} (h : IsNode marks (some text) digest) :
    text.length = 2 * marks + 64 := by
  obtain ⟨digits, heq, hspells⟩ := h
  rw [Option.some.inj heq, length_marked, hspells.length, digest.length_toList]

/-- **A text serves a digest if it is a node of it.** -/
theorem nodeServes_text_iff :
    NodeServes [.text content] digest ↔ ∃ marks, IsNode marks content digest := by
  constructor
  · intro h
    generalize hvalue : [Token.text content] = value at h
    cases h with
    | bytes => cases hvalue
    | text marks h =>
      cases hvalue
      exact ⟨marks, _, rfl, h⟩
  · rintro ⟨marks, digits, rfl, h⟩
    exact .text marks h

/-- Nodes serve a proof around a place if they do before it, at it and after it. -/
theorem forall₂_serves_append_cons {before after : List (List Token)} {node : List Token}
    {proof proof' : List Digest} {digest : Digest} (h : List.Forall₂ NodeServes before proof) :
    List.Forall₂ NodeServes (before ++ node :: after) (proof ++ digest :: proof') ↔
      NodeServes node digest ∧ List.Forall₂ NodeServes after proof' := by
  induction h with
  | nil => exact List.forall₂_cons
  | cons hserves _ ih =>
    rw [List.cons_append, List.cons_append, List.forall₂_cons, ih]
    exact and_iff_right hserves

/-- **A text in a proof is read if it is a node, and as that node.**  At any place among nodes that
are served, the body is read with a digest there if the text is a node of it, behind so many marks
as there are; and where a text is no node, the body is not read, whatever else is in the proof.
The nodes behind one mark or none are those that do not repeat it. -/
theorem text_nodes_exact {before after : List (List Token)} {content : Option (List Char)}
    {written : List (String × List Token)} {body : List UInt8}
    (htokens : Json.tokens body = Write.object written) (hvalues : ∀ m ∈ written, Value m.2)
    (hproof : ("proof", Write.array (before ++ [.text content] :: after)) ∈ written)
    (hbefore : ∀ node ∈ before, Value node) (hafter : ∀ node ∈ after, Value node) :
    (∀ {distributor : Address} {amount : UInt64} {proof proof' : List Digest} {digest : Digest},
      List.Forall₂ NodeServes before proof → List.Forall₂ NodeServes after proof' →
      written.Perm [("merkle_tree", Write.text distributor.text),
        ("amount", Write.natural amount.toNat),
        ("proof", Write.array (before ++ [.text content] :: after))] →
      (ofBody body = .ok ⟨distributor, amount, proof ++ digest :: proof'⟩ ↔
        ∃ marks, IsNode marks content digest)) ∧
    ((∀ marks digest, ¬IsNode marks content digest) → ∃ failure, ofBody body = .error failure) ∧
    ∀ marks digest, IsNode marks content digest → (marks ≤ 1 ↔ ¬RepeatsMark content) := by
  have hnodes : ∀ node ∈ before ++ [.text content] :: after, Value node :=
    List.forall_mem_append.2 ⟨hbefore, List.forall_mem_cons.2 ⟨.word rfl, hafter⟩⟩
  refine ⟨fun hserves hserves' hperm => ?_, fun hbad => ?_, fun marks digest hnode => ?_⟩
  · rw [ofBody_eq_ok_iff htokens hvalues, bears_iff_of_perm hperm hnodes,
      forall₂_serves_append_cons hserves, and_iff_left hserves', nodeServes_text_iff]
  · refine exists_failure htokens hvalues hproof hnodes
      (List.mem_append_right _ List.mem_cons_self) fun digest hserves => ?_
    obtain ⟨marks, hnode⟩ := nodeServes_text_iff.1 hserves
    exact hbad marks digest hnode
  · rw [hnode.repeatsMark_iff, not_not]

/-- The members of a claim of one unit, with a text as its only node. -/
def singleMembers (content : List Char) : List (String × List Token) := [
  ("merkle_tree", Write.text (default : Address).text),
  ("amount", Write.natural (1 : UInt64).toNat), ("proof", Write.array [[.text (some content)]])]

/-- A body of them. -/
def singleBody (content : List Char) : List UInt8 :=
  encode (Layout.compact (Write.object (singleMembers content)))

theorem tokens_singleBody (content : List Char) :
    Json.tokens (singleBody content) = Write.object (singleMembers content) :=
  (spelled_compact (tidy_of_perm (.refl _)
    (List.forall_mem_singleton.2 (Token.Writable.text content).tidy))).tokens_eq

theorem value_singleMembers (content : List Char) : ∀ m ∈ singleMembers content, Value m.2 :=
  value_of_perm (.refl _) (List.forall_mem_singleton.2 (.word rfl))

/-- Sixty-four zeros behind so many marks. -/
def zeros (marks : Nat) : List Char := marked marks (List.replicate 64 '0')

theorem isNode_zeros (marks : Nat) : IsNode marks (some (zeros marks)) (.replicate 32 0) :=
  ⟨_, rfl, Hex.spells_encode (List.replicate 32 0)⟩

/-- Zeros behind one mark are read, and one zero more is not. -/
theorem text_nodes_exact_of_zeros :
    ofBody (singleBody (zeros 1)) = .ok ⟨default, 1, [.replicate 32 0]⟩ ∧
    ¬RepeatsMark (some (zeros 1)) ∧
    ∃ failure, ofBody (singleBody ('0' :: zeros 0)) = .error failure := by
  have hproof (content : List Char) :
      ("proof", Write.array [[.text (some content)]]) ∈ singleMembers content :=
    List.mem_cons_of_mem _ (List.mem_cons_of_mem _ List.mem_cons_self)
  obtain ⟨hread, -, hmarks⟩ := @text_nodes_exact [] [] _ _ _ (tokens_singleBody (zeros 1))
    (value_singleMembers _) (hproof _) nofun nofun
  obtain ⟨-, hbad, -⟩ := @text_nodes_exact [] [] _ _ _ (tokens_singleBody ('0' :: zeros 0))
    (value_singleMembers _) (hproof _) nofun nofun
  refine ⟨(@hread default 1 [] [] _ .nil .nil (.refl _)).2 ⟨1, isNode_zeros 1⟩,
    (hmarks 1 _ (isNode_zeros 1)).1 (Nat.le_refl 1), hbad fun marks digest hnode => ?_⟩
  have hlength := hnode.length
  rw [List.length_cons, (isNode_zeros 0).length] at hlength
  omega

/-- **Zeros behind two marks are read as well**, though they are no node behind one mark or none. -/
theorem text_nodes_exact_beyond_one_mark :
    ofBody (singleBody (zeros 2)) = .ok ⟨default, 1, [.replicate 32 0]⟩ ∧
    ¬∃ marks ≤ 1, ∃ digest, IsNode marks (some (zeros 2)) digest := by
  constructor
  · refine (ofBody_eq_ok_iff (tokens_singleBody _) (value_singleMembers _)).2 ?_
    refine (bears_iff_of_perm (.refl _) (List.forall_mem_singleton.2 (.word rfl))).2 ?_
    exact .cons (nodeServes_text_iff.2 ⟨2, isNode_zeros 2⟩) .nil
  · rintro ⟨marks, hmarks, digest, hnode⟩
    have hlength := hnode.length
    rw [(isNode_zeros 2).length] at hlength
    omega

end Airdrop.Claim
