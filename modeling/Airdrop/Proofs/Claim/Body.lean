import Airdrop.Proofs.Address.Text
import Airdrop.Proofs.Claim.Node

/-!
# Proofs/Claim/Body — a body is read as a claim if it bears it

A body whose top is an object is read as a claim if the object *bears* it (`Bears`): each of the
three members is there once, the distributor as its text, the amount as the literal of its number,
the proof as nodes that are each served.  **Nothing else is read, and nothing is read otherwise**
(`ofBody_eq_ok_iff`), whatever the order of the members, the blanks between the words and the form
of each node.
-/

namespace Airdrop

open Json Text.Utf8

theorem idle_address (text : String) : Idle (match Address.ofText text with
    | .ok address => return address
    | .error fault => Reader.reject fault.message : Reader Address) := by
  cases Address.ofText text with
  | ok address => exact idle_pure address
  | error fault => exact idle_stop _

theorem exact_address : Exact Address.reader := exact_text.bind idle_address

/-- **An address is read from its own text**, and from no other. -/
theorem reads_address_iff {value : List Token} {address : Address} :
    Reads Address.reader value address ↔ value = Write.text address.text := by
  constructor
  · intro h
    obtain ⟨text, htext, hok⟩ := (reads_bind_iff exact_text idle_address).1 h
    obtain rfl := reads_text_iff.1 htext
    have hok := hok []
    cases haddress : Address.ofText text with
    | error => rw [haddress] at hok; cases hok
    | ok found =>
      rw [haddress] at hok
      cases hok
      rw [Address.ofText_eq_ok_iff.1 haddress]
  · rintro rfl
    exact Claim.reads_address (Address.ofText_eq_ok_iff.2 rfl)

namespace Claim

/-! ## The members of a claim -/

/-- **An object bears a claim**: each of the three members is in it once, as the claim has it. -/
structure Bears (written : List (String × List Token)) (claim : Claim) : Prop where
  distributor : Once written "merkle_tree" (Write.text claim.distributor.text)
  amount : Once written "amount" (Write.natural claim.amount.toNat)
  proof : ∃ nodes, Once written "proof" (Write.array nodes) ∧
    List.Forall₂ NodeServes nodes claim.proof

theorem exact_members : ∀ m ∈ members, ∀ draft, Exact (m.read draft) := by
  intro m hm draft
  simp only [members, List.mem_cons, List.not_mem_nil, or_false] at hm
  rcases hm with rfl | rfl | rfl
  · exact exact_address.map _
  · exact exact_word.map _
  · exact exact_proof.map _

/-- **The members of an object fill a draft** field by field. -/
theorem fills_iff {written : List (String × List Token)} {draft last : Draft}
    (hvalues : ∀ m ∈ written, Value m.2) : Fills members written draft last ↔
      Gathers "merkle_tree" Address.reader written draft.distributor last.distributor ∧
      Gathers "amount" Reader.word written draft.amount last.amount ∧
      Gathers "proof" proofReader written draft.proof last.proof := by
  induction written generalizing draft with
  | nil =>
    obtain ⟨_, _, _⟩ := draft
    obtain ⟨_, _, _⟩ := last
    constructor
    · rintro ⟨⟩
      exact ⟨rfl, rfl, rfl⟩
    · rintro ⟨⟨⟩, ⟨⟩, ⟨⟩⟩
      exact .nil _
  | cons m written ih =>
    obtain ⟨name, value⟩ := m
    obtain ⟨hvalue, hmore⟩ := List.forall_mem_cons.1 hvalues
    by_cases hdistributor : name = "merkle_tree"
    · subst hdistributor
      rw [fills_required_iff rfl exact_address]
      simp only [ih hmore, Gathers, if_true, String.reduceEq, if_false]
      constructor
      · rintro ⟨hnone, a, hreads, h, h'⟩
        exact ⟨⟨hnone, a, hreads, h⟩, h'⟩
      · rintro ⟨⟨hnone, a, hreads, h⟩, h'⟩
        exact ⟨hnone, a, hreads, h, h'⟩
    by_cases hamount : name = "amount"
    · subst hamount
      rw [fills_required_iff rfl exact_word]
      simp only [ih hmore, Gathers, if_true, String.reduceEq, if_false]
      constructor
      · rintro ⟨hnone, a, hreads, h, h', h''⟩
        exact ⟨h, ⟨hnone, a, hreads, h'⟩, h''⟩
      · rintro ⟨h, ⟨hnone, a, hreads, h'⟩, h''⟩
        exact ⟨hnone, a, hreads, h, h', h''⟩
    by_cases hproof : name = "proof"
    · subst hproof
      rw [fills_required_iff rfl exact_proof]
      simp only [ih hmore, Gathers, if_true, String.reduceEq, if_false]
      constructor
      · rintro ⟨hnone, a, hreads, h, h', h''⟩
        exact ⟨h, h', hnone, a, hreads, h''⟩
      · rintro ⟨h, h', hnone, a, hreads, h''⟩
        exact ⟨hnone, a, hreads, h, h', h''⟩
    have hother : members.find? (·.name == name) = none := by
      simp [members, Reader.required, Ne.symm hdistributor, Ne.symm hamount, Ne.symm hproof]
    rw [fills_cons_iff, hother]
    simp only [Gathers, hdistributor, hamount, hproof, if_false]
    exact (and_iff_right hvalue).trans (ih hmore)

/-! ## Reading a body -/

theorem done_eq_some_iff {draft : Draft} {claim : Claim} :
    draft.done = some claim ↔
      draft = ⟨some claim.distributor, some claim.amount, some claim.proof⟩ := by
  obtain ⟨distributor, amount, proof⟩ := draft
  constructor
  · intro h
    obtain ⟨_, rfl, h⟩ := Option.bind_eq_some_iff.1 h
    obtain ⟨_, rfl, h⟩ := Option.bind_eq_some_iff.1 h
    obtain ⟨_, rfl, h⟩ := Option.bind_eq_some_iff.1 h
    cases h
    rfl
  · intro h
    cases h
    rfl

/-- **An object is read as a claim** if its members fill the claim's draft. -/
theorem reader_eq_ok_iff {ts rest : List Token} {claim : Claim} :
    reader (.openObject :: ts) = .ok (claim, rest) ↔
      ∃ written, .openObject :: ts = Write.object written ++ rest ∧ (∀ m ∈ written, Value m.2) ∧
        Fills members written {} ⟨some claim.distributor, some claim.amount, some claim.proof⟩ := by
  constructor
  · intro h
    obtain ⟨draft, between, hrecord, hdone⟩ := bind_eq_ok h
    obtain ⟨written, heq, hvalues, hfills, -⟩ := (record_eq_ok_iff exact_members).1 hrecord
    cases hclaim : draft.done with
    | none => rw [hclaim] at hdone; cases hdone
    | some claim =>
      rw [hclaim] at hdone
      cases hdone
      exact ⟨written, heq, hvalues, done_eq_some_iff.1 hclaim ▸ hfills⟩
  · rintro ⟨written, heq, hvalues, hfills⟩
    rw [reader, Reader.bind_of_ok ((record_eq_ok_iff exact_members).2
      ⟨written, heq, hvalues, hfills, rfl⟩)]
    rfl

/-- **The members of an object fill a claim's draft** if the object bears the claim. -/
theorem fills_claim_iff {written : List (String × List Token)} {claim : Claim}
    (hlexed : Lexed (Write.object written)) (hvalues : ∀ m ∈ written, Value m.2) :
    Fills members written {} ⟨some claim.distributor, some claim.amount, some claim.proof⟩ ↔
      Bears written claim := by
  rw [fills_iff hvalues, gathers_none_some_iff, gathers_none_some_iff, gathers_none_some_iff]
  constructor
  · rintro ⟨⟨distributor, hdistributor, hreads⟩, ⟨amount, hamount, hreads'⟩,
      proof, hproof, hreads''⟩
    obtain rfl := reads_address_iff.1 hreads
    obtain ⟨numeral, rfl, hnatural⟩ := reads_word_iff.1 hreads'
    obtain ⟨nodes, rfl, hnodes⟩ :=
      (reads_proof_iff (hlexed.mono (subset_object hproof.mem))).1 hreads''
    have hnumeral := hlexed _ _ (subset_object hamount.mem (List.mem_singleton_self _)) hnatural
    subst hnumeral
    exact ⟨hdistributor, hamount, nodes, hproof, hnodes⟩
  · rintro ⟨hdistributor, hamount, nodes, hproof, hnodes⟩
    exact ⟨⟨_, hdistributor, reads_address_iff.2 rfl⟩, ⟨_, hamount, reads_word claim.amount⟩,
      _, hproof, reads_proof hnodes⟩

/-- **A body is read as a claim if its object bears it**, and as no other. -/
theorem ofBody_eq_ok_iff {written : List (String × List Token)} {body : List UInt8}
    (htokens : Json.tokens body = Write.object written) (hvalues : ∀ m ∈ written, Value m.2)
    {claim : Claim} : ofBody body = .ok claim ↔ Bears written claim := by
  have hlexed : Lexed (Write.object written) := htokens ▸ (cut_tokens body).lexed
  rw [ofBody, read_eq_ok_iff, htokens, Write.object, List.cons_append, reader_eq_ok_iff,
    ← fills_claim_iff hlexed hvalues]
  constructor
  · rintro ⟨written', heq, hvalues', hfills⟩
    rw [List.append_nil] at heq
    rwa [object_inj hvalues hvalues' heq]
  · exact fun hfills => ⟨written, (List.append_nil _).symm, hvalues, hfills⟩

/-- A body that is read and begins with a brace is an object of values. -/
theorem exists_object {body : List UInt8} {claim : Claim}
    (htop : (body.dropWhile Token.isBlank).head? = some 0x7b) (h : ofBody body = .ok claim) :
    ∃ written, Json.tokens body = Write.object written ∧ ∀ m ∈ written, Value m.2 := by
  obtain ⟨rest, hbytes⟩ := List.head?_eq_some_iff.1 htop
  obtain ⟨ts, htokens⟩ := exists_tokens_eq_cons hbytes (show _ = some (.openObject, rest) from rfl)
  rw [ofBody, read_eq_ok_iff, htokens, reader_eq_ok_iff] at h
  obtain ⟨written, heq, hvalues, -⟩ := h
  exact ⟨written, by rw [htokens, heq, List.append_nil], hvalues⟩

/-! ## Bodies that bear a claim -/

theorem NodeServes.value {value : List Token} {digest : Digest} (h : NodeServes value digest) :
    Value value := by
  cases h with
  | bytes => exact value_array (List.forall_mem_map.2 fun _ _ => .word rfl)
  | text => exact .word rfl

theorem exists_serves : ∀ {nodes : List (List Token)} {proof : List Digest},
    List.Forall₂ NodeServes nodes proof → ∀ node ∈ nodes, ∃ digest, NodeServes node digest
  | _, _, .nil => nofun
  | _, _, .cons h hs => List.forall_mem_cons.2 ⟨⟨_, h⟩, exists_serves hs⟩

theorem value_of_serves {nodes : List (List Token)} {proof : List Digest}
    (h : List.Forall₂ NodeServes nodes proof) : ∀ node ∈ nodes, Value node := fun node hnode => by
  obtain ⟨digest, hserves⟩ := exists_serves h node hnode
  exact hserves.value

theorem once_of_perm {written written' : List (String × List Token)} (h : written.Perm written')
    {name : String} {value : List Token} (honce : Once written' name value) :
    Once written name value :=
  List.perm_singleton.1 (honce ▸ h.filter _)

section Members

variable {distributor : Address} {amount : UInt64} {nodes : List (List Token)}
  {written : List (String × List Token)}
  (hperm : written.Perm [("merkle_tree", Write.text distributor.text),
    ("amount", Write.natural amount.toNat), ("proof", Write.array nodes)])
include hperm

/-- What texts, numbers and the proof have, every member has. -/
theorem forall_mem_of_perm {p : List Token → Prop} (htext : ∀ text, p (Write.text text))
    (hnatural : ∀ n, p (Write.natural n)) (hproof : p (Write.array nodes)) :
    ∀ m ∈ written, p m.2 := by
  intro m hm
  have hmem := hperm.mem_iff.1 hm
  simp only [List.mem_cons, List.not_mem_nil, or_false] at hmem
  rcases hmem with rfl | rfl | rfl
  · exact htext _
  · exact hnatural _
  · exact hproof

theorem tidy_of_perm (hnodes : ∀ node ∈ nodes, Tidy node) : Tidy (Write.object written) :=
  tidy_object (forall_mem_of_perm hperm tidy_text tidy_natural (tidy_array hnodes))

variable (hnodes : ∀ node ∈ nodes, Value node)
include hnodes

theorem value_of_perm : ∀ m ∈ written, Value m.2 :=
  forall_mem_of_perm hperm (fun _ => .word rfl) (fun _ => .word rfl) (value_array hnodes)

/-- **In any order the three members bear the claim whose proof the nodes serve.** -/
theorem bears_iff_of_perm {proof : List Digest} :
    Bears written ⟨distributor, amount, proof⟩ ↔ List.Forall₂ NodeServes nodes proof := by
  refine ⟨fun ⟨_, _, nodes', honce, hserves⟩ => ?_, fun hserves => ?_⟩
  · have heq := honce.value_inj (once_of_perm hperm rfl)
    exact array_inj (value_of_serves hserves) hnodes heq ▸ hserves
  · exact ⟨once_of_perm hperm rfl, once_of_perm hperm rfl, nodes, once_of_perm hperm rfl, hserves⟩

end Members

theorem spelled_body (claim : Claim) : Spelled claim.tokens (encode claim.body.toList) := by
  rw [body, String.toList_ofList]
  exact spelled_compact (tidy_of_perm (.refl _) (List.forall_mem_map.2 fun _ _ => tidy_bytes _))

/-- A node that serves nothing keeps a body from being read. -/
theorem exists_failure {written : List (String × List Token)} {nodes : List (List Token)}
    {node : List Token} {body : List UInt8} (htokens : Json.tokens body = Write.object written)
    (hvalues : ∀ m ∈ written, Value m.2) (hproof : ("proof", Write.array nodes) ∈ written)
    (hnodes : ∀ node ∈ nodes, Value node) (hnode : node ∈ nodes)
    (hbad : ∀ digest, ¬NodeServes node digest) : ∃ failure, ofBody body = .error failure := by
  cases hread : ofBody body with
  | error failure => exact ⟨failure, rfl⟩
  | ok claim =>
    obtain ⟨nodes', honce, hserves⟩ := ((ofBody_eq_ok_iff htokens hvalues).1 hread).proof
    have hmem : ("proof", Write.array nodes) ∈ written.filter (·.1 == "proof") :=
      List.mem_filter.2 ⟨hproof, rfl⟩
    rw [honce, List.mem_singleton, Prod.mk.injEq] at hmem
    obtain rfl := array_inj hnodes (value_of_serves hserves) hmem.2
    obtain ⟨digest, hserves⟩ := exists_serves hserves node hnode
    exact absurd hserves (hbad digest)

/-- **A body is read as exactly the claim that it bears.**  Written in any order, with any blanks
and each node in either form, a claim is read back; so is the body that is written of it.  What is
read from an object is in it once, the amount in the digits of its number; and a node of neither
form keeps the whole body from being read. -/
theorem body_exact :
    (∀ {claim : Claim} {nodes : List (List Token)} {written : List (String × List Token)}
        {body : List UInt8}, List.Forall₂ NodeServes nodes claim.proof →
      written.Perm [("merkle_tree", Write.text claim.distributor.text),
        ("amount", Write.natural claim.amount.toNat), ("proof", Write.array nodes)] →
      Spelled (Write.object written) body → ofBody body = .ok claim) ∧
    (∀ claim : Claim, ofBody (encode claim.body.toList) = .ok claim) ∧
    (∀ {claim : Claim} {body : List UInt8},
      (body.dropWhile Token.isBlank).head? = some 0x7b → ofBody body = .ok claim →
      ∃ written, Json.tokens body = Write.object written ∧ Cut (Write.object written) body ∧
        (∀ m ∈ written, Value m.2) ∧ Bears written claim) ∧
    (∀ {written : List (String × List Token)} {nodes : List (List Token)} {node : List Token}
        {body : List UInt8}, Json.tokens body = Write.object written →
      (∀ m ∈ written, Value m.2) → ("proof", Write.array nodes) ∈ written →
      (∀ node ∈ nodes, Value node) → node ∈ nodes → (∀ digest, ¬NodeServes node digest) →
      ∃ failure, ofBody body = .error failure) := by
  refine ⟨fun hnodes hperm hbody => ?_, fun claim => ?_, fun {claim body} htop h => ?_,
    exists_failure⟩
  · have hvalue := value_of_serves hnodes
    exact (ofBody_eq_ok_iff hbody.tokens_eq (value_of_perm hperm hvalue)).2
      ((bears_iff_of_perm hperm hvalue).2 hnodes)
  · have hnodes : List.Forall₂ NodeServes
        (claim.proof.map fun digest => Write.bytes digest.toList) claim.proof :=
      List.forall₂_map_left_iff.2 (List.forall₂_same.2 fun digest _ => .bytes digest)
    have hvalue := value_of_serves hnodes
    exact (ofBody_eq_ok_iff (spelled_body claim).tokens_eq (value_of_perm (.refl _) hvalue)).2
      ((bears_iff_of_perm (.refl _) hvalue).2 hnodes)
  · obtain ⟨written, htokens, hvalues⟩ := exists_object htop h
    exact ⟨written, htokens, htokens ▸ cut_tokens body, hvalues,
      (ofBody_eq_ok_iff htokens hvalues).1 h⟩

/-- A claim of the largest amount, with two nodes. -/
def largestClaim : Claim := ⟨default, 18446744073709551615, [.replicate 32 0, .replicate 32 171]⟩

/-- Its nodes in the two forms, the second in capitals behind a mark. -/
def mixedNodes : List (List Token) := [
  Write.bytes (List.replicate 32 0),
  [.text (some (marked 1 ((Hex.encode (List.replicate 32 171)).map Char.toUpper)))]]

/-- Its members from the last to the first, with these nodes. -/
def reversedMembers (nodes : List (List Token)) : List (String × List Token) := List.reverse [
  ("merkle_tree", Write.text largestClaim.distributor.text),
  ("amount", Write.natural largestClaim.amount.toNat), ("proof", Write.array nodes)]

theorem serves_mixedNodes : List.Forall₂ NodeServes mixedNodes largestClaim.proof :=
  .cons (.bytes (.replicate 32 0)) (.cons (.text 1 (Hex.spells_encode _)) .nil)

theorem value_reversedMembers {nodes : List (List Token)} (h : ∀ node ∈ nodes, Value node) :
    ∀ m ∈ reversedMembers nodes, Value m.2 :=
  value_of_perm (List.reverse_perm _) h

theorem tidy_reversedMembers {nodes : List (List Token)} (h : ∀ node ∈ nodes, Tidy node) :
    Tidy (Write.object (reversedMembers nodes)) :=
  tidy_of_perm (List.reverse_perm _) h

theorem body_exact_of_mixed :
    ofBody (encode (Layout.pretty (Write.object (reversedMembers mixedNodes)))) = .ok largestClaim ∧
    (∃ written, Json.tokens (encode largestClaim.body.toList) = Write.object written ∧
      Cut (Write.object written) (encode largestClaim.body.toList) ∧
      (∀ m ∈ written, Value m.2) ∧ Bears written largestClaim) ∧
    ∃ failure, ofBody (encode (Layout.compact (Write.object (reversedMembers [[.null]])))) =
      .error failure := by
  obtain ⟨hread, hback, hbears, hbad⟩ := body_exact
  have htidy : ∀ node ∈ mixedNodes, Tidy node := by
    simp only [mixedNodes, List.forall_mem_cons, List.not_mem_nil, false_implies, implies_true,
      and_true]
    exact ⟨tidy_bytes _, (Token.Writable.text _).tidy⟩
  have hnull : ∀ node ∈ [[Token.null]], Value node ∧ Tidy node :=
    List.forall_mem_singleton.2 ⟨.word rfl, Token.Writable.null.tidy⟩
  refine ⟨hread serves_mixedNodes (List.reverse_perm _)
      (spelled_pretty (tidy_reversedMembers htidy)),
    hbears ?_ (hback largestClaim), ?_⟩
  · rw [body, String.toList_ofList]
    rfl
  · have hspelled := spelled_compact (tidy_reversedMembers fun node hnode => (hnull node hnode).2)
    exact hbad hspelled.tokens_eq
      (value_reversedMembers fun node hnode => (hnull node hnode).1) List.mem_cons_self
      (fun node hnode => (hnull node hnode).1) List.mem_cons_self (fun _ => nofun)

end Claim

end Airdrop
