import Airdrop.Proofs.Claim
import Airdrop.Proofs.Json.Cut
import Airdrop.Proofs.Json.Exact

/-!
# Proofs/Claim/Node — which tokens are a node, and which texts

What is read as a proof node is a node served in one of its two forms, and nothing else
(`nodeServes_iff`): 32 bytes in an array, or a text that spells them.  **A text spells a node if it
is 64 hexadecimal digits behind any number of marks** (`RawNode.digest_text_iff`); reading drops
every `0x` in front, not just one.
-/

namespace Airdrop

open Json

namespace Claim

/-! ## Texts of nodes -/

theorem exists_marked (text : List Char) : ∃ marks, text = marked marks (dropMarks text) := by
  fun_induction dropMarks text with
  | case1 rest ih =>
    obtain ⟨marks, hmarks⟩ := ih
    exact ⟨marks + 1, congrArg ('0' :: 'x' :: ·) hmarks⟩
  | case2 => exact ⟨0, rfl⟩

theorem digestOf_eq_ok_iff {bytes : List UInt8} {digest : Digest} :
    digestOf bytes = .ok digest ↔ bytes = digest.toList := by
  refine ⟨fun h => ?_, fun h => h ▸ digestOf_toList digest⟩
  unfold digestOf at h
  split at h
  · next hdigest =>
    cases h
    exact Octets.ofList?_eq_some_iff.1 hdigest
  · cases h

/-- **The texts of a node**: 64 digits that spell it, behind any number of marks. -/
theorem RawNode.digest_text_iff {content : List Char} {digest : Digest} :
    RawNode.digest (.text content) = .ok digest ↔
      ∃ marks digits, content = marked marks digits ∧ Hex.Spells digits digest.toList := by
  constructor
  · intro h
    obtain ⟨marks, hmarks⟩ := exists_marked content
    unfold RawNode.digest at h
    dsimp only at h
    split at h
    · cases h
    · next decoded hdecoded =>
      rw [digestOf_eq_ok_iff.1 h] at hdecoded
      exact ⟨marks, _, hmarks, Hex.decode_eq_ok_iff.1 hdecoded⟩
  · rintro ⟨marks, digits, rfl, h⟩
    rw [RawNode.digest, dropMarks_marked h, h.decode]
    exact digestOf_toList digest

/-! ## Arrays of bytes -/

/-- Elements that are bytes begin with a number, and nothing else stands in the first of them. -/
theorem exists_number {item after : List Token} {values : List UInt8} (h : Value item)
    (hbytes : byteElements (item ++ after) = some values) :
    ∃ numeral, item = [.number numeral] := by
  cases h with
  | @word _ token hadmits =>
    cases token with
    | number numeral => exact ⟨numeral, rfl⟩
    | closeArray => cases hadmits
    | _ => rw [List.singleton_append, byteElements] at hbytes <;> cases hbytes
  | group bracket =>
    cases bracket <;> rw [List.cons_append, List.cons_append, byteElements] at hbytes <;>
      cases hbytes

/-- A byte is written as its number. -/
theorem natural_of_lt {numeral : Numeral} {value : Nat} (h : numeral = .ofNat value)
    (hlt : value < 256) : [Token.number numeral] = Write.natural (UInt8.ofNat value).toNat := by
  rw [h, UInt8.toNat_ofNat_of_lt' hlt]
  rfl

/-- **The bytes of an array are its elements**, each a number as it is written. -/
theorem byteElements_eq_some : ∀ {items : List (List Token)} {values : List UInt8},
    (∀ item ∈ items, Value item) → Lexed (Write.separated items) →
    byteElements (Write.separated items ++ [.closeArray]) = some values →
      items = values.map fun b => Write.natural b.toNat
  | [], values, _, _, h => by
      cases h
      rfl
  | [item], values, hvalues, hlexed, h => by
      obtain ⟨numeral, rfl⟩ := exists_number (hvalues item List.mem_cons_self) h
      obtain ⟨value, hvalue, h⟩ := Option.bind_eq_some_iff.1 h
      split at h
      · next hlt =>
        cases h
        rw [natural_of_lt (hlexed _ _ List.mem_cons_self hvalue) hlt]
        rfl
      · cases h
  | item :: next :: items, values, hvalues, hlexed, h => by
      have hseparated : Write.separated (item :: next :: items) =
          item ++ .comma :: Write.separated (next :: items) := rfl
      obtain ⟨hitem, hnext⟩ := List.forall_mem_cons.1 hvalues
      rw [hseparated, List.append_assoc] at h
      obtain ⟨numeral, rfl⟩ := exists_number hitem h
      obtain ⟨value, hvalue, h⟩ := Option.bind_eq_some_iff.1 h
      split at h
      · next hlt =>
        obtain ⟨more, hmore, rfl⟩ := Option.map_eq_some_iff.1 h
        rw [hseparated] at hlexed
        have hlexed' : Lexed (Write.separated (next :: items)) :=
          hlexed.mono fun t ht => List.mem_cons_of_mem _ (List.mem_cons_of_mem _ ht)
        have hrest := byteElements_eq_some hnext hlexed' hmore
        rw [List.map_cons, ← hrest, natural_of_lt (hlexed _ _ List.mem_cons_self hvalue) hlt]
      · cases h

/-! ## Nodes -/

theorem RawNode.reader_eq_ok_iff {ts rest : List Token} {node : RawNode} :
    RawNode.reader ts = .ok (node, rest) ↔
      ∃ value, ts = value ++ rest ∧ Stands (.content nodeDepth) .value [] value ∧
        RawNode.ofTokens value = some node := by
  constructor
  · intro h
    obtain ⟨before, _, hbefore, h⟩ := bind_eq_ok h
    cases hbefore
    obtain ⟨⟨⟩, _, hskip, h⟩ := bind_eq_ok h
    obtain ⟨after, _, hafter, h⟩ := bind_eq_ok h
    cases hafter
    obtain ⟨value, rfl, hstands⟩ := skip_eq_ok_iff.1 hskip
    rw [List.length_append, Nat.add_sub_cancel, List.take_left] at h
    cases hnode : RawNode.ofTokens value with
    | none => rw [hnode] at h; cases h
    | some node =>
      rw [hnode] at h
      cases h
      exact ⟨value, rfl, hstands, hnode⟩
  · rintro ⟨value, rfl, hstands, hnode⟩
    exact (RawNode.reads hstands.reads hnode).eq_ok rest

theorem exact_rawNode : Exact RawNode.reader := by
  intro ts rest node h
  obtain ⟨value, rfl, hstands, hnode⟩ := RawNode.reader_eq_ok_iff.1 h
  exact ⟨value, rfl, hstands.form [], RawNode.reads hstands.reads hnode⟩

/-- **What is read as a node is served as one**, in one of the two forms. -/
theorem nodeServes_iff {value : List Token} (hlexed : Lexed value) {digest : Digest} :
    NodeServes value digest ↔
      ∃ node, Reads RawNode.reader value node ∧ RawNode.digest node = .ok digest := by
  refine ⟨NodeServes.exists_reads, ?_⟩
  rintro ⟨node, hreads, hdigest⟩
  obtain ⟨value', heq, hstands, hnode⟩ :=
    RawNode.reader_eq_ok_iff.1 (exact_rawNode.reads_iff.1 hreads)
  rw [List.append_nil] at heq
  subst heq
  cases hstands with
  | @word _ token hadmits =>
    cases token with
    | text content =>
      match content, hnode with
      | some content, rfl =>
        obtain ⟨marks, digits, rfl, hspells⟩ := RawNode.digest_text_iff.1 hdigest
        exact .text marks hspells
    | openArray => cases hadmits
    | _ => cases hnode
  | @group bracket _ items _ hitems =>
    cases bracket with
    | object => cases hnode
    | array =>
      obtain ⟨values, hvalues, rfl⟩ := Option.map_eq_some_iff.1 hnode
      obtain rfl := digestOf_eq_ok_iff.1 hdigest
      rw [byteElements_eq_some (fun item hitem => (hitems item hitem).form [])
        (hlexed.mono fun t ht => List.mem_cons_of_mem _ (List.mem_append_left _ ht)) hvalues]
      exact .bytes digest

theorem idle_digests (nodes : List RawNode) : Idle (match nodes.mapM RawNode.digest with
    | .ok proof => return proof
    | .error fault => Reader.reject fault.message : Reader (List Digest)) := by
  cases nodes.mapM RawNode.digest with
  | ok proof => exact idle_pure proof
  | error fault => exact idle_stop _

theorem exact_proof : Exact proofReader := (exact_array exact_rawNode).bind idle_digests

theorem serves_of_reads : ∀ {values : List (List Token)} {nodes : List RawNode}
    {proof : List Digest}, (∀ value ∈ values, Lexed value) →
    List.Forall₂ (Reads RawNode.reader) values nodes →
    List.Forall₂ (fun node digest => RawNode.digest node = .ok digest) nodes proof →
      List.Forall₂ NodeServes values proof
  | _, _, _, _, .nil, .nil => .nil
  | _, _, _, hlexed, .cons hread hreads, .cons hdigest hdigests =>
      .cons ((nodeServes_iff (hlexed _ List.mem_cons_self)).2 ⟨_, hread, hdigest⟩)
        (serves_of_reads (List.forall_mem_cons.1 hlexed).2 hreads hdigests)

/-- **A proof is read if it is an array of nodes that are all served**, and as those, in order. -/
theorem reads_proof_iff {value : List Token} (hlexed : Lexed value) {proof : List Digest} :
    Reads proofReader value proof ↔
      ∃ nodes, value = Write.array nodes ∧ List.Forall₂ NodeServes nodes proof := by
  refine ⟨fun h => ?_, fun ⟨nodes, hvalue, hserves⟩ => hvalue ▸ reads_proof hserves⟩
  obtain ⟨nodes, hnodes, hdigests⟩ := (reads_bind_iff (exact_array exact_rawNode) idle_digests).1 h
  obtain ⟨values, rfl, hreads⟩ := (reads_array_iff exact_rawNode).1 hnodes
  have hok := hdigests []
  cases hmap : nodes.mapM RawNode.digest with
  | error => rw [hmap] at hok; cases hok
  | ok digests =>
    rw [hmap] at hok
    cases hok
    exact ⟨values, rfl, serves_of_reads (fun value hvalue => hlexed.mono (subset_array hvalue))
      hreads (mapM_eq_ok_iff.1 hmap)⟩

end Claim

end Airdrop
