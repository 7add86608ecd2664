import Airdrop.ClaimApi.Http
import Airdrop.Proofs.Json.Layout
import Airdrop.Proofs.Json.Reader
import Airdrop.Proofs.Octets.Hex

/-!
# Proofs/Claim — a claim is read from the body that serves it

A node of a proof is served as an array of its bytes or as their hexadecimal text, and **each node
may be served in either form** (`NodeServes`).  Whichever they are, the body is read as the claim
that it serves (`Serves.ofBody`): the distributor, the amount to the last digit, and the nodes in
order.
-/

namespace Airdrop

open Json

namespace Claim

/-! ## Marks -/

/-- Some `0x` in front of a text. -/
def marked : Nat → List Char → List Char
  | 0, text => text
  | n + 1, text => '0' :: 'x' :: marked n text

theorem dropMarks_marked {text : List Char} {bytes : List UInt8} (h : Hex.Spells text bytes) :
    ∀ n, dropMarks (marked n text) = text
  | 0 => by
      match h with
      | .nil => rfl
      | @Hex.Spells.cons high low text byte bytes _ hlow _ =>
        have hx := hlow.ne_x (Hex.low_lt byte)
        rw [marked, dropMarks]
        exact fun rest hcons => hx (List.cons.inj (List.cons.inj hcons).2).1
  | n + 1 => by rw [marked, dropMarks, dropMarks_marked h n]

/-! ## Nodes -/

/-- **How a node may be served**: as its bytes, or as their hexadecimal text with any number of `0x`
in front. -/
inductive NodeServes : List Token → Digest → Prop
  | bytes (digest : Digest) : NodeServes (Write.bytes digest.toList) digest
  | text {digest : Digest} {digits : List Char} (marks : Nat)
      (h : Hex.Spells digits digest.toList) :
      NodeServes [.text (some (marked marks digits))] digest

theorem digestOf_toList (digest : Digest) : digestOf digest.toList = .ok digest := by
  rw [digestOf, Octets.ofList?_toList]

/-- A node is taken as it comes: the tokens that make up one value. -/
theorem RawNode.reads {value : List Token} {node : RawNode}
    (h : Reads (Reader.skip (.content nodeDepth)) value ())
    (hnode : RawNode.ofTokens value = some node) : Reads RawNode.reader value node := by
  refine ⟨h.opens, fun rest => ?_⟩
  have hlength : (value ++ rest).length - rest.length = value.length := by
    rw [List.length_append, Nat.add_sub_cancel]
  have hget : (get : Reader (List Token)) (value ++ rest) = .ok (value ++ rest, value ++ rest) := rfl
  have hget' : (get : Reader (List Token)) rest = .ok (rest, rest) := rfl
  rw [RawNode.reader, Reader.bind_of_ok hget, Reader.bind_of_ok (h.eq_ok rest),
    Reader.bind_of_ok hget', hlength, List.take_left, hnode]
  rfl

theorem byteElements_separated : ∀ values : List UInt8,
    byteElements (Write.separated (values.map fun b => Write.natural b.toNat) ++ [.closeArray]) =
      some values
  | [] => rfl
  | [b] => by
      change (if b.toNat < 256 then some [UInt8.ofNat b.toNat] else none) = _
      rw [if_pos b.toNat_lt, UInt8.ofNat_toNat]
  | b :: next :: values => by
      have hrest := byteElements_separated (next :: values)
      change (if b.toNat < 256 then (byteElements (Write.separated _ ++ [.closeArray])).map
        (UInt8.ofNat b.toNat :: ·) else none) = _
      rw [if_pos b.toNat_lt, hrest, UInt8.ofNat_toNat]
      rfl

/-- **A node is read as the digest that it serves.** -/
theorem NodeServes.exists_reads {value : List Token} {digest : Digest}
    (h : NodeServes value digest) :
    ∃ node, Reads RawNode.reader value node ∧ RawNode.digest node = .ok digest := by
  cases h with
  | bytes =>
    have hskip : Reads (Reader.skip (.content nodeDepth)) (Write.bytes digest.toList) () := by
      refine Stands.reads (.group .array rfl (List.forall_mem_map.2 fun b _ => .word ?_))
      have hfits := Numeral.isTooLarge_ofNat (Nat.lt_trans b.toNat_lt (by decide))
      rw [Reader.Care.admits, hfits]
      rfl
    refine ⟨.bytes digest.toList, RawNode.reads hskip ?_, digestOf_toList digest⟩
    change (byteElements (Write.separated _ ++ [.closeArray])).map RawNode.bytes = _
    rw [byteElements_separated]
    rfl
  | text marks h =>
    refine ⟨.text _, RawNode.reads (Stands.word rfl).reads rfl, ?_⟩
    rw [RawNode.digest, dropMarks_marked h, h.decode]
    exact digestOf_toList digest

/-- …and all of them are taken before any is made a digest. -/
theorem exists_reads_nodes : ∀ {values : List (List Token)} {proof : List Digest},
    List.Forall₂ NodeServes values proof → ∃ nodes, List.Forall₂ (Reads RawNode.reader) values nodes ∧
      List.Forall₂ (fun node digest => RawNode.digest node = .ok digest) nodes proof
  | _, _, .nil => ⟨[], .nil, .nil⟩
  | _, _, .cons h hs => by
      obtain ⟨node, hread, hdigest⟩ := h.exists_reads
      obtain ⟨nodes, hreads, hdigests⟩ := exists_reads_nodes hs
      exact ⟨node :: nodes, .cons hread hreads, .cons hdigest hdigests⟩

theorem reads_proof {values : List (List Token)} {proof : List Digest}
    (h : List.Forall₂ NodeServes values proof) : Reads proofReader (Write.array values) proof := by
  obtain ⟨nodes, hreads, hdigests⟩ := exists_reads_nodes h
  refine (reads_array hreads).bind fun rest => ?_
  rw [mapM_eq_ok_iff.2 hdigests]
  rfl

/-! ## Bodies -/

/-- **Tokens serve a claim**: they are an object of its distributor as a text, its amount, and its
nodes in order. -/
def Serves (ts : List Token) (claim : Claim) : Prop :=
  ∃ (text : String) (nodes : List (List Token)),
    Address.ofText text = .ok claim.distributor ∧ List.Forall₂ NodeServes nodes claim.proof ∧
    ts = Write.object [("merkle_tree", Write.text text),
      ("amount", Write.natural claim.amount.toNat), ("proof", Write.array nodes)]

theorem reads_address {text : String} {address : Address} (h : Address.ofText text = .ok address) :
    Reads Address.reader (Write.text text) address := by
  refine (reads_text text).bind fun rest => ?_
  rw [h]
  rfl

theorem Serves.reads {ts : List Token} {claim : Claim} (h : Serves ts claim) :
    Reads reader ts claim := by
  obtain ⟨text, nodes, hdistributor, hproof, rfl⟩ := h
  have hfills : Fills members [("merkle_tree", Write.text text),
      ("amount", Write.natural claim.amount.toNat), ("proof", Write.array nodes)] {}
      ⟨some claim.distributor, some claim.amount, some claim.proof⟩ := by
    refine .cons rfl rfl ((reads_address hdistributor).map _) ?_
    refine .cons rfl rfl ((reads_word claim.amount).map _) ?_
    exact .cons rfl rfl ((reads_proof hproof).map _) (.nil _)
  exact (reads_record hfills rfl).bind fun _ => rfl

/-- **A body is read as the claim that it serves**, whatever blanks it has. -/
theorem Serves.ofBody {ts : List Token} {claim : Claim} {body : List UInt8} (h : Serves ts claim)
    (hbody : Spelled ts body) : Claim.ofBody body = .ok claim :=
  read_eq_ok h.reads hbody.tokens_eq

/-- …and an answer with such a body is that claim. -/
theorem Serves.outcomeOf {ts : List Token} {claim : Claim} {response : Net.Response}
    (h : Serves ts claim) (hbody : Spelled ts response.body) (hstatus : 200 ≤ response.status)
    (hstatus' : response.status < 300) : Endpoint.outcomeOf response = .ok claim := by
  rw [Endpoint.outcomeOf, if_pos ⟨hstatus, hstatus'⟩, h.ofBody hbody]

end Claim

end Airdrop
