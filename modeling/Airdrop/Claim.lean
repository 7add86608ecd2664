import Airdrop.Json.Layout
import Airdrop.Json.Reader
import Airdrop.Octets.Hex
import Airdrop.Stats.Document
import Airdrop.Text.Quoted
import Airdrop.Tree.File

/-!
# Claim — what the claim API serves for one claimant

The body of an answer is an object with three members.  A proof node comes in one of two forms: an
array of 32 bytes, or a text of 64 hexadecimal digits with or without `0x` in front.  **All nodes
are first taken as they come, and only then converted**, so a node of neither form is reported
before an earlier one of the wrong length.
-/

namespace Airdrop

open Json

/-- **What one claimant can claim, and from which distributor.** -/
structure Claim where
  distributor : Address
  amount : UInt64
  proof : List Digest
  deriving DecidableEq

namespace Claim

/-- A proof node as it comes. -/
inductive RawNode
  /-- An array of bytes, of any length. -/
  | bytes (values : List UInt8)
  /-- A text. -/
  | text (content : List Char)
  deriving DecidableEq

/-- How many brackets may be open inside a proof, below its own two. -/
def nodeDepth : Nat := 125

/-- The bytes of an array whose opening bracket is dropped. -/
def byteElements : List Token → Option (List UInt8)
  | [.closeArray] => some []
  | [.number n, .closeArray] => do
    let value ← n.natural?
    if value < 256 then some [.ofNat value] else none
  | .number n :: .comma :: rest => do
    let value ← n.natural?
    if value < 256 then (byteElements rest).map (.ofNat value :: ·) else none
  | _ => none

/-- The node that some tokens are, if they are one. -/
def RawNode.ofTokens : List Token → Option RawNode
  | [.text (some content)] => some (.text content)
  | .openArray :: rest => (byteElements rest).map .bytes
  | _ => none

/-- **A proof node as it comes.** -/
def RawNode.reader : Reader RawNode := do
  let before ← get
  Reader.skip (.content nodeDepth)
  let after ← get
  match RawNode.ofTokens (before.take (before.length - after.length)) with
  | some node => return node
  | none => Reader.reject "data did not match any variant of untagged enum RawProofNode"

/-- A text without every `0x` in front. -/
def dropMarks : List Char → List Char
  | '0' :: 'x' :: rest => dropMarks rest
  | text => text

/-- Why a node is no digest. -/
inductive NodeFault
  | hex (fault : Hex.Fault)
  | length (actual : Nat)
  deriving DecidableEq

/-- The fault in words. -/
def NodeFault.message : NodeFault → String
  | .hex .oddLength => "Odd number of digits"
  | .hex (.badDigit byte position) =>
    "Invalid character " ++ Text.quoteSingle (Char.ofNat byte.toNat) ++ " at position " ++
      toString position
  | .length actual => "proof node must be 32 bytes, got " ++ toString actual

/-- Bytes as a digest. -/
def digestOf (bytes : List UInt8) : Except NodeFault Digest :=
  match Octets.ofList? 32 bytes with
  | some digest => .ok digest
  | none => .error (.length bytes.length)

/-- **The digest of a node.** -/
def RawNode.digest : RawNode → Except NodeFault Digest
  | .bytes values => digestOf values
  | .text content =>
    match Hex.decode (Text.Utf8.encode (dropMarks content)) with
    | .error fault => .error (.hex fault)
    | .ok decoded => digestOf decoded

/-- **A proof**: all nodes as they come, then each as a digest. -/
def proofReader : Reader (List Digest) := do
  let nodes ← Reader.array RawNode.reader
  match nodes.mapM RawNode.digest with
  | .ok proof => return proof
  | .error fault => Reader.reject fault.message

/-- A claim being read. -/
structure Draft where
  distributor : Option Address := none
  amount : Option UInt64 := none
  proof : Option (List Digest) := none

/-- The members of a claim, in order. -/
def members : List (Reader.Member Draft) := [
  Reader.required "merkle_tree" (·.distributor) (fun d v => { d with distributor := some v })
    Address.reader,
  Reader.required "amount" (·.amount) (fun d v => { d with amount := some v }) Reader.word,
  Reader.required "proof" (·.proof) (fun d v => { d with proof := some v }) proofReader]

/-- The claim that a draft has become. -/
def Draft.done (d : Draft) : Option Claim := do
  return ⟨← d.distributor, ← d.amount, ← d.proof⟩

/-- **A claim.** -/
def reader : Reader Claim := do
  match (← Reader.record members {}).done with
  | some claim => return claim
  | none => Reader.malformed

/-- **The claim in the body of an answer.** -/
def ofBody (body : List UInt8) : Except Failure Claim := read reader body

/-- A claim as tokens, its proof in arrays of bytes. -/
def tokens (claim : Claim) : List Token :=
  Write.object [
    ("merkle_tree", Write.text claim.distributor.text),
    ("amount", Write.natural claim.amount.toNat),
    ("proof", Write.array (claim.proof.map fun digest => Write.bytes digest.toList))]

/-- A claim as a body. -/
def body (claim : Claim) : String := String.ofList (Layout.compact claim.tokens)

end Claim

end Airdrop
