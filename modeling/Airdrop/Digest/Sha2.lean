import Airdrop.Octets.BigEndian

/-!
# Digest/Sha2 — the family of hash functions with eight words of state

The members differ in the width of a word, in constants and in distances of rotation; `Variant w`
holds those.  The message, padded to blocks of sixteen words, is folded into the state: each block
is **stretched to one word a round, and each round mixes one of them in**.
-/

namespace Airdrop.Sha2

/-- How a word is mixed: two rotations to the right, and a third or a shift. -/
structure Mixing where
  first : Nat
  second : Nat
  third : Nat

/-- What tells one member of the family from another. -/
structure Variant (w : Nat) where
  /-- One constant a round. -/
  roundConstants : Array (BitVec w)
  /-- The eight words before the first block. -/
  initial : List (BitVec w)
  /-- Mixing of the first word of the state. -/
  sum₀ : Mixing
  /-- Mixing of the fifth word of the state. -/
  sum₁ : Mixing
  /-- Mixing of the message word fifteen places back; the third distance is a shift. -/
  step₀ : Mixing
  /-- Mixing of the message word two places back; the third distance is a shift. -/
  step₁ : Mixing

variable {w : Nat}

/-- Three rotations. -/
def Mixing.rotate (m : Mixing) (x : BitVec w) : BitVec w :=
  x.rotateRight m.first ^^^ x.rotateRight m.second ^^^ x.rotateRight m.third

/-- Two rotations and a shift. -/
def Mixing.shift (m : Mixing) (x : BitVec w) : BitVec w :=
  x.rotateRight m.first ^^^ x.rotateRight m.second ^^^ (x >>> m.third)

/-- The word of some bytes, most significant first. -/
def wordOf (bytes : List UInt8) : BitVec w :=
  .ofNat w (BigEndian.valueOf bytes)

/-- The first `count` pieces of `size` bytes. -/
def pieces (size : Nat) : (count : Nat) → List UInt8 → List (List UInt8)
  | 0, _ => []
  | count + 1, bytes => bytes.take size :: pieces size count (bytes.drop size)

/-- The bytes of a word. -/
def wordBytes (w : Nat) : Nat := w / 8

/-- The bytes of a block: sixteen words. -/
def blockBytes (w : Nat) : Nat := 16 * wordBytes w

/-- **Padding**: a one bit, zeros to the end of a block, and in two words the length in bits. -/
def pad (w : Nat) (message : List UInt8) : List UInt8 :=
  let tail := 2 * wordBytes w
  let used := (message.length + 1 + tail) % blockBytes w
  message ++ 0x80 :: List.replicate ((blockBytes w - used) % blockBytes w) 0 ++
    BigEndian.bytesOf tail (8 * message.length)

/-- The words that drive the rounds of one block. -/
def Variant.schedule (v : Variant w) (block : List UInt8) : Array (BitVec w) :=
  let start := ((pieces (wordBytes w) 16 block).map wordOf).toArray
  (List.range (v.roundConstants.size - 16)).foldl (fun words i =>
    let earlier := fun back => words.getD (i + 16 - back) 0
    words.push
      (v.step₁.shift (earlier 2) + earlier 7 + v.step₀.shift (earlier 15) + earlier 16)) start

/-- One round, with its message word and constant already added up.  A state has eight words. -/
def Variant.round (v : Variant w) (state : List (BitVec w)) (input : BitVec w) :
    List (BitVec w) :=
  match state with
  | [a, b, c, d, e, f, g, h] =>
    let t₁ := h + v.sum₁.rotate e + ((e &&& f) ^^^ (~~~e &&& g)) + input
    let t₂ := v.sum₀.rotate a + ((a &&& b) ^^^ (a &&& c) ^^^ (b &&& c))
    [t₁ + t₂, a, b, c, d + t₁, e, f, g]
  | other => other

/-- Fold one block into the state. -/
def Variant.compress (v : Variant w) (state : List (BitVec w)) (block : List UInt8) :
    List (BitVec w) :=
  let inputs := (v.roundConstants.toList.zip (v.schedule block).toList).map fun (k, x) => k + x
  List.zipWith (· + ·) state (inputs.foldl v.round state)

/-- **The bytes of the state after the last block.** -/
def Variant.digest (v : Variant w) (message : List UInt8) : List UInt8 :=
  let padded := pad w message
  let blocks := pieces (blockBytes w) (padded.length / blockBytes w) padded
  (blocks.foldl v.compress v.initial).flatMap fun word =>
    BigEndian.bytesOf (wordBytes w) word.toNat

theorem length_round (v : Variant w) (state : List (BitVec w)) (input : BitVec w) :
    (v.round state input).length = state.length := by
  unfold Variant.round
  split <;> rfl

theorem length_compress (v : Variant w) (state : List (BitVec w)) (block : List UInt8) :
    (v.compress state block).length = state.length := by
  have rounds (inputs : List (BitVec w)) (s : List (BitVec w)) :
      (inputs.foldl v.round s).length = s.length := by
    induction inputs generalizing s with
    | nil => rfl
    | cons input rest ih => rw [List.foldl_cons, ih, length_round]
  simp [Variant.compress, rounds]

/-- The digest has as many bytes as the initial state. -/
theorem length_digest (v : Variant w) (message : List UInt8) :
    (v.digest message).length = v.initial.length * wordBytes w := by
  have blocks (bs : List (List UInt8)) (s : List (BitVec w)) :
      (bs.foldl v.compress s).length = s.length := by
    induction bs generalizing s with
    | nil => rfl
    | cons b rest ih => rw [List.foldl_cons, ih, length_compress]
  have flat (s : List (BitVec w)) :
      (s.flatMap fun word => BigEndian.bytesOf (wordBytes w) word.toNat).length =
        s.length * wordBytes w := by
    induction s with
    | nil => simp
    | cons word rest ih =>
      rw [List.flatMap_cons, List.length_append, ih, BigEndian.length_bytesOf, List.length_cons,
        Nat.succ_mul, Nat.add_comm]
  rw [Variant.digest, flat, blocks]

end Airdrop.Sha2
