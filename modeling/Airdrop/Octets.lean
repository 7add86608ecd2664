/-!
# Octets — byte strings of a fixed length

Digests, merkle roots, proof nodes and addresses are all byte strings whose length is known in
advance.  `Octets n` carries that length as a proof field, so a value of it is never short, and
`Octets.take?` is **the only way bytes become one**: it splits exactly `n` of them off the front.
-/

namespace Airdrop

/-- **A byte string of exactly `n` bytes.** -/
structure Octets (n : Nat) where
  /-- The bytes, first one first. -/
  toList : List UInt8
  /-- There are exactly `n` of them. -/
  length_toList : toList.length = n
  deriving DecidableEq, Hashable

/-- A 32-byte string: a merkle root, a proof node, a digest. -/
abbrev Digest := Octets 32

namespace Octets

variable {n : Nat}

@[ext] theorem ext {a b : Octets n} (h : a.toList = b.toList) : a = b := by
  cases a; cases b; cases h; rfl

/-- The bytes as an `Octets n`, if there are exactly `n`. -/
def ofList? (n : Nat) (bytes : List UInt8) : Option (Octets n) :=
  if h : bytes.length = n then some ⟨bytes, h⟩ else none

/-- **Split off the first `n` bytes**, or nothing when there are fewer. -/
def take? (n : Nat) (bytes : List UInt8) : Option (Octets n × List UInt8) :=
  if h : n ≤ bytes.length then some (⟨bytes.take n, by simp [h]⟩, bytes.drop n) else none

/-- The same byte `n` times. -/
def replicate (n : Nat) (byte : UInt8) : Octets n := ⟨.replicate n byte, by simp⟩

instance : Inhabited (Octets n) := ⟨replicate n 0⟩

@[simp] theorem ofList?_toList (a : Octets n) : ofList? n a.toList = some a := by
  simp [ofList?, a.length_toList]

theorem ofList?_eq_some_iff {bytes : List UInt8} {a : Octets n} :
    ofList? n bytes = some a ↔ bytes = a.toList := by
  constructor
  · intro h
    unfold ofList? at h
    split at h
    · cases h; rfl
    · cases h
  · rintro rfl; simp

/-- Taking from what begins with `a` gives `a` back, and the bytes that follow. -/
@[simp] theorem take?_append (a : Octets n) (rest : List UInt8) :
    take? n (a.toList ++ rest) = some (a, rest) := by
  have h := a.length_toList
  have hle : n ≤ (a.toList ++ rest).length := by simp [h]
  unfold take?
  rw [dif_pos hle]
  refine congrArg some (Prod.ext (Octets.ext ?_) ?_)
  · simp [h]
  · simp [h]

/-- What was taken, put back in front, is the whole. -/
theorem append_of_take? {bytes rest : List UInt8} {a : Octets n}
    (h : take? n bytes = some (a, rest)) : bytes = a.toList ++ rest := by
  unfold take? at h
  split at h
  · cases h; simp
  · cases h

end Octets

end Airdrop
