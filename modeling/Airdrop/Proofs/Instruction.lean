import Airdrop.Instruction
import Airdrop.Proofs.Octets

/-!
# Proofs/Instruction — instruction data tells one action

The arguments of an action are taken back from their bytes, and **bytes that are arguments are those
of the action they give** (`Kind.take_eq_ok_iff`).  Whether bytes are arguments depends on their
number alone (`Kind.argumentLength`): with fewer the taker ends too early, with more some are left
over.

With the tag in front, no two actions have the same data.
-/

namespace Airdrop

namespace Action

open LittleEndian

/-! ## The format -/

/-- **How the arguments of an action are written**: words with the least significant byte first, a
signed one in two's complement, a proof behind the count of its nodes. -/
def Written : Action → List UInt8 → Prop
  | .newClaim unlocked locked proof, bytes =>
    bytes.length = 20 + 32 * proof.length ∧
    valueOf (slice 0 8 bytes) = unlocked.toNat ∧ valueOf (slice 8 8 bytes) = locked.toNat ∧
    valueOf (slice 16 4 bytes) = proof.length ∧
    ∀ i node, proof[i]? = some node → slice (20 + 32 * i) 32 bytes = node.toList
  | .setEnableSlot slot, bytes => bytes.length = 8 ∧ valueOf bytes = slot.toNat
  | .setClawbackTime time, bytes =>
    bytes.length = 8 ∧ (valueOf bytes : Int) = time.toInt % 2 ^ 64
  | .claimLocked, bytes | .setAdmin, bytes | .closeClaimStatus, bytes | .closeDistributor, bytes =>
    bytes = []

/-- **An action can be written** if four bytes can count the nodes of its proof. -/
def Writable : Action → Prop
  | .newClaim _ _ proof => proof.length < 2 ^ 32
  | _ => True

/-- **How many bytes the arguments have** that begin like some bytes. -/
def Kind.argumentLength : Kind → List UInt8 → Nat
  | .newClaim, bytes => 20 + 32 * valueOf (slice 16 4 bytes)
  | .setEnableSlot, _ | .setClawbackTime, _ => 8
  | .claimLocked, _ | .setAdmin, _ | .closeClaimStatus, _ | .closeDistributor, _ => 0

/-! ## Writing -/

/-- Nodes stand one after another. -/
theorem slice_flatMap {node : Digest} : ∀ (proof : List Digest) (i : Nat), proof[i]? = some node →
    slice (32 * i) 32 (proof.flatMap Octets.toList) = node.toList
  | [], _, h => by simp at h
  | first :: rest, 0, h => by
      obtain rfl : first = node := Option.some.inj h
      exact slice_append first.length_toList _
  | first :: rest, i + 1, h => by
      rw [Nat.mul_succ, Nat.add_comm, List.flatMap_cons, slice_append_add first.length_toList]
      exact slice_flatMap rest i h

theorem length_flatMap_toList : ∀ proof : List Digest,
    (proof.flatMap Octets.toList).length = 32 * proof.length
  | [] => rfl
  | first :: rest => by
      rw [List.flatMap_cons, List.length_append, first.length_toList, length_flatMap_toList rest,
        List.length_cons, Nat.mul_succ, Nat.add_comm]

/-- **What can be written is written as it should be.** -/
theorem exists_arguments_of_writable {action : Action} (h : action.Writable) :
    ∃ bytes, action.arguments = .ok bytes ∧ action.Written bytes := by
  cases action with
  | newClaim unlocked locked proof =>
    have hcount : valueOf (bytesOf 4 proof.length) = proof.length := valueOf_bytesOf_of_lt h
    refine ⟨_, if_pos h, ?_, ?_, ?_, ?_, fun i node hi => ?_⟩
    · simp only [proofBytes, List.length_append, length_ofWord, length_bytesOf,
        length_flatMap_toList]
      omega
    · rw [List.append_assoc, slice_append (length_ofWord _), valueOf_ofWord]
    · have hslice := slice_append_add (length_ofWord unlocked) 0 8
      rw [List.append_assoc, hslice, slice_append (length_ofWord _), valueOf_ofWord]
    · have hslice := slice_append_add (length_ofWord unlocked) 8 4
      have hslice' := slice_append_add (length_ofWord locked) 0 4
      rw [List.append_assoc, hslice, hslice', proofBytes, slice_append (length_bytesOf 4 _), hcount]
    · have hplace : 20 + 32 * i = 8 + (8 + (4 + 32 * i)) := by omega
      rw [List.append_assoc, hplace, slice_append_add (length_ofWord _),
        slice_append_add (length_ofWord _), proofBytes, slice_append_add (length_bytesOf 4 _)]
      exact slice_flatMap proof i hi
  | setEnableSlot slot => exact ⟨_, rfl, length_ofWord slot, valueOf_ofWord slot⟩
  | setClawbackTime time => exact ⟨_, rfl, length_ofSigned time, valueOf_ofSigned time⟩
  | claimLocked | setAdmin | closeClaimStatus | closeDistributor => exact ⟨[], rfl, rfl⟩

/-! ## Taking -/

/-- The arguments of a claim are written if four bytes can count the nodes of its proof. -/
theorem arguments_newClaim_eq_ok_iff {unlocked locked : UInt64} {proof : List Digest}
    {bytes : List UInt8} : (newClaim unlocked locked proof).arguments = .ok bytes ↔
      proof.length < UInt32.size ∧
        bytes = ofWord unlocked ++ (ofWord locked ++ proofBytes proof) := by
  rw [arguments, List.append_assoc]
  split
  · next hlt => simp [hlt, eq_comm]
  · next hge => simp [hge]

/-- The arguments of a claim, taken as they are written. -/
theorem Kind.take_newClaim_eq_ok_iff {bytes rest : List UInt8} {action : Action} :
    Kind.newClaim.take bytes = .ok (action, rest) ↔ ∃ unlocked locked proof,
      action = .newClaim unlocked locked proof ∧ proof.length < UInt32.size ∧
      bytes = ofWord unlocked ++ (ofWord locked ++ (proofBytes proof ++ rest)) := by
  have htimes := (Take.inverts_octets 32).times
  rw [Kind.take, Take.inverts_word.bind_eq_ok_iff]
  constructor
  · rintro ⟨unlocked, afterUnlocked, rfl, hlocked⟩
    obtain ⟨locked, afterLocked, rfl, hcount⟩ := Take.inverts_word.bind_eq_ok_iff.1 hlocked
    obtain ⟨⟨n, afterCount⟩, hn, hproof⟩ := bind_eq_ok_iff.1 hcount
    obtain ⟨⟨proof, left⟩, hnodes, hpure⟩ := bind_eq_ok_iff.1 hproof
    obtain ⟨hlt, rfl⟩ := Take.count_eq_ok_iff.1 hn
    obtain ⟨rfl, rfl⟩ := (htimes _ _ _ _).1 hnodes
    cases hpure
    exact ⟨unlocked, locked, proof, rfl, hlt, by rw [proofBytes, List.append_assoc]⟩
  · rintro ⟨unlocked, locked, proof, rfl, hlt, rfl⟩
    refine ⟨unlocked, _, rfl, ?_⟩
    refine Take.inverts_word.bind_eq_ok_iff.2 ⟨locked, _, rfl, ?_⟩
    rw [proofBytes, List.append_assoc]
    have hnodes := (htimes proof.length (proof.flatMap Octets.toList ++ rest) proof rest).2
      ⟨rfl, rfl⟩
    rw [Take.bind_of_ok (Take.count_eq_ok_iff.2 ⟨hlt, rfl⟩), Take.bind_of_ok hnodes]
    rfl

/-- **An action is taken exactly where its arguments stand.** -/
theorem Kind.take_eq_ok_iff {kind : Kind} {bytes rest : List UInt8} {action : Action} :
    kind.take bytes = .ok (action, rest) ↔ action.kind = kind ∧
      ∃ arguments, action.arguments = .ok arguments ∧ bytes = arguments ++ rest := by
  cases kind with
  | newClaim =>
    rw [Kind.take_newClaim_eq_ok_iff]
    constructor
    · rintro ⟨unlocked, locked, proof, rfl, hlt, rfl⟩
      refine ⟨rfl, _, arguments_newClaim_eq_ok_iff.2 ⟨hlt, rfl⟩, ?_⟩
      rw [List.append_assoc, List.append_assoc]
    · rintro ⟨hkind, arguments, harguments, rfl⟩
      cases action <;> cases hkind
      next unlocked locked proof =>
        obtain ⟨hlt, rfl⟩ := arguments_newClaim_eq_ok_iff.1 harguments
        exact ⟨unlocked, locked, proof, rfl, hlt, by rw [List.append_assoc, List.append_assoc]⟩
  | setEnableSlot =>
    rw [Kind.take, Take.inverts_word.map_eq_ok_iff]
    constructor
    · rintro ⟨slot, rfl, rfl⟩
      exact ⟨rfl, _, rfl, rfl⟩
    · rintro ⟨hkind, arguments, harguments, rfl⟩
      cases action <;> cases hkind
      cases harguments
      exact ⟨_, rfl, rfl⟩
  | setClawbackTime =>
    rw [Kind.take, Take.inverts_signed.map_eq_ok_iff]
    constructor
    · rintro ⟨time, rfl, rfl⟩
      exact ⟨rfl, _, rfl, rfl⟩
    · rintro ⟨hkind, arguments, harguments, rfl⟩
      cases action <;> cases hkind
      cases harguments
      exact ⟨_, rfl, rfl⟩
  | claimLocked | setAdmin | closeClaimStatus | closeDistributor =>
    constructor
    · intro h
      cases h
      exact ⟨rfl, [], rfl, rfl⟩
    · rintro ⟨hkind, arguments, harguments, rfl⟩
      cases action <;> cases hkind
      cases harguments
      rfl

/-- **What bytes are the arguments of.** -/
theorem Kind.ofArguments_eq_ok_iff {kind : Kind} {bytes : List UInt8} {action : Action} :
    kind.ofArguments bytes = .ok action ↔
      action.kind = kind ∧ action.arguments = .ok bytes := by
  have htake : kind.ofArguments bytes = .ok action ↔ kind.take bytes = .ok (action, []) := by
    unfold Kind.ofArguments
    split <;> simp_all
  rw [htake, Kind.take_eq_ok_iff]
  simp

/-! ## How many bytes -/

/-- A count is read off its place. -/
theorem count_eq_slice {bytes rest : List UInt8} {n : Nat} (h : Take.count bytes = .ok (n, rest)) :
    n = valueOf (slice 0 4 bytes) := by
  obtain ⟨hlt, rfl⟩ := Take.count_eq_ok_iff.1 h
  rw [slice_append (length_bytesOf 4 n), valueOf_bytesOf_of_lt hlt]

/-- **How many bytes an action needs.** -/
theorem Kind.needs_take (kind : Kind) (bytes : List UInt8) :
    Take.Needs kind.take (kind.argumentLength bytes) bytes := by
  cases kind with
  | newClaim =>
    -- Two words, the count, and as many nodes as it says.
    have hcount : slice 0 4 ((bytes.drop 8).drop 8) = slice 16 4 bytes := by
      rw [List.drop_drop, slice, slice, List.drop_zero]
    have hsum : Kind.newClaim.argumentLength bytes =
        8 + (8 + (4 + 32 * valueOf (slice 16 4 bytes))) := by
      rw [Kind.argumentLength]
      omega
    rw [hsum]
    refine (Take.needs_word _).bind fun unlocked _ => ?_
    refine (Take.needs_word _).bind fun locked _ => ?_
    refine (Take.needs_count _).bind fun n hn => ?_
    rw [← hcount, ← count_eq_slice hn]
    exact (Take.needs_times (Take.needs_octets 32) n _).map _
  | setEnableSlot => exact (Take.needs_word bytes).map _
  | setClawbackTime => exact (Take.needs_signed bytes).map _
  | claimLocked | setAdmin | closeClaimStatus | closeDistributor => exact Take.needs_pure _ bytes

/-- **What becomes of bytes** by their number: too few, just enough, or more than that. -/
theorem Kind.ofArguments_cases (kind : Kind) (bytes : List UInt8) :
    (bytes.length < kind.argumentLength bytes ∧
      kind.ofArguments bytes = .error (.take .short)) ∨
    (bytes.length = kind.argumentLength bytes ∧ ∃ action, kind.ofArguments bytes = .ok action) ∨
    (kind.argumentLength bytes < bytes.length ∧ kind.ofArguments bytes = .error .leftOver) := by
  have hneeds := kind.needs_take bytes
  rcases Nat.lt_or_ge bytes.length (kind.argumentLength bytes) with hlt | hge
  · exact .inl ⟨hlt, by rw [Kind.ofArguments, hneeds.short hlt]⟩
  · obtain ⟨action, htake⟩ := hneeds.enough hge
    rcases Nat.eq_or_lt_of_le hge with heq | hmore
    · have hnil : bytes.drop (kind.argumentLength bytes) = [] :=
        List.drop_eq_nil_of_le (Nat.le_of_eq heq.symm)
      rw [hnil] at htake
      exact .inr (.inl ⟨heq.symm, action, by rw [Kind.ofArguments, htake]⟩)
    · obtain ⟨first, rest, hcons⟩ : ∃ first rest,
          bytes.drop (kind.argumentLength bytes) = first :: rest :=
        List.exists_cons_of_ne_nil fun hnil => by
          have := List.drop_eq_nil_iff.1 hnil
          omega
      rw [hcons] at htake
      exact .inr (.inr ⟨hmore, by rw [Kind.ofArguments, htake]⟩)

/-! ## One action for each data -/

/-- **The tags tell the kinds apart.** -/
theorem Kind.tag_injective : ∀ {kind kind' : Kind}, kind.tag = kind'.tag → kind = kind' := by
  intro kind kind' h
  cases kind <;> cases kind' <;> first | rfl | exact absurd h (by decide)

/-- Data is the tag, and then the arguments. -/
theorem data_eq_ok_iff {action : Action} {bytes : List UInt8} :
    action.data = .ok bytes ↔ ∃ arguments,
      action.arguments = .ok arguments ∧ bytes = action.kind.tag.toList ++ arguments := by
  rw [data, map_eq_ok_iff]
  exact exists_congr fun arguments => and_congr_right fun _ => eq_comm

/-- **No two actions have the same data.** -/
theorem data_injective {a b : Action} {bytes : List UInt8} (ha : a.data = .ok bytes)
    (hb : b.data = .ok bytes) : a = b := by
  obtain ⟨arguments, harguments, rfl⟩ := data_eq_ok_iff.1 ha
  obtain ⟨arguments', harguments', hdata⟩ := data_eq_ok_iff.1 hb
  have hlength : a.kind.tag.toList.length = b.kind.tag.toList.length := by
    rw [a.kind.tag.length_toList, b.kind.tag.length_toList]
  obtain ⟨htag, rfl⟩ := List.append_inj hdata hlength
  have hkind : a.kind = b.kind := Kind.tag_injective (Octets.ext htag)
  have hread := Kind.ofArguments_eq_ok_iff.2 ⟨rfl, harguments⟩
  rw [hkind, Kind.ofArguments_eq_ok_iff.2 ⟨rfl, harguments'⟩] at hread
  exact (Except.ok.inj hread).symm

/-- **Instruction data tells one action, and reading accepts exactly what was written.**  An action
is written as its tag and its arguments, if four bytes can count the nodes of its proof, and read
back from them.  Bytes that are read are those of the action they give.  They are read exactly if
there are as many as there should be; otherwise they end too early, or some are left over.  And no
two actions have the same data. -/
theorem data_uniquely_decodable :
    (∀ action : Action, action.Writable → ∃ bytes,
      action.data = .ok (action.kind.tag.toList ++ bytes) ∧ action.Written bytes ∧
        action.kind.ofArguments bytes = .ok action) ∧
    (∀ (unlocked locked : UInt64) (proof : List Digest), 2 ^ 32 ≤ proof.length →
      (newClaim unlocked locked proof).data = .error ⟨proof.length⟩) ∧
    (∀ (kind : Kind) (bytes : List UInt8) (action : Action), kind.ofArguments bytes = .ok action →
      action.kind = kind ∧ action.data = .ok (kind.tag.toList ++ bytes)) ∧
    (∀ (kind : Kind) (bytes : List UInt8),
      ((∃ action, kind.ofArguments bytes = .ok action) ↔
        bytes.length = kind.argumentLength bytes) ∧
      (kind.ofArguments bytes = .error (.take .short) ↔
        bytes.length < kind.argumentLength bytes) ∧
      (kind.ofArguments bytes = .error .leftOver ↔
        kind.argumentLength bytes < bytes.length)) ∧
    ((ArgumentFault.take .short).message = "Unexpected length of input" ∧
      ArgumentFault.leftOver.message = "Not all bytes read") ∧
    (∀ (a b : Action) (bytes : List UInt8), a.data = .ok bytes → b.data = .ok bytes → a = b) := by
  refine ⟨fun action h => ?_, fun unlocked locked proof hlong => ?_, fun kind bytes action h => ?_,
    fun kind bytes => ?_, ⟨rfl, rfl⟩, fun a b bytes => data_injective⟩
  · obtain ⟨bytes, harguments, hwritten⟩ := exists_arguments_of_writable h
    exact ⟨bytes, data_eq_ok_iff.2 ⟨bytes, harguments, rfl⟩, hwritten,
      Kind.ofArguments_eq_ok_iff.2 ⟨rfl, harguments⟩⟩
  · have harguments : (newClaim unlocked locked proof).arguments = .error ⟨proof.length⟩ :=
      if_neg (Nat.not_lt.2 hlong)
    rw [data, harguments]
    rfl
  · obtain ⟨rfl, harguments⟩ := Kind.ofArguments_eq_ok_iff.1 h
    exact ⟨rfl, data_eq_ok_iff.2 ⟨bytes, harguments, rfl⟩⟩
  · rcases kind.ofArguments_cases bytes with ⟨hlt, h⟩ | ⟨heq, action, h⟩ | ⟨hgt, h⟩ <;> rw [h]
    all_goals exact ⟨by simp; omega, by simp; omega, by simp; omega⟩

end Action

end Airdrop
