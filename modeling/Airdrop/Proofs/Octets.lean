import Airdrop.Octets.Take
import Airdrop.Proofs.Result
import Mathlib.Algebra.Order.Ring.Nat

/-!
# Proofs/Octets — what is taken off bytes is what was written there

Taking values off the front of bytes is understood through two properties, and each kind of value
has both.

* `Take.Inverts` — **a value is taken exactly where its bytes stand**: a taker and a writer undo
  each other, in both directions, whatever follows.
* `Take.Needs` — a taker is content with so many bytes, and with fewer it ends too early.

Both go through sequences of takers (`Take.Inverts.bind_eq_ok_iff`, `Take.Needs.bind`), so a format
is read off its takers one after another.
-/

namespace Airdrop

/-- **Some bytes by their place**: `width` of them from `start` on. -/
def slice (start width : Nat) (bytes : List UInt8) : List UInt8 := (bytes.drop start).take width

/-- The bytes in front. -/
theorem slice_append {width : Nat} {part : List UInt8} (h : part.length = width)
    (rest : List UInt8) : slice 0 width (part ++ rest) = part := by
  rw [slice, List.drop_zero, List.take_left' h]

/-- Places behind some bytes are counted from their end. -/
theorem slice_append_add {n : Nat} {front : List UInt8} (h : front.length = n)
    (start width : Nat) (bytes : List UInt8) :
    slice (n + start) width (front ++ bytes) = slice start width bytes := by
  rw [slice, ← List.drop_drop, List.drop_left' h, slice]

/-- A place within a slice. -/
theorem getElem?_slice {start width i : Nat} (bytes : List UInt8) (hle : start ≤ i)
    (hlt : i < start + width) : bytes[i]? = (slice start width bytes)[i - start]? := by
  rw [slice, List.getElem?_take_of_lt (by omega), List.getElem?_drop, Nat.add_sub_cancel' hle]

/-! ## Words as bytes -/

namespace LittleEndian

/-- As many bytes have only so many values. -/
theorem valueOf_lt : ∀ bytes : List UInt8, valueOf bytes < 256 ^ bytes.length
  | [] => by simp [valueOf]
  | byte :: rest => by
      have hrest := valueOf_lt rest
      have hbyte := byte.toNat_lt
      rw [valueOf, List.length_cons, Nat.pow_succ]
      omega

/-- The value of the bytes of a number that fits. -/
theorem valueOf_bytesOf_of_lt {width n : Nat} (h : n < 256 ^ width) :
    valueOf (bytesOf width n) = n :=
  (valueOf_bytesOf width n).trans (Nat.mod_eq_of_lt h)

/-- The bytes of the value of some bytes. -/
theorem bytesOf_valueOf_octets {width : Nat} (a : Octets width) :
    bytesOf width (valueOf a.toList) = a.toList := by
  have h := bytesOf_valueOf a.toList
  rwa [a.length_toList] at h

@[simp] theorem length_ofWord (w : UInt64) : (ofWord w).length = 8 := length_bytesOf 8 _

@[simp] theorem length_ofSigned (v : Int64) : (ofSigned v).length = 8 := length_bytesOf 8 _

@[simp] theorem valueOf_ofWord (w : UInt64) : valueOf (ofWord w) = w.toNat :=
  valueOf_bytesOf_of_lt w.toNat_lt

/-- **A signed word is written in two's complement**: as the number that is left of it modulo the
number of all words. -/
theorem valueOf_ofSigned (v : Int64) : (valueOf (ofSigned v) : Int) = v.toInt % 2 ^ 64 := by
  have hvalue : valueOf (ofSigned v) = v.toBitVec.toNat := valueOf_ofWord v.toUInt64
  have hint : v.toInt = Int.bmod v.toBitVec.toNat (2 ^ 64) := BitVec.toInt_eq_toNat_bmod _
  have hlt := v.toBitVec.isLt
  have hmodulus : (2 : Int) ^ 64 = ((2 ^ 64 : Nat) : Int) := rfl
  rw [hvalue, hint, hmodulus, Int.bmod_emod]
  exact (Int.emod_eq_of_lt (Int.natCast_nonneg _) (Int.ofNat_lt.2 hlt)).symm

end LittleEndian

open LittleEndian

namespace Take

variable {α β : Type} {take : Take α} {next : α → Take β} {write : α → List UInt8}
  {bytes rest : List UInt8}

/-! ## One taker after another -/

theorem bind_of_ok {a : α} (h : take bytes = .ok (a, rest)) :
    (take >>= next) bytes = next a rest := by
  change (take bytes >>= fun taken => next taken.1 taken.2) = _
  rw [h]
  rfl

theorem bind_of_error {fault : TakeFault} (h : take bytes = .error fault) :
    (take >>= next) bytes = .error fault := by
  change (take bytes >>= fun taken => next taken.1 taken.2) = _
  rw [h]
  rfl

/-! ## Takers and writers -/

/-- **A taker inverts a writer**: a value is taken exactly where its bytes stand. -/
def Inverts (take : Take α) (write : α → List UInt8) : Prop :=
  ∀ bytes a rest, take bytes = .ok (a, rest) ↔ bytes = write a ++ rest

/-- The value of a sequence of takers. -/
theorem Inverts.bind_eq_ok_iff (h : Inverts take write) {b : β} :
    (take >>= next) bytes = .ok (b, rest) ↔
      ∃ a rest', bytes = write a ++ rest' ∧ next a rest' = .ok (b, rest) := by
  change (take bytes >>= fun taken => next taken.1 taken.2) = _ ↔ _
  rw [Airdrop.bind_eq_ok_iff]
  constructor
  · rintro ⟨⟨a, rest'⟩, htake, hnext⟩
    exact ⟨a, rest', (h _ _ _).1 htake, hnext⟩
  · rintro ⟨a, rest', hbytes, hnext⟩
    exact ⟨⟨a, rest'⟩, (h _ _ _).2 hbytes, hnext⟩

/-- **A taker inverts the writer of the rest** of a value of which something is known. -/
def InvertsRest (take : Take β) (known : β → Prop) (write : β → List UInt8) : Prop :=
  ∀ bytes b rest, take bytes = .ok (b, rest) ↔ known b ∧ bytes = write b ++ rest

/-- **A part is taken first**: then it is known, and the rest remains. -/
theorem Inverts.part (h : Inverts take write) (get : β → α) {known : β → Prop}
    {tail : β → List UInt8}
    (hnext : ∀ a, InvertsRest (next a) (fun b => known b ∧ get b = a) tail) :
    InvertsRest (take >>= next) known fun b => write (get b) ++ tail b := by
  intro bytes b rest
  rw [h.bind_eq_ok_iff]
  constructor
  · rintro ⟨a, rest', rfl, htail⟩
    obtain ⟨⟨hknown, rfl⟩, rfl⟩ := (hnext a _ _ _).1 htail
    exact ⟨hknown, (List.append_assoc _ _ _).symm⟩
  · rintro ⟨hknown, rfl⟩
    exact ⟨get b, tail b ++ rest, List.append_assoc _ _ _,
      (hnext _ _ _ _).2 ⟨⟨hknown, rfl⟩, rfl⟩⟩

/-- …and in the end all of it is known. -/
theorem invertsRest_pure {b : β} {known : β → Prop} (h : ∀ b', known b' ↔ b' = b) :
    InvertsRest (pure b : Take β) known fun _ => [] := by
  intro bytes b' rest
  rw [h]
  constructor
  · intro hpure
    cases hpure
    exact ⟨rfl, rfl⟩
  · rintro ⟨rfl, rfl⟩
    rfl

theorem InvertsRest.inverts {take : Take β} {write : β → List UInt8}
    (h : InvertsRest take (fun _ => True) write) : Inverts take write := fun bytes b rest =>
  (h bytes b rest).trans (and_iff_right trivial)

/-- What is made of a value taken. -/
theorem Inverts.map_eq_ok_iff (h : Inverts take write) {f : α → β} {b : β} :
    (f <$> take) bytes = .ok (b, rest) ↔ ∃ a, f a = b ∧ bytes = write a ++ rest := by
  change (take >>= fun a => pure (f a)) bytes = _ ↔ _
  rw [h.bind_eq_ok_iff]
  constructor
  · rintro ⟨a, rest', rfl, hpure⟩
    cases hpure
    exact ⟨a, rfl, rfl⟩
  · rintro ⟨a, rfl, rfl⟩
    exact ⟨a, rest, rfl, rfl⟩

/-- A value in another shape. -/
theorem Inverts.map (h : Inverts take write) {f : α → β} {g : β → α} (hf : ∀ b, f (g b) = b)
    (hg : ∀ a, g (f a) = a) : Inverts (f <$> take) fun b => write (g b) := by
  intro bytes b rest
  rw [h.map_eq_ok_iff]
  constructor
  · rintro ⟨a, rfl, rfl⟩
    exact congrArg (write · ++ rest) (hg a).symm
  · rintro rfl
    exact ⟨g b, hf b, rfl⟩

theorem inverts_octets (n : Nat) : Inverts (octets n) Octets.toList := by
  intro bytes a rest
  constructor
  · intro h
    unfold octets at h
    split at h
    · next taken htaken =>
      obtain rfl : taken = (a, rest) := Except.ok.inj h
      exact Octets.append_of_take? htaken
    · cases h
  · rintro rfl
    exact octets_append a rest

theorem inverts_byte : Inverts byte fun b => [b] := by
  intro bytes b rest
  constructor
  · intro h
    match bytes, h with
    | _ :: _, h =>
      cases h
      rfl
  · rintro rfl
    rfl

/-- **A truth value is one byte, zero or one.** -/
theorem inverts_bool : Inverts bool ofBool := by
  intro bytes value rest
  constructor
  · intro h
    obtain ⟨b, rest', rfl, hvalue⟩ := inverts_byte.bind_eq_ok_iff.1 h
    split at hvalue
    · next hzero =>
      cases hvalue
      rw [hzero]
      rfl
    · split at hvalue
      · next hone =>
        cases hvalue
        rw [hone]
        rfl
      · cases hvalue
  · rintro rfl
    exact bool_append value rest

theorem inverts_word : Inverts word ofWord :=
  (inverts_octets 8).map word_wordOctets fun a => Octets.ext (by
    have hlt : valueOf a.toList < 2 ^ 64 := by
      have := valueOf_lt a.toList
      rwa [a.length_toList] at this
    change bytesOf 8 (UInt64.ofNat (valueOf a.toList)).toNat = a.toList
    rw [UInt64.toNat_ofNat_of_lt' hlt, bytesOf_valueOf_octets])

theorem inverts_signed : Inverts signed ofSigned := by
  have h := inverts_word.map (f := UInt64.toInt64) (g := Int64.toUInt64)
    Int64.toInt64_toUInt64 UInt64.toUInt64_toInt64
  have hsigned : signed = UInt64.toInt64 <$> word := by
    rw [word, ← LawfulFunctor.comp_map]
    rfl
  rwa [hsigned]

theorem inverts_address : Inverts address Address.bytes :=
  (inverts_octets 32).map (g := Address.octets) (fun _ => rfl) fun _ => rfl

/-- A count is below `2 ^ 32`, and every such number is one. -/
theorem count_eq_ok_iff {n : Nat} :
    count bytes = .ok (n, rest) ↔ n < UInt32.size ∧ bytes = bytesOf 4 n ++ rest := by
  rw [count, (inverts_octets 4).map_eq_ok_iff]
  constructor
  · rintro ⟨four, rfl, rfl⟩
    have hlt := valueOf_lt four.toList
    rw [four.length_toList] at hlt
    exact ⟨hlt, by rw [bytesOf_valueOf_octets]⟩
  · rintro ⟨hlt, rfl⟩
    exact ⟨⟨bytesOf 4 n, length_bytesOf 4 n⟩, valueOf_bytesOf_of_lt hlt, rfl⟩

/-- **Values of one kind**, so many of them, stand one after another. -/
theorem Inverts.times (h : Inverts take write) (n : Nat) (bytes : List UInt8) (as : List α)
    (rest : List UInt8) : times take n bytes = .ok (as, rest) ↔
      as.length = n ∧ bytes = as.flatMap write ++ rest := by
  induction n generalizing bytes as with
  | zero =>
    constructor
    · intro htimes
      cases htimes
      exact ⟨rfl, rfl⟩
    · rintro ⟨hlength, rfl⟩
      rw [List.eq_nil_of_length_eq_zero hlength]
      rfl
  | succ n ih =>
    rw [Take.times, h.bind_eq_ok_iff]
    constructor
    · rintro ⟨first, rest', rfl, hnext⟩
      obtain ⟨⟨others, rest''⟩, hothers, hpure⟩ := Airdrop.bind_eq_ok_iff.1 hnext
      cases hpure
      obtain ⟨rfl, rfl⟩ := (ih _ _).1 hothers
      exact ⟨rfl, by rw [List.flatMap_cons, List.append_assoc]⟩
    · rintro ⟨hlength, rfl⟩
      obtain ⟨first, others, rfl⟩ := List.exists_cons_of_length_eq_add_one hlength
      refine ⟨first, others.flatMap write ++ rest, by rw [List.flatMap_cons, List.append_assoc], ?_⟩
      have hothers := (ih (others.flatMap write ++ rest) others).2 ⟨Nat.succ.inj hlength, rfl⟩
      exact bind_of_ok hothers

/-! ## How many bytes a taker needs -/

/-- **A taker needs so many bytes** of those there are: with fewer it ends too early, and otherwise
it takes just these. -/
structure Needs (take : Take α) (width : Nat) (bytes : List UInt8) : Prop where
  short : bytes.length < width → take bytes = .error .short
  enough : width ≤ bytes.length → ∃ a, take bytes = .ok (a, bytes.drop width)

theorem needs_pure (a : α) (bytes : List UInt8) : Needs (pure a) 0 bytes :=
  ⟨fun h => absurd h (Nat.not_lt_zero _), fun _ => ⟨a, rfl⟩⟩

theorem needs_octets (n : Nat) (bytes : List UInt8) : Needs (octets n) n bytes := by
  constructor
  · intro hlt
    rw [octets, Octets.take?, dif_neg (Nat.not_le_of_lt hlt)]
  · intro hle
    exact ⟨⟨bytes.take n, by simp [hle]⟩, by rw [octets, Octets.take?, dif_pos hle]⟩

/-- **A sequence of takers needs what they need together.** -/
theorem Needs.bind {width width' : Nat} (h : Needs take width bytes)
    (hnext : ∀ a, take bytes = .ok (a, bytes.drop width) →
      Needs (next a) width' (bytes.drop width)) :
    Needs (take >>= next) (width + width') bytes := by
  constructor
  · intro hlt
    rcases Nat.lt_or_ge bytes.length width with hshort | henough
    · exact bind_of_error (h.short hshort)
    · obtain ⟨a, ha⟩ := h.enough henough
      rw [bind_of_ok ha]
      refine (hnext a ha).short ?_
      rw [List.length_drop]
      omega
  · intro hle
    obtain ⟨a, ha⟩ := h.enough (by omega)
    obtain ⟨b, hb⟩ := (hnext a ha).enough (by rw [List.length_drop]; omega)
    refine ⟨b, ?_⟩
    rw [bind_of_ok ha, hb, List.drop_drop]

theorem Needs.map {width : Nat} (h : Needs take width bytes) (f : α → β) :
    Needs (f <$> take) width bytes :=
  show Needs (take >>= fun a => pure (f a)) (width + 0) bytes from
    h.bind fun _ _ => needs_pure _ _

theorem needs_word (bytes : List UInt8) : Needs word 8 bytes := (needs_octets 8 bytes).map _

theorem needs_signed (bytes : List UInt8) : Needs signed 8 bytes := (needs_octets 8 bytes).map _

theorem needs_count (bytes : List UInt8) : Needs count 4 bytes := (needs_octets 4 bytes).map _

/-- …and so do several takers of one kind. -/
theorem needs_times {width : Nat} (h : ∀ bytes, Needs take width bytes) :
    ∀ (n : Nat) (bytes : List UInt8), Needs (times take n) (width * n) bytes
  | 0, bytes => needs_pure [] bytes
  | n + 1, bytes => by
      rw [Nat.mul_succ, Nat.add_comm (width * n)]
      refine (h bytes).bind fun first _ => ?_
      exact (needs_times h n _).map (first :: ·)

end Take

end Airdrop
