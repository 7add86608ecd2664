import Airdrop.Proofs.Octets
import Airdrop.Record.ClaimStatus
import Airdrop.Record.Distributor

/-!
# Proofs/Record — records and their bytes

Decoding a record and encoding it undo each other as soon as its fields are taken the way they are
written (`Take.Inverts`): **what was encoded is decoded, whatever follows, and what is decoded was
encoded**.

A `Record.Field` tells where in a record a field lies and what is in it, without the encoder.  The
layout of a kind of record is the list of its fields; they lie one behind another from the tag to
the end (`Record.Consecutive`), so a field has its bytes to itself.
-/

namespace Airdrop

open LittleEndian

namespace Record

/-! ## Decoding and encoding -/

section

variable {ρ : Type} [Record ρ]

/-- The record of a body alone. -/
theorem decodeBody_eq_ok_iff {body : List UInt8} {r : ρ} :
    decodeBody ρ body = .ok r ↔ ∃ rest, (take : Take ρ) body = .ok (r, rest) := by
  have hrun : (take : Take ρ).run' body = (take : Take ρ) body >>= fun taken => pure taken.1 := by
    change (fun taken : ρ × List UInt8 => taken.1) <$> (take : Take ρ) body = _
    rw [map_eq_pure_bind]
  have hbody : decodeBody ρ body = .ok r ↔ (take : Take ρ).run' body = .ok r := by
    unfold decodeBody
    cases (take : Take ρ).run' body <;> simp
  rw [hbody, hrun, bind_eq_ok_iff]
  constructor
  · rintro ⟨⟨r', rest⟩, htake, hr⟩
    cases hr
    exact ⟨rest, htake⟩
  · rintro ⟨rest, htake⟩
    exact ⟨⟨r, rest⟩, htake, rfl⟩

variable (h : Take.Inverts (take : Take ρ) fun r => (fields r).flatten)

include h

/-- **What was encoded is decoded**, whatever follows it. -/
theorem decode_encode_append (r : ρ) (rest : List UInt8) :
    decode ρ (encode r ++ rest) = .ok r := by
  have hsplit : encode r ++ rest = (tag ρ).toList ++ ((fields r).flatten ++ rest) :=
    List.append_assoc _ _ _
  have hlength : ¬ (encode r ++ rest).length < length ρ := by
    rw [List.length_append, length_encode]
    omega
  have hbody : ((fields r).flatten ++ rest).take (bodyLength ρ) = (fields r).flatten :=
    List.take_left' (length_fields r)
  unfold decode
  rw [hsplit, Octets.take?_append, ← hsplit]
  dsimp only
  rw [if_neg (not_not_intro rfl), if_neg hlength, hbody, decodeBody_eq_ok_iff]
  exact ⟨[], (h _ _ _).2 (List.append_nil _).symm⟩

/-- **What is decoded was encoded**, and the bytes behind it do not matter. -/
theorem encode_of_decode {data : List UInt8} {r : ρ} (hdecode : decode ρ data = .ok r) :
    encode r = data.take (length ρ) := by
  unfold decode at hdecode
  split at hdecode
  · cases hdecode
  · next found rest htake =>
    have hdata := Octets.append_of_take? htake
    split at hdecode
    · cases hdecode
    · next htag =>
      split at hdecode
      · cases hdecode
      · next hlong =>
        obtain ⟨left, hleft⟩ := decodeBody_eq_ok_iff.1 hdecode
        have hbody : rest.take (bodyLength ρ) = (fields r).flatten ++ left := (h _ _ _).1 hleft
        -- The body has just the bytes of the fields, so none is left.
        have hnil : left = [] := by
          have hlength := congrArg List.length hbody
          rw [List.length_take, List.length_append, length_fields] at hlength
          exact List.eq_nil_of_length_eq_zero (by omega)
        rw [hnil, List.append_nil] at hbody
        have hfound : found = tag ρ := Decidable.not_not.1 htag
        have htag : (tag ρ).toList.take (length ρ) = (tag ρ).toList :=
          List.take_of_length_le (by rw [(tag ρ).length_toList]; exact Nat.le_add_right _ _)
        have hafter : length ρ - (tag ρ).toList.length = bodyLength ρ := by
          rw [(tag ρ).length_toList]
          exact Nat.add_sub_cancel_left _ _
        rw [encode, ← hbody, hdata, hfound, List.take_append, htag, hafter]

end

/-! ## Fields -/

/-- **What is in a field.** -/
inductive Content
  | byte (value : UInt8)
  | word (value : UInt64)
  | signed (value : Int64)
  | digest (value : Digest)
  | truth (value : Bool)
  deriving DecidableEq

/-- The bytes of a field. -/
def Content.bytes : Content → List UInt8
  | .byte value => [value]
  | .word value => ofWord value
  | .signed value => ofSigned value
  | .digest value => value.toList
  | .truth value => Take.ofBool value

/-- **How a field is written**: words with the least significant byte first, signed ones in two's
complement, truth values as zero or one. -/
def Content.Written : Content → List UInt8 → Prop
  | .byte value, bytes => bytes = [value]
  | .word value, bytes => bytes.length = 8 ∧ valueOf bytes = value.toNat
  | .signed value, bytes => bytes.length = 8 ∧ (valueOf bytes : Int) = value.toInt % 2 ^ 64
  | .digest value, bytes => bytes = value.toList
  | .truth value, bytes => bytes = if value then [1] else [0]

theorem Content.written_bytes : ∀ content : Content, content.Written content.bytes
  | .byte _ => rfl
  | .word value => ⟨length_ofWord value, valueOf_ofWord value⟩
  | .signed value => ⟨length_ofSigned value, valueOf_ofSigned value⟩
  | .digest _ => rfl
  | .truth true => rfl
  | .truth false => rfl

/-- **A field of a record**: where it lies, and what is in it. -/
structure Field (ρ : Type) where
  offset : Nat
  width : Nat
  content : ρ → Content
  length_bytes : ∀ r, (content r).bytes.length = width

namespace Field

variable {ρ : Type}

/-- A byte. -/
def byte (offset : Nat) (get : ρ → UInt8) : Field ρ :=
  ⟨offset, 1, fun r => .byte (get r), fun _ => rfl⟩

/-- A word. -/
def word (offset : Nat) (get : ρ → UInt64) : Field ρ :=
  ⟨offset, 8, fun r => .word (get r), fun _ => length_ofWord _⟩

/-- A signed word. -/
def signed (offset : Nat) (get : ρ → Int64) : Field ρ :=
  ⟨offset, 8, fun r => .signed (get r), fun _ => length_ofSigned _⟩

/-- Thirty-two bytes. -/
def digest (offset : Nat) (get : ρ → Digest) : Field ρ :=
  ⟨offset, 32, fun r => .digest (get r), fun r => (get r).length_toList⟩

/-- An address. -/
def address (offset : Nat) (get : ρ → Address) : Field ρ := digest offset fun r => (get r).octets

/-- A truth value. -/
def truth (offset : Nat) (get : ρ → Bool) : Field ρ :=
  ⟨offset, 1, fun r => .truth (get r), fun _ => rfl⟩

/-- The bytes of a field in a record. -/
def bytes (field : Field ρ) (r : ρ) : List UInt8 := (field.content r).bytes

/-- Whether a place lies in a field. -/
def Covers (field : Field ρ) (i : Nat) : Prop :=
  field.offset ≤ i ∧ i < field.offset + field.width

end Field

section

variable {ρ : Type}

/-- **Fields lie one behind another**, from `start` to `stop`. -/
def Consecutive : (start : Nat) → List (Field ρ) → (stop : Nat) → Prop
  | start, [], stop => start = stop
  | start, field :: rest, stop =>
    field.offset = start ∧ Consecutive (start + field.width) rest stop

/-- **A field's bytes lie at its offset.** -/
theorem slice_of_consecutive (r : ρ) {field : Field ρ} :
    ∀ {start stop : Nat} {layout : List (Field ρ)}, Consecutive start layout stop →
      field ∈ layout → ∀ {front : List UInt8}, front.length = start →
        slice field.offset field.width (front ++ layout.flatMap (Field.bytes · r)) =
          field.bytes r
  | start, _, first :: rest, ⟨hfirst, hrest⟩, hfield, front, hfront => by
      have hwidth : (first.bytes r).length = first.width := first.length_bytes r
      rw [List.flatMap_cons]
      rcases List.mem_cons.1 hfield with rfl | hfield
      · rw [hfirst, ← Nat.add_zero start, slice_append_add hfront, slice_append hwidth]
      · rw [← List.append_assoc]
        refine slice_of_consecutive r hrest hfield ?_
        rw [List.length_append, hfront, hwidth]

/-- Every place between the first field and the end lies in a field. -/
theorem exists_covers_of_consecutive {i : Nat} :
    ∀ {start stop : Nat} {layout : List (Field ρ)}, Consecutive start layout stop →
      start ≤ i → i < stop → ∃ field ∈ layout, field.Covers i
  | start, stop, [], hend, hle, hlt => by
      have : start = stop := hend
      omega
  | start, stop, first :: rest, ⟨hfirst, hrest⟩, hle, hlt => by
      by_cases hin : i < start + first.width
      · exact ⟨first, by simp, by omega, by omega⟩
      · obtain ⟨field, hfield, hcovers⟩ := exists_covers_of_consecutive hrest (by omega) hlt
        exact ⟨field, List.mem_cons_of_mem _ hfield, hcovers⟩

end

/-! ## Layouts -/

/-- **A kind of record has a layout** of `size` bytes in all. -/
structure LaidOut (ρ : Type) [Record ρ] (layout : List (Field ρ)) (size : Nat) : Prop where
  /-- A record has as many bytes. -/
  length_encode : ∀ r : ρ, (encode r).length = size
  /-- What was encoded is decoded, whatever follows it. -/
  decode_encode : ∀ (r : ρ) (rest : List UInt8), decode ρ (encode r ++ rest) = .ok r
  /-- What is decoded was encoded. -/
  encode_decode : ∀ (data : List UInt8) (r : ρ), decode ρ data = .ok r → encode r = data.take size
  /-- A record begins with the tag of its kind. -/
  tagged : ∀ r : ρ, slice 0 8 (encode r) = (tag ρ).toList
  /-- The fields lie one behind another, from the tag to the end. -/
  consecutive : Consecutive 8 layout size
  /-- Every field is written at its offset. -/
  written : ∀ r : ρ, ∀ field ∈ layout,
    (field.content r).Written (slice field.offset field.width (encode r))
  /-- Where two records of a kind have different bytes, they differ in the field that lies there. -/
  differs : ∀ (r r' : ρ) (i : Nat), (encode r)[i]? ≠ (encode r')[i]? →
    ∃ field ∈ layout, field.Covers i ∧ field.content r ≠ field.content r'

section

variable {ρ : Type} [Record ρ] {layout : List (Field ρ)}

/-- **Fields that lie one behind another and are taken as they are written make a layout.** -/
theorem laidOut (h : Take.Inverts (take : Take ρ) fun r => (fields r).flatten)
    (hfields : ∀ r : ρ, fields r = layout.map (Field.bytes · r))
    (hlayout : Consecutive 8 layout (length ρ)) : LaidOut ρ layout (length ρ) := by
  have hencode : ∀ r : ρ, encode r = (tag ρ).toList ++ layout.flatMap (Field.bytes · r) := by
    intro r
    rw [encode, hfields, List.flatMap_def]
  have htagged : ∀ r : ρ, slice 0 8 (encode r) = (tag ρ).toList :=
    fun r => slice_append (tag ρ).length_toList _
  have hslice : ∀ r : ρ, ∀ field ∈ layout,
      slice field.offset field.width (encode r) = field.bytes r := by
    intro r field hfield
    rw [hencode]
    exact slice_of_consecutive r hlayout hfield (tag ρ).length_toList
  refine ⟨length_encode, decode_encode_append h, fun data r => encode_of_decode h, htagged, hlayout,
    fun r field hfield => ?_, fun r r' i hne => ?_⟩
  · rw [hslice r field hfield]
    exact Content.written_bytes _
  · -- Behind the end there are no bytes, and the tags are equal.
    have hlt : i < length ρ := Nat.lt_of_not_le fun hge => hne (by
      rw [List.getElem?_eq_none (length_encode r ▸ hge),
        List.getElem?_eq_none (length_encode r' ▸ hge)])
    have hbehind : 8 ≤ i := Nat.le_of_not_lt fun hin => hne (by
      have hin : i < 0 + 8 := by omega
      rw [getElem?_slice _ (Nat.zero_le i) hin, htagged, getElem?_slice _ (Nat.zero_le i) hin,
        htagged])
    obtain ⟨field, hfield, hcovers⟩ := exists_covers_of_consecutive hlayout hbehind hlt
    refine ⟨field, hfield, hcovers, fun hsame => hne ?_⟩
    have hbytes : field.bytes r = field.bytes r' := congrArg Content.bytes hsame
    rw [getElem?_slice _ hcovers.1 hcovers.2, hslice r field hfield, hbytes,
      ← hslice r' field hfield, ← getElem?_slice _ hcovers.1 hcovers.2]

end

end Record

/-! ## The two kinds of records -/

/-- **The fields of a distributor**, in order. -/
def Distributor.layout : List (Record.Field Distributor) := [
  .byte 8 (·.bump), .word 9 (·.version), .digest 17 (·.root), .address 49 (·.mint),
  .address 81 (·.base), .address 113 (·.tokenVault), .word 145 (·.maxTotal),
  .word 153 (·.maxNodes), .word 161 (·.claimedTotal), .word 169 (·.claimedNodes),
  .signed 177 (·.startTime), .signed 185 (·.endTime), .signed 193 (·.clawbackTime),
  .address 201 (·.clawbackReceiver), .address 233 (·.admin), .truth 265 (·.clawedBack),
  .word 266 (·.enableSlot), .truth 274 (·.closable), .digest 275 (·.reserved₀),
  .digest 307 (·.reserved₁), .digest 339 (·.reserved₂)]

/-- **The fields of a claim status**, in order. -/
def ClaimStatus.layout : List (Record.Field ClaimStatus) := [
  .address 8 (·.claimant), .word 40 (·.locked), .word 48 (·.withdrawn), .word 56 (·.unlocked),
  .truth 64 (·.closable), .address 65 (·.admin)]

/-- **A distributor is taken as it is written**, field by field. -/
theorem Distributor.inverts_take :
    Take.Inverts Distributor.take fun d => d.fields.flatten := by
  have hbyte := Take.inverts_byte
  have hword := Take.inverts_word
  have hsigned := Take.inverts_signed
  have hdigest := Take.inverts_octets 32
  have haddress := Take.inverts_address
  have hbool := Take.inverts_bool
  refine Take.InvertsRest.inverts ?_
  refine hbyte.part bump fun _ => hword.part version fun _ => hdigest.part root fun _ =>
    haddress.part mint fun _ => haddress.part base fun _ => haddress.part tokenVault fun _ =>
    hword.part maxTotal fun _ => hword.part maxNodes fun _ => hword.part claimedTotal fun _ =>
    hword.part claimedNodes fun _ => hsigned.part startTime fun _ => hsigned.part endTime fun _ =>
    hsigned.part clawbackTime fun _ => haddress.part clawbackReceiver fun _ =>
    haddress.part admin fun _ => hbool.part clawedBack fun _ => hword.part enableSlot fun _ =>
    hbool.part closable fun _ => hdigest.part reserved₀ fun _ => hdigest.part reserved₁ fun _ =>
    hdigest.part reserved₂ fun _ => ?_
  refine Take.invertsRest_pure fun d => ?_
  cases d
  simp [and_assoc]

/-- …and so is a claim status. -/
theorem ClaimStatus.inverts_take :
    Take.Inverts ClaimStatus.take fun s => s.fields.flatten := by
  have hword := Take.inverts_word
  have haddress := Take.inverts_address
  refine Take.InvertsRest.inverts ?_
  refine haddress.part claimant fun _ => hword.part locked fun _ => hword.part withdrawn fun _ =>
    hword.part unlocked fun _ => Take.inverts_bool.part closable fun _ =>
    haddress.part admin fun _ => ?_
  refine Take.invertsRest_pure fun s => ?_
  cases s
  simp [and_assoc]

/-- The fields of a distributor fill it from the tag to the end. -/
theorem Distributor.consecutive_layout :
    Record.Consecutive 8 Distributor.layout (Record.length Distributor) := by
  repeat' constructor

theorem ClaimStatus.consecutive_layout :
    Record.Consecutive 8 ClaimStatus.layout (Record.length ClaimStatus) := by
  repeat' constructor

/-- **Both kinds of records have their layout**: a distributor has 21 fields in 371 bytes, a claim
status six in 97. -/
theorem records_laidOut :
    (Record.LaidOut Distributor Distributor.layout 371 ∧ Distributor.layout.length = 21) ∧
    (Record.LaidOut ClaimStatus ClaimStatus.layout 97 ∧ ClaimStatus.layout.length = 6) :=
  ⟨⟨Record.laidOut Distributor.inverts_take (fun _ => rfl) Distributor.consecutive_layout, rfl⟩,
    ⟨Record.laidOut ClaimStatus.inverts_take (fun _ => rfl) ClaimStatus.consecutive_layout, rfl⟩⟩

end Airdrop
