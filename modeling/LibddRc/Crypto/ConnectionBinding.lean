import LibddRc.Crypto.Identifiers
import Mathlib.Tactic.IntervalCases

/-! What a verified connection id is bound to. The id keeps 122 bits of a digest
over the server nonce and the client nonce, so an id that verifies under two
client nonces is a collision of the hash on those bits. -/

set_option autoImplicit false

namespace LibddRc

/-- A bit of a byte string, counted from the most significant bit of its first
byte. -/
def bitAt (bytes : Bytes) (bit : Nat) : Bool :=
  (bytes.getD (bit / 8) 0).toBitVec.getMsbD (bit % 8)

/-- A bit of a UUID outside its version field, the high four bits of byte 6, and
its variant field, the high two bits of byte 8. -/
def KeptBit (bit : Nat) : Prop :=
  bit < 128 ∧ ¬ (48 ≤ bit ∧ bit < 52) ∧ ¬ (64 ≤ bit ∧ bit < 66)

instance (bit : Nat) : Decidable (KeptBit bit) :=
  inferInstanceAs (Decidable (_ ∧ _ ∧ _))

example : ((List.range 128).filter fun bit => KeptBit bit).length = 122 := by
  decide +kernel

/-- The UUID constructor overwrites at most the version and variant fields. -/
def Primitives.KeepsBits (prim : Primitives) : Prop :=
  ∀ bytes bit, KeptBit bit → bitAt (prim.newV8 bytes).toList bit = bitAt bytes.toList bit

/-! ## The layout -/

theorem version_keeps_low_bits (byte : UInt8) {bit : Nat} (low : 4 ≤ bit) (inside : bit < 8) :
    ((byte &&& 0x0f) ||| 0x80).toBitVec.getMsbD bit = byte.toBitVec.getMsbD bit := by
  interval_cases bit <;> simp [BitVec.getMsbD]

theorem variant_keeps_low_bits (byte : UInt8) {bit : Nat} (low : 2 ≤ bit) (inside : bit < 8) :
    ((byte &&& 0x3f) ||| 0x80).toBitVec.getMsbD bit = byte.toBitVec.getMsbD bit := by
  interval_cases bit <;> simp [BitVec.getMsbD]

theorem uuidV8Layout_getElem (bytes : Vector UInt8 16) (index : Nat) (inside : index < 16) :
    (uuidV8Layout bytes)[index] =
      if 8 = index then (bytes[8] &&& 0x3f) ||| 0x80
      else if 6 = index then (bytes[6] &&& 0x0f) ||| 0x80 else bytes[index] := by
  unfold uuidV8Layout
  rw [Vector.getElem_set, Vector.getElem_set]

theorem bitAt_toList {length : Nat} (bytes : Vector UInt8 length) {bit : Nat}
    (inside : bit / 8 < length) :
    bitAt bytes.toList bit = bytes[bit / 8].toBitVec.getMsbD (bit % 8) := by
  simp [bitAt, List.getD, inside]

theorem uuidV8Layout_keeps (bytes : Vector UInt8 16) {bit : Nat} (kept : KeptBit bit) :
    bitAt (uuidV8Layout bytes).toList bit = bitAt bytes.toList bit := by
  obtain ⟨inside, noVersion, noVariant⟩ := kept
  have index : bit / 8 < 16 := by omega
  have offset : bit % 8 < 8 := Nat.mod_lt _ (by decide)
  rw [bitAt_toList _ index, bitAt_toList _ index, uuidV8Layout_getElem]
  split
  · next variant =>
      rw [variant_keeps_low_bits _ (by omega) offset]
      simp only [← variant]
  · split
    · next version =>
        rw [version_keeps_low_bits _ (by omega) offset]
        simp only [← version]
    · rfl

/-! ## Verification and replay -/

section Binding

variable {prim : Primitives}

theorem UntrustedConnectionId.verify_eq_ok_iff {proposed : UntrustedConnectionId}
    {nonce : IdNonce} {id : ConnectionId} :
    proposed.verify prim nonce = .ok id ↔
      proposed.id = uuidV8Digest prim proposed.serverNonce nonce.asBytes ∧
        id.asBytes = proposed.id := by
  have derived := ConnectionId.new_asBytes prim nonce.asBytes proposed.serverNonce
  constructor
  · intro accepted
    have same := UntrustedConnectionId.verify_ok_iff.mp ⟨id, accepted⟩
    simp only [UntrustedConnectionId.verify, derived, same, ne_eq, not_true, if_false,
      Except.ok.injEq] at accepted
    rw [← accepted, derived, same]
    exact ⟨rfl, rfl⟩
  · intro accepted
    obtain ⟨same, bytes⟩ := accepted
    have equal : ConnectionId.new prim nonce.asBytes proposed.serverNonce = id := by
      have lists := derived.trans (same.symm.trans bytes.symm)
      have uuids := Vector.toList_inj.mp lists
      cases id
      exact congrArg ConnectionId.mk uuids
    simp [UntrustedConnectionId.verify, equal, bytes]

/-- Client nonces have one length, so the concatenation needs no delimiter to
tell them apart. -/
theorem hashed_ne {serverNonce other : Bytes} {nonce replayed : IdNonce}
    (fresh : nonce ≠ replayed) :
    serverNonce ++ nonce.asBytes ≠ other ++ replayed.asBytes := by
  intro same
  have suffixes := (List.append_inj' same (by simp [IdNonce.asBytes])).2
  have bytes := Vector.toList_inj.mp suffixes
  apply fresh
  cases nonce
  cases replayed
  simpa using bytes

theorem bitAt_uuidV8Digest (keeps : prim.KeepsBits) (serverNonce clientNonce : Bytes) {bit : Nat}
    (kept : KeptBit bit) :
    bitAt (uuidV8Digest prim serverNonce clientNonce) bit =
      bitAt (prim.sha256 (serverNonce ++ clientNonce)).toList bit := by
  have inside : bit / 8 < 16 := by
    have := kept.1
    omega
  unfold uuidV8Digest
  rw [keeps _ _ kept, bitAt_toList _ (by omega), bitAt_toList _ (by omega), Vector.getElem_take]

/-- An id is accepted exactly when it is the UUIDv8 form of the truncated digest
of the two nonces, and is then returned. One that is accepted under two client
nonces is a collision on the bits that the form keeps. -/
theorem connection_id_binding (keeps : prim.KeepsBits) :
    (∀ (proposed : UntrustedConnectionId) (nonce : IdNonce) (id : ConnectionId),
      proposed.verify prim nonce = .ok id ↔
        proposed.id = uuidV8Digest prim proposed.serverNonce nonce.asBytes ∧
          id.asBytes = proposed.id) ∧
    ∀ (serverNonce other bytes : Bytes) (nonce replayed : IdNonce) (id again : ConnectionId),
      UntrustedConnectionId.verify prim ⟨serverNonce, bytes⟩ nonce = .ok id →
      UntrustedConnectionId.verify prim ⟨other, bytes⟩ replayed = .ok again →
      nonce ≠ replayed →
      serverNonce ++ nonce.asBytes ≠ other ++ replayed.asBytes ∧
        ∀ bit, KeptBit bit →
          bitAt (prim.sha256 (serverNonce ++ nonce.asBytes)).toList bit =
            bitAt (prim.sha256 (other ++ replayed.asBytes)).toList bit := by
  constructor
  · intro proposed nonce id
    exact UntrustedConnectionId.verify_eq_ok_iff
  · intro serverNonce other bytes nonce replayed id again accepted acceptedAgain fresh
    have first := (UntrustedConnectionId.verify_eq_ok_iff.mp accepted).1
    have second := (UntrustedConnectionId.verify_eq_ok_iff.mp acceptedAgain).1
    constructor
    · exact hashed_ne fresh
    · intro bit kept
      rw [← bitAt_uuidV8Digest keeps _ _ kept, ← bitAt_uuidV8Digest keeps _ _ kept]
      exact congrArg (bitAt · bit) (first.symm.trans second)

end Binding

/-- A constant hash function makes every id replayable. -/
theorem connection_id_binding_constant_hash :
    ∃ first second : IdNonce, first ≠ second ∧
      (∃ id, UntrustedConnectionId.verify fixturePrimitives ⟨[], fixtureId⟩ first = .ok id) ∧
      (∃ id, UntrustedConnectionId.verify fixturePrimitives ⟨[7], fixtureId⟩ second = .ok id) ∧
      [] ++ first.asBytes ≠ [7] ++ second.asBytes := by
  let first : IdNonce := ⟨Vector.replicate 16 1, by decide⟩
  let second : IdNonce := ⟨Vector.replicate 16 2, by decide⟩
  have fresh : first ≠ second := by decide
  obtain ⟨id, accepted⟩ : ∃ id,
      UntrustedConnectionId.verify fixturePrimitives ⟨[], fixtureId⟩ first = .ok id :=
    UntrustedConnectionId.verify_ok_iff.mpr (by decide)
  obtain ⟨again, acceptedAgain⟩ : ∃ id,
      UntrustedConnectionId.verify fixturePrimitives ⟨[7], fixtureId⟩ second = .ok id :=
    UntrustedConnectionId.verify_ok_iff.mpr (by decide)
  have keeps : fixturePrimitives.KeepsBits := fun bytes _ => uuidV8Layout_keeps bytes
  have collision := (connection_id_binding keeps).2 _ _ _ _ _ _ _ accepted acceptedAgain fresh
  exact ⟨first, second, fresh, ⟨id, accepted⟩, ⟨again, acceptedAgain⟩, collision.1⟩

end LibddRc
