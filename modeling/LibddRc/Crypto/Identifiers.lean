import Mathlib.Data.Vector.Basic

/-! Connection identifiers, their nonces, and certificate identifiers, as the
crypto crate builds and checks them. The hash function and the UUID constructor
come from other crates and stay parameters. -/

set_option autoImplicit false

namespace LibddRc

abbrev Bytes := List UInt8

inductive Panic
  /-- `rand::fill(..).unwrap()` on a failing generator. -/
  | randFill
  /-- `assert_ne!(buf, [0u8; 16])` on a fresh nonce. -/
  | zeroNonce
  /-- `unreachable!("send_hello called outside the pre-handshake phase")`. -/
  | helloOutsidePreHandshake
  /-- Creating a timer on a runtime that has no time driver. -/
  | timersDisabled
  /-- `assert!(VALID_LENGTHS.contains(..))` on a serial number. -/
  | serialNumberLength (length : Nat)
  deriving DecidableEq, Repr

theorem except_bind_ok {Error Value Result : Type} {first : Except Error Value}
    {rest : Value → Except Error Result} {result : Result}
    (returned : first >>= rest = .ok result) :
    ∃ value, first = .ok value ∧ rest value = .ok result := by
  cases first with
  | error error => cases returned
  | ok value => exact ⟨value, rfl, returned⟩

theorem except_mapError_ok {Error Mapped Value : Type} {conversion : Except Error Value}
    {wrap : Error → Mapped} {value : Value}
    (returned : conversion.mapError wrap = .ok value) : conversion = .ok value := by
  cases conversion with
  | error error => cases returned
  | ok found =>
      cases returned
      rfl

/-- What the other crates provide: SHA-256 over a whole input, and the UUIDv8
layout applied to sixteen bytes. -/
structure Primitives where
  sha256 : Bytes → Vector UInt8 32
  newV8 : Vector UInt8 16 → Vector UInt8 16

/-- The state of an incremental hash: everything fed to it so far. -/
structure Sha256State where
  data : Bytes

def Sha256State.incremental : Sha256State := ⟨[]⟩

def Sha256State.update (state : Sha256State) (data : Bytes) : Sha256State :=
  ⟨state.data ++ data⟩

def Sha256State.finish (prim : Primitives) (state : Sha256State) : Vector UInt8 32 :=
  prim.sha256 state.data

/-- The outcome of one `rand::fill` of a sixteen byte buffer. -/
abbrev Draw := Option (Vector UInt8 16)

/-- A sixteen byte nonce. Construction asserts that it is not all zero. -/
structure IdNonce where
  bytes : Vector UInt8 16
  nonzero : bytes ≠ Vector.replicate 16 0
  deriving DecidableEq

def IdNonce.asBytes (nonce : IdNonce) : Bytes := nonce.bytes.toList

/-- `IdNonce::default()`, given what the generator returned. -/
def IdNonce.default (draw : Draw) : Except Panic IdNonce :=
  match draw with
  | none => .error .randFill
  | some buf =>
      if zero : buf = Vector.replicate 16 0 then .error .zeroNonce
      else .ok ⟨buf, zero⟩

def Draw.Usable (draw : Draw) : Prop :=
  ∃ buf, draw = some buf ∧ buf ≠ Vector.replicate 16 0

instance (draw : Draw) : Decidable draw.Usable :=
  match draw with
  | none => isFalse (by simp [Draw.Usable])
  | some buf => decidable_of_iff (buf ≠ Vector.replicate 16 0) (by simp [Draw.Usable])

theorem IdNonce.default_ok_iff {draw : Draw} :
    (∃ nonce, IdNonce.default draw = .ok nonce) ↔ draw.Usable := by
  cases draw with
  | none => simp [IdNonce.default, Draw.Usable]
  | some buf =>
      by_cases zero : buf = Vector.replicate 16 0
      · simp [IdNonce.default, Draw.Usable, zero]
      · simp [IdNonce.default, Draw.Usable, zero]

structure ConnectionId where
  uuid : Vector UInt8 16
  deriving DecidableEq

def ConnectionId.asBytes (id : ConnectionId) : Bytes := id.uuid.toList

/-- `ConnectionId::new`: hash the server nonce, then the client nonce, keep the
first sixteen bytes and lay them out as a UUIDv8. -/
def ConnectionId.new (prim : Primitives) (clientNonce serverNonce : Bytes) : ConnectionId :=
  let state := (Sha256State.incremental.update serverNonce).update clientNonce
  let hash := state.finish prim
  ⟨prim.newV8 (hash.take 16)⟩

/-- The UUIDv8 form of the truncated hash of `serverNonce` followed by
`clientNonce`, as bytes. -/
def uuidV8Digest (prim : Primitives) (serverNonce clientNonce : Bytes) : Bytes :=
  (prim.newV8 ((prim.sha256 (serverNonce ++ clientNonce)).take 16)).toList

theorem ConnectionId.new_asBytes (prim : Primitives) (clientNonce serverNonce : Bytes) :
    (ConnectionId.new prim clientNonce serverNonce).asBytes =
      uuidV8Digest prim serverNonce clientNonce := by
  simp [ConnectionId.new, ConnectionId.asBytes, uuidV8Digest, Sha256State.finish,
    Sha256State.update, Sha256State.incremental]

/-- The UUIDv8 layout: version and variant bits are overwritten, the other bits
are kept. -/
def uuidV8Layout (bytes : Vector UInt8 16) : Vector UInt8 16 :=
  (bytes.set 6 ((bytes[6] &&& 0x0f) ||| 0x80)).set 8 ((bytes[8] &&& 0x3f) ||| 0x80)

/-- The layout, with the digest of sixteen bytes 42 followed by sixteen bytes
13: the inputs of the crate's own fixture. -/
def fixturePrimitives : Primitives where
  sha256 _ := #v[220, 167, 184, 134, 221, 129, 170, 43, 115, 187, 188, 63, 210, 77, 165, 14,
    92, 237, 143, 140, 134, 248, 231, 104, 196, 157, 251, 151, 116, 177, 138, 52]
  newV8 := uuidV8Layout

/-- The identifier that fixture expects, `dca7b886-dd81-8a2b-b3bb-bc3fd24da50e`. -/
def fixtureId : Bytes :=
  [220, 167, 184, 134, 221, 129, 138, 43, 179, 187, 188, 63, 210, 77, 165, 14]

example : (ConnectionId.new fixturePrimitives (List.replicate 16 13)
    (List.replicate 16 42)).asBytes = fixtureId := by decide

/-- An identifier proposed by the server, with the nonce it claims to have
used. -/
structure UntrustedConnectionId where
  serverNonce : Bytes
  id : Bytes
  deriving DecidableEq

structure ConnectionIdInvalid where
  deriving DecidableEq

/-- `UntrustedConnectionId::verify`: recompute the identifier from the client
nonce and compare the bytes. -/
def UntrustedConnectionId.verify (prim : Primitives) (proposed : UntrustedConnectionId)
    (clientNonce : IdNonce) : Except ConnectionIdInvalid ConnectionId :=
  let derived := ConnectionId.new prim clientNonce.asBytes proposed.serverNonce
  if derived.asBytes ≠ proposed.id then .error {}
  else .ok derived

theorem UntrustedConnectionId.verify_ok_iff {prim : Primitives} {proposed : UntrustedConnectionId}
    {nonce : IdNonce} :
    (∃ id, proposed.verify prim nonce = .ok id) ↔
      proposed.id = uuidV8Digest prim proposed.serverNonce nonce.asBytes := by
  simp only [UntrustedConnectionId.verify, ConnectionId.new_asBytes]
  by_cases same : uuidV8Digest prim proposed.serverNonce nonce.asBytes = proposed.id
  · simp [same]
  · simp [same, Ne.symm same]

/-- A lazily rendered text, unset until it is first asked for. -/
structure CachedStringRepr where
  value : Option String := none
  deriving DecidableEq

structure InvalidLength where
  actualLen : Nat
  deriving DecidableEq

def InvalidLength.gotLen (error : InvalidLength) : Nat := error.actualLen

structure CertId where
  bytes : Bytes
  rendered : CachedStringRepr
  min_length : 16 ≤ bytes.length
  max_length : bytes.length ≤ 64

def CertId.minLength : Nat := 16

def CertId.maxLength : Nat := 64

def CertId.tryFrom (value : Bytes) : Except InvalidLength CertId :=
  if bad : value.length < CertId.minLength ∨ value.length > CertId.maxLength then
    .error ⟨value.length⟩
  else
    .ok {
      bytes := value
      rendered := {}
      min_length := by simp only [CertId.minLength] at bad; omega
      max_length := by simp only [CertId.maxLength] at bad; omega
    }

theorem CertId.tryFrom_ok_bytes {value : Bytes} {id : CertId}
    (accepted : CertId.tryFrom value = .ok id) : id.bytes = value := by
  unfold CertId.tryFrom at accepted
  split at accepted
  · cases accepted
  · cases accepted
    rfl

theorem CertId.tryFrom_error_gotLen {value : Bytes} {error : InvalidLength}
    (refused : CertId.tryFrom value = .error error) :
    error.gotLen = value.length ∧ ¬ (16 ≤ value.length ∧ value.length ≤ 64) := by
  unfold CertId.tryFrom at refused
  split at refused
  · next bad =>
    cases refused
    simp only [CertId.minLength, CertId.maxLength] at bad
    exact ⟨rfl, by omega⟩
  · cases refused

end LibddRc
