import LibddRc.Crypto.Certificate
import LibddRc.Crypto.Hex

/-! `as_hex_str` of certificate ids and serial numbers. The text is rendered when
it is first asked for and kept. No value that can be built is empty, so rendering
does not panic, however often and in whatever state it is asked for. -/

set_option autoImplicit false

namespace LibddRc

/-- `get_or_init`, with a closure that may panic and then leaves the cell unset. -/
def CachedStringRepr.getOrInitWith (repr : CachedStringRepr)
    (init : Except HexPanic RustString) : Except HexPanic (String × CachedStringRepr) :=
  match repr.value with
  | some text => .ok (text, repr)
  | none => do
      let made ← init
      return (made.text, ⟨some made.text⟩)

/-- The text comes with the id, whose cell is set from then on. -/
def CertId.asHexStr (target : Target) (id : CertId) : Except HexPanic (String × CertId) := do
  let got ← id.rendered.getOrInitWith (colonString target id.bytes)
  return (got.1, { id with rendered := got.2 })

def IssuerCertId.asHexStr (target : Target) (id : IssuerCertId) :
    Except HexPanic (String × IssuerCertId) := do
  let got ← id.asCertId.asHexStr target
  return (got.1, ⟨got.2⟩)

def SerialNumber.asHexStr (target : Target) (serial : SerialNumber) :
    Except HexPanic (String × SerialNumber) := do
  let got ← serial.rendered.getOrInitWith (colonString target serial.bytes)
  return (got.1, { serial with rendered := got.2 })

def IssuerCertId.tryFrom (value : Bytes) : Except InvalidLength IssuerCertId := do
  let id ← CertId.tryFrom value
  return ⟨id⟩

/-! ## What can be built -/

/-- Ids are converted from bytes or extracted from a certificate, and rendered at
any time. -/
inductive IssuerCertId.Constructed (target : Target) : IssuerCertId → Prop
  | ofBytes {value : Bytes} {id : IssuerCertId} : IssuerCertId.tryFrom value = .ok id →
      Constructed target id
  | ofCert {cert : X509Certificate} {id : IssuerCertId} :
      IssuerCertId.tryFromCert cert = .ok id → Constructed target id
  | rendered {id next : IssuerCertId} {text : String} : Constructed target id →
      id.asHexStr target = .ok (text, next) → Constructed target next

inductive CertId.Constructed (target : Target) : CertId → Prop
  | ofBytes {value : Bytes} {id : CertId} : CertId.tryFrom value = .ok id →
      Constructed target id
  | ofCert {cert : X509Certificate} {id : CertId} : CertId.tryFromCert cert = .ok id →
      Constructed target id
  /-- `as_cert_id` of an issuer's id. -/
  | ofIssuer {id : IssuerCertId} : IssuerCertId.Constructed target id →
      Constructed target id.asCertId
  | rendered {id next : CertId} {text : String} : Constructed target id →
      id.asHexStr target = .ok (text, next) → Constructed target next

inductive SerialNumber.Constructed (target : Target) : SerialNumber → Prop
  | new {value : Bytes} {serial : SerialNumber} : SerialNumber.new value = .ok serial →
      Constructed target serial
  | ofCert {cert : X509Certificate} {serial : SerialNumber} :
      SerialNumber.ofCert cert = .ok serial → Constructed target serial
  | rendered {serial next : SerialNumber} {text : String} : Constructed target serial →
      serial.asHexStr target = .ok (text, next) → Constructed target next

/-! ## The cell -/

/-- A text that was rendered is the one of the bytes. -/
def CachedStringRepr.Shows (repr : CachedStringRepr) (bytes : Bytes) : Prop :=
  ∀ text, repr.value = some text → text.toList = colonHex bytes

/-- The value has bytes, and rendering it returns their text. -/
def RendersAs {Value : Type} (render : Except HexPanic (String × Value)) (bytes : Bytes) : Prop :=
  bytes ≠ [] ∧ ∃ text next, render = .ok (text, next) ∧ text.toList = colonHex bytes

section Cell

variable {target : Target} {repr next : CachedStringRepr} {bytes : Bytes} {text : String}

theorem CachedStringRepr.shows_default : CachedStringRepr.Shows {} bytes := by
  intro text unset
  cases unset

theorem CachedStringRepr.Shows.getOrInitWith_ok (holds : repr.Shows bytes)
    (got : repr.getOrInitWith (colonString target bytes) = .ok (text, next)) :
    text.toList = colonHex bytes ∧ next.Shows bytes := by
  unfold getOrInitWith at got
  cases value : repr.value with
  | some held =>
      rw [value] at got
      cases got
      exact ⟨holds text value, holds⟩
  | none =>
      rw [value] at got
      obtain ⟨made, returned, same⟩ := except_bind_ok got
      cases same
      have rendered := (colonString_ok returned).text
      refine ⟨rendered, ?_⟩
      intro shown set
      cases set
      exact rendered

/-- Sixty-four bytes are rendered within the smallest range of `isize`. -/
theorem CachedStringRepr.Shows.renders {Value : Type} (holds : repr.Shows bytes)
    (nonempty : bytes ≠ []) (short : bytes.length ≤ 64) (update : CachedStringRepr → Value) :
    RendersAs (do
      let got ← repr.getOrInitWith (colonString target bytes)
      return (got.1, update got.2)) bytes := by
  obtain ⟨got, returned⟩ : ∃ got, repr.getOrInitWith (colonString target bytes) = .ok got := by
    unfold getOrInitWith
    cases repr.value with
    | some held => exact ⟨(held, repr), rfl⟩
    | none =>
        have wide := target.wide
        obtain ⟨text, rendered⟩ := @colonString_of_le target bytes nonempty (by omega)
        rw [rendered]
        exact ⟨(text, ⟨some text⟩), rfl⟩
  rw [returned]
  exact ⟨nonempty, got.1, update got.2, rfl, (holds.getOrInitWith_ok returned).1⟩

end Cell

/-! ## Ids and serial numbers -/

section Ids

variable {target : Target} {text : String}

theorem CertId.nonempty (id : CertId) : id.bytes ≠ [] := by
  apply List.ne_nil_of_length_pos
  exact Nat.lt_of_lt_of_le (by decide) id.min_length

theorem SerialNumber.nonempty_bytes (serial : SerialNumber) : serial.bytes ≠ [] :=
  List.ne_nil_of_length_pos serial.nonempty

theorem CertId.tryFrom_shows {value : Bytes} {id : CertId}
    (accepted : CertId.tryFrom value = .ok id) : id.rendered.Shows id.bytes := by
  unfold CertId.tryFrom at accepted
  split at accepted
  · cases accepted
  · cases accepted
    exact CachedStringRepr.shows_default

theorem CertId.tryFromCert_ok {cert : X509Certificate} {id : CertId}
    (accepted : CertId.tryFromCert cert = .ok id) :
    ∃ value, CertId.tryFrom value = .ok id := by
  simp only [CertId.tryFromCert] at accepted
  split at accepted
  · cases accepted
  · next bytes _ => exact ⟨bytes, except_mapError_ok accepted⟩

theorem IssuerCertId.tryFrom_ok {value : Bytes} {id : IssuerCertId}
    (accepted : IssuerCertId.tryFrom value = .ok id) :
    CertId.tryFrom value = .ok id.asCertId := by
  obtain ⟨inner, parsed, same⟩ := except_bind_ok accepted
  cases same
  exact parsed

theorem IssuerCertId.tryFromCert_ok {cert : X509Certificate} {id : IssuerCertId}
    (accepted : IssuerCertId.tryFromCert cert = .ok id) :
    ∃ value, CertId.tryFrom value = .ok id.asCertId := by
  simp only [IssuerCertId.tryFromCert] at accepted
  split at accepted
  · cases accepted
  · next bytes _ =>
      obtain ⟨inner, parsed, same⟩ := except_bind_ok accepted
      cases same
      exact ⟨bytes, except_mapError_ok parsed⟩

theorem SerialNumber.new_shows {value : Bytes} {serial : SerialNumber}
    (accepted : SerialNumber.new value = .ok serial) :
    serial.rendered.Shows serial.bytes := by
  unfold SerialNumber.new at accepted
  split at accepted
  · cases accepted
    exact CachedStringRepr.shows_default
  · cases accepted

/-- Rendering an id keeps its cell true to its bytes. -/
theorem CertId.asHexStr_ok {id next : CertId} (holds : id.rendered.Shows id.bytes)
    (rendered : id.asHexStr target = .ok (text, next)) :
    text.toList = colonHex id.bytes ∧ next.rendered.Shows next.bytes := by
  obtain ⟨got, returned, same⟩ := except_bind_ok rendered
  cases same
  exact holds.getOrInitWith_ok returned

theorem IssuerCertId.asHexStr_ok {id next : IssuerCertId}
    (rendered : id.asHexStr target = .ok (text, next)) :
    id.asCertId.asHexStr target = .ok (text, next.asCertId) := by
  obtain ⟨got, returned, same⟩ := except_bind_ok rendered
  cases same
  exact returned

theorem SerialNumber.asHexStr_ok {serial next : SerialNumber}
    (holds : serial.rendered.Shows serial.bytes)
    (rendered : serial.asHexStr target = .ok (text, next)) :
    text.toList = colonHex serial.bytes ∧ next.rendered.Shows next.bytes := by
  obtain ⟨got, returned, same⟩ := except_bind_ok rendered
  cases same
  exact holds.getOrInitWith_ok returned

theorem IssuerCertId.Constructed.shows {id : IssuerCertId} (built : Constructed target id) :
    id.asCertId.rendered.Shows id.asCertId.bytes := by
  induction built with
  | ofBytes accepted => exact CertId.tryFrom_shows (IssuerCertId.tryFrom_ok accepted)
  | ofCert accepted =>
      obtain ⟨value, parsed⟩ := IssuerCertId.tryFromCert_ok accepted
      exact CertId.tryFrom_shows parsed
  | rendered _ got ih => exact (CertId.asHexStr_ok ih (IssuerCertId.asHexStr_ok got)).2

theorem CertId.Constructed.shows {id : CertId} (built : Constructed target id) :
    id.rendered.Shows id.bytes := by
  induction built with
  | ofBytes accepted => exact CertId.tryFrom_shows accepted
  | ofCert accepted =>
      obtain ⟨value, parsed⟩ := CertId.tryFromCert_ok accepted
      exact CertId.tryFrom_shows parsed
  | ofIssuer issuer => exact issuer.shows
  | rendered _ got ih => exact (CertId.asHexStr_ok ih got).2

theorem SerialNumber.Constructed.shows {serial : SerialNumber}
    (built : Constructed target serial) : serial.rendered.Shows serial.bytes := by
  induction built with
  | new accepted => exact SerialNumber.new_shows accepted
  | ofCert accepted => exact SerialNumber.new_shows accepted
  | rendered _ got ih => exact (SerialNumber.asHexStr_ok ih got).2

theorem CertId.renders {id : CertId} (holds : id.rendered.Shows id.bytes) :
    RendersAs (id.asHexStr target) id.bytes :=
  holds.renders id.nonempty id.max_length fun rendered => ({ id with rendered } : CertId)

theorem IssuerCertId.renders {id : IssuerCertId}
    (holds : id.asCertId.rendered.Shows id.asCertId.bytes) :
    RendersAs (id.asHexStr target) id.bytes := by
  obtain ⟨nonempty, text, next, inner, shown⟩ := @CertId.renders target id.asCertId holds
  refine ⟨nonempty, text, ⟨next⟩, ?_, shown⟩
  unfold IssuerCertId.asHexStr
  rw [inner]
  rfl

theorem SerialNumber.renders {serial : SerialNumber}
    (holds : serial.rendered.Shows serial.bytes) :
    RendersAs (serial.asHexStr target) serial.bytes := by
  have short : serial.bytes.length ≤ 64 := serial.max_length.trans (by decide)
  exact holds.renders serial.nonempty_bytes short
    fun rendered => ({ serial with rendered } : SerialNumber)

end Ids

/-- `colon_string` returns for every byte string but the empty one whose text is
not larger than an allocation can be. What it returns is two lowercase hex digits
for each byte with colons in between, of the size computed ahead, and tells the
bytes apart. Ids and serial numbers have bytes, whichever way they were built, and
rendering them returns their text. -/
theorem colon_string_faithful (target : Target) :
    (∀ first second firstOut secondOut, colonString target first = .ok firstOut →
      colonString target second = .ok secondOut → firstOut.text = secondOut.text →
      first = second) ∧
    (∀ bytes, bytes ≠ [] →
      ((∃ out, colonString target bytes = .ok out) ↔
        3 * bytes.length - 1 ≤ target.isizeMax) ∧
      ∀ out, colonString target bytes = .ok out →
        out.text.toList = [':'].intercalate (bytes.map hexPair) ∧
        out.text.utf8ByteSize = 3 * bytes.length - 1 ∧
        colonCapacity target bytes.length = .ok out.text.utf8ByteSize ∧
        out.capacity = out.text.utf8ByteSize) ∧
    (∀ id, CertId.Constructed target id → RendersAs (id.asHexStr target) id.bytes) ∧
    (∀ id, IssuerCertId.Constructed target id → RendersAs (id.asHexStr target) id.bytes) ∧
    (∀ serial, SerialNumber.Constructed target serial →
      RendersAs (serial.asHexStr target) serial.bytes) := by
  refine ⟨?_, ?_, ?_, ?_, ?_⟩
  · intro first second firstOut secondOut firstReturned secondReturned same
    have firstShown := colonString_ok firstReturned
    have secondShown := colonString_ok secondReturned
    apply colonHex_inj firstShown.nonempty secondShown.nonempty
    rw [← firstShown.text, ← secondShown.text, same]
  · intro bytes nonempty
    constructor
    · constructor
      · intro returns
        obtain ⟨out, returned⟩ := returns
        exact (colonString_ok returned).fits
      · intro fits
        obtain ⟨text, returned⟩ := colonString_of_le nonempty fits
        exact ⟨_, returned⟩
    · intro out returned
      have shown := colonString_ok returned
      have positive : 0 < bytes.length := List.length_pos_of_ne_nil nonempty
      rw [shown.size]
      exact ⟨shown.text, rfl, colonCapacity_of_le positive shown.fits, shown.capacity⟩
  · intro id built
    exact CertId.renders built.shows
  · intro id built
    exact IssuerCertId.renders built.shows
  · intro serial built
    exact SerialNumber.renders built.shows

end LibddRc
