import LibddRc.Crypto.Identifiers

/-! Certificates as the crypto crate extracts them from a parsed X.509
certificate. The parser and the timestamp type belong to other crates, so they
stay parameters and a parsed certificate may hold anything. -/

set_option autoImplicit false

namespace LibddRc

/-! ## The parser's view -/

/-- An extension as the parser presents it. Only the key identifiers are read. -/
inductive ParsedExtension
  | subjectKeyIdentifier (ski : Bytes)
  | authorityKeyIdentifier (keyIdentifier : Option Bytes)
  | other
  deriving DecidableEq

structure X509Certificate where
  raw : Bytes
  rawSerial : Bytes
  notBefore : Int64
  notAfter : Int64
  extensions : List ParsedExtension
  isCa : Bool
  subjectPublicKey : Bytes
  deriving DecidableEq

structure X509Error where
  description : String
  deriving DecidableEq

structure TimestampError where
  description : String
  deriving DecidableEq

structure Timestamp where
  second : Int64
  deriving DecidableEq

/-- What other crates provide: the parser, which also returns the bytes it left
over, and the conversion of Unix seconds. -/
structure X509Deps where
  prim : Primitives
  parse : Bytes → Except X509Error (Bytes × X509Certificate)
  fromSecond : Int64 → Except TimestampError Timestamp

/-! ## Conversions -/

/-- The raw bytes of a serial number. Construction asserts their length. -/
structure SerialNumber where
  bytes : Bytes
  rendered : CachedStringRepr
  nonempty : 1 ≤ bytes.length
  max_length : bytes.length ≤ 20

def SerialNumber.new (value : Bytes) : Except Panic SerialNumber :=
  if fits : 1 ≤ value.length ∧ value.length ≤ 20 then .ok ⟨value, {}, fits.1, fits.2⟩
  else .error (.serialNumberLength value.length)

def SerialNumber.ofCert (cert : X509Certificate) : Except Panic SerialNumber :=
  SerialNumber.new cert.rawSerial

structure Fingerprint where
  digest : Vector UInt8 32
  rendered : CachedStringRepr

def Fingerprint.ofCert (prim : Primitives) (cert : X509Certificate) : Fingerprint :=
  ⟨prim.sha256 cert.raw, {}⟩

structure Validity where
  notBefore : Timestamp
  notAfter : Timestamp
  rendered : CachedStringRepr

def Validity.tryFrom (deps : X509Deps) (cert : X509Certificate) :
    Except TimestampError Validity := do
  let notBefore ← deps.fromSecond cert.notBefore
  let notAfter ← deps.fromSecond cert.notAfter
  return ⟨notBefore, notAfter, {}⟩

inductive InvalidCertId
  | noSki
  | invalidLength (error : InvalidLength)
  deriving DecidableEq

inductive InvalidIssuerCertId
  | noAki
  | invalidLength (error : InvalidLength)
  deriving DecidableEq

/-- The certificate id that a certificate names as its issuer's. -/
structure IssuerCertId where
  asCertId : CertId

def IssuerCertId.bytes (id : IssuerCertId) : Bytes := id.asCertId.bytes

def CertId.tryFromCert (cert : X509Certificate) : Except InvalidCertId CertId :=
  let found := cert.extensions.findSome? fun
    | .subjectKeyIdentifier ski => some ski
    | _ => none
  match found with
  | none => .error .noSki
  | some bytes => (CertId.tryFrom bytes).mapError .invalidLength

/-- An authority key identifier without a key identifier does not end the
search. -/
def IssuerCertId.tryFromCert (cert : X509Certificate) :
    Except InvalidIssuerCertId IssuerCertId :=
  let found := cert.extensions.findSome? fun
    | .authorityKeyIdentifier keyIdentifier => keyIdentifier
    | _ => none
  match found with
  | none => .error .noAki
  | some bytes => ((CertId.tryFrom bytes).mapError .invalidLength).map .mk

/-! ## Certificates -/

structure Certificate where
  der : Bytes
  publicKeyDer : Bytes
  serialNumber : SerialNumber
  fingerprint : Fingerprint
  validity : Validity
  certId : CertId
  issuerCertId : IssuerCertId
  isCa : Bool

inductive InvalidDer
  | parse (error : X509Error)
  | excessDer
  | invalidTimestamp (error : TimestampError)
  | certId (error : InvalidCertId)
  | issuerCertId (error : InvalidIssuerCertId)
  deriving DecidableEq

/-- `Certificate::from_der`. The serial number is converted before anything
else can fail. -/
def Certificate.fromDer (deps : X509Deps) (der : Bytes) :
    Except Panic (Except InvalidDer Certificate) :=
  match deps.parse der with
  | .error error => .ok (.error (.parse error))
  | .ok (rem, cert) =>
      if rem ≠ [] then .ok (.error .excessDer)
      else do
        let fingerprint := Fingerprint.ofCert deps.prim cert
        let serialNumber ← SerialNumber.ofCert cert
        return do
          let validity ← (Validity.tryFrom deps cert).mapError .invalidTimestamp
          let certId ← (CertId.tryFromCert cert).mapError .certId
          let issuerCertId ← (IssuerCertId.tryFromCert cert).mapError .issuerCertId
          return {
            der, serialNumber, fingerprint, validity, certId, issuerCertId
            publicKeyDer := cert.subjectPublicKey
            isCa := cert.isCa }

theorem SerialNumber.new_returns_iff {value : Bytes} :
    (∃ serial, SerialNumber.new value = .ok serial) ↔ 1 ≤ value.length ∧ value.length ≤ 20 := by
  unfold SerialNumber.new
  split
  · next fits => simp [fits]
  · next unfit => simp [unfit]

/-- Only the serial number of a certificate that was parsed without a rest
decides whether `from_der` returns. -/
theorem Certificate.fromDer_returns_iff {deps : X509Deps} {der : Bytes} :
    (∃ outcome, Certificate.fromDer deps der = .ok outcome) ↔
      ∀ cert, deps.parse der = .ok ([], cert) →
        1 ≤ cert.rawSerial.length ∧ cert.rawSerial.length ≤ 20 := by
  cases parsed : deps.parse der with
  | error error => simp [Certificate.fromDer, parsed]
  | ok parts =>
      obtain ⟨rem, cert⟩ := parts
      by_cases left : rem = []
      · subst left
        cases serial : SerialNumber.new cert.rawSerial with
        | error panic =>
            have unfit : ¬ (1 ≤ cert.rawSerial.length ∧ cert.rawSerial.length ≤ 20) := by
              rw [← SerialNumber.new_returns_iff, serial]
              simp
            simpa [Certificate.fromDer, parsed, SerialNumber.ofCert, serial, bind,
              Except.bind] using unfit
        | ok number =>
            have fits := SerialNumber.new_returns_iff.mp ⟨number, serial⟩
            simpa [Certificate.fromDer, parsed, SerialNumber.ofCert, serial, bind, Except.bind,
              pure, Except.pure] using fits
      · simp [Certificate.fromDer, parsed, left]

end LibddRc
