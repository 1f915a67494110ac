import LibddRc.Client.Codec
import LibddRc.Crypto.Certificate

/-! The certificates that chains are built from: those received from the server,
the roots, and the cache that holds received ones by their id. -/

set_option autoImplicit false

namespace LibddRc

/-- A certificate received from the server. Its ids may be forged. -/
structure UntrustedCert where
  cert : Certificate

namespace UntrustedCert

def certId (cert : UntrustedCert) : CertId := cert.cert.certId

def issuerCertId (cert : UntrustedCert) : IssuerCertId := cert.cert.issuerCertId

def fromDer (deps : X509Deps) (der : Bytes) : Except Panic (Except InvalidDer UntrustedCert) :=
  (Certificate.fromDer deps der).map (Except.map .mk)

end UntrustedCert

def UntrustedCertBytes.parse (deps : X509Deps) (bytes : UntrustedCertBytes) :
    Except Panic (Except InvalidDer UntrustedCert) :=
  UntrustedCert.fromDer deps bytes.der

/-- Both ways to parse a certificate return exactly when the parser refuses the
bytes, leaves some over, or found a serial number of one to twenty bytes. -/
theorem parsing_returns_iff (deps : X509Deps) (der : Bytes) :
    ((∃ outcome, Certificate.fromDer deps der = .ok outcome) ∧
        ∃ outcome, (UntrustedCertBytes.mk der).parse deps = .ok outcome) ↔
      ∀ cert, deps.parse der = .ok ([], cert) →
        1 ≤ cert.rawSerial.length ∧ cert.rawSerial.length ≤ 20 := by
  have wrapped : (∃ outcome, (UntrustedCertBytes.mk der).parse deps = .ok outcome) ↔
      ∃ outcome, Certificate.fromDer deps der = .ok outcome := by
    simp only [UntrustedCertBytes.parse, UntrustedCert.fromDer]
    cases Certificate.fromDer deps der with
    | error panic => simp [Except.map]
    | ok outcome => simp [Except.map]
  rw [wrapped, and_self, Certificate.fromDer_returns_iff]

/-- A whole certificate, self-signed with Ed25519, whose serial number has 21
bytes. -/
def longSerialDer : Bytes := [
    0x30, 0x82, 0x01, 0x2d, 0x30, 0x81, 0xe0, 0xa0, 0x03, 0x02, 0x01, 0x02, 0x02, 0x15, 0x01,
    0x02, 0x03, 0x04, 0x05, 0x06, 0x07, 0x08, 0x09, 0x10, 0x11, 0x12, 0x13, 0x14, 0x15, 0x16,
    0x17, 0x18, 0x19, 0x20, 0x21, 0x30, 0x05, 0x06, 0x03, 0x2b, 0x65, 0x70, 0x30, 0x0c, 0x31,
    0x0a, 0x30, 0x08, 0x06, 0x03, 0x55, 0x04, 0x03, 0x0c, 0x01, 0x61, 0x30, 0x1e, 0x17, 0x0d,
    0x32, 0x36, 0x31, 0x31, 0x31, 0x35, 0x31, 0x33, 0x31, 0x32, 0x35, 0x37, 0x5a, 0x17, 0x0d,
    0x33, 0x36, 0x31, 0x31, 0x31, 0x32, 0x31, 0x33, 0x31, 0x32, 0x35, 0x37, 0x5a, 0x30, 0x0c,
    0x31, 0x0a, 0x30, 0x08, 0x06, 0x03, 0x55, 0x04, 0x03, 0x0c, 0x01, 0x61, 0x30, 0x2a, 0x30,
    0x05, 0x06, 0x03, 0x2b, 0x65, 0x70, 0x03, 0x21, 0x00, 0x2f, 0xd3, 0x1b, 0x0e, 0xb4, 0x59,
    0x5b, 0xa4, 0x35, 0x99, 0x1d, 0xde, 0xd6, 0x93, 0xa4, 0x87, 0x68, 0x00, 0xf9, 0x7f, 0x17,
    0xe5, 0x82, 0x0d, 0xbe, 0xf5, 0x8d, 0x60, 0x3e, 0x45, 0x15, 0xa9, 0xa3, 0x53, 0x30, 0x51,
    0x30, 0x1d, 0x06, 0x03, 0x55, 0x1d, 0x0e, 0x04, 0x16, 0x04, 0x14, 0x5a, 0x42, 0x4c, 0x74,
    0x6c, 0x39, 0xe6, 0x41, 0x45, 0x84, 0x01, 0xfc, 0x9c, 0xf0, 0xea, 0x92, 0x88, 0xc0, 0xd3,
    0x9e, 0x30, 0x1f, 0x06, 0x03, 0x55, 0x1d, 0x23, 0x04, 0x18, 0x30, 0x16, 0x80, 0x14, 0x5a,
    0x42, 0x4c, 0x74, 0x6c, 0x39, 0xe6, 0x41, 0x45, 0x84, 0x01, 0xfc, 0x9c, 0xf0, 0xea, 0x92,
    0x88, 0xc0, 0xd3, 0x9e, 0x30, 0x0f, 0x06, 0x03, 0x55, 0x1d, 0x13, 0x01, 0x01, 0xff, 0x04,
    0x05, 0x30, 0x03, 0x01, 0x01, 0xff, 0x30, 0x05, 0x06, 0x03, 0x2b, 0x65, 0x70, 0x03, 0x41,
    0x00, 0x0a, 0xd6, 0xad, 0x79, 0xac, 0x18, 0x1d, 0x8f, 0x0f, 0x57, 0x6a, 0x00, 0x5f, 0x07,
    0x9f, 0x18, 0x90, 0xf7, 0x89, 0x4c, 0xcd, 0x91, 0xd4, 0x28, 0xc2, 0x7a, 0x3e, 0x14, 0xce,
    0xc7, 0x5c, 0x97, 0x67, 0x50, 0x79, 0xf1, 0x7e, 0x67, 0x19, 0x3a, 0x23, 0xe9, 0x55, 0x1f,
    0xaa, 0x3b, 0x2c, 0xac, 0xc5, 0x71, 0x1a, 0x97, 0x08, 0x00, 0x14, 0x20, 0xca, 0x69, 0xf5,
    0x2d, 0x57, 0x3d, 0x21, 0x0b]

/-- The fields that the parser reads in it. -/
def longSerialCert : X509Certificate where
  raw := longSerialDer
  rawSerial := (longSerialDer.drop 14).take 21
  notBefore := 1794748377
  notAfter := 2110108377
  extensions := [.subjectKeyIdentifier ((longSerialDer.drop 161).take 20),
    .authorityKeyIdentifier (some ((longSerialDer.drop 194).take 20)), .other]
  isCa := true
  subjectPublicKey := (longSerialDer.drop 114).take 32

def longSerialDeps : X509Deps where
  prim := fixturePrimitives
  parse der :=
    if der = longSerialDer then .ok ([], longSerialCert) else .error ⟨"not parsed"⟩
  fromSecond second := .ok ⟨second⟩

theorem parsing_panics_on_long_serial :
    Certificate.fromDer longSerialDeps longSerialDer = .error (.serialNumberLength 21) ∧
      (UntrustedCertBytes.mk longSerialDer).parse longSerialDeps =
        .error (.serialNumberLength 21) := by
  have parsed : longSerialDeps.parse longSerialDer = .ok ([], longSerialCert) := by
    simp [longSerialDeps]
  have panics : Certificate.fromDer longSerialDeps longSerialDer =
      .error (.serialNumberLength 21) := by
    rw [Certificate.fromDer, parsed]
    rfl
  refine ⟨panics, ?_⟩
  rw [UntrustedCertBytes.parse, UntrustedCert.fromDer, panics]
  rfl

/-! ## Roots -/

structure RootCertificate where
  cert : Certificate

def RootCertificate.certId (root : RootCertificate) : CertId := root.cert.certId

structure RootSet (n : Nat) where
  roots : Vector RootCertificate n

/-- Ids are compared by their bytes alone, never by a rendered text. -/
def RootSet.find {n : Nat} (roots : RootSet n) (needle : IssuerCertId) : Option RootCertificate :=
  roots.roots.toList.find? fun root => root.certId.bytes = needle.bytes

theorem RootSet.find_eq_some {n : Nat} {roots : RootSet n} {needle : IssuerCertId}
    {root : RootCertificate} (found : roots.find needle = some root) :
    root ∈ roots.roots.toList ∧ root.certId.bytes = needle.bytes :=
  ⟨List.mem_of_find?_eq_some found, by simpa using List.find?_some found⟩

theorem RootSet.find_eq_none_iff {n : Nat} {roots : RootSet n} {needle : IssuerCertId} :
    roots.find needle = none ↔
      ∀ root ∈ roots.roots.toList, root.certId.bytes ≠ needle.bytes := by
  simp [RootSet.find]

/-! ## The cache -/

/-- The contents of a `CertCache` that does not change: a map from ids to
certificates that carry them. Nothing keeps its certificates from naming each
other as issuers. -/
structure CertCache where
  entries : Bytes → Option UntrustedCert
  keyed : ∀ id cert, entries id = some cert → cert.certId.bytes = id

def CertCache.get (cache : CertCache) (id : CertId) : Option UntrustedCert :=
  cache.entries id.bytes

end LibddRc
