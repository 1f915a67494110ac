import LibddRc.Trust.Stability

/-! The trust store over a cache that does not evict, and the protocol around it:
validate, fetch the certificate that was reported missing, validate again. Who
supplies the certificates is not trusted. -/

set_option autoImplicit false

namespace LibddRc

variable {n : Nat}

structure Signature where
  bytes : Bytes
  max_length : bytes.length ≤ 120

inductive VerificationError
  | missingLeafCert (id : CertId)
  | chainBuild (error : ChainBuildError)

/-- The id of the certificate that verification cannot go on without. -/
def VerificationError.missingId : VerificationError → Option Bytes
  | .missingLeafCert id => some id.bytes
  | .chainBuild (.missingIntermediate id) => some id.bytes
  | .chainBuild .excessivelyLongChain => none

/-- A certificate replaces the one that was held under its id. -/
def CertCache.insert (cache : CertCache) (cert : UntrustedCert) : CertCache where
  entries id := if cert.certId.bytes = id then some cert else cache.entries id
  keyed id other held := by
    split at held
    · next same => exact Option.some.inj held ▸ same
    · exact cache.keyed id other held

structure TrustStore (n : Nat) where
  roots : RootSet n
  cache : CertCache

namespace TrustStore

def add (store : TrustStore n) (certs : List UntrustedCert) : TrustStore n :=
  { store with cache := certs.foldl .insert store.cache }

/-- Neither the signature nor the payload is looked at yet. -/
def validate (store : TrustStore n) (signingCertId : CertId) (_signature : Signature)
    (_payload : Bytes) : Except VerificationError Unit :=
  match store.cache.get signingCertId with
  | none => .error (.missingLeafCert signingCertId)
  | some cert =>
      match buildUnverifiedChainFor store.roots cert store.cache with
      | .error error => .error (.chainBuild error)
      | .ok _ => .ok ()

end TrustStore

/-! ## Adding certificates -/

section Adding

variable {cache : CertCache} {certs : List UntrustedCert} {id : CertId}

theorem CertCache.get_insert (cert : UntrustedCert) :
    (cache.insert cert).get id = if cert.certId.bytes = id.bytes then some cert else cache.get id :=
  rfl

theorem CertCache.get_insertAll_of_other
    (other : ∀ cert ∈ certs, cert.certId.bytes ≠ id.bytes) :
    (certs.foldl .insert cache).get id = cache.get id := by
  induction certs generalizing cache with
  | nil => rfl
  | cons cert certs ih =>
      rw [List.foldl_cons, ih (fun later member => other later (List.mem_cons_of_mem _ member)),
        CertCache.get_insert, if_neg (other cert List.mem_cons_self)]

theorem CertCache.get_insertAll_ne_none
    (held : cache.get id ≠ none ∨ ∃ cert ∈ certs, cert.certId.bytes = id.bytes) :
    (certs.foldl .insert cache).get id ≠ none := by
  induction certs generalizing cache with
  | nil => simpa using held
  | cons cert certs ih =>
      apply ih
      by_cases same : cert.certId.bytes = id.bytes
      · left
        simp [CertCache.get_insert, same]
      · rw [CertCache.get_insert, if_neg same]
        simpa [same] using held

/-- Certificates with new ids leave what is cached as it is. -/
theorem CertCache.insertAll_extends (new : ∀ cert ∈ certs, cache.get cert.certId = none) :
    (certs.foldl .insert cache).Extends cache := by
  intro id held found
  rw [CertCache.get_insertAll_of_other, found]
  intro cert member same
  have absent := new cert member
  simp only [CertCache.get, same] at absent found
  rw [absent] at found
  cases found

end Adding

/-! ## Walks in a growing cache -/

section Growing

variable {cache larger : CertCache} {start last : IssuerCertId} {certs : List UntrustedCert}

theorem Follows.mono (extended : larger.Extends cache) (walk : Follows cache start certs last) :
    Follows larger start certs last := by
  induction walk with
  | here => exact .here
  | next found _ ih => exact .next (extended _ _ found) ih

/-- The walk has come by every cached id before it gets to one that is not. -/
theorem Follows.longer {missing : IssuerCertId} {more : List UntrustedCert}
    (walk : Follows cache start certs last) (cached : cache.get last.asCertId ≠ none)
    (toMissing : Follows cache start more missing)
    (uncached : cache.get missing.asCertId = none) : certs.length < more.length := by
  induction walk generalizing more with
  | here =>
      cases toMissing with
      | here => exact absurd uncached cached
      | next => exact Nat.succ_pos _
  | next found _ ih =>
      cases toMissing with
      | here => rw [found] at uncached; cases uncached
      | next again rest =>
          cases found.symm.trans again
          exact Nat.succ_lt_succ (ih cached rest)

end Growing

/-- A missing certificate's id is where the walk from the signer's id ends, after
the leaf and fewer than six intermediates. -/
theorem TrustStore.validate_missing {store : TrustStore n} {signer : CertId}
    {signature : Signature} {payload : Bytes} {error : VerificationError} {id : Bytes}
    (failed : store.validate signer signature payload = .error error)
    (missing : error.missingId = some id) :
    ∃ certs last, Follows store.cache ⟨signer⟩ certs last ∧
      store.cache.get last.asCertId = none ∧ last.bytes = id ∧
      certs.length ≤ maxIntermediates := by
  unfold TrustStore.validate at failed
  split at failed
  · next uncached =>
      cases failed
      exact ⟨[], ⟨signer⟩, .here, uncached, Option.some.inj missing, Nat.zero_le _⟩
  · next leaf cached =>
      split at failed
      · next failure built =>
          cases failed
          cases failure with
          | excessivelyLongChain => cases missing
          | missingIntermediate last =>
              obtain ⟨certs, length, reaches⟩ := buildUnverifiedChainFor_missing_iff.mp built
              exact ⟨leaf :: certs, last, .next cached reaches.walk, reaches.uncached,
                Option.some.inj missing, length⟩
      · cases failed

/-! ## Fetch and retry -/

/-- Rounds of the protocol: the ids reported so far and the store after them. A
round's batch holds some certificate with the id that was reported, and no id
that was cached before. -/
inductive Fetching (store : TrustStore n) (signer : CertId) :
    List Bytes → TrustStore n → Prop
  | start : Fetching store signer [] store
  | round {reported : List Bytes} {current : TrustStore n} {signature : Signature}
      {payload id : Bytes} {error : VerificationError} {batch : List UntrustedCert} :
      Fetching store signer reported current →
      current.validate signer signature payload = .error error →
      error.missingId = some id →
      (∃ cert ∈ batch, cert.certId.bytes = id) →
      (∀ cert ∈ batch, current.cache.get cert.certId = none) →
      Fetching store signer (reported ++ [id]) (current.add batch)

/-- What holds between rounds. Each round takes the walk from the signer's id at
least one certificate further. -/
structure Fetched (cache : CertCache) (signer : CertId) (reported : List Bytes) : Prop where
  nodup : reported.Nodup
  cached : ∀ id : CertId, id.bytes ∈ reported → cache.get id ≠ none
  deeper : ∀ certs last, Follows cache ⟨signer⟩ certs last →
    cache.get last.asCertId = none → reported.length ≤ certs.length
  bounded : reported.length ≤ maxIntermediates + 1

section Fetching

variable {store current : TrustStore n} {signer : CertId} {reported : List Bytes}
  {signature : Signature} {payload id : Bytes} {error : VerificationError}

theorem Fetched.report (fetched : Fetched current.cache signer reported)
    (failed : current.validate signer signature payload = .error error)
    (missing : error.missingId = some id) :
    id ∉ reported ∧ reported.length ≤ maxIntermediates := by
  obtain ⟨certs, last, walk, uncached, rfl, length⟩ := TrustStore.validate_missing failed missing
  constructor
  · intro again
    exact fetched.cached last.asCertId again uncached
  · exact (fetched.deeper certs last walk uncached).trans length

theorem Fetched.round {batch : List UntrustedCert}
    (fetched : Fetched current.cache signer reported)
    (failed : current.validate signer signature payload = .error error)
    (missing : error.missingId = some id) (supplied : ∃ cert ∈ batch, cert.certId.bytes = id)
    (new : ∀ cert ∈ batch, current.cache.get cert.certId = none) :
    Fetched (current.add batch).cache signer (reported ++ [id]) := by
  obtain ⟨unreported, room⟩ := fetched.report failed missing
  obtain ⟨certs, last, walk, uncached, rfl, _⟩ := TrustStore.validate_missing failed missing
  have extended := CertCache.insertAll_extends new
  have nowCached : (current.add batch).cache.get last.asCertId ≠ none :=
    CertCache.get_insertAll_ne_none (.inr supplied)
  constructor
  case nodup =>
    exact List.nodup_append.mpr ⟨fetched.nodup, List.nodup_singleton _, by grind⟩
  case cached =>
    intro id member
    apply CertCache.get_insertAll_ne_none
    rcases List.mem_append.mp member with earlier | latest
    · exact .inl (fetched.cached id earlier)
    · right
      rw [List.mem_singleton.mp latest]
      exact supplied
  case deeper =>
    intro more next toNext stillMissing
    have further := (walk.mono extended).longer nowCached toNext stillMissing
    have before := fetched.deeper certs last walk uncached
    rw [List.length_append, List.length_singleton]
    omega
  case bounded =>
    rw [List.length_append, List.length_singleton]
    omega

theorem Fetching.fetched (fetching : Fetching store signer reported current) :
    Fetched current.cache signer reported := by
  induction fetching with
  | start => exact ⟨List.nodup_nil, by simp, by simp, Nat.zero_le _⟩
  | round _ failed missing supplied new ih => exact ih.round failed missing supplied new

/-- Whatever certificates are supplied, no id is reported twice, at most seven
are reported, and once none is missing the store accepts or the chain is too
long. -/
theorem fetch_and_retry_converges (fetching : Fetching store signer reported current) :
    reported.Nodup ∧ reported.length ≤ 7 ∧
    ∀ signature payload,
      current.validate signer signature payload = .ok () ∨
      current.validate signer signature payload = .error (.chainBuild .excessivelyLongChain) ∨
      ∃ error id, current.validate signer signature payload = .error error ∧
        error.missingId = some id ∧ id ∉ reported ∧ reported.length < 7 := by
  have fetched := fetching.fetched
  refine ⟨fetched.nodup, fetched.bounded, ?_⟩
  intro signature payload
  cases result : current.validate signer signature payload with
  | ok => exact .inl rfl
  | error error =>
      cases missing : error.missingId with
      | some id =>
          obtain ⟨unreported, room⟩ := fetched.report result missing
          exact .inr (.inr ⟨error, id, rfl, missing, unreported, Nat.lt_succ_of_le room⟩)
      | none =>
          cases error with
          | missingLeafCert => cases missing
          | chainBuild failure =>
              cases failure with
              | missingIntermediate => cases missing
              | excessivelyLongChain => exact .inr (.inl rfl)

end Fetching

def fixtureCertId (byte : UInt8) : CertId where
  bytes := List.replicate 20 byte
  rendered := {}
  min_length := by simp
  max_length := by simp

def fixtureCert (id issuer : UInt8) : UntrustedCert where
  cert := {
    der := []
    publicKeyDer := []
    serialNumber := ⟨[1], {}, by decide, by decide⟩
    fingerprint := ⟨Vector.replicate 32 0, {}⟩
    validity := ⟨⟨0⟩, ⟨0⟩, {}⟩
    certId := fixtureCertId id
    issuerCertId := ⟨fixtureCertId issuer⟩
    isCa := false }

/-- One root, with the id of nines, and an empty cache. -/
def fixtureStore : TrustStore 1 where
  roots := ⟨#v[⟨(fixtureCert 9 9).cert⟩]⟩
  cache := ⟨fun _ => none, by simp⟩

theorem fetch_and_retry_two_rounds :
    ∃ current, Fetching fixtureStore (fixtureCertId 1)
        [List.replicate 20 1, List.replicate 20 2] current ∧
      [List.replicate 20 (1 : UInt8), List.replicate 20 2].Nodup := by
  let fetched := fixtureStore.add [fixtureCert 1 2]
  have noLeaf : fixtureStore.validate (fixtureCertId 1) ⟨[], by decide⟩ [] =
      .error (.missingLeafCert (fixtureCertId 1)) := rfl
  have first : Fetching fixtureStore (fixtureCertId 1) ([] ++ [List.replicate 20 1]) fetched :=
    .round .start noLeaf rfl ⟨fixtureCert 1 2, by simp, rfl⟩ (by simp; rfl)
  have leaf : fetched.cache.get (fixtureCertId 1) = some (fixtureCert 1 2) := rfl
  have noIssuer : buildUnverifiedChainFor fetched.roots (fixtureCert 1 2) fetched.cache =
      .error (.missingIntermediate ⟨fixtureCertId 2⟩) := by
    apply buildUnverifiedChainFor_missing_iff.mpr
    exact ⟨[], by decide, .here, by simp [RootSet.Avoids], rfl, rfl⟩
  have failed : fetched.validate (fixtureCertId 1) ⟨[], by decide⟩ [] =
      .error (.chainBuild (.missingIntermediate ⟨fixtureCertId 2⟩)) := by
    simp only [TrustStore.validate, leaf, noIssuer]
  -- The second batch also holds a certificate that was not asked for.
  have second : Fetching fixtureStore (fixtureCertId 1)
      (([] ++ [List.replicate 20 1]) ++ [List.replicate 20 2])
      (fetched.add [fixtureCert 2 9, fixtureCert 3 1]) :=
    .round first failed rfl ⟨fixtureCert 2 9, by simp, rfl⟩ (by simp; exact ⟨rfl, rfl⟩)
  exact ⟨_, second, (fetch_and_retry_converges second).1⟩

end LibddRc
