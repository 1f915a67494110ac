import LibddRc.Trust.UntrustedCert

/-! Building an unverified chain: follow issuer ids from a certificate through
the cache until a root's id comes up, an id is not cached, or too many
certificates have been collected. The cache may hold cycles and forged ids. -/

set_option autoImplicit false

namespace LibddRc

def maxIntermediates : Nat := 6

inductive ChainBuildError
  | missingIntermediate (id : IssuerCertId)
  | excessivelyLongChain

structure UntrustedChain where
  root : RootCertificate
  intermediates : List UntrustedCert

variable {n : Nat}

/-- The loop of `build_unverified_chain_for`. -/
def buildUnverifiedLoop (roots : RootSet n) (cache : CertCache) (nextCertId : IssuerCertId)
    (chain : List UntrustedCert) : Except ChainBuildError UntrustedChain :=
  match roots.find nextCertId with
  | some root => .ok ⟨root, chain⟩
  | none =>
      if chain.length ≥ maxIntermediates then .error .excessivelyLongChain
      else
        match cache.get nextCertId.asCertId with
        | none => .error (.missingIntermediate nextCertId)
        | some issuer => buildUnverifiedLoop roots cache issuer.issuerCertId (chain ++ [issuer])
termination_by maxIntermediates - chain.length
decreasing_by
  simp only [List.length_append, List.length_singleton]
  omega

def buildUnverifiedChainFor (roots : RootSet n) (cert : UntrustedCert) (cache : CertCache) :
    Except ChainBuildError UntrustedChain :=
  buildUnverifiedLoop roots cache cert.issuerCertId []

/-! ## Walks -/

/-- Following issuer ids from the first id passes through the certificates and
arrives at the last id. -/
inductive Follows (cache : CertCache) : IssuerCertId → List UntrustedCert → IssuerCertId → Prop
  | here {id : IssuerCertId} : Follows cache id [] id
  | next {id last : IssuerCertId} {cert : UntrustedCert} {certs : List UntrustedCert} :
      cache.get id.asCertId = some cert → Follows cache cert.issuerCertId certs last →
      Follows cache id (cert :: certs) last

/-- No certificate of the list has the id of a root. -/
def RootSet.Avoids (roots : RootSet n) (certs : List UntrustedCert) : Prop :=
  ∀ cert ∈ certs, ∀ root ∈ roots.roots.toList, root.certId.bytes ≠ cert.certId.bytes

/-- A root's id comes up after these certificates, and after no fewer. -/
structure ReachesRoot (roots : RootSet n) (cache : CertCache) (start : IssuerCertId)
    (certs : List UntrustedCert) (root : RootCertificate) : Prop where
  walk : ∃ last, Follows cache start certs last ∧ roots.find last = some root
  avoids : roots.Avoids certs

/-- The first id that is neither a root's nor cached comes up after these
certificates. -/
structure ReachesMissing (roots : RootSet n) (cache : CertCache) (start : IssuerCertId)
    (certs : List UntrustedCert) (missing : IssuerCertId) : Prop where
  walk : Follows cache start certs missing
  avoids : roots.Avoids certs
  unrooted : roots.find missing = none
  uncached : cache.get missing.asCertId = none

section Walks

variable {roots : RootSet n} {cache : CertCache} {id last : IssuerCertId} {cert : UntrustedCert}
  {certs : List UntrustedCert}

/-- The cache answers an id with a certificate that carries it. -/
theorem CertCache.get_certId (found : cache.get id.asCertId = some cert) :
    cert.certId.bytes = id.bytes :=
  cache.keyed _ _ found

theorem avoids_cons (found : cache.get id.asCertId = some cert) (unrooted : roots.find id = none)
    (avoids : roots.Avoids certs) : roots.Avoids (cert :: certs) := by
  intro other member
  rcases List.mem_cons.mp member with rfl | later
  · rw [CertCache.get_certId found]
    exact RootSet.find_eq_none_iff.mp unrooted
  · exact avoids other later

/-- A walk that avoids the roots does not start at a root's id once it has moved. -/
theorem unrooted_of_avoids (found : cache.get id.asCertId = some cert)
    (avoids : roots.Avoids (cert :: certs)) : roots.find id = none := by
  apply RootSet.find_eq_none_iff.mpr
  rw [← CertCache.get_certId found]
  exact avoids cert List.mem_cons_self

theorem RootSet.Avoids.tail (avoids : roots.Avoids (cert :: certs)) : roots.Avoids certs :=
  fun other member => avoids other (List.mem_cons_of_mem _ member)

/-- Each certificate of a walk carries the id that the one before it names. -/
theorem Follows.linked {start : UntrustedCert}
    (walk : Follows cache start.issuerCertId certs last) :
    (start :: certs).IsChain (fun previous cert =>
      cert.certId.bytes = previous.issuerCertId.bytes) := by
  generalize origin : start.issuerCertId = first at walk
  induction walk generalizing start with
  | here => exact .singleton _
  | next found _ ih =>
      subst origin
      exact .cons_cons (CertCache.get_certId found) (ih rfl)

theorem Follows.last_issuer {start : UntrustedCert}
    (walk : Follows cache start.issuerCertId certs last) :
    ((start :: certs).getLast (List.cons_ne_nil _ _)).issuerCertId = last := by
  generalize origin : start.issuerCertId = first at walk
  induction walk generalizing start with
  | here => exact origin
  | next found _ ih => simpa using ih rfl

end Walks

/-! ## The loop follows the walk -/

section Loop

variable {roots : RootSet n} {cache : CertCache} {id : IssuerCertId}
  {chain certs : List UntrustedCert}

/-! ### One turn -/

section Turn

variable {root : RootCertificate} {issuer : UntrustedCert}

theorem buildUnverifiedLoop_root (found : roots.find id = some root) :
    buildUnverifiedLoop roots cache id chain = .ok ⟨root, chain⟩ := by
  unfold buildUnverifiedLoop
  simp only [found]

theorem buildUnverifiedLoop_long (unrooted : roots.find id = none)
    (long : chain.length ≥ maxIntermediates) :
    buildUnverifiedLoop roots cache id chain = .error .excessivelyLongChain := by
  unfold buildUnverifiedLoop
  simp only [unrooted, long, if_true]

theorem buildUnverifiedLoop_uncached (unrooted : roots.find id = none)
    (short : ¬ chain.length ≥ maxIntermediates) (uncached : cache.get id.asCertId = none) :
    buildUnverifiedLoop roots cache id chain = .error (.missingIntermediate id) := by
  unfold buildUnverifiedLoop
  simp only [unrooted, short, if_false, uncached]

theorem buildUnverifiedLoop_next (unrooted : roots.find id = none)
    (short : ¬ chain.length ≥ maxIntermediates) (cached : cache.get id.asCertId = some issuer) :
    buildUnverifiedLoop roots cache id chain =
      buildUnverifiedLoop roots cache issuer.issuerCertId (chain ++ [issuer]) := by
  conv => lhs; unfold buildUnverifiedLoop
  simp only [unrooted, short, if_false, cached]

end Turn

/-! ### All turns -/

theorem not_full_of_walk {issuer : UntrustedCert}
    (length : (chain ++ issuer :: certs).length ≤ maxIntermediates) :
    ¬ chain.length ≥ maxIntermediates := by
  rw [List.length_append, List.length_cons] at length
  omega

theorem buildUnverifiedLoop_ok {built : UntrustedChain} (bounded : chain.length ≤ maxIntermediates)
    (result : buildUnverifiedLoop roots cache id chain = .ok built) :
    ∃ certs, built.intermediates = chain ++ certs ∧ (chain ++ certs).length ≤ maxIntermediates ∧
      ReachesRoot roots cache id certs built.root := by
  fun_induction buildUnverifiedLoop roots cache id chain with
  | case1 id chain root found =>
      cases result
      exact ⟨[], by simp, by simpa using bounded, ⟨id, .here, found⟩, by simp [RootSet.Avoids]⟩
  | case2 => cases result
  | case3 => cases result
  | case4 id chain unrooted short issuer cached ih =>
      have room : (chain ++ [issuer]).length ≤ maxIntermediates := by
        simp only [List.length_append, List.length_singleton]
        omega
      obtain ⟨certs, same, length, ⟨last, walk, found⟩, avoids⟩ := ih room result
      refine ⟨issuer :: certs, by simpa using same, by simpa using length, ⟨last, ?_, found⟩, ?_⟩
      · exact .next cached walk
      · exact avoids_cons cached unrooted avoids

theorem buildUnverifiedLoop_missing {missing : IssuerCertId}
    (result : buildUnverifiedLoop roots cache id chain = .error (.missingIntermediate missing)) :
    ∃ certs, (chain ++ certs).length < maxIntermediates ∧
      ReachesMissing roots cache id certs missing := by
  fun_induction buildUnverifiedLoop roots cache id chain with
  | case1 => cases result
  | case2 => cases result
  | case3 id chain unrooted short uncached =>
      cases result
      exact ⟨[], by simpa using short, .here, by simp [RootSet.Avoids], unrooted, uncached⟩
  | case4 id chain unrooted short issuer cached ih =>
      obtain ⟨certs, length, walk, avoids, unrootedEnd, uncached⟩ := ih result
      refine ⟨issuer :: certs, by simpa using length, ?_, ?_, unrootedEnd, uncached⟩
      · exact .next cached walk
      · exact avoids_cons cached unrooted avoids

theorem buildUnverifiedLoop_reachesRoot {root : RootCertificate}
    (reaches : ReachesRoot roots cache id certs root)
    (length : (chain ++ certs).length ≤ maxIntermediates) :
    buildUnverifiedLoop roots cache id chain = .ok ⟨root, chain ++ certs⟩ := by
  obtain ⟨⟨last, walk, found⟩, avoids⟩ := reaches
  induction walk generalizing chain with
  | here =>
      rw [buildUnverifiedLoop_root found, List.append_nil]
  | @next id last issuer certs cached _ ih =>
      have unrooted := unrooted_of_avoids cached avoids
      rw [buildUnverifiedLoop_next unrooted (not_full_of_walk length) cached,
        ih (by simpa using length) avoids.tail found, List.append_assoc, List.singleton_append]

theorem buildUnverifiedLoop_reachesMissing {missing : IssuerCertId}
    (reaches : ReachesMissing roots cache id certs missing)
    (length : (chain ++ certs).length < maxIntermediates) :
    buildUnverifiedLoop roots cache id chain = .error (.missingIntermediate missing) := by
  obtain ⟨walk, avoids, unrooted, uncached⟩ := reaches
  induction walk generalizing chain with
  | here =>
      have short : ¬ chain.length ≥ maxIntermediates := by simpa using length
      exact buildUnverifiedLoop_uncached unrooted short uncached
  | @next id last issuer certs cached _ ih =>
      rw [buildUnverifiedLoop_next (unrooted_of_avoids cached avoids)
        (not_full_of_walk length.le) cached]
      exact ih (by simpa using length) avoids.tail unrooted uncached

end Loop

/-! ## The outcome of chain building -/

section Outcome

variable {roots : RootSet n} {cert : UntrustedCert} {cache : CertCache}

theorem buildUnverifiedChainFor_ok_iff {built : UntrustedChain} :
    buildUnverifiedChainFor roots cert cache = .ok built ↔
      built.intermediates.length ≤ maxIntermediates ∧
        ReachesRoot roots cache cert.issuerCertId built.intermediates built.root := by
  constructor
  · intro result
    obtain ⟨certs, same, length, reaches⟩ := buildUnverifiedLoop_ok (Nat.zero_le _) result
    rw [List.nil_append] at same length
    exact same ▸ ⟨length, reaches⟩
  · rintro ⟨length, reaches⟩
    exact buildUnverifiedLoop_reachesRoot reaches length

theorem buildUnverifiedChainFor_missing_iff {missing : IssuerCertId} :
    buildUnverifiedChainFor roots cert cache = .error (.missingIntermediate missing) ↔
      ∃ certs, certs.length < maxIntermediates ∧
        ReachesMissing roots cache cert.issuerCertId certs missing := by
  constructor
  · intro result
    exact buildUnverifiedLoop_missing result
  · rintro ⟨certs, length, reaches⟩
    exact buildUnverifiedLoop_reachesMissing reaches length

theorem buildUnverifiedChainFor_tooLong_iff :
    buildUnverifiedChainFor roots cert cache = .error .excessivelyLongChain ↔
      (¬ ∃ root chain, chain.length ≤ maxIntermediates ∧
        ReachesRoot roots cache cert.issuerCertId chain root) ∧
      ¬ ∃ missing certs, certs.length < maxIntermediates ∧
        ReachesMissing roots cache cert.issuerCertId certs missing := by
  constructor
  · intro result
    refine ⟨?_, ?_⟩
    · rintro ⟨root, chain, length, reaches⟩
      have built : buildUnverifiedChainFor roots cert cache = .ok ⟨root, chain⟩ :=
        buildUnverifiedChainFor_ok_iff.mpr ⟨length, reaches⟩
      simp [built] at result
    · rintro ⟨missing, certs, length, reaches⟩
      have failed := buildUnverifiedChainFor_missing_iff.mpr ⟨certs, length, reaches⟩
      simp [failed] at result
  · rintro ⟨noRoot, noMissing⟩
    cases result : buildUnverifiedChainFor roots cert cache with
    | ok built => exact absurd ⟨_, _, buildUnverifiedChainFor_ok_iff.mp result⟩ noRoot
    | error failure =>
        cases failure with
        | excessivelyLongChain => rfl
        | missingIntermediate missing =>
            exact absurd ⟨_, buildUnverifiedChainFor_missing_iff.mp result⟩ noMissing

end Outcome

/-! ## Cycles -/

/-- Following issuer ids runs into a cycle without coming by a root's id. -/
def Circles (roots : RootSet n) (cache : CertCache) (start : IssuerCertId) : Prop :=
  ∃ certs target cycle, Follows cache start certs target ∧ Follows cache target cycle target ∧
    cycle ≠ [] ∧ roots.Avoids (certs ++ cycle)

section Cycles

variable {roots : RootSet n} {cache : CertCache} {id : IssuerCertId} {certs : List UntrustedCert}

/-- On the way to a cycle and around it there is always a next certificate. -/
private theorem Circles.next (circles : Circles roots cache id) : roots.find id = none ∧
    ∃ cert, cache.get id.asCertId = some cert ∧ Circles roots cache cert.issuerCertId := by
  obtain ⟨certs, target, cycle, walk, around, nonempty, avoids⟩ := circles
  cases walk with
  | next found rest =>
      refine ⟨unrooted_of_avoids found avoids, _, found, ?_⟩
      exact ⟨_, target, cycle, rest, around, nonempty, avoids.tail⟩
  | here =>
      cases around with
      | here => exact absurd rfl nonempty
      | next found rest =>
          refine ⟨unrooted_of_avoids found avoids, _, found, ?_⟩
          refine ⟨_, id, _, rest, .next found rest, nonempty, ?_⟩
          intro other member
          rcases List.mem_append.mp member with inner | outer
          · exact avoids other (List.mem_cons_of_mem _ inner)
          · exact avoids other outer

private theorem Circles.not_reachesRoot (circles : Circles roots cache id)
    {root : RootCertificate} : ¬ ReachesRoot roots cache id certs root := by
  rintro ⟨⟨last, walk, rooted⟩, avoids⟩
  induction walk with
  | here => simp [circles.next.1] at rooted
  | next found _ ih =>
      obtain ⟨cert, same, later⟩ := circles.next.2
      cases found.symm.trans same
      exact ih later avoids.tail rooted

private theorem Circles.not_reachesMissing (circles : Circles roots cache id)
    {missing : IssuerCertId} : ¬ ReachesMissing roots cache id certs missing := by
  rintro ⟨walk, avoids, unrooted, uncached⟩
  induction walk with
  | here =>
      obtain ⟨cert, found, _⟩ := circles.next.2
      simp [found] at uncached
  | next found _ ih =>
      obtain ⟨cert, same, later⟩ := circles.next.2
      cases found.symm.trans same
      exact ih later avoids.tail unrooted uncached

end Cycles

/-- Chain building succeeds exactly when a root's id comes up after at most six
cached certificates, which are then the chain. It misses an id exactly when that
is the first on the walk that is neither a root's nor cached, after fewer than
six certificates. Everything else, every cycle included, is too long. -/
theorem chain_building_outcome (roots : RootSet n) (cert : UntrustedCert) (cache : CertCache) :
    (∀ root chain, buildUnverifiedChainFor roots cert cache = .ok ⟨root, chain⟩ ↔
      chain.length ≤ 6 ∧ ReachesRoot roots cache cert.issuerCertId chain root) ∧
    (∀ root chain, buildUnverifiedChainFor roots cert cache = .ok ⟨root, chain⟩ →
      (cert :: chain).IsChain (fun previous next =>
        next.certId.bytes = previous.issuerCertId.bytes) ∧
      roots.Avoids chain ∧ root ∈ roots.roots.toList ∧
      ((cert :: chain).getLast (List.cons_ne_nil _ _)).issuerCertId.bytes = root.certId.bytes) ∧
    (∀ missing, buildUnverifiedChainFor roots cert cache = .error (.missingIntermediate missing) ↔
      ∃ certs, certs.length < 6 ∧
        ReachesMissing roots cache cert.issuerCertId certs missing) ∧
    (buildUnverifiedChainFor roots cert cache = .error .excessivelyLongChain ↔
      (¬ ∃ root chain, chain.length ≤ 6 ∧
        ReachesRoot roots cache cert.issuerCertId chain root) ∧
      ¬ ∃ missing certs, certs.length < 6 ∧
        ReachesMissing roots cache cert.issuerCertId certs missing) ∧
    (Circles roots cache cert.issuerCertId →
      buildUnverifiedChainFor roots cert cache = .error .excessivelyLongChain) := by
  refine ⟨fun root chain => buildUnverifiedChainFor_ok_iff, ?_,
    fun missing => buildUnverifiedChainFor_missing_iff, buildUnverifiedChainFor_tooLong_iff, ?_⟩
  · intro root chain result
    obtain ⟨_, ⟨last, walk, found⟩, avoids⟩ := buildUnverifiedChainFor_ok_iff.mp result
    obtain ⟨member, same⟩ := RootSet.find_eq_some found
    refine ⟨walk.linked, avoids, member, ?_⟩
    rw [walk.last_issuer, same]
  · intro circles
    apply buildUnverifiedChainFor_tooLong_iff.mpr
    constructor
    · rintro ⟨root, chain, _, reaches⟩
      exact circles.not_reachesRoot reaches
    · rintro ⟨missing, certs, _, reaches⟩
      exact circles.not_reachesMissing reaches

end LibddRc
