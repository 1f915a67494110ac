import LibddRc.Trust.Chain
import Mathlib.Data.List.Find
import Mathlib.Data.List.Nodup

/-! Two runs of chain building compared. The walk only asks whether an id is a
root's and, when it is not, what is cached under it, so stores that answer these
questions alike give the same result. -/

set_option autoImplicit false

namespace LibddRc

variable {n : Nat}

/-- Every id that the smaller cache holds has the same certificate in the larger
one. -/
def CertCache.Extends (larger cache : CertCache) : Prop :=
  ∀ id cert, cache.get id = some cert → larger.get id = some cert

/-- The caches differ at most in what they hold under ids of roots: one is the
other after any inserting, replacing and removing of such certificates. -/
def CertCache.DiffersAtRoots (edited cache : CertCache) (roots : RootSet n) : Prop :=
  ∀ id, edited.get id ≠ cache.get id →
    ∃ root ∈ roots.roots.toList, root.certId.bytes = id.bytes

/-- No two roots carry the same id. -/
def RootSet.Distinct (roots : RootSet n) : Prop :=
  (roots.roots.toList.map fun root => root.certId.bytes).Nodup

section Loop

variable {roots other : RootSet n} {cache larger : CertCache} {id : IssuerCertId}
  {chain : List UntrustedCert}

/-- The loop sees a store through the answers to its two questions. -/
theorem buildUnverifiedLoop_congr (finds : ∀ id, other.find id = roots.find id)
    (agrees : ∀ id, roots.find id = none → larger.get id.asCertId = cache.get id.asCertId) :
    buildUnverifiedLoop other larger id chain = buildUnverifiedLoop roots cache id chain := by
  fun_induction buildUnverifiedLoop roots cache id chain with
  | case1 id chain root found => exact buildUnverifiedLoop_root ((finds id).trans found)
  | case2 id chain unrooted long =>
      exact buildUnverifiedLoop_long ((finds id).trans unrooted) long
  | case3 id chain unrooted short uncached =>
      exact buildUnverifiedLoop_uncached ((finds id).trans unrooted) short
        ((agrees id unrooted).trans uncached)
  | case4 id chain unrooted short issuer cached ih =>
      rw [buildUnverifiedLoop_next ((finds id).trans unrooted) short
        ((agrees id unrooted).trans cached), ih]

/-- A larger cache changes nothing unless it holds the id that was missing. -/
theorem buildUnverifiedLoop_extends (extended : larger.Extends cache) :
    buildUnverifiedLoop roots larger id chain = buildUnverifiedLoop roots cache id chain ∨
      ∃ missing,
        buildUnverifiedLoop roots cache id chain = .error (.missingIntermediate missing) ∧
          larger.get missing.asCertId ≠ none := by
  fun_induction buildUnverifiedLoop roots cache id chain with
  | case1 id chain root found =>
      left
      exact buildUnverifiedLoop_root found
  | case2 id chain unrooted long =>
      left
      exact buildUnverifiedLoop_long unrooted long
  | case3 id chain unrooted short uncached =>
      by_cases absent : larger.get id.asCertId = none
      · left
        exact buildUnverifiedLoop_uncached unrooted short absent
      · right
        exact ⟨id, rfl, absent⟩
  | case4 id chain unrooted short issuer cached ih =>
      rw [buildUnverifiedLoop_next unrooted short (extended _ _ cached)]
      exact ih

end Loop

/-- With distinct ids at most one root answers, so their order does not matter. -/
theorem RootSet.find_perm {roots other : RootSet n} (distinct : roots.Distinct)
    (permuted : other.roots.toList.Perm roots.roots.toList) (needle : IssuerCertId) :
    other.find needle = roots.find needle := by
  symm
  apply List.find?_eq_find?_of_perm permuted.symm
  intro first firstFound second secondFound
  apply List.inj_on_of_nodup_map distinct firstFound.1 secondFound.1
  have firstId : first.certId.bytes = needle.bytes := by simpa using firstFound.2
  have secondId : second.certId.bytes = needle.bytes := by simpa using secondFound.2
  rw [firstId, secondId]

/-- Chain building keeps its result when the cache grows, unless the id it missed
is among the new ones, and does not depend on the order of distinct roots or on
what is cached under the ids of roots. -/
theorem chain_building_stable (roots : RootSet n) (cert : UntrustedCert) (cache : CertCache) :
    (∀ larger : CertCache, larger.Extends cache →
      (∀ built, buildUnverifiedChainFor roots cert cache = .ok built →
        buildUnverifiedChainFor roots cert larger = .ok built) ∧
      (buildUnverifiedChainFor roots cert cache = .error .excessivelyLongChain →
        buildUnverifiedChainFor roots cert larger = .error .excessivelyLongChain) ∧
      ∀ missing,
        buildUnverifiedChainFor roots cert cache = .error (.missingIntermediate missing) →
        larger.get missing.asCertId = none →
        buildUnverifiedChainFor roots cert larger = .error (.missingIntermediate missing)) ∧
    (∀ other : RootSet n, roots.Distinct → other.roots.toList.Perm roots.roots.toList →
      buildUnverifiedChainFor other cert cache = buildUnverifiedChainFor roots cert cache) ∧
    (∀ edited : CertCache, edited.DiffersAtRoots cache roots →
      buildUnverifiedChainFor roots cert edited = buildUnverifiedChainFor roots cert cache) := by
  simp only [buildUnverifiedChainFor]
  refine ⟨?_, ?_, ?_⟩
  · intro larger extended
    have same := @buildUnverifiedLoop_extends n roots _ _ cert.issuerCertId [] extended
    refine ⟨?_, ?_, ?_⟩
    · intro built result
      simpa [result] using same
    · intro result
      simpa [result] using same
    · intro missing result absent
      simpa [result, absent] using same
  · intro other distinct permuted
    apply buildUnverifiedLoop_congr
    · exact RootSet.find_perm distinct permuted
    · intro id _
      rfl
  · intro edited differs
    apply buildUnverifiedLoop_congr
    · intro id
      rfl
    · intro id unrooted
      by_contra changed
      obtain ⟨root, member, same⟩ := differs id.asCertId changed
      exact RootSet.find_eq_none_iff.mp unrooted root member same

end LibddRc
