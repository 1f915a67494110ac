import LibddRc.Foundation.HashCache
import LibddRc.Foundation.TransitionSystem
import LibddRc.Crypto.HexStr
import LibddRc.Trust.TrustStore

/-! The certificate cache in memory. Certificates sit behind shared pointers and
their texts are rendered lazily, so both the stored keys and the certificates may
change while the cache holds them. The cache itself belongs to another crate. -/

set_option autoImplicit false

namespace LibddRc

open Foundation

/-! ## Keys -/

/-- What a value feeds to a hasher. -/
inductive HasherWrite
  | lengthPrefix (length : Nat)
  | bytes (bytes : Bytes)
  | u8 (byte : UInt8)
  deriving DecidableEq

/-- `get_or_init`: the first rendering stays. -/
def CachedStringRepr.getOrInit (repr : CachedStringRepr) (text : String) : CachedStringRepr :=
  ⟨some (repr.value.getD text)⟩

/-- The same whether or not the text has been rendered. -/
def CachedStringRepr.hash (_ : CachedStringRepr) : List HasherWrite := [.u8 42]

/-- The derived hash goes through all fields. -/
def CertId.hash (id : CertId) : List HasherWrite :=
  [.lengthPrefix id.bytes.length, .bytes id.bytes] ++ id.rendered.hash

/-- The id after a call of `as_hex_str` that rendered it so. -/
def CertId.render (id : CertId) (text : String) : CertId :=
  { id with rendered := id.rendered.getOrInit text }

structure DangerousComparableId where
  id : CertId

namespace DangerousComparableId

def eq (first second : DangerousComparableId) : Bool := first.id.bytes == second.id.bytes

def hash (key : DangerousComparableId) : List HasherWrite := key.id.hash

def ops : KeyOps DangerousComparableId (List HasherWrite) := ⟨eq, hash⟩

theorem eq_iff {first second : DangerousComparableId} :
    ops.eq first second = true ↔ first.id.bytes = second.id.bytes :=
  beq_iff_eq

/-- The handwritten equality agrees with the derived hash, which also covers the
rendered text. -/
theorem lawful : ops.Lawful := by
  constructor
  case refl =>
    intro key
    exact eq_iff.mpr rfl
  case symm =>
    intro first second same
    exact eq_iff.mpr (eq_iff.mp same).symm
  case trans =>
    intro first second third same next
    exact eq_iff.mpr ((eq_iff.mp same).trans (eq_iff.mp next))
  case feed =>
    intro first second same
    simp [ops, hash, CertId.hash, CachedStringRepr.hash, eq_iff.mp same]

end DangerousComparableId

/-! ## Certificates -/

/-- The lazily rendered texts of a certificate. -/
inductive CertText
  | serialNumber
  | fingerprint
  | validity
  | certId
  | issuerCertId
  deriving DecidableEq

def UntrustedCert.render (cert : UntrustedCert) (which : CertText) (text : String) :
    UntrustedCert :=
  ⟨match which with
  | .serialNumber => { cert.cert with serialNumber :=
      { cert.cert.serialNumber with rendered := cert.cert.serialNumber.rendered.getOrInit text } }
  | .fingerprint => { cert.cert with fingerprint :=
      { cert.cert.fingerprint with rendered := cert.cert.fingerprint.rendered.getOrInit text } }
  | .validity => { cert.cert with validity :=
      { cert.cert.validity with rendered := cert.cert.validity.rendered.getOrInit text } }
  | .certId => { cert.cert with certId := cert.cert.certId.render text }
  | .issuerCertId => { cert.cert with
      issuerCertId := ⟨cert.cert.issuerCertId.asCertId.render text⟩ }⟩

/-- The certificate without its rendered texts. -/
def UntrustedCert.unrendered (cert : UntrustedCert) : UntrustedCert :=
  ⟨{ cert.cert with
    serialNumber := { cert.cert.serialNumber with rendered := {} }
    fingerprint := { cert.cert.fingerprint with rendered := {} }
    validity := { cert.cert.validity with rendered := {} }
    certId := { cert.cert.certId with rendered := {} }
    issuerCertId := ⟨{ cert.cert.issuerCertId.asCertId with rendered := {} }⟩ }⟩

theorem UntrustedCert.unrendered_render (cert : UntrustedCert) (which : CertText)
    (text : String) : (cert.render which text).unrendered = cert.unrendered := by
  cases which with
  | serialNumber => rfl
  | fingerprint => rfl
  | validity => rfl
  | certId => rfl
  | issuerCertId => rfl

theorem UntrustedCert.certId_of_unrendered {first second : UntrustedCert}
    (same : first.unrendered = second.unrendered) :
    first.certId.bytes = second.certId.bytes := by
  have bytes := congrArg (fun cert : UntrustedCert => cert.certId.bytes) same
  exact bytes

/-! ## The cache -/

/-- A certificate behind an `Arc`, by the order of allocation. -/
abbrev Arc := Nat

inductive CachePc
  | ready
  /-- `get` has looked the id up and is about to compare the ids. -/
  | comparing (id : CertId) (got : Option Arc)
  | returned (id : CertId) (got : Option Arc)
  /-- The assertion in `get` has failed. -/
  | panicked

/-- Whether the next call can be made. -/
def CachePc.callable : CachePc → Bool
  | .ready | .returned _ _ => true
  | .comparing _ _ | .panicked => false

variable {crate : CacheCrate}

structure MemoryCertCache (crate : CacheCrate) where
  certs : (crate.cache DangerousComparableId.ops Arc).State
  arcs : List UntrustedCert
  pc : CachePc

inductive CacheAct
  | insert (cert : UntrustedCert)
  | get (id : CertId)
  | compare
  | remove (id : CertId)
  | evict (victim : Nat)
  | renderKey (position : Nat) (text : String)
  | renderQuery (text : String)
  | renderCert (arc : Arc) (which : CertText) (text : String)

namespace MemoryCertCache

def new (crate : CacheCrate) : MemoryCertCache crate where
  certs := (crate.cache DangerousComparableId.ops Arc).new
  arcs := []
  pc := .ready

def insert (state : MemoryCertCache crate) (cert : UntrustedCert) : MemoryCertCache crate where
  certs := (crate.cache DangerousComparableId.ops Arc).insert state.certs ⟨cert.certId⟩
    state.arcs.length
  arcs := state.arcs ++ [cert]
  pc := .ready

def lookup (state : MemoryCertCache crate) (id : CertId) : Option Arc :=
  (crate.cache DangerousComparableId.ops Arc).get state.certs ⟨id⟩

/-- The assertion in `get`, and its return. -/
def compare (state : MemoryCertCache crate) (id : CertId) (got : Option Arc) : CachePc :=
  match got with
  | none => .returned id none
  | some arc =>
      match state.arcs[arc]? with
      | none => .panicked
      | some cert =>
          if DangerousComparableId.eq ⟨cert.certId⟩ ⟨id⟩ then .returned id got else .panicked

def remove (state : MemoryCertCache crate) (id : CertId) : MemoryCertCache crate :=
  { state with
    certs := (crate.cache DangerousComparableId.ops Arc).invalidate state.certs ⟨id⟩
    pc := .ready }

/-- Calls are made one after the other. Evictions and renderings come in between
and while `get` is at work. -/
def step (state : MemoryCertCache crate) : CacheAct → Option (MemoryCertCache crate)
  | .insert cert => if state.pc.callable then some (state.insert cert) else none
  | .get id =>
      if state.pc.callable then some { state with pc := .comparing id (state.lookup id) } else none
  | .compare =>
      match state.pc with
      | .comparing id got => some { state with pc := state.compare id got }
      | _ => none
  | .remove id => if state.pc.callable then some (state.remove id) else none
  | .evict victim => some { state with
      certs := (crate.cache DangerousComparableId.ops Arc).evict state.certs victim }
  | .renderKey position text => some { state with
      certs := (crate.cache DangerousComparableId.ops Arc).change state.certs position
        fun key => ⟨key.id.render text⟩ }
  | .renderQuery text =>
      match state.pc with
      | .comparing id got => some { state with pc := .comparing (id.render text) got }
      | _ => none
  | .renderCert arc which text => some { state with
      arcs := state.arcs.modify arc fun cert => cert.render which text }

def system (crate : CacheCrate) : System (MemoryCertCache crate) CacheAct where
  initial state := state = new crate
  step := step

end MemoryCertCache

/-! ## What was inserted last -/

/-- A record of the calls: every certificate in the order of insertion, and for
each id the one inserted last and not removed since. -/
structure Ledger where
  inserted : List UntrustedCert
  last : Bytes → Option Arc
  keyed : ∀ id arc, last id = some arc →
    ∃ cert, inserted[arc]? = some cert ∧ cert.certId.bytes = id

namespace Ledger

def empty : Ledger := ⟨[], fun _ => none, by simp⟩

def insert (ledger : Ledger) (cert : UntrustedCert) : Ledger where
  inserted := ledger.inserted ++ [cert]
  last id := if cert.certId.bytes = id then some ledger.inserted.length else ledger.last id
  keyed id arc found := by
    split at found
    · next same =>
        cases found
        exact ⟨cert, by simp, same⟩
    · obtain ⟨held, at_, same⟩ := ledger.keyed id arc found
      exact ⟨held, List.getElem?_append_left (List.getElem?_eq_some_iff.mp at_).1 ▸ at_, same⟩

def remove (ledger : Ledger) (removed : CertId) : Ledger where
  inserted := ledger.inserted
  last id := if removed.bytes = id then none else ledger.last id
  keyed id arc found := by
    split at found
    · cases found
    · exact ledger.keyed id arc found

theorem last_insert (ledger : Ledger) (cert : UntrustedCert) (id : Bytes) :
    (ledger.insert cert).last id =
      if cert.certId.bytes = id then some ledger.inserted.length else ledger.last id :=
  rfl

theorem last_remove (ledger : Ledger) (removed : CertId) (id : Bytes) :
    (ledger.remove removed).last id = if removed.bytes = id then none else ledger.last id :=
  rfl

def record (ledger : Ledger) : CacheAct → Ledger
  | .insert cert => ledger.insert cert
  | .remove id => ledger.remove id
  | _ => ledger

/-- The record of a sequence of actions. -/
def of (acts : List CacheAct) : Ledger := acts.foldl record empty

end Ledger

/-- What `get` may answer: the certificate inserted last, or nothing once there
has been an eviction. -/
def Ledger.Answers (ledger : Ledger) (evicted : Bool) (id : CertId) (got : Option Arc) : Prop :=
  got = ledger.last id.bytes ∨ got = none ∧ evicted = true

def CachePc.Tracked (ledger : Ledger) (evicted : Bool) : CachePc → Prop
  | .ready => True
  | .comparing id got | .returned id got => ledger.Answers evicted id got
  | .panicked => False

/-- The cache agrees with the record of the calls made on it. -/
structure Tracks (ledger : Ledger) (evicted : Bool) (state : MemoryCertCache crate) : Prop where
  arcs : state.arcs.map UntrustedCert.unrendered =
    ledger.inserted.map UntrustedCert.unrendered
  held : ∀ id, ledger.Answers evicted id (state.lookup id)
  pc : state.pc.Tracked ledger evicted

def CacheAct.isEvict : CacheAct → Bool
  | .evict _ => true
  | _ => false

section Lookups

variable (state : MemoryCertCache crate) (id : CertId)

theorem MemoryCertCache.correct :
    (crate.cache DangerousComparableId.ops Arc).Correct DangerousComparableId.ops :=
  crate.correct _ _ DangerousComparableId.lawful

theorem MemoryCertCache.lookup_new : (new crate).lookup id = none :=
  correct.get_new _

theorem MemoryCertCache.lookup_insert (cert : UntrustedCert) :
    (state.insert cert).lookup id =
      if cert.certId.bytes = id.bytes then some state.arcs.length else state.lookup id := by
  simp only [lookup, insert, correct.get_insert, DangerousComparableId.eq_iff]

theorem MemoryCertCache.lookup_remove (removed : CertId) :
    (state.remove removed).lookup id =
      if removed.bytes = id.bytes then none else state.lookup id := by
  simp only [lookup, remove, correct.get_invalidate, DangerousComparableId.eq_iff]

end Lookups

section Steps

variable {ledger : Ledger} {evicted : Bool} {state next : MemoryCertCache crate} {act : CacheAct}
  {id : CertId} {got : Option Arc}

theorem Ledger.Answers.weaken (answers : ledger.Answers evicted id got) (more : Bool) :
    ledger.Answers (evicted || more) id got := by
  rcases answers with last | ⟨nothing, dropped⟩
  · exact .inl last
  · exact .inr ⟨nothing, by simp [dropped]⟩

theorem CachePc.Tracked.weaken {pc : CachePc} (tracked : pc.Tracked ledger evicted) (more : Bool) :
    pc.Tracked ledger (evicted || more) := by
  cases pc with
  | ready => trivial
  | comparing => exact Ledger.Answers.weaken tracked more
  | returned => exact Ledger.Answers.weaken tracked more
  | panicked => exact tracked

theorem Tracks.length (tracks : Tracks ledger evicted state) :
    state.arcs.length = ledger.inserted.length := by
  simpa using congrArg List.length tracks.arcs

/-- An answer points to a certificate that was inserted with the id asked for. -/
theorem Tracks.answer (tracks : Tracks ledger evicted state) {arc : Arc}
    (answers : ledger.Answers evicted id (some arc)) :
    ∃ cert inserted, state.arcs[arc]? = some cert ∧ ledger.inserted[arc]? = some inserted ∧
      cert.unrendered = inserted.unrendered ∧ cert.certId.bytes = id.bytes := by
  obtain last | ⟨nothing, _⟩ := answers
  · obtain ⟨inserted, position, bytes⟩ := ledger.keyed _ _ last.symm
    have same := congrArg (·[arc]?) tracks.arcs
    simp only [List.getElem?_map, position, Option.map_some] at same
    obtain ⟨cert, held, unrendered⟩ := Option.map_eq_some_iff.mp same
    exact ⟨cert, inserted, held, position, unrendered,
      (UntrustedCert.certId_of_unrendered unrendered).trans bytes⟩
  · cases nothing

theorem Tracks.compare (tracks : Tracks ledger evicted state)
    (answers : ledger.Answers evicted id got) : state.compare id got = .returned id got := by
  cases got with
  | none => rfl
  | some arc =>
      obtain ⟨cert, _, held, _, _, bytes⟩ := tracks.answer answers
      have equal : DangerousComparableId.eq ⟨cert.certId⟩ ⟨id⟩ = true :=
        DangerousComparableId.eq_iff.mpr bytes
      simp [MemoryCertCache.compare, held, equal]

theorem Tracks.insert (tracks : Tracks ledger evicted state) (cert : UntrustedCert) :
    Tracks (ledger.insert cert) evicted (state.insert cert) := by
  constructor
  case arcs => simp [MemoryCertCache.insert, Ledger.insert, tracks.arcs]
  case held =>
    intro id
    unfold Ledger.Answers
    rw [MemoryCertCache.lookup_insert, Ledger.last_insert, tracks.length]
    split
    · exact .inl rfl
    · exact tracks.held id
  case pc => trivial

theorem Tracks.remove (tracks : Tracks ledger evicted state) (removed : CertId) :
    Tracks (ledger.remove removed) evicted (state.remove removed) := by
  constructor
  case arcs => exact tracks.arcs
  case held =>
    intro id
    unfold Ledger.Answers
    rw [MemoryCertCache.lookup_remove, Ledger.last_remove]
    split
    · exact .inl rfl
    · exact tracks.held id
  case pc => trivial

theorem Tracks.evict (tracks : Tracks ledger evicted state) (victim : Nat) :
    Tracks ledger true { state with
      certs := (crate.cache DangerousComparableId.ops Arc).evict state.certs victim } := by
  constructor
  case arcs => exact tracks.arcs
  case held =>
    intro id
    rcases MemoryCertCache.correct.get_evict state.certs victim ⟨id⟩ with dropped | kept
    · exact .inr ⟨dropped, rfl⟩
    · change ledger.Answers true id (CacheOps.get _ _ _)
      rw [kept]
      have answers := (tracks.held id).weaken true
      rwa [Bool.or_true] at answers
  case pc => simpa using tracks.pc.weaken true

theorem Tracks.renderKey (tracks : Tracks ledger evicted state) (position : Nat)
    (text : String) :
    Tracks ledger evicted { state with
      certs := (crate.cache DangerousComparableId.ops Arc).change state.certs position
        fun key => ⟨key.id.render text⟩ } := by
  constructor
  case arcs => exact tracks.arcs
  case held =>
    intro id
    have kept := MemoryCertCache.correct.get_change state.certs position
      (fun key => ⟨key.id.render text⟩) ⟨id⟩ fun _ => DangerousComparableId.eq_iff.mpr rfl
    change ledger.Answers evicted id (CacheOps.get _ _ _)
    rw [kept]
    exact tracks.held id
  case pc => exact tracks.pc

theorem Tracks.renderCert (tracks : Tracks ledger evicted state) (arc : Arc) (which : CertText)
    (text : String) :
    Tracks ledger evicted { state with
      arcs := state.arcs.modify arc fun cert => cert.render which text } := by
  constructor
  case arcs =>
    rw [← tracks.arcs]
    apply List.ext_getElem?
    intro index
    simp only [List.getElem?_map, List.getElem?_modify]
    cases state.arcs[index]? with
    | none => rfl
    | some cert =>
        by_cases here : arc = index
        · simp [here, UntrustedCert.unrendered_render]
        · simp [here]
  case held => exact tracks.held
  case pc => exact tracks.pc

theorem Tracks.quiet (tracks : Tracks ledger evicted state) :
    Tracks ledger (evicted || false) state := by
  rwa [Bool.or_false]

theorem Tracks.step (tracks : Tracks ledger evicted state)
    (stepped : (MemoryCertCache.system crate).step state act = some next) :
    Tracks (ledger.record act) (evicted || act.isEvict) next := by
  simp only [MemoryCertCache.system] at stepped
  cases act with
  | insert cert =>
      obtain ⟨_, same⟩ := Option.ite_none_right_eq_some.mp stepped
      cases same
      exact (tracks.insert cert).quiet
  | get id =>
      obtain ⟨_, same⟩ := Option.ite_none_right_eq_some.mp stepped
      cases same
      apply Tracks.quiet
      exact ⟨tracks.arcs, tracks.held, tracks.held id⟩
  | compare =>
      simp only [MemoryCertCache.step] at stepped
      split at stepped
      · next id got comparing =>
          cases stepped
          have answers := tracks.pc
          rw [comparing] at answers
          rw [tracks.compare answers]
          apply Tracks.quiet
          exact ⟨tracks.arcs, tracks.held, answers⟩
      · cases stepped
  | remove id =>
      obtain ⟨_, same⟩ := Option.ite_none_right_eq_some.mp stepped
      cases same
      exact (tracks.remove id).quiet
  | evict victim =>
      cases stepped
      rw [CacheAct.isEvict, Bool.or_true]
      exact tracks.evict victim
  | renderKey position text =>
      cases stepped
      exact (tracks.renderKey position text).quiet
  | renderQuery text =>
      simp only [MemoryCertCache.step] at stepped
      split at stepped
      · next id got comparing =>
          cases stepped
          have answers := tracks.pc
          rw [comparing] at answers
          apply Tracks.quiet
          exact ⟨tracks.arcs, tracks.held, answers⟩
      · cases stepped
  | renderCert arc which text =>
      cases stepped
      exact (tracks.renderCert arc which text).quiet

theorem Tracks.run (tracks : Tracks ledger evicted state) {acts : List CacheAct}
    (ran : (MemoryCertCache.system crate).run state acts = some next) :
    Tracks (acts.foldl Ledger.record ledger) (evicted || acts.any CacheAct.isEvict) next := by
  induction acts generalizing ledger evicted state with
  | nil =>
      cases ran
      simpa using tracks
  | cons act acts ih =>
      obtain ⟨middle, stepped, rest⟩ := Option.bind_eq_some_iff.mp ran
      have later := ih (tracks.step stepped) rest
      rwa [Bool.or_assoc] at later

theorem Tracks.new : Tracks Ledger.empty false (MemoryCertCache.new crate) where
  arcs := rfl
  held id := .inl (MemoryCertCache.lookup_new id)
  pc := trivial

end Steps

/-- Whatever calls are made, with evictions and renderings in between, the
assertion in `get` holds, `get` answers with the certificate last inserted under
the id and not removed since or with nothing, and without evictions it does
answer with that certificate. -/
theorem memory_cert_cache_get (crate : CacheCrate) {acts : List CacheAct}
    {state : MemoryCertCache crate}
    (ran : (MemoryCertCache.system crate).run (.new crate) acts = some state) :
    state.pc ≠ .panicked ∧
    (∀ id got, state.pc = .comparing id got →
      (MemoryCertCache.system crate).step state .compare =
        some { state with pc := .returned id got }) ∧
    ∀ id got, state.pc = .returned id got →
      (got = none ∨ got = (Ledger.of acts).last id.bytes) ∧
      ((∀ victim, .evict victim ∉ acts) → got = (Ledger.of acts).last id.bytes) ∧
      ∀ arc, got = some arc → ∃ cert inserted,
        state.arcs[arc]? = some cert ∧ (Ledger.of acts).inserted[arc]? = some inserted ∧
        cert.unrendered = inserted.unrendered ∧ cert.certId.bytes = id.bytes := by
  have tracks := Tracks.new.run ran
  have tracked := tracks.pc
  refine ⟨?_, ?_, ?_⟩
  · intro panicked
    rw [panicked] at tracked
    exact tracked
  · intro id got comparing
    rw [comparing] at tracked
    simp only [MemoryCertCache.system, MemoryCertCache.step, comparing, tracks.compare tracked]
  · intro id got returned
    rw [returned] at tracked
    refine ⟨?_, ?_, ?_⟩
    · rcases tracked with last | ⟨nothing, _⟩
      · exact .inr last
      · exact .inl nothing
    · intro undisturbed
      rcases tracked with last | ⟨_, dropped⟩
      · exact last
      · obtain ⟨act, member, evicts⟩ : ∃ act ∈ acts, act.isEvict = true := by
          simpa using dropped
        cases act with
        | evict victim => exact absurd member (undisturbed victim)
        | _ => cases evicts
    · intro arc found
      rw [found] at tracked
      exact tracks.answer tracked

/-- A certificate is found although its id was rendered, in the stored key and in
the certificate, before the ids were compared. -/
theorem memory_cert_cache_get_rendered :
    ∃ state : MemoryCertCache (hashTables fun _ _ => 0),
      state.pc = .returned (fixtureCertId 1) (some 0) ∧
      some 0 = (Ledger.of [.insert (fixtureCert 1 2), .get (fixtureCertId 1),
        .renderKey 0 "01", .renderCert 0 .certId "01", .compare]).last (fixtureCertId 1).bytes := by
  obtain ⟨state, ran, returned⟩ : ∃ state,
      (MemoryCertCache.system (hashTables fun _ _ => 0)).run (.new _)
        [.insert (fixtureCert 1 2), .get (fixtureCertId 1), .renderKey 0 "01",
          .renderCert 0 .certId "01", .compare] = some state ∧
      state.pc = .returned (fixtureCertId 1) (some 0) := ⟨_, rfl, rfl⟩
  have answer := (memory_cert_cache_get _ ran).2.2 _ _ returned
  exact ⟨state, returned, answer.2.1 (by simp)⟩

/-! ## The cache of the trust store -/

def CertCache.remove (cache : CertCache) (removed : CertId) : CertCache where
  entries id := if removed.bytes = id then none else cache.entries id
  keyed id cert held := by
    split at held
    · cases held
    · exact cache.keyed id cert held

theorem CertCache.empty_keyed (id : Bytes) (cert : UntrustedCert) (found : none = some cert) :
    cert.certId.bytes = id := by
  cases found

def CertCache.empty : CertCache := ⟨fun _ => none, CertCache.empty_keyed⟩

/-- The calls of a run made on the map that the trust store is stated over. -/
def CertCache.call (cache : CertCache) : CacheAct → CertCache
  | .insert cert => cache.insert cert
  | .remove id => cache.remove id
  | _ => cache

/-- The map from ids to certificates that a record of calls amounts to. -/
def Ledger.contents (ledger : Ledger) : CertCache where
  entries id := (ledger.last id).bind fun arc => ledger.inserted[arc]?
  keyed id cert held := by
    obtain ⟨arc, last, position⟩ := Option.bind_eq_some_iff.mp held
    obtain ⟨inserted, found, same⟩ := ledger.keyed id arc last
    rw [found] at position
    exact Option.some.inj position ▸ same

theorem CertCache.eq_of_entries {first second : CertCache}
    (same : ∀ id, first.entries id = second.entries id) : first = second := by
  cases first
  cases second
  simpa using funext same

theorem Ledger.contents_insert (ledger : Ledger) (cert : UntrustedCert) :
    (ledger.insert cert).contents = ledger.contents.insert cert := by
  apply CertCache.eq_of_entries
  intro id
  simp only [Ledger.contents, CertCache.insert, Ledger.last_insert]
  split
  · simp [Ledger.insert]
  · cases last : ledger.last id with
    | none => rfl
    | some arc =>
        obtain ⟨held, position, _⟩ := ledger.keyed id arc last
        exact List.getElem?_append_left (List.getElem?_eq_some_iff.mp position).1

theorem Ledger.contents_remove (ledger : Ledger) (removed : CertId) :
    (ledger.remove removed).contents = ledger.contents.remove removed := by
  apply CertCache.eq_of_entries
  intro id
  simp only [Ledger.contents, CertCache.remove, Ledger.last_remove]
  split
  · rfl
  · rfl

theorem Ledger.contents_record (ledger : Ledger) (act : CacheAct) :
    (ledger.record act).contents = ledger.contents.call act := by
  cases act with
  | insert cert => exact ledger.contents_insert cert
  | remove id => exact ledger.contents_remove id
  | _ => rfl

theorem Ledger.contents_of (acts : List CacheAct) :
    (Ledger.of acts).contents = acts.foldl CertCache.call CertCache.empty := by
  have general : ∀ ledger : Ledger, (acts.foldl Ledger.record ledger).contents =
      acts.foldl CertCache.call ledger.contents := by
    induction acts with
    | nil =>
        intro ledger
        rfl
    | cons act acts ih =>
        intro ledger
        rw [List.foldl_cons, List.foldl_cons, ih, ledger.contents_record]
  exact general Ledger.empty

/-- Without evictions the cache in memory answers as the map that the trust store
is stated over, up to rendered texts. -/
theorem memory_cert_cache_refines (crate : CacheCrate) {acts : List CacheAct}
    {state : MemoryCertCache crate}
    (ran : (MemoryCertCache.system crate).run (.new crate) acts = some state)
    (undisturbed : ∀ act ∈ acts, act.isEvict = false) (id : CertId) :
    ((state.lookup id).bind fun arc => state.arcs[arc]?).map UntrustedCert.unrendered =
      ((acts.foldl CertCache.call CertCache.empty).get id).map UntrustedCert.unrendered := by
  have tracks := Tracks.new.run ran
  have quiet : acts.any CacheAct.isEvict = false := by simpa using undisturbed
  have answers := tracks.held id
  rw [quiet] at answers
  obtain last | ⟨_, dropped⟩ := answers
  · have same := fun arc : Arc => congrArg (·[arc]?) tracks.arcs
    simp only [List.getElem?_map] at same
    rw [← Ledger.contents_of, last, Option.map_bind]
    simp only [CertCache.get, Ledger.contents, Option.map_bind]
    congr 1
    funext arc
    exact same arc
  · cases dropped

end LibddRc
