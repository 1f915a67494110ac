import Mathlib.Data.List.Basic

/-! Caches that look keys up by hash and equality. Entries may be dropped at any
time, and a stored key may change in place to one that is equal to it. -/

set_option autoImplicit false

namespace Foundation

variable {Key Feed Value : Type}

/-- What a hash table asks of its keys: how they compare, and what they feed to a
hasher. -/
structure KeyOps (Key Feed : Type) where
  eq : Key → Key → Bool
  feed : Key → Feed

/-- Equality is an equivalence, and equal keys hash equally. -/
structure KeyOps.Lawful (ops : KeyOps Key Feed) : Prop where
  refl : ∀ key, ops.eq key key = true
  symm : ∀ first second, ops.eq first second = true → ops.eq second first = true
  trans : ∀ first second third,
    ops.eq first second = true → ops.eq second third = true → ops.eq first third = true
  feed : ∀ first second, ops.eq first second = true → ops.feed first = ops.feed second

/-- The operations of a cache. `evict` and `change` are not called by its users:
the one drops an entry of the cache's own choice, the other is a change in place
of some stored key. -/
structure CacheOps (Key Value : Type) where
  State : Type
  new : State
  get : State → Key → Option Value
  insert : State → Key → Value → State
  invalidate : State → Key → State
  evict : State → Nat → State
  change : State → Nat → (Key → Key) → State

/-- The cache is a map up to equality of keys, except for what it evicts. -/
structure CacheOps.Correct (cache : CacheOps Key Value) (ops : KeyOps Key Feed) : Prop where
  get_new : ∀ key, cache.get cache.new key = none
  get_insert : ∀ state stored value key, cache.get (cache.insert state stored value) key =
    if ops.eq stored key then some value else cache.get state key
  get_invalidate : ∀ state removed key, cache.get (cache.invalidate state removed) key =
    if ops.eq removed key then none else cache.get state key
  get_evict : ∀ state victim key, cache.get (cache.evict state victim) key = none ∨
    cache.get (cache.evict state victim) key = cache.get state key
  get_change : ∀ state position change key, (∀ stored, ops.eq stored (change stored) = true) →
    cache.get (cache.change state position change) key = cache.get state key

/-- A cache for every key type. It need not be correct for keys whose equality
and hash disagree. -/
structure CacheCrate where
  cache : {Key Feed : Type} → KeyOps Key Feed → (Value : Type) → CacheOps Key Value
  correct : ∀ {Key Feed : Type} (ops : KeyOps Key Feed) (Value : Type), ops.Lawful →
    (cache ops Value).Correct ops

/-! ## A table of hashed entries -/

section HashTable

/-- Keys are compared only after their hashes have been. -/
def KeyOps.probe (ops : KeyOps Key Feed) (hasher : Feed → UInt64) (stored key : Key) : Bool :=
  hasher (ops.feed stored) == hasher (ops.feed key) && ops.eq stored key

def lookupBy (same : Key → Key → Bool) (key : Key) : List (Key × Value) → Option Value
  | [] => none
  | entry :: entries => if same entry.1 key then some entry.2 else lookupBy same key entries

def removeBy (same : Key → Key → Bool) (key : Key) (entries : List (Key × Value)) :
    List (Key × Value) :=
  entries.filter fun entry => !same key entry.1

def hashTable (ops : KeyOps Key Feed) (hasher : Feed → UInt64) (Value : Type) :
    CacheOps Key Value where
  State := List (Key × Value)
  new := []
  get entries key := lookupBy (ops.probe hasher) key entries
  insert entries key value := (key, value) :: entries
  invalidate entries key := removeBy (ops.probe hasher) key entries
  evict entries victim :=
    match entries[victim]? with
    | none => entries
    | some dropped => removeBy (ops.probe hasher) dropped.1 entries
  change entries position change := entries.modify position fun entry => (change entry.1, entry.2)

variable {ops : KeyOps Key Feed} {hasher : Feed → UInt64}

theorem KeyOps.Lawful.probe_eq (lawful : ops.Lawful) : ops.probe hasher = ops.eq := by
  funext stored key
  unfold KeyOps.probe
  cases equal : ops.eq stored key with
  | false => simp
  | true => simp [lawful.feed stored key equal]

theorem KeyOps.Lawful.eq_congr (lawful : ops.Lawful) {first second : Key}
    (equal : ops.eq first second = true) (key : Key) : ops.eq first key = ops.eq second key := by
  rw [Bool.eq_iff_iff]
  constructor
  · exact lawful.trans second first key (lawful.symm first second equal)
  · exact lawful.trans first second key equal

theorem lookupBy_removeBy (lawful : ops.Lawful) (entries : List (Key × Value))
    (removed key : Key) :
    lookupBy ops.eq key (removeBy ops.eq removed entries) =
      if ops.eq removed key then none else lookupBy ops.eq key entries := by
  induction entries with
  | nil => simp [removeBy, lookupBy]
  | cons entry entries ih =>
      unfold removeBy at ih ⊢
      rw [List.filter_cons]
      cases equal : ops.eq removed entry.1 with
      | true =>
          have same := lawful.eq_congr equal key
          cases found : ops.eq entry.1 key with
          | true => simp [ih, same, found]
          | false => simp [ih, same, found, lookupBy]
      | false =>
          cases found : ops.eq entry.1 key with
          | true =>
              have other : ops.eq removed key = false := by
                rw [← Bool.not_eq_true]
                intro hit
                have through := lawful.trans _ _ _ hit (lawful.symm _ _ found)
                simp [equal] at through
              simp [other, found, lookupBy]
          | false => simp [ih, found, lookupBy]

theorem lookupBy_modify (lawful : ops.Lawful) (entries : List (Key × Value)) (position : Nat)
    (change : Key → Key) (key : Key) (same : ∀ stored, ops.eq stored (change stored) = true) :
    lookupBy ops.eq key (entries.modify position fun entry => (change entry.1, entry.2)) =
      lookupBy ops.eq key entries := by
  induction entries generalizing position with
  | nil => simp
  | cons entry entries ih =>
      cases position with
      | zero =>
          rw [List.modify_zero_cons, lookupBy, lookupBy, ← lawful.eq_congr (same entry.1) key]
      | succ position => rw [List.modify_succ_cons, lookupBy, lookupBy, ih]

theorem hashTable_correct (lawful : ops.Lawful) :
    (hashTable ops hasher Value).Correct ops := by
  constructor
  case get_new =>
    intro key
    rfl
  case get_insert =>
    intro entries stored value key
    simp only [hashTable, lawful.probe_eq, lookupBy]
  case get_invalidate =>
    intro entries removed key
    simp only [hashTable, lawful.probe_eq]
    exact lookupBy_removeBy lawful entries removed key
  case get_evict =>
    intro entries victim key
    simp only [hashTable, lawful.probe_eq]
    split
    · exact .inr rfl
    · next dropped _ =>
        have removal := lookupBy_removeBy lawful entries dropped.1 key
        cases hit : ops.eq dropped.1 key with
        | true => exact .inl (by simpa [hit] using removal)
        | false => exact .inr (by simpa [hit] using removal)
  case get_change =>
    intro entries position change key same
    simp only [hashTable, lawful.probe_eq]
    exact lookupBy_modify lawful entries position change key same

/-- Hash tables with one hasher for all key types. -/
def hashTables (hasher : (Feed : Type) → Feed → UInt64) : CacheCrate where
  cache {_ Feed} ops Value := hashTable ops (hasher Feed) Value
  correct _ _ lawful := hashTable_correct lawful

end HashTable

end Foundation
