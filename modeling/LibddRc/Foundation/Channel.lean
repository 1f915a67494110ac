import Mathlib.Data.List.Basic

/-! Bounded first-in first-out channels. The bound is a field, so no channel
that holds more than its capacity can be built. -/

set_option autoImplicit false

namespace Foundation

/-- A channel that buffers at most `capacity` items, oldest first. -/
structure Channel (α : Type) (capacity : Nat) where
  items : List α
  bounded : items.length ≤ capacity
  deriving DecidableEq

namespace Channel

variable {α : Type} {capacity : Nat}

@[ext] theorem ext {left right : Channel α capacity} (same : left.items = right.items) :
    left = right := by
  cases left
  cases right
  cases same
  rfl

def empty : Channel α capacity := ⟨[], Nat.zero_le _⟩

/-- The first items of a list, as many as fit. -/
def ofList (items : List α) : Channel α capacity := ⟨items.take capacity, List.length_take_le _ _⟩

def length (channel : Channel α capacity) : Nat := channel.items.length

/-- Append an item, or `none` when every slot is taken. -/
def push? (channel : Channel α capacity) (item : α) : Option (Channel α capacity) :=
  if free : channel.items.length < capacity then
    some ⟨channel.items ++ [item], by rw [List.length_append]; exact free⟩
  else none

def rest (channel : Channel α capacity) : Channel α capacity :=
  ⟨channel.items.tail, by simpa using Nat.le_succ_of_le channel.bounded⟩

/-- Take the oldest item, or `none` when nothing is buffered. -/
def pop? (channel : Channel α capacity) : Option (α × Channel α capacity) :=
  channel.items.head?.map fun item => (item, channel.rest)

@[simp] theorem items_empty : (empty : Channel α capacity).items = [] := rfl

theorem length_le (channel : Channel α capacity) : channel.length ≤ capacity := channel.bounded

theorem push?_eq_some {channel next : Channel α capacity} {item : α}
    (pushed : channel.push? item = some next) :
    channel.length < capacity ∧ next.items = channel.items ++ [item] := by
  unfold push? at pushed
  split at pushed
  · next free =>
    cases pushed
    exact ⟨free, rfl⟩
  · cases pushed

theorem push?_eq_none_iff {channel : Channel α capacity} {item : α} :
    channel.push? item = none ↔ channel.length = capacity := by
  have bounded := channel.bounded
  unfold push? length
  split
  · next free => simp; omega
  · next full => simp; omega

theorem push?_of_items {channel : Channel α capacity} {items : List α}
    (held : channel.items = items) (free : items.length < capacity) (item : α) :
    channel.push? item = some ⟨items ++ [item], by rw [List.length_append]; exact free⟩ := by
  subst held
  simp [push?, free]

theorem items_ofList {items : List α} (fits : items.length ≤ capacity) :
    (ofList items : Channel α capacity).items = items := by
  exact List.take_of_length_le fits

theorem push?_ofList {items : List α} (free : items.length < capacity) (item : α) :
    (ofList items : Channel α capacity).push? item = some (ofList (items ++ [item])) := by
  rw [push?_of_items (items_ofList (Nat.le_of_lt free)) free item]
  congr 1
  ext1
  rw [items_ofList (by rw [List.length_append]; exact free)]

theorem push?_ofList_full {items : List α} (full : items.length = capacity) (item : α) :
    (ofList items : Channel α capacity).push? item = none := by
  rw [push?_eq_none_iff, length, items_ofList (Nat.le_of_eq full), full]

theorem pop?_eq_some {channel next : Channel α capacity} {item : α}
    (popped : channel.pop? = some (item, next)) : channel.items = item :: next.items := by
  obtain ⟨items, bounded⟩ := channel
  cases items with
  | nil => simp [pop?] at popped
  | cons head tail =>
      simp only [pop?, List.head?_cons, Option.map_some, Option.some.injEq,
        Prod.mk.injEq] at popped
      obtain ⟨rfl, rfl⟩ := popped
      rfl

theorem pop?_of_items {channel : Channel α capacity} {item : α} {others : List α}
    (held : channel.items = item :: others) :
    channel.pop? = some (item, channel.rest) ∧ channel.rest.items = others := by
  simp [pop?, rest, held]

theorem pop?_ofList {item : α} {items : List α} (fits : items.length < capacity) :
    (ofList (item :: items) : Channel α capacity).pop? = some (item, ofList items) := by
  have held : (ofList (item :: items) : Channel α capacity).items = item :: items :=
    items_ofList fits
  simp only [pop?, held, List.head?_cons, Option.map_some, Option.some.injEq, Prod.mk.injEq,
    true_and]
  ext1
  rw [items_ofList (Nat.le_of_lt fits)]
  exact congrArg List.tail held

theorem pop?_eq_none {channel : Channel α capacity} (popped : channel.pop? = none) :
    channel.items = [] := by
  obtain ⟨items, bounded⟩ := channel
  cases items with
  | nil => rfl
  | cons head tail => simp [pop?] at popped

end Channel

end Foundation
