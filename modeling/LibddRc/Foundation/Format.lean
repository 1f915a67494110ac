import Mathlib.Logic.Equiv.List
import Mathlib.Tactic.DeriveEncodable

/-! Translations of messages into a written form: which messages a translation
identifies, sequences of blocks of one width, and the formats that a table of
messages with their bytes gives. -/

set_option autoImplicit false

namespace Foundation

/-! ## Translations that fill in defaults -/

/-- Filling in a default confuses an absent value with the default and nothing
else. -/
theorem getD_eq_getD_iff {Value : Type} {first second : Option Value} {default : Value} :
    first.getD default = second.getD default ↔
      first = second ∨ (first = none ∧ second = some default) ∨
        (first = some default ∧ second = none) := by
  cases first with
  | none =>
      cases second with
      | none => simp
      | some value => simp [eq_comm]
  | some value =>
      cases second with
      | none => simp
      | some other => simp

/-- A translation that can be read back up to a settled form, and that does not
tell a message from its settled form, identifies exactly the messages that
settle alike. -/
theorem translate_eq_iff {Message Wire : Type} {translate : Message → Wire}
    {read : Wire → Option Message} {settled : Message → Message} {first second : Message}
    (readsFirst : read (translate first) = some (settled first))
    (readsSecond : read (translate second) = some (settled second))
    (settles : ∀ message, translate (settled message) = translate message) :
    translate first = translate second ↔ settled first = settled second := by
  constructor
  · intro same
    have readSame := congrArg read same
    rw [readsFirst, readsSecond] at readSame
    exact Option.some.inj readSame
  · intro same
    rw [← settles first, same, settles second]

theorem eq_of_related {Message Result : Type} {Differ : Message → Message → Prop}
    {view : Message → Result} {first second : Message}
    (alike : ∀ {first second}, Differ first second → view first = view second)
    (related : first = second ∨ Differ first second ∨ Differ second first) :
    view first = view second := by
  obtain same | differ | differ := related
  · rw [same]
  · exact alike differ
  · exact (alike differ).symm

/-- If equal messages are known up to a way to differ, they are known exactly
when the two at hand do not differ that way. -/
theorem exact_iff_not_differ {Message : Type} {Differ : Message → Message → Prop}
    (ne : ∀ {first second}, Differ first second → first ≠ second) (first second : Message) :
    ((first = second ∨ Differ first second ∨ Differ second first) ↔ first = second) ↔
      ¬ Differ first second ∧ ¬ Differ second first := by
  rw [or_iff_left_iff_imp, ← not_or]
  constructor
  · intro forced differ
    have same : first = second := forced differ
    obtain differ | differ := differ
    · exact ne differ same
    · exact ne differ same.symm
  · intro distinct differ
    exact absurd differ distinct

/-! ## Blocks of one width -/

section Blocks

variable {Item Symbol : Type} {block : Item → List Symbol} {width : Nat}

/-- Blocks of one width need no mark between them. -/
theorem flatMap_blocks_injective (positive : 0 < width)
    (fixed : ∀ item, (block item).length = width) (injective : Function.Injective block) :
    Function.Injective (List.flatMap block) := by
  have occupied : ∀ item items, List.flatMap block (item :: items) ≠ [] := by
    intro item items empty
    rw [List.flatMap_cons, List.append_eq_nil_iff] at empty
    have length := fixed item
    rw [empty.1, List.length_nil] at length
    omega
  intro first second same
  induction first generalizing second with
  | nil =>
      cases second with
      | nil => rfl
      | cons other rest => exact absurd same.symm (occupied other rest)
  | cons item items ih =>
      cases second with
      | nil => exact absurd same (occupied item items)
      | cons other rest =>
          rw [List.flatMap_cons, List.flatMap_cons] at same
          obtain ⟨head, tail⟩ := List.append_inj same ((fixed item).trans (fixed other).symm)
          rw [injective head, ih tail]

/-- A separator between the blocks is, but for the last one, a separator after
each. -/
theorem intercalate_blocks (separator : Symbol) (items : List Item) (last : Item) :
    [separator].intercalate ((items ++ [last]).map block) =
      items.flatMap (fun item => block item ++ [separator]) ++ block last := by
  induction items with
  | nil => exact List.intercalate_singleton
  | cons item items ih =>
      rw [List.flatMap_cons, List.append_assoc, ← ih]
      cases items with
      | nil => exact List.intercalate_cons_cons
      | cons next rest => exact List.intercalate_cons_cons

theorem intercalate_blocks_inj (fixed : ∀ item, (block item).length = width)
    (injective : Function.Injective block) {separator : Symbol} {first second : List Item}
    (firstNonempty : first ≠ []) (secondNonempty : second ≠ [])
    (same : [separator].intercalate (first.map block) =
      [separator].intercalate (second.map block)) : first = second := by
  -- With a separator after the last block too, all blocks have one width again.
  have closed : ∀ items : List Item, items ≠ [] →
      [separator].intercalate (items.map block) ++ [separator] =
        items.flatMap (fun item => block item ++ [separator]) := by
    intro items nonempty
    rw [← List.dropLast_append_getLast nonempty, intercalate_blocks]
    simp
  have separated : Function.Injective (fun item => block item ++ [separator]) := by
    intro item other equal
    exact injective (List.append_cancel_right equal)
  apply @flatMap_blocks_injective _ _ _ (width + 1) (Nat.succ_pos width) _ separated
  · rw [← closed first firstNonempty, ← closed second secondNonempty, same]
  · intro item
    rw [List.length_append, fixed, List.length_singleton]

end Blocks

/-! ## A format by numbering -/

section Numbering

variable {Message : Type} [Encodable Message]

/-- A value is written as zero bytes, as many as its number. -/
def writeNumber (message : Message) : List UInt8 := List.replicate (Encodable.encode message) 0

def readNumber (bytes : List UInt8) : Option Message := Encodable.decode bytes.length

theorem readNumber_writeNumber (message : Message) :
    readNumber (writeNumber message) = some message := by
  unfold readNumber writeNumber
  rw [List.length_replicate]
  exact Encodable.encodek message

end Numbering

/-! ## A format by table -/

/-- No two messages have the same bytes, and none starts with a zero byte. -/
def Readable {Message : Type} (entries : List (Message × List UInt8)) : Prop :=
  (entries.map Prod.snd).Nodup ∧ ∀ entry ∈ entries, entry.2.head? ≠ some 0

instance {Message : Type} (entries : List (Message × List UInt8)) :
    Decidable (Readable entries) := inferInstanceAs (Decidable (_ ∧ _))

/-- Messages with their bytes. One that is not in the table is written by its
number, after a zero byte. -/
structure Codebook (Message : Type) where
  entries : List (Message × List UInt8)
  readable : Readable entries

namespace Codebook

variable {Message : Type} [Encodable Message] (book : Codebook Message)

def write [DecidableEq Message] (message : Message) : List UInt8 :=
  match book.entries.find? (·.1 = message) with
  | some entry => entry.2
  | none => 0 :: writeNumber message

def read (bytes : List UInt8) : Option Message :=
  match book.entries.find? (·.2 = bytes) with
  | some entry => some entry.1
  | none =>
      match bytes with
      | 0 :: number => readNumber number
      | _ => none

theorem read_entry {message : Message} {bytes : List UInt8}
    (member : (message, bytes) ∈ book.entries) : book.read bytes = some message := by
  cases found : book.entries.find? (·.2 = bytes) with
  | none =>
      have absent := List.find?_eq_none.mp found (message, bytes) member
      simp at absent
  | some entry =>
      have same : entry.2 = bytes := by simpa using List.find?_some found
      have equal : entry = (message, bytes) :=
        List.inj_on_of_nodup_map book.readable.1 (List.mem_of_find?_eq_some found) member same
      simp [read, found, equal]

theorem read_number (number : List UInt8) : book.read (0 :: number) = readNumber number := by
  have absent : book.entries.find? (·.2 = 0 :: number) = none := by
    refine List.find?_eq_none.mpr fun entry member same => ?_
    refine book.readable.2 entry member ?_
    rw [of_decide_eq_true same]
    rfl
  simp [read, absent]

/-- What is written is read back, of the table or not. -/
theorem read_write [DecidableEq Message] (message : Message) :
    book.read (book.write message) = some message := by
  cases found : book.entries.find? (·.1 = message) with
  | none =>
      simp only [write, found]
      exact (book.read_number _).trans (readNumber_writeNumber message)
  | some entry =>
      have same : entry.1 = message := by simpa using List.find?_some found
      simp only [write, found]
      exact book.read_entry (same ▸ List.mem_of_find?_eq_some found)

theorem write_injective [DecidableEq Message] : Function.Injective book.write := by
  intro first second same
  have readSame := congrArg book.read same
  rw [read_write, read_write] at readSame
  exact Option.some.inj readSame

end Codebook

instance encodableUInt8 : Encodable UInt8 :=
  Encodable.ofLeftInverse UInt8.toNat UInt8.ofNat fun _ => UInt8.ofNat_toNat

instance encodableUInt32 : Encodable UInt32 :=
  Encodable.ofLeftInverse UInt32.toNat UInt32.ofNat fun _ => UInt32.ofNat_toNat

instance encodableUInt64 : Encodable UInt64 :=
  Encodable.ofLeftInverse UInt64.toNat UInt64.ofNat fun _ => UInt64.ofNat_toNat

instance encodableInt32 : Encodable Int32 :=
  Encodable.ofLeftInverse Int32.toInt Int32.ofInt Int32.ofInt_toInt

instance encodableChar : Encodable Char :=
  Encodable.ofLeftInverse Char.toNat Char.ofNat Char.ofNat_toNat

instance encodableString : Encodable String :=
  Encodable.ofLeftInverse String.toList String.ofList fun _ => String.ofList_toList

end Foundation
