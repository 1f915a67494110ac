import LibddRc.Foundation.Format
import LibddRc.Crypto.Identifiers

/-! `colon_string`: bytes as pairs of hex digits with colons in between. Sizes are
machine integers and a string cannot outgrow the largest allocation, so the
function can panic; what it returns is known in full. -/

set_option autoImplicit false

namespace LibddRc

open Foundation

/-! ## Machine integers -/

/-- What a build decides: the range of `isize`, and whether an overflow of integer
arithmetic panics or wraps around. -/
structure Target where
  isizeMax : Nat
  overflowChecks : Bool
  /-- A `usize` has at least sixteen bits. -/
  wide : 2 ^ 15 ≤ isizeMax + 1

inductive HexPanic
  | arithmeticOverflow
  | capacityOverflow
  | sliceEndOutOfRange
  | unwrapNone
  deriving DecidableEq

namespace Target

def usizeMax (target : Target) : Nat := 2 * target.isizeMax + 1

/-- The result of an addition or a multiplication. -/
def fit (target : Target) (value : Nat) : Except HexPanic Nat :=
  if value ≤ target.usizeMax then .ok value
  else if target.overflowChecks then .error .arithmeticOverflow
  else .ok (value % (target.usizeMax + 1))

def sub (target : Target) (left right : Nat) : Except HexPanic Nat :=
  if right ≤ left then .ok (left - right)
  else if target.overflowChecks then .error .arithmeticOverflow
  else .ok (left + (target.usizeMax + 1) - right)

theorem fit_of_le {target : Target} {value : Nat} (fits : value ≤ target.usizeMax) :
    target.fit value = .ok value :=
  if_pos fits

theorem sub_of_le {target : Target} {left right : Nat} (fits : right ≤ left) :
    target.sub left right = .ok (left - right) :=
  if_pos fits

end Target

/-! ## Strings -/

/-- A string with the size of its allocation. -/
structure RustString where
  text : String
  capacity : Nat
  deriving DecidableEq

namespace RustString

def withCapacity (target : Target) (capacity : Nat) : Except HexPanic RustString :=
  if capacity ≤ target.isizeMax then .ok ⟨"", capacity⟩ else .error .capacityOverflow

/-- The capacity at least doubles when it has to grow. -/
def pushStr (target : Target) (buf : RustString) (piece : String) :
    Except HexPanic RustString :=
  let required := buf.text.utf8ByteSize + piece.utf8ByteSize
  if required ≤ buf.capacity then .ok { buf with text := buf.text ++ piece }
  else
    let grown := max (2 * buf.capacity) required
    if grown ≤ target.isizeMax then .ok ⟨buf.text ++ piece, grown⟩
    else .error .capacityOverflow

/-- The text lies in an allocation of a legal size. -/
def Allocated (target : Target) (buf : RustString) : Prop :=
  buf.text.utf8ByteSize ≤ buf.capacity ∧ buf.capacity ≤ target.isizeMax

section Pushing

variable {target : Target} {buf next : RustString} {piece : String} {capacity : Nat}

theorem withCapacity_of_le (fits : capacity ≤ target.isizeMax) :
    withCapacity target capacity = .ok ⟨"", capacity⟩ :=
  if_pos fits

theorem withCapacity_ok (made : withCapacity target capacity = .ok buf) :
    capacity ≤ target.isizeMax ∧ buf = ⟨"", capacity⟩ := by
  unfold withCapacity at made
  split at made
  · next fits =>
      cases made
      exact ⟨fits, rfl⟩
  · cases made

theorem pushStr_of_le (fits : buf.text.utf8ByteSize + piece.utf8ByteSize ≤ buf.capacity) :
    buf.pushStr target piece = .ok { buf with text := buf.text ++ piece } :=
  if_pos fits

theorem pushStr_ok (pushed : buf.pushStr target piece = .ok next) :
    next.text = buf.text ++ piece ∧ (buf.Allocated target → next.Allocated target) := by
  simp only [pushStr] at pushed
  split at pushed
  · next fits =>
      cases pushed
      refine ⟨rfl, ?_⟩
      intro allocated
      exact ⟨String.utf8ByteSize_append ▸ fits, allocated.2⟩
  · split at pushed
    · next legal =>
        cases pushed
        refine ⟨rfl, ?_⟩
        intro allocated
        constructor
        · rw [String.utf8ByteSize_append]
          exact Nat.le_max_right _ _
        · exact legal
    · cases pushed

end Pushing

end RustString

/-! ## Digits -/

/-- `{:02x}`: the digits of the number, padded with zeros to two of them. -/
def lowerHex (byte : UInt8) : String :=
  String.ofList (List.leftpad 2 '0' (Nat.toDigits 16 byte.toNat))

def hexAlphabet : List Char :=
  ['0', '1', '2', '3', '4', '5', '6', '7', '8', '9', 'a', 'b', 'c', 'd', 'e', 'f']

/-- The two lowercase hex digits of a byte. -/
def hexPair (byte : UInt8) : List Char :=
  [hexAlphabet.getD (byte.toNat / 16) '0', hexAlphabet.getD (byte.toNat % 16) '0']

/-- A pair of digits for each byte, and a colon between two pairs. -/
def colonHex (bytes : Bytes) : List Char := [':'].intercalate (bytes.map hexPair)

theorem digitChar_eq {digit : Nat} (small : digit < 16) :
    Nat.digitChar digit = hexAlphabet.getD digit '0' := by
  revert digit
  decide

theorem lowerHex_toList (byte : UInt8) : (lowerHex byte).toList = hexPair byte := by
  have bounded := byte.toNat_lt
  rw [lowerHex, String.toList_ofList, hexPair]
  by_cases single : byte.toNat < 16
  · rw [Nat.toDigits_of_lt_base single, digitChar_eq single, Nat.div_eq_of_lt single,
      Nat.mod_eq_of_lt single]
    rfl
  · have high : byte.toNat / 16 < 16 := by omega
    have low : byte.toNat % 16 < 16 := Nat.mod_lt _ (by decide)
    rw [Nat.toDigits_of_base_le (by decide) (Nat.le_of_not_lt single),
      Nat.toDigits_of_lt_base high, digitChar_eq high, digitChar_eq low]
    rfl

theorem lowerHex_size (byte : UInt8) : (lowerHex byte).utf8ByteSize = 2 := by
  have narrow : ∀ digit < 16, (hexAlphabet.getD digit '0').utf8Size = 1 := by decide
  have bounded := byte.toNat_lt
  have high := narrow (byte.toNat / 16) (by omega)
  have low := narrow (byte.toNat % 16) (by omega)
  have pushed : lowerHex byte = ("".push (hexAlphabet.getD (byte.toNat / 16) '0')).push
      (hexAlphabet.getD (byte.toNat % 16) '0') := by
    apply String.toList_inj.mp
    rw [lowerHex_toList, String.toList_push, String.toList_push]
    rfl
  rw [pushed, String.utf8ByteSize_push, String.utf8ByteSize_push, high, low]
  rfl

theorem hexPair_injective : Function.Injective hexPair := by
  -- A digit is found at its own position in the alphabet.
  have found : ∀ digit < 16, hexAlphabet.idxOf (hexAlphabet.getD digit '0') = digit := by
    decide
  intro first second same
  have firstSmall := first.toNat_lt
  have secondSmall := second.toNat_lt
  simp only [hexPair, List.cons.injEq, and_true] at same
  have high := congrArg hexAlphabet.idxOf same.1
  have low := congrArg hexAlphabet.idxOf same.2
  rw [found _ (by omega), found _ (by omega)] at high low
  apply UInt8.toNat_inj.mp
  omega

/-! ## Rendering -/

/-- The size of the rendered text, computed ahead. -/
def colonCapacity (target : Target) (length : Nat) : Except HexPanic Nat := do
  let cap ← target.fit (length * 2)
  let cap ← target.fit (cap + cap / 2)
  target.sub cap 1

/-- `&bytes[..end]`. -/
def sliceTo (bytes : Bytes) (stop : Nat) : Except HexPanic Bytes :=
  if stop ≤ bytes.length then .ok (bytes.take stop) else .error .sliceEndOutOfRange

/-- The loop over all bytes but the last. -/
def writeDelimited (target : Target) (buf : RustString) (bytes : Bytes) :
    Except HexPanic RustString :=
  bytes.foldlM (fun buf byte => buf.pushStr target (lowerHex byte ++ ":")) buf

def colonString (target : Target) (bytes : Bytes) : Except HexPanic RustString := do
  let cap ← colonCapacity target bytes.length
  let buf ← RustString.withCapacity target cap
  let stop ← target.sub bytes.length 1
  let leading ← sliceTo bytes stop
  let buf ← writeDelimited target buf leading
  match bytes.getLast? with
  | none => .error .unwrapNone
  | some last => buf.pushStr target (lowerHex last)

section Rendering

variable {target : Target} {buf final : RustString} {bytes : Bytes}

theorem colonCapacity_of_le {length : Nat} (positive : 0 < length)
    (fits : 3 * length - 1 ≤ target.isizeMax) :
    colonCapacity target length = .ok (3 * length - 1) := by
  have double : target.fit (length * 2) = .ok (length * 2) := by
    apply Target.fit_of_le
    unfold Target.usizeMax
    omega
  have triple : length * 2 + length * 2 / 2 = 3 * length := by omega
  have whole : target.fit (3 * length) = .ok (3 * length) := by
    apply Target.fit_of_le
    unfold Target.usizeMax
    omega
  have delimiters : target.sub (3 * length) 1 = .ok (3 * length - 1) := by
    apply Target.sub_of_le
    omega
  simp only [colonCapacity, double, triple, whole, delimiters, bind, Except.bind]

theorem sliceTo_leading (leading : Bytes) (last : UInt8) :
    sliceTo (leading ++ [last]) leading.length = .ok leading := by
  unfold sliceTo
  rw [if_pos (by simp), List.take_left]

theorem delimited_size (byte : UInt8) : (lowerHex byte ++ ":").utf8ByteSize = 3 := by
  rw [String.utf8ByteSize_append, lowerHex_size]
  rfl

/-- With room for all of it, the loop writes without growing the string. -/
theorem writeDelimited_of_le (fits : buf.text.utf8ByteSize + 3 * bytes.length ≤ buf.capacity) :
    ∃ text, writeDelimited target buf bytes = .ok ⟨text, buf.capacity⟩ ∧
      text.utf8ByteSize = buf.text.utf8ByteSize + 3 * bytes.length := by
  induction bytes generalizing buf with
  | nil => exact ⟨buf.text, rfl, rfl⟩
  | cons byte bytes ih =>
      rw [List.length_cons] at fits
      have piece := delimited_size byte
      have room : buf.text.utf8ByteSize + (lowerHex byte ++ ":").utf8ByteSize ≤ buf.capacity := by
        omega
      have size : (buf.text ++ (lowerHex byte ++ ":")).utf8ByteSize =
          buf.text.utf8ByteSize + 3 := by
        rw [String.utf8ByteSize_append, piece]
      obtain ⟨text, written, total⟩ :=
        @ih { buf with text := buf.text ++ (lowerHex byte ++ ":") } (by simp only [size]; omega)
      refine ⟨text, ?_, ?_⟩
      · unfold writeDelimited
        rw [List.foldlM_cons, RustString.pushStr_of_le room]
        exact written
      · rw [total, List.length_cons]
        simp only [size]
        omega

/-- Whatever the loop returns is the text before it and a delimited pair for each
byte. -/
theorem writeDelimited_ok (written : writeDelimited target buf bytes = .ok final) :
    final.text.toList =
        buf.text.toList ++ bytes.flatMap (fun byte => hexPair byte ++ [':']) ∧
      final.text.utf8ByteSize = buf.text.utf8ByteSize + 3 * bytes.length ∧
      (buf.Allocated target → final.Allocated target) := by
  induction bytes generalizing buf with
  | nil =>
      cases written
      exact ⟨(List.append_nil _).symm, rfl, id⟩
  | cons byte bytes ih =>
      unfold writeDelimited at written
      rw [List.foldlM_cons] at written
      obtain ⟨next, pushed, rest⟩ := except_bind_ok written
      obtain ⟨text, size, allocated⟩ := ih rest
      obtain ⟨appended, kept⟩ := RustString.pushStr_ok pushed
      refine ⟨?_, ?_, fun before => allocated (kept before)⟩
      · rw [text, appended, String.toList_append, String.toList_append, lowerHex_toList,
          List.flatMap_cons, List.append_assoc]
        rfl
      · rw [size, appended, String.utf8ByteSize_append, delimited_size, List.length_cons]
        omega

/-- Without a byte there is nothing to take away from, and the subtraction shows
before anything else can. -/
theorem colonString_nil : colonString target [] =
    .error (if target.overflowChecks then .arithmeticOverflow else .capacityOverflow) := by
  have zero : target.fit 0 = .ok 0 := Target.fit_of_le (Nat.zero_le _)
  have huge : ¬ target.usizeMax ≤ target.isizeMax := by
    unfold Target.usizeMax
    omega
  cases checks : target.overflowChecks with
  | true =>
      have stopped : target.sub 0 1 = .error .arithmeticOverflow := by
        simp [Target.sub, checks]
      simp [colonString, colonCapacity, zero, stopped, bind, Except.bind]
  | false =>
      have wrapped : target.sub 0 1 = .ok target.usizeMax := by
        simp [Target.sub, checks]
      simp [colonString, colonCapacity, zero, wrapped, RustString.withCapacity, huge, bind,
        Except.bind]

/-- With a last byte, neither the slice nor the `unwrap` can fail. -/
theorem colonString_concat (leading : Bytes) (last : UInt8) :
    colonString target (leading ++ [last]) =
      (do
        let cap ← colonCapacity target (leading.length + 1)
        let buf ← RustString.withCapacity target cap
        let buf ← writeDelimited target buf leading
        buf.pushStr target (lowerHex last)) := by
  have stop : target.sub (leading.length + 1) 1 = .ok leading.length :=
    Target.sub_of_le (Nat.succ_pos leading.length)
  simp only [colonString, List.length_append, List.length_singleton, stop, sliceTo_leading,
    List.getLast?_append, List.getLast?_singleton, Option.some_or, bind, Except.bind]

theorem colonString_of_le (nonempty : bytes ≠ [])
    (fits : 3 * bytes.length - 1 ≤ target.isizeMax) :
    ∃ text, colonString target bytes = .ok ⟨text, 3 * bytes.length - 1⟩ := by
  obtain ⟨leading, last, rfl⟩ : ∃ leading last, bytes = leading ++ [last] :=
    ⟨bytes.dropLast, bytes.getLast nonempty, (List.dropLast_append_getLast nonempty).symm⟩
  rw [List.length_append, List.length_singleton] at fits ⊢
  have capacity := colonCapacity_of_le (Nat.succ_pos leading.length) fits
  have empty := RustString.withCapacity_of_le fits
  obtain ⟨text, written, size⟩ :=
    @writeDelimited_of_le target ⟨"", 3 * (leading.length + 1) - 1⟩ leading
      (by simp only [String.utf8ByteSize_empty]; omega)
  have room : text.utf8ByteSize + (lowerHex last).utf8ByteSize ≤
      3 * (leading.length + 1) - 1 := by
    rw [size, lowerHex_size, String.utf8ByteSize_empty]
    omega
  have pushed := @RustString.pushStr_of_le target
    ⟨text, 3 * (leading.length + 1) - 1⟩ (lowerHex last) room
  refine ⟨text ++ lowerHex last, ?_⟩
  rw [colonString_concat]
  simp only [capacity, empty, written, bind, Except.bind, pushed]

/-- What `colon_string` can return. -/
structure Rendered (target : Target) (bytes : Bytes) (out : RustString) : Prop where
  nonempty : bytes ≠ []
  fits : 3 * bytes.length - 1 ≤ target.isizeMax
  text : out.text.toList = colonHex bytes
  size : out.text.utf8ByteSize = 3 * bytes.length - 1
  capacity : out.capacity = 3 * bytes.length - 1

theorem colonString_concat_ok {leading : Bytes} {last : UInt8}
    (returned : colonString target (leading ++ [last]) = .ok final) :
    final.text.toList = colonHex (leading ++ [last]) ∧
      final.text.utf8ByteSize = 3 * (leading ++ [last]).length - 1 ∧
      final.Allocated target := by
  rw [colonString_concat] at returned
  obtain ⟨cap, _, afterCap⟩ := except_bind_ok returned
  obtain ⟨empty, made, afterEmpty⟩ := except_bind_ok afterCap
  obtain ⟨buf, written, pushed⟩ := except_bind_ok afterEmpty
  obtain ⟨legal, rfl⟩ := RustString.withCapacity_ok made
  obtain ⟨text, size, allocated⟩ := writeDelimited_ok written
  obtain ⟨appended, kept⟩ := RustString.pushStr_ok pushed
  refine ⟨?_, ?_, kept (allocated ⟨Nat.zero_le cap, legal⟩)⟩
  · rw [appended, String.toList_append, text, lowerHex_toList, colonHex, intercalate_blocks]
    rfl
  · rw [appended, String.utf8ByteSize_append, size, lowerHex_size, String.utf8ByteSize_empty,
      List.length_append, List.length_singleton]
    omega

theorem colonString_ok (returned : colonString target bytes = .ok final) :
    Rendered target bytes final := by
  rcases List.eq_nil_or_concat' bytes with rfl | ⟨leading, last, rfl⟩
  · rw [colonString_nil] at returned
    cases returned
  · obtain ⟨text, size, inside, legal⟩ := colonString_concat_ok returned
    have nonempty : leading ++ [last] ≠ [] := by simp
    have fits : 3 * (leading ++ [last]).length - 1 ≤ target.isizeMax := by omega
    -- The text that fits is the one written without growing the string.
    obtain ⟨same, again⟩ := colonString_of_le nonempty fits
    rw [returned] at again
    cases again
    exact ⟨nonempty, fits, text, size, rfl⟩

theorem colonHex_inj {first second : Bytes} (firstNonempty : first ≠ [])
    (secondNonempty : second ≠ []) (same : colonHex first = colonHex second) :
    first = second := by
  have width : ∀ byte, (hexPair byte).length = 2 := fun _ => rfl
  exact intercalate_blocks_inj width hexPair_injective firstNonempty secondNonempty same

example : colonString ⟨2 ^ 63 - 1, true, by decide⟩ [42, 13, 0, 0xca, 0xfe] =
    .ok ⟨"2a:0d:00:ca:fe", 14⟩ := by decide +kernel

end Rendering

end LibddRc
