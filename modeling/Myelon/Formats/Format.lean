/-
Formats of texts.

A format prints a value, and reads one off the front of a text. What is printed is read back,
whatever stands behind it, and nothing else is read. A part of a printed value can then not be
read as another one.
-/

import Mathlib.Data.List.Basic

namespace Formats

abbrev Text := List UInt8

def ascii (text : String) : Text := text.toList.map fun letter => UInt8.ofNat letter.toNat

/-- A value is told from what stands behind it, where that is such a text. -/
structure Format (Follows : Text → Prop) (Value : Type) where
  print : Value → Text
  read : Text → Option (Value × Text)
  read_print : ∀ value rest, Follows rest → read (print value ++ rest) = some (value, rest)
  print_read : ∀ text value rest, read text = some (value, rest) → text = print value ++ rest

/-- Behind a closed format may stand anything. -/
abbrev Closed (Value : Type) := Format (fun _ => True) Value

def Closed.readWhole {Value : Type} (format : Closed Value) (text : Text) : Option Value :=
  match format.read text with
  | some (value, []) => some value
  | _ => none

section Whole

variable {Value : Type} (format : Closed Value)

theorem Closed.readWhole_print (value : Value) :
    format.readWhole (format.print value) = some value := by
  have read := format.read_print value [] trivial
  rw [List.append_nil] at read
  rw [readWhole, read]

theorem Closed.readWhole_torn {value : Value} {kill : Nat}
    (torn : kill < (format.print value).length) :
    format.readWhole ((format.print value).take kill) = none := by
  rw [readWhole]
  split
  · rename_i other read
    -- with the rest of the text behind it, the part is read as one value and as the other
    have part := format.print_read _ other [] read
    have whole := List.take_append_drop kill (format.print value)
    rw [part, List.append_nil] at whole
    have once := format.read_print other ((format.print value).drop kill) trivial
    have again := format.read_print value [] trivial
    rw [List.append_nil, ← whole, once, Option.some.injEq, Prod.mk.injEq] at again
    have short := congrArg List.length again.2
    rw [List.length_drop, List.length_nil] at short
    omega
  · rfl

end Whole

/-! ### Numbers -/

def isDigit (byte : UInt8) : Bool := decide (48 ≤ byte) && decide (byte ≤ 57)

def digitByte (digit : Char) : UInt8 := UInt8.ofNat digit.toNat

def digitOf (byte : UInt8) : Char := Char.ofNat byte.toNat

def decimal (number : Nat) : Text := (Nat.toDigits 10 number).map digitByte

def valueOf (digits : Text) : Nat := Nat.ofDigitChars 10 (digits.map digitOf) 0

def NoDigit (text : Text) : Prop := ∀ byte ∈ text.head?, isDigit byte = false

theorem digit_bytes {digit : Char} (decimal : digit.isDigit = true) :
    isDigit (digitByte digit) = true ∧ digitOf (digitByte digit) = digit := by
  rw [Char.isDigit, Bool.and_eq_true, decide_eq_true_eq, decide_eq_true_eq] at decimal
  have least : 48 ≤ digit.toNat := UInt32.le_iff_toNat_le.mp decimal.1
  have most : digit.toNat ≤ 57 := UInt32.le_iff_toNat_le.mp decimal.2
  have number : (digitByte digit).toNat = digit.toNat := UInt8.toNat_ofNat_of_lt' (by
    exact Nat.lt_of_le_of_lt most (by decide))
  constructor
  · rw [isDigit, Bool.and_eq_true, decide_eq_true_eq, decide_eq_true_eq, UInt8.le_iff_toNat_le,
      UInt8.le_iff_toNat_le, number]
    exact ⟨least, most⟩
  · rw [digitOf, number, Char.ofNat_toNat]

theorem digits_decimal (number : Nat) :
    (∀ byte ∈ decimal number, isDigit byte = true) ∧ valueOf (decimal number) = number := by
  have plain : ∀ digit ∈ Nat.toDigits 10 number, digit.isDigit = true := fun digit among =>
    Nat.isDigit_of_mem_toDigits (by decide) (by decide) among
  constructor
  · intro byte among
    obtain ⟨digit, there, same⟩ := List.mem_map.mp among
    rw [← same]
    exact (digit_bytes (plain digit there)).1
  · have back : (decimal number).map digitOf = Nat.toDigits 10 number := by
      rw [decimal, List.map_map]
      exact (List.map_congr_left fun digit among => (digit_bytes (plain digit among)).2).trans
        (List.map_id _)
    rw [valueOf, back, Nat.ofDigitChars_ten_toDigits]

theorem span_digits {digits rest : Text} (all : ∀ byte ∈ digits, isDigit byte = true)
    (behind : NoDigit rest) :
    (digits ++ rest).takeWhile isDigit = digits ∧ (digits ++ rest).dropWhile isDigit = rest := by
  rw [List.takeWhile_append_of_pos all, List.dropWhile_append_of_pos all]
  cases rest with
  | nil => exact ⟨List.append_nil digits, rfl⟩
  | cons byte rest =>
    have other := behind byte rfl
    rw [List.takeWhile_cons_of_neg (by rw [other]; exact Bool.false_ne_true),
      List.dropWhile_cons_of_neg (by rw [other]; exact Bool.false_ne_true), List.append_nil]
    exact ⟨rfl, rfl⟩

/-- Numbers are printed without leading zeros, and not read with any. -/
def numeral : Format NoDigit Nat where
  print := decimal
  read text :=
    let digits := text.takeWhile isDigit
    if decimal (valueOf digits) = digits then some (valueOf digits, text.dropWhile isDigit)
    else none
  read_print value rest behind := by
    obtain ⟨digits, back⟩ := digits_decimal value
    obtain ⟨front, tail⟩ := span_digits digits behind
    dsimp only
    rw [front, tail, back, if_pos rfl]
  print_read text value rest read := by
    rw [Option.ite_none_right_eq_some, Option.some.injEq, Prod.mk.injEq] at read
    obtain ⟨printed, same, tail⟩ := read
    rw [← tail, ← same, printed, List.takeWhile_append_dropWhile]

/-! ### Parts of a text -/

section Parts

variable {Follows After : Text → Prop} {Value Other : Type}

def constant (text : Text) : Closed Unit where
  print _ := text
  read whole := if text.isPrefixOf whole then some ((), whole.drop text.length) else none
  read_print _ rest _ := by
    rw [if_pos (List.isPrefixOf_iff_prefix.mpr (List.prefix_append text rest)), List.drop_left]
  print_read whole _ rest read := by
    rw [Option.ite_none_right_eq_some, Option.some.injEq, Prod.mk.injEq] at read
    obtain ⟨front, _, tail⟩ := read
    rw [← tail]
    exact (List.prefix_iff_eq_append.mp (List.isPrefixOf_iff_prefix.mp front)).symm

def Format.pair (first : Format Follows Value) (second : Format After Other)
    (fits : ∀ value rest, After rest → Follows (second.print value ++ rest)) :
    Format After (Value × Other) where
  print values := first.print values.1 ++ second.print values.2
  read text := do
    let (value, rest) ← first.read text
    let (other, last) ← second.read rest
    return ((value, other), last)
  read_print values rest behind := by
    rw [List.append_assoc, first.read_print _ _ (fits _ _ behind), Option.bind_eq_bind,
      Option.bind_some]
    dsimp only
    rw [second.read_print _ _ behind]
    rfl
  print_read text values last read := by
    obtain ⟨⟨value, rest⟩, front, read⟩ := Option.bind_eq_some_iff.mp read
    obtain ⟨⟨other, behind⟩, back, same⟩ := Option.bind_eq_some_iff.mp read
    cases same
    rw [first.print_read _ _ _ front, second.print_read _ _ _ back, List.append_assoc]

def Format.convert (format : Format Follows Value)
    (meaning : Value → Option Other) (back : Other → Value)
    (meaning_back : ∀ other, meaning (back other) = some other)
    (back_meaning : ∀ value other, meaning value = some other → back other = value) :
    Format Follows Other where
  print other := format.print (back other)
  read text := do
    let (value, rest) ← format.read text
    let other ← meaning value
    return (other, rest)
  read_print other rest behind := by
    rw [format.read_print _ _ behind, Option.bind_eq_bind, Option.bind_some]
    dsimp only
    rw [meaning_back]
    rfl
  print_read text other last read := by
    obtain ⟨⟨value, rest⟩, front, read⟩ := Option.bind_eq_some_iff.mp read
    obtain ⟨found, same, read⟩ := Option.bind_eq_some_iff.mp read
    cases read
    rw [format.print_read _ _ _ front, back_meaning value other same]

def Format.after (front : Text) (format : Format Follows Value) : Format Follows Value :=
  ((constant front).pair format fun _ _ _ => trivial).convert (fun values => some values.2)
    (fun value => ((), value)) (fun _ => rfl) fun _ _ same => by cases same; rfl

def Format.before (format : Format Follows Value) (back : Text)
    (fits : ∀ rest, Follows (back ++ rest)) : Closed Value :=
  (format.pair (constant back) fun _ rest _ => fits rest).convert (fun values => some values.1)
    (fun value => (value, ())) (fun _ => rfl) fun _ _ same => by cases same; rfl

/-- One of two kinds of values, where no text of the second kind is read as the first. -/
def Closed.either (first : Closed Value) (second : Closed Other)
    (apart : ∀ other rest, first.read (second.print other ++ rest) = none) :
    Closed (Value ⊕ Other) where
  print
    | .inl value => first.print value
    | .inr other => second.print other
  read text :=
    match first.read text with
    | some (value, rest) => some (.inl value, rest)
    | none => (second.read text).map fun read => (.inr read.1, read.2)
  read_print value rest behind := by
    cases value with
    | inl value => rw [first.read_print value rest behind]
    | inr other =>
      rw [apart other rest, second.read_print other rest behind]
      rfl
  print_read text value rest read := by
    split at read
    · rename_i found behind front
      cases read
      exact first.print_read _ _ _ front
    · obtain ⟨⟨other, behind⟩, front, same⟩ := Option.map_eq_some_iff.mp read
      cases same
      exact second.print_read _ _ _ front

/-! ### Lists -/

variable (item : Closed Value) (comma close : UInt8)

def printMore : List Value → Text
  | [] => [close]
  | value :: later => comma :: (item.print value ++ printMore later)

/-- No list has more items than the text has bytes. -/
def readMore : Nat → Text → Option (List Value × Text)
  | 0, _ => none
  | _ + 1, [] => none
  | bound + 1, byte :: text =>
    if byte = close then some ([], text)
    else if byte = comma then do
      let (value, rest) ← item.read text
      let (later, last) ← readMore bound rest
      return (value :: later, last)
    else none

theorem length_lt_printMore (values : List Value) :
    values.length < (printMore item comma close values).length := by
  induction values with
  | nil => exact Nat.zero_lt_one
  | cons value later ih =>
    rw [printMore, List.length_cons, List.length_cons, List.length_append]
    omega

variable {item comma close}

theorem readMore_printMore (distinct : comma ≠ close) {bound : Nat} (values : List Value)
    (enough : values.length < bound) (rest : Text) :
    readMore item comma close bound (printMore item comma close values ++ rest) =
      some (values, rest) := by
  induction values generalizing bound with
  | nil =>
    cases bound with
    | zero => cases enough
    | succ bound => exact if_pos rfl
  | cons value later ih =>
    cases bound with
    | zero => cases enough
    | succ bound =>
      have behind := ih (Nat.lt_of_succ_lt_succ enough)
      rw [printMore, List.cons_append, List.append_assoc, readMore, if_neg distinct, if_pos rfl,
        item.read_print _ _ trivial, Option.bind_eq_bind, Option.bind_some]
      dsimp only
      rw [behind]
      rfl

theorem printMore_readMore {bound : Nat} {text last : Text} {values : List Value}
    (read : readMore item comma close bound text = some (values, last)) :
    text = printMore item comma close values ++ last := by
  induction bound generalizing text values with
  | zero => cases read
  | succ bound ih =>
    cases text with
    | nil => cases read
    | cons byte text =>
      rw [readMore] at read
      split at read
      · rename_i closes
        cases read
        rw [closes]
        rfl
      · split at read
        · rename_i continues
          obtain ⟨⟨value, rest⟩, front, read⟩ := Option.bind_eq_some_iff.mp read
          obtain ⟨⟨later, behind⟩, back, same⟩ := Option.bind_eq_some_iff.mp read
          cases same
          rw [continues, item.print_read _ _ _ front, ih back, printMore, List.cons_append,
            List.append_assoc]
        · cases read

/-- The items up to the closing byte. An item starts with another byte. -/
def Closed.list (item : Closed Value) (comma close opens : UInt8)
    (begins : ∀ value, (item.print value).head? = some opens) (distinct : comma ≠ close)
    (open_ne : opens ≠ close) : Closed (List Value) where
  print
    | [] => [close]
    | value :: later => item.print value ++ printMore item comma close later
  read text :=
    if text.head? = some close then some ([], text.tail)
    else do
      let (value, rest) ← item.read text
      let (later, last) ← readMore item comma close (rest.length + 1) rest
      return (value :: later, last)
  read_print values rest _ := by
    cases values with
    | nil => exact if_pos rfl
    | cons value later =>
      have first : (item.print value ++ printMore item comma close later ++ rest).head? =
          some opens := by
        rw [List.append_assoc, List.head?_append, begins]
        rfl
      have enough : later.length < (printMore item comma close later ++ rest).length + 1 := by
        have short := length_lt_printMore item comma close later
        rw [List.length_append]
        omega
      dsimp only
      rw [first, if_neg (fun same => open_ne (Option.some.inj same)), List.append_assoc,
        item.read_print _ _ trivial, Option.bind_eq_bind, Option.bind_some]
      dsimp only
      rw [readMore_printMore distinct later enough]
      rfl
  print_read text values last read := by
    dsimp only at read
    split at read
    · rename_i closes
      cases read
      cases text with
      | nil => cases closes
      | cons byte text =>
        rw [Option.some.inj closes]
        rfl
    · obtain ⟨⟨value, rest⟩, front, read⟩ := Option.bind_eq_some_iff.mp read
      obtain ⟨⟨later, behind⟩, back, same⟩ := Option.bind_eq_some_iff.mp read
      cases same
      rw [item.print_read _ _ _ front, show rest = _ from printMore_readMore back,
        List.append_assoc]

end Parts

end Formats
