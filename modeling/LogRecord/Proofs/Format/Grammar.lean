import LogRecord.Proofs.Format.Reading
import Mathlib.Data.Nat.Digits.Defs

/-! The grammar of directives, and reading against it.

A lead is `flags width precision lengths`. Digits may spell a width and the character `0` is a flag
too, so one text can have several leads; `Specifier.read_lead` reads all of them alike, whenever
what follows cannot go on with a lead. In the other direction `Specifier.exists_lead` finds a lead
at the front of any bytes. -/

set_option autoImplicit false
namespace LogRecord

/-! ## Spelling -/

namespace Grammar

structure Letter (alphabet : List Char) where
  character : Char
  known : character ∈ alphabet
deriving DecidableEq, Repr

def Letter.byte {alphabet : List Char} (letter : Letter alphabet) : UInt8 :=
  letter.character.toUInt8

abbrev Flag := Letter ['-', '+', ' ', '#', '0']
abbrev LengthModifier := Letter ['h', 'l', 'j', 'z', 't', 'L']

def valueTerminals : List Char :=
  ['d', 'i', 'u', 'o', 'x', 'X', 'f', 'F', 'e', 'E', 'g', 'G', 'a', 'A', 'c', 'p', '%']

abbrev Terminal := Letter (valueTerminals ++ ['s'])

def digitByte (digit : Fin 10) : UInt8 :=
  UInt8.ofNat ('0'.toNat + digit)

/-- The number that decimal digits write, however many there are. -/
def decimal (digits : List (Fin 10)) : Nat :=
  Nat.ofDigits 10 (digits.reverse.map (·.val))

inductive WidthText where
  | star
  | numeral (digits : List (Fin 10))
deriving DecidableEq, Repr

namespace WidthText

def bytes : WidthText → List UInt8
  | star => ['*'.toUInt8]
  | numeral digits => digits.map digitByte

def isStar : WidthText → Bool
  | star => true
  | numeral _ => false

def slots : WidthText → List Slot
  | star => [.width]
  | numeral _ => []

end WidthText

inductive PrecisionText where
  | absent
  | star
  | numeral (digits : List (Fin 10))
deriving DecidableEq, Repr

namespace PrecisionText

def bytes : PrecisionText → List UInt8
  | absent => []
  | star => ['.'.toUInt8, '*'.toUInt8]
  | numeral digits => '.'.toUInt8 :: digits.map digitByte

def slots : PrecisionText → List Slot
  | star => [.precision]
  | absent | numeral _ => []

def limit : PrecisionText → Precision
  | absent => .absent
  | star => .dynamic
  | numeral digits => .fixed (UInt32.ofNat (min (decimal digits) (UInt32.size - 1)))

end PrecisionText

structure Lead where
  flags : List Flag
  width : WidthText
  precision : PrecisionText
  lengths : List LengthModifier
deriving DecidableEq, Repr

def Lead.bytes (lead : Lead) : List UInt8 :=
  lead.flags.map Letter.byte ++
    (lead.width.bytes ++ (lead.precision.bytes ++ lead.lengths.map Letter.byte))

end Grammar

/-! ## Classes of bytes -/

/-- No byte of the class stands at the front. -/
def ClearOf (isMember : UInt8 → Bool) (bytes : List UInt8) : Prop :=
  ∀ byte, bytes.head? = some byte → isMember byte = false

namespace ClearOf

variable {isMember : UInt8 → Bool} {rest : List UInt8}

theorem nil : ClearOf isMember [] := by
  intro byte head
  contradiction

theorem cons {byte : UInt8} (outside : isMember byte = false) (rest : List UInt8) :
    ClearOf isMember (byte :: rest) := by
  intro first head
  obtain rfl : byte = first := Option.some.inj head
  exact outside

theorem head?_ne {mark : UInt8} (clear : ClearOf (· == mark) rest) : rest.head? ≠ some mark := by
  intro head
  simpa using clear mark head

theorem dropWhile_eq_self (clear : ClearOf isMember rest) : rest.dropWhile isMember = rest := by
  cases rest with
  | nil => rfl
  | cons first rest => exact List.dropWhile_cons_of_neg (by simp [clear first rfl])

theorem takeWhile_eq_nil (clear : ClearOf isMember rest) : rest.takeWhile isMember = [] := by
  cases rest with
  | nil => rfl
  | cons first rest => exact List.takeWhile_cons_of_neg (by simp [clear first rfl])

theorem dropWhile_append (clear : ClearOf isMember rest) (run : List UInt8) :
    (run ++ rest).dropWhile isMember = run.dropWhile isMember ++ rest := by
  rw [List.dropWhile_append, clear.dropWhile_eq_self]
  split
  next none => rw [List.isEmpty_iff.mp none, List.nil_append]
  next => rfl

variable {A : Type} {byteOf : A → UInt8}

theorem map_append (outside : ∀ a, isMember (byteOf a) = false) (clear : ClearOf isMember rest)
    (run : List A) : ClearOf isMember (run.map byteOf ++ rest) := by
  cases run with
  | nil => exact clear
  | cons a run => exact cons (outside a) _

theorem dropWhile_map_append (inside : ∀ a, isMember (byteOf a) = true)
    (clear : ClearOf isMember rest) (run : List A) :
    (run.map byteOf ++ rest).dropWhile isMember = rest := by
  rw [List.dropWhile_append_of_pos (List.forall_mem_map.mpr fun a _ => inside a),
    clear.dropWhile_eq_self]

theorem takeWhile_map_append (inside : ∀ a, isMember (byteOf a) = true)
    (clear : ClearOf isMember rest) (run : List A) :
    (run.map byteOf ++ rest).takeWhile isMember = run.map byteOf := by
  rw [List.takeWhile_append_of_pos (List.forall_mem_map.mpr fun a _ => inside a),
    clear.takeWhile_eq_nil, List.append_nil]

end ClearOf

theorem exists_map_eq_takeWhile {A : Type} {isMember : UInt8 → Bool} {byteOf : A → UInt8}
    (spelled : ∀ byte, isMember byte = true → ∃ a, byteOf a = byte) (bytes : List UInt8) :
    ∃ run : List A, run.map byteOf = bytes.takeWhile isMember := by
  have members : ∀ byte ∈ bytes.takeWhile isMember, ∃ a, byteOf a = byte :=
    fun byte member => spelled byte (List.mem_takeWhile_imp member)
  generalize bytes.takeWhile isMember = run at members
  induction run with
  | nil => exact ⟨[], rfl⟩
  | cons byte run ih =>
    obtain ⟨a, same⟩ := members byte List.mem_cons_self
    obtain ⟨tail, tailSame⟩ := ih fun other member => members other (List.mem_cons_of_mem _ member)
    exact ⟨a :: tail, by rw [List.map_cons, same, tailSame]⟩

namespace Grammar

section
variable {alphabet : List Char}

theorem isOneOf_iff {byte : UInt8} :
    isOneOf alphabet byte = true ↔ ∃ letter : Letter alphabet, letter.byte = byte := by
  simp only [isOneOf, List.any_eq_true, beq_iff_eq]
  constructor
  · rintro ⟨character, known, same⟩
    exact ⟨⟨character, known⟩, same⟩
  · rintro ⟨letter, same⟩
    exact ⟨letter.character, letter.known, same⟩

theorem Letter.isOneOf_byte (letter : Letter alphabet) : isOneOf alphabet letter.byte = true :=
  isOneOf_iff.mpr ⟨letter, rfl⟩

theorem Letter.outside {isMember : UInt8 → Bool}
    (apart : (alphabet.map Char.toUInt8).any isMember = false)
    (letter : Letter alphabet) : isMember letter.byte = false := by
  rw [List.any_eq_false] at apart
  exact eq_false_of_ne_true (apart letter.byte (List.mem_map_of_mem letter.known))

end

theorem toNat_digitByte (digit : Fin 10) : (digitByte digit).toNat = '0'.toNat + digit := by
  revert digit
  decide

theorem isDigit_iff {byte : UInt8} : isDigit byte = true ↔ ∃ digit, digitByte digit = byte := by
  simp only [isDigit, Bool.and_eq_true, decide_eq_true_eq, UInt8.le_iff_toNat_le]
  constructor
  · rintro ⟨low, high⟩
    have low : 48 ≤ byte.toNat := low
    have high : byte.toNat ≤ 57 := high
    refine ⟨⟨byte.toNat - 48, by omega⟩, UInt8.toNat_inj.mp ?_⟩
    rw [toNat_digitByte]
    change 48 + (byte.toNat - 48) = byte.toNat
    omega
  · rintro ⟨digit, rfl⟩
    rw [toNat_digitByte]
    exact ⟨Nat.le_add_right _ _, Nat.add_le_add_left (Nat.le_of_lt_succ digit.isLt) 48⟩

theorem isDigit_digitByte (digit : Fin 10) : isDigit (digitByte digit) = true :=
  isDigit_iff.mpr ⟨digit, rfl⟩

theorem digitByte_ne_star (digit : Fin 10) : (digitByte digit == '*'.toUInt8) = false := by
  revert digit
  decide

-- An empty width is no barrier, so what follows it has to be clear as well.
theorem WidthText.clear_bytes_append {isMember : UInt8 → Bool} {rest : List UInt8}
    (star : isMember '*'.toUInt8 = false) (digit : ∀ digit, isMember (digitByte digit) = false)
    (clear : ClearOf isMember rest) (width : WidthText) :
    ClearOf isMember (width.bytes ++ rest) := by
  cases width with
  | star => exact .cons star _
  | numeral digits => exact clear.map_append digit digits

theorem PrecisionText.clear_bytes_append {isMember : UInt8 → Bool} {rest : List UInt8}
    (outside : isMember '.'.toUInt8 = false) (clear : ClearOf isMember rest)
    (precision : PrecisionText) : ClearOf isMember (precision.bytes ++ rest) := by
  cases precision with
  | absent => exact clear
  | star | numeral _ => exact .cons outside _

/-- What stands here cannot go on with a lead. -/
structure Inert (bytes : List UInt8) : Prop where
  flag : ClearOf isFlag bytes
  star : ClearOf (· == '*'.toUInt8) bytes
  digit : ClearOf isDigit bytes
  point : ClearOf (· == '.'.toUInt8) bytes
  length : ClearOf isLengthModifier bytes

theorem Letter.inert {alphabet : List Char}
    (apart : (alphabet.map Char.toUInt8).any (fun byte => isFlag byte || byte == '*'.toUInt8 ||
      isDigit byte || byte == '.'.toUInt8 || isLengthModifier byte) = false)
    (letter : Letter alphabet) (rest : List UInt8) : Inert (letter.byte :: rest) := by
  have outside := letter.outside apart
  simp only [Bool.or_eq_false_iff] at outside
  obtain ⟨⟨⟨⟨flag, star⟩, digit⟩, point⟩, length⟩ := outside
  exact {
    flag := .cons flag rest
    star := @ClearOf.cons (· == '*'.toUInt8) _ star rest
    digit := .cons digit rest
    point := @ClearOf.cons (· == '.'.toUInt8) _ point rest
    length := .cons length rest }

/-! ## Reading a lead -/

/-- Holding every partial number at the bound holds the number at the bound. -/
theorem foldl_held (bound : Nat) (digits : List (Fin 10)) (number : Nat) :
    digits.foldl (fun limit digit => min (10 * limit + digit.val) bound) (min number bound) =
      min (digits.foldl (fun value digit => 10 * value + digit.val) number) bound := by
  induction digits generalizing number with
  | nil => rfl
  | cons digit digits ih =>
    have held : min (10 * min number bound + digit.val) bound =
        min (10 * number + digit.val) bound := by omega
    rw [List.foldl_cons, List.foldl_cons, held, ih]

theorem decimal_eq_foldl (digits : List (Fin 10)) :
    decimal digits = digits.foldl (fun value digit => 10 * value + digit.val) 0 := by
  rw [decimal, Nat.ofDigits_eq_foldr, List.foldr_map, List.foldr_reverse]
  simp only [Nat.cast_id, Nat.add_comm (Fin.val _)]

theorem ofDigits_eq_limit (digits : List (Fin 10)) :
    Precision.ofDigits (digits.map digitByte) = (PrecisionText.numeral digits).limit := by
  have held := foldl_held Precision.largest digits 0
  simp only [Precision.ofDigits, List.foldl_map, toNat_digitByte,
    Nat.add_sub_cancel_left, PrecisionText.limit, decimal_eq_foldl]
  rw [Nat.zero_min] at held
  rw [held]
  rfl

theorem PrecisionText.read_append {rest : List UInt8} (point : ClearOf (· == '.'.toUInt8) rest)
    (star : ClearOf (· == '*'.toUInt8) rest) (digit : ClearOf isDigit rest)
    (precision : PrecisionText) :
    Precision.read (precision.bytes ++ rest) = (precision.limit, rest) := by
  cases precision with
  | absent => exact if_neg point.head?_ne
  | star => rfl
  | numeral digits =>
    have noStar := (star.map_append digitByte_ne_star digits).head?_ne
    simp only [bytes, List.cons_append, Precision.read, List.head?_cons, List.tail_cons,
      if_true, if_neg noStar, digit.takeWhile_map_append isDigit_digitByte,
      digit.dropWhile_map_append isDigit_digitByte, ofDigits_eq_limit]

-- A width that begins with zeros loses them to the flags and still reads as no star.
theorem WidthText.read_append {rest : List UInt8} (flag : ClearOf isFlag rest)
    (star : ClearOf (· == '*'.toUInt8) rest) (digit : ClearOf isDigit rest) (width : WidthText) :
    Specifier.readWidth ((width.bytes ++ rest).dropWhile isFlag) = (width.isStar, rest) := by
  cases width with
  | star => rfl
  | numeral digits =>
    obtain ⟨left, same⟩ : ∃ left, left.map digitByte = (digits.map digitByte).dropWhile isFlag :=
      ⟨digits.dropWhile (isFlag ∘ digitByte), List.dropWhile_map.symm⟩
    have noStar := (star.map_append digitByte_ne_star left).head?_ne
    rw [bytes, flag.dropWhile_append, ← same, Specifier.readWidth, if_neg noStar,
      digit.dropWhile_map_append isDigit_digitByte]
    rfl

end Grammar

open Grammar

-- The parts are taken from the last one back: each is clear of the bytes by which the part before
-- it would go on, so no part can be read too far.
theorem Specifier.read_lead {rest : List UInt8} (inert : Inert rest) (lead : Lead) :
    read (lead.bytes ++ rest) =
      ({ dynamicWidth := lead.width.isStar
         precision := lead.precision.limit
         conversion := (Conversion.read rest).1 }, (Conversion.read rest).2) := by
  rcases lead with ⟨flags, width, precision, lengths⟩
  have flag := inert.flag.map_append (Letter.outside rfl) lengths
  have star := inert.star.map_append (Letter.outside rfl) lengths
  have digit := inert.digit.map_append (Letter.outside rfl) lengths
  have point := inert.point.map_append (Letter.outside rfl) lengths
  have flagsDropped : ∀ tail, (flags.map Letter.byte ++ tail).dropWhile isFlag =
      tail.dropWhile isFlag := fun _ =>
    List.dropWhile_append_of_pos (List.forall_mem_map.mpr fun flag _ => flag.isOneOf_byte)
  have widthRead := width.read_append (precision.clear_bytes_append (by decide) flag)
    (precision.clear_bytes_append (by decide) star)
    (precision.clear_bytes_append (by decide) digit)
  have precisionRead := precision.read_append point star digit
  have lengthsDropped : (lengths.map Letter.byte ++ rest).dropWhile isLengthModifier = rest :=
    inert.length.dropWhile_map_append Letter.isOneOf_byte lengths
  simp only [read, Lead.bytes, List.append_assoc]
  rw [flagsDropped, widthRead, precisionRead, lengthsDropped]

/-! ## Finding a lead -/

namespace Grammar

theorem WidthText.exists_read (bytes : List UInt8) :
    ∃ width : WidthText, bytes = width.bytes ++ (Specifier.readWidth bytes).2 ∧
      width.isStar = (Specifier.readWidth bytes).1 := by
  unfold Specifier.readWidth
  split
  next head =>
    obtain ⟨rest, rfl⟩ := List.head?_eq_some_iff.mp head
    exact ⟨.star, rfl, rfl⟩
  next =>
    obtain ⟨digits, spelled⟩ := exists_map_eq_takeWhile (fun _ => isDigit_iff.mp) bytes
    exact ⟨.numeral digits, by simp [WidthText.bytes, spelled], rfl⟩

theorem PrecisionText.exists_read (bytes : List UInt8) :
    ∃ precision : PrecisionText,
      bytes = precision.bytes ++ (Precision.read bytes).2 ∧
        precision.limit = (Precision.read bytes).1 := by
  unfold Precision.read
  split
  next point =>
    obtain ⟨rest, rfl⟩ := List.head?_eq_some_iff.mp point
    rw [List.tail_cons]
    split
    next star =>
      obtain ⟨rest, rfl⟩ := List.head?_eq_some_iff.mp star
      exact ⟨.star, rfl, rfl⟩
    next =>
      obtain ⟨digits, spelled⟩ := exists_map_eq_takeWhile (fun _ => isDigit_iff.mp) rest
      refine ⟨.numeral digits, by simp [PrecisionText.bytes, spelled], ?_⟩
      rw [← spelled, ofDigits_eq_limit]
  next => exact ⟨.absent, rfl, rfl⟩

end Grammar

-- No condition on the bytes: a lead may be empty, and no terminal need stand behind it.
theorem Specifier.exists_lead (bytes : List UInt8) :
    ∃ lead : Lead, bytes = lead.bytes ++ behindLead bytes ∧
      read bytes =
        ({ dynamicWidth := lead.width.isStar
           precision := lead.precision.limit
           conversion := (Conversion.read (behindLead bytes)).1 },
          (Conversion.read (behindLead bytes)).2) := by
  let afterFlags := bytes.dropWhile isFlag
  let afterWidth := (readWidth afterFlags).2
  let afterPrecision := (Precision.read afterWidth).2
  obtain ⟨flags, flagsSpelled⟩ := exists_map_eq_takeWhile (fun _ => isOneOf_iff.mp) bytes
  obtain ⟨width, widthSpelled, widthRead⟩ := WidthText.exists_read afterFlags
  obtain ⟨precision, precisionSpelled, precisionRead⟩ := PrecisionText.exists_read afterWidth
  obtain ⟨lengths, lengthsSpelled⟩ :=
    exists_map_eq_takeWhile (fun _ => isOneOf_iff.mp) afterPrecision
  refine ⟨⟨flags, width, precision, lengths⟩, ?_, by rw [widthRead, precisionRead]; rfl⟩
  calc bytes = flags.map Letter.byte ++ afterFlags := by
        rw [flagsSpelled]; exact List.takeWhile_append_dropWhile.symm
    _ = flags.map Letter.byte ++ (width.bytes ++ afterWidth) := by rw [← widthSpelled]
    _ = flags.map Letter.byte ++ (width.bytes ++ (precision.bytes ++ afterPrecision)) := by
        rw [← precisionSpelled]
    _ = flags.map Letter.byte ++ (width.bytes ++ (precision.bytes ++
          (lengths.map Letter.byte ++ behindLead bytes))) := by
        rw [lengthsSpelled]
        exact congrArg _ (congrArg _ (congrArg _ List.takeWhile_append_dropWhile.symm))
    _ = (Lead.mk flags width precision lengths).bytes ++ behindLead bytes := by
        simp only [Lead.bytes, List.append_assoc]

end LogRecord
