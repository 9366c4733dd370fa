import LogRecord.Proofs.Format.Acceptance
import LogRecord.Proofs.Format.Concatenation
import LogRecord.Proofs.Format.SlotOrder

/-! The slot lists of formats.

A specifier asks for one group of slots, also where it is cut off or cannot be used. Every group is
spelled by some specifier, so the slot lists of formats are exactly the lists that fall into groups
(`Format.slots_fall_into_groups`). -/

set_option autoImplicit false
namespace LogRecord

/-! ## Groups -/

/-- Whether a specifier can have this slot for its own, with a dynamic precision or without one. -/
def Slot.isTarget (dynamicPrecision : Bool) : Slot → Bool
  | invalid | value => true
  | text .dynamic => dynamicPrecision
  | text .absent | text (.fixed _) => !dynamicPrecision
  | width | precision => false

/-- Whether the slot can stand behind the slot of a width. -/
def Slot.isBehindWidth (slot : Slot) : Bool :=
  slot == .precision || slot.isTarget false

/-- What one specifier asks for. -/
structure SlotGroup where
  dynamicWidth : Bool
  dynamicPrecision : Bool
  target : Slot
  fits : target.isTarget dynamicPrecision = true
deriving DecidableEq, Repr

def SlotGroup.slots (group : SlotGroup) : List Slot :=
  (if group.dynamicWidth then [.width] else []) ++
    (if group.dynamicPrecision then [.precision] else []) ++ [group.target]

def Specifier.group (specifier : Specifier) : SlotGroup where
  dynamicWidth := specifier.dynamicWidth
  dynamicPrecision := specifier.precision == .dynamic
  target := specifier.target
  fits := by
    rcases specifier with ⟨dynamicWidth, precision, conversion⟩
    cases conversion <;> cases precision <;> rfl

theorem Specifier.slots_group (specifier : Specifier) :
    specifier.group.slots = specifier.slots := by
  rcases specifier with ⟨dynamicWidth, precision, conversion⟩
  cases precision <;> rfl

theorem Format.exists_groups (directives : List Located) :
    ∃ groups : List SlotGroup,
      (ofDirectives directives).slots = groups.flatMap SlotGroup.slots := by
  change ∃ groups, directives.flatMap (·.directive.slots) = _
  induction directives with
  | nil => exact ⟨[], rfl⟩
  | cons located directives ih =>
    obtain ⟨groups, later⟩ := ih
    rw [List.flatMap_cons, later]
    cases located.directive with
    | percent => exact ⟨groups, rfl⟩
    | specifier read =>
      refine ⟨read.group :: groups, ?_⟩
      rw [List.flatMap_cons, read.slots_group, Directive.slots]

/-! ## Spelling a group -/

namespace Grammar

/-- The decimal digits of a number, without leading zeros. -/
def digitsOf (number : Nat) : List (Fin 10) :=
  ((Nat.digits 10 number).map (Fin.ofNat 10)).reverse

theorem decimal_digitsOf (number : Nat) : decimal (digitsOf number) = number := by
  have small : ((Nat.digits 10 number).map (Fin.ofNat 10)).map Fin.val = Nat.digits 10 number := by
    rw [List.map_map]
    refine (List.map_congr_left fun digit member => ?_).trans (List.map_id _)
    exact Nat.mod_eq_of_lt (Nat.digits_lt_base (by decide) member)
  rw [decimal, digitsOf, List.reverse_reverse, small, Nat.ofDigits_digits]

/-- A number that the slot can hold is not changed by the bound. -/
theorem limit_digitsOf (limit : UInt32) :
    (PrecisionText.numeral (digitsOf limit.toNat)).limit = .fixed limit := by
  have held : limit.toNat ≤ UInt32.size - 1 := Nat.le_pred_of_lt limit.toNat_lt
  rw [PrecisionText.limit, decimal_digitsOf, Nat.min_eq_left held, UInt32.ofNat_toNat]

end Grammar

open Grammar

namespace SlotGroup

def precisionText (group : SlotGroup) : PrecisionText :=
  if group.dynamicPrecision then .star
  else group.target.fixedLimit?.elim .absent fun limit => .numeral (digitsOf limit.toNat)

def lead (group : SlotGroup) : Lead where
  flags := []
  width := if group.dynamicWidth then .star else .numeral []
  precision := group.precisionText
  lengths := []

/-- The conversion that asks for the target. A count is one that no format may use. -/
def ending (group : SlotGroup) : Letter ['d', 's', 'n'] :=
  if group.target = .value then ⟨'d', by decide⟩
  else if group.target.isText then ⟨'s', by decide⟩
  else ⟨'n', by decide⟩

def conversion (group : SlotGroup) : Conversion :=
  if group.target = .value then .value
  else if group.target.isText then .text
  else .count

theorem ofByte?_ending (group : SlotGroup) :
    Conversion.ofByte? group.ending.byte = some group.conversion := by
  unfold ending conversion
  split
  · rfl
  · split <;> rfl

def bytes (group : SlotGroup) : List UInt8 :=
  '%'.toUInt8 :: (group.lead.bytes ++ [group.ending.byte])

theorem standsAlone_bytes (group : SlotGroup) :
    ∀ byte ∈ group.bytes, Utf8.standsAlone byte = true :=
  group.lead.standsAlone_directive rfl group.ending

/-- What is read of a group, whatever follows it. -/
def reading (group : SlotGroup) : Specifier where
  dynamicWidth := group.lead.width.isStar
  precision := group.lead.precision.limit
  conversion := group.conversion

theorem read_append (group : SlotGroup) (rest : List UInt8) :
    Directive.read (group.lead.bytes ++ group.ending.byte :: rest) =
      (.specifier group.reading, rest) := by
  have inert := Letter.inert rfl group.ending rest
  have clear : ClearOf (· == '%'.toUInt8) (group.ending.byte :: rest) :=
    .cons (group.ending.outside rfl) rest
  have noPercent := (group.lead.clear_bytes_append clear).head?_ne
  have found := Specifier.read_lead inert group.lead
  simp only [Conversion.read, group.ofByte?_ending, Option.getD_some] at found
  rw [Directive.read, if_neg noPercent, found, reading]

theorem isStar_lead (group : SlotGroup) : group.lead.width.isStar = group.dynamicWidth := by
  unfold lead
  cases group.dynamicWidth <;> rfl

theorem limit_lead (group : SlotGroup) :
    group.lead.precision.limit =
      if group.dynamicPrecision then .dynamic
      else group.target.fixedLimit?.elim .absent .fixed := by
  unfold lead precisionText
  cases group.dynamicPrecision with
  | true => rfl
  | false =>
    cases group.target.fixedLimit? with
    | none => rfl
    | some limit => exact limit_digitsOf limit

theorem limit_lead_eq_dynamic_iff (group : SlotGroup) :
    group.lead.precision.limit = .dynamic ↔ group.dynamicPrecision = true := by
  rw [limit_lead]
  cases group.dynamicPrecision with
  | true => exact iff_of_true rfl rfl
  | false => cases group.target.fixedLimit? <;> simp

/-- The lead writes the limit of a text. -/
theorem limit_lead_of_text {group : SlotGroup} {limit : Precision}
    (text : group.target = .text limit) : group.lead.precision.limit = limit := by
  have fits := group.fits
  rw [text] at fits
  rw [limit_lead, text]
  cases limit with
  | dynamic => exact if_pos fits
  | absent | fixed _ =>
    have static : group.dynamicPrecision = false := by simpa [Slot.isTarget] using fits
    rw [static]
    rfl

theorem target_reading (group : SlotGroup) : group.reading.target = group.target := by
  have fits := group.fits
  simp only [reading, Specifier.target, conversion]
  cases target : group.target with
  | invalid | value => rfl
  | text limit => exact congrArg Slot.text (limit_lead_of_text target)
  | width | precision =>
    rw [target] at fits
    contradiction

theorem slots_reading (group : SlotGroup) : group.reading.slots = group.slots := by
  rw [Specifier.slots, target_reading]
  simp only [Specifier.modifiers, reading, isStar_lead, limit_lead_eq_dynamic_iff, slots]

-- Each group ends where its conversion does, so that the next one is read from its `%`.
theorem read_bytes (groups : List SlotGroup) (offset : Nat) :
    (Located.read offset (groups.flatMap bytes)).flatMap (·.directive.slots) =
      groups.flatMap slots := by
  induction groups generalizing offset with
  | nil => simp [Located.read]
  | cons group groups ih =>
    have found := group.read_append (groups.flatMap bytes)
    rw [List.flatMap_cons, List.flatMap_cons, bytes, List.cons_append, List.append_assoc,
      List.singleton_append, Located.read_percent_cons offset found, List.flatMap_cons, ih,
      Directive.slots, group.slots_reading]

end SlotGroup

/-- Every list of groups is asked for by some text. -/
theorem Format.exists_text (groups : List SlotGroup) :
    ∃ text : String, (ofString text).slots = groups.flatMap SlotGroup.slots := by
  have alone : ∀ byte ∈ groups.flatMap SlotGroup.bytes, Utf8.standsAlone byte = true := by
    intro byte member
    obtain ⟨group, -, inside⟩ := List.mem_flatMap.mp member
    exact group.standsAlone_bytes byte inside
  have written := Utf8.bytes_ofList_ofUInt8 fun byte member =>
    Utf8.ascii_of_standsAlone (alone byte member)
  refine ⟨String.ofList ((groups.flatMap SlotGroup.bytes).map Char.ofUInt8), ?_⟩
  rw [ofString_eq_read_of_standsAlone written alone]
  exact SlotGroup.read_bytes groups 0

/-! ## Stars -/

/-- Every such slot stands directly before one that fits. -/
def StandsBefore (star : Slot) (fits : Slot → Bool) (slots : List Slot) : Prop :=
  ∀ place : Nat, slots[place]? = some star →
    ∃ next, slots[place + 1]? = some next ∧ fits next = true

namespace StandsBefore

variable {star : Slot} {fits : Slot → Bool} {slots : List Slot}

theorem nil : StandsBefore star fits [] := by
  intro place found
  contradiction

theorem cons {slot : Slot}
    (here : slot = star → ∃ next, slots.head? = some next ∧ fits next = true)
    (later : StandsBefore star fits slots) : StandsBefore star fits (slot :: slots) := by
  intro place found
  cases place with
  | zero =>
    obtain ⟨next, first, fit⟩ := here (Option.some.inj found)
    rw [List.head?_eq_getElem?] at first
    exact ⟨next, first, fit⟩
  | succ place => exact later place found

theorem append {others : List Slot} (left : StandsBefore star fits slots)
    (right : StandsBefore star fits others) : StandsBefore star fits (slots ++ others) := by
  induction slots with
  | nil => exact right
  | cons slot slots ih =>
    have later : StandsBefore star fits slots := fun place => left (place + 1)
    refine cons (fun same => ?_) (ih later)
    obtain ⟨next, first, fit⟩ := left 0 (congrArg some same)
    rw [List.getElem?_cons_succ, ← List.head?_eq_getElem?] at first
    obtain ⟨rest, rfl⟩ := List.head?_eq_some_iff.mp first
    exact ⟨next, rfl, fit⟩

/-- No list ends in such a slot. -/
theorem getLast?_ne (stands : StandsBefore star fits slots) : slots.getLast? ≠ some star := by
  intro last
  rw [List.getLast?_eq_getElem?] at last
  obtain ⟨next, behind, -⟩ := stands _ last
  obtain ⟨outside, -⟩ := List.getElem?_eq_some_iff.mp behind
  omega

theorem flatMap {groups : List SlotGroup}
    (each : ∀ group : SlotGroup, StandsBefore star fits group.slots) :
    StandsBefore star fits (groups.flatMap SlotGroup.slots) := by
  induction groups with
  | nil => exact nil
  | cons group groups ih =>
    rw [List.flatMap_cons]
    exact (each group).append ih

end StandsBefore

namespace SlotGroup

theorem target_ne_star (group : SlotGroup) : group.target ≠ .width ∧ group.target ≠ .precision := by
  have fits := group.fits
  constructor <;> intro star <;> rw [star] at fits <;> contradiction

theorem width_standsBefore (group : SlotGroup) :
    StandsBefore .width Slot.isBehindWidth group.slots := by
  have target : StandsBefore .width Slot.isBehindWidth [group.target] :=
    .cons (fun star => absurd star group.target_ne_star.1) .nil
  have fits := group.fits
  unfold slots
  cases dynamicPrecision : group.dynamicPrecision with
  | false =>
    rw [dynamicPrecision] at fits
    cases group.dynamicWidth with
    | false => exact target
    | true => exact .cons (fun _ => ⟨_, rfl, by rw [Slot.isBehindWidth, fits, Bool.or_true]⟩) target
  | true =>
    have precision : StandsBefore .width Slot.isBehindWidth [.precision, group.target] :=
      .cons nofun target
    cases group.dynamicWidth with
    | false => exact precision
    | true => exact .cons (fun _ => ⟨_, rfl, rfl⟩) precision

theorem precision_standsBefore (group : SlotGroup) :
    StandsBefore .precision (Slot.isTarget true) group.slots := by
  have target : StandsBefore .precision (Slot.isTarget true) [group.target] :=
    .cons (fun star => absurd star group.target_ne_star.2) .nil
  have fits := group.fits
  unfold slots
  rw [List.append_assoc]
  refine StandsBefore.append ?_ ?_
  · cases group.dynamicWidth with
    | false => exact .nil
    | true => exact .cons nofun .nil
  · cases dynamicPrecision : group.dynamicPrecision with
    | false => exact target
    | true =>
      rw [dynamicPrecision] at fits
      exact .cons (fun _ => ⟨_, rfl, fits⟩) target

end SlotGroup

/-- A slot list is that of a format exactly when it falls into groups. So whatever the text, every
star has the slot that it modifies behind it, a text that waits for a precision has it in front, and
no slot list ends in a star. -/
theorem Format.slots_fall_into_groups :
    (∀ slots : List Slot, (∃ text : String, (ofString text).slots = slots) ↔
      ∃ groups : List SlotGroup, groups.flatMap SlotGroup.slots = slots) ∧
    ∀ bytes : List UInt8,
      let slots := (ofBytes bytes).slots
      StandsBefore .width Slot.isBehindWidth slots ∧
        StandsBefore .precision (Slot.isTarget true) slots ∧ DynamicBehindPrecision slots ∧
        slots.getLast? ≠ some .width ∧ slots.getLast? ≠ some .precision := by
  constructor
  · intro slots
    constructor
    · rintro ⟨text, rfl⟩
      obtain ⟨groups, fall⟩ := exists_groups (Located.ofWindow 0 _)
      exact ⟨groups, fall.symm⟩
    · rintro ⟨groups, rfl⟩
      exact exists_text groups
  · intro bytes slots
    obtain ⟨groups, fall⟩ : ∃ groups : List SlotGroup, slots = groups.flatMap SlotGroup.slots :=
      exists_groups _
    have width : StandsBefore .width Slot.isBehindWidth slots := by
      rw [fall]
      exact .flatMap SlotGroup.width_standsBefore
    have precision : StandsBefore .precision (Slot.isTarget true) slots := by
      rw [fall]
      exact .flatMap SlotGroup.precision_standsBefore
    exact ⟨width, precision, dynamicBehindPrecision_slots _, width.getLast?_ne,
      precision.getLast?_ne⟩

-- The text ends inside the specifier, and both stars still have a slot behind them.
example : (Format.ofString "%*.*").slots = [.width, .precision, .invalid] := by
  decide +kernel

end LogRecord
