import LogRecord.Proofs.Record.Walking

/-! Walks step by step, through failures.

A step that fails moves the walk on like any other and sets no precision. So what is in force at a
place is told by the slots and arguments in front of it alone: the last number that a precision slot
has accepted (`InForceAt`), and each item is told by that, its slot and its argument
(`Walk.steps_through_failures`). -/

set_option autoImplicit false
namespace LogRecord

/-! ## The last accepted precision -/

section
variable (slots : List Slot) (arguments : List Argument)

/-- A precision slot stands here and accepts this number. It accepts nothing but numbers. -/
structure AcceptedPrecision (place : Nat) (number : Scalar) : Prop where
  slotHere : slots[place]? = some .precision
  argumentHere : arguments[place]? = some (.scalar number)
  accepted : Slot.precision.accepts (.scalar number) = true

/-- What the last accepted precision in front of the place has set, and no limit without one. -/
inductive InForceAt (place : Nat) : Option Nat → Prop where
  | set {star : Nat} {number : Scalar} :
      AcceptedPrecision slots arguments star number → star < place →
      (∀ later other, star < later → later < place →
        ¬ AcceptedPrecision slots arguments later other) →
      InForceAt place number.precision?
  | unset :
      (∀ earlier other, earlier < place → ¬ AcceptedPrecision slots arguments earlier other) →
      InForceAt place none

end

theorem Argument.setting?_eq_some_iff {slot : Slot} {argument : Argument}
    {setting : Option Nat} :
    argument.setting? slot = some setting ↔
      ∃ number, slot = .precision ∧ argument = .scalar number ∧
        Slot.precision.accepts argument = true ∧ number.precision? = setting := by
  cases argument with
  | scalar number => simp [setting?, Slot.accepts, and_assoc]
  | pointer _ | narrow _ _ | wide _ _ => simp [setting?]

namespace InForceAt

variable {slots : List Slot} {arguments : List Argument} {place : Nat} {precision : Option Nat}

theorem skip (inForce : InForceAt slots arguments place precision)
    (none : ∀ number, ¬ AcceptedPrecision slots arguments place number) :
    InForceAt slots arguments (place + 1) precision := by
  cases inForce with
  | set accepted before last =>
    refine .set accepted (Nat.lt_succ_of_lt before) fun later other behind inside => ?_
    rcases Nat.lt_succ_iff_lt_or_eq.mp inside with inFront | rfl
    · exact last later other behind inFront
    · exact none other
  | unset empty =>
    refine .unset fun earlier other inside => ?_
    rcases Nat.lt_succ_iff_lt_or_eq.mp inside with inFront | rfl
    · exact empty earlier other inFront
    · exact none other

theorem next {number : Scalar} (accepted : AcceptedPrecision slots arguments place number) :
    InForceAt slots arguments (place + 1) number.precision? :=
  .set accepted (Nat.lt_succ_self place) fun _ _ behind inside =>
    absurd (Nat.le_of_lt_succ inside) (Nat.not_le_of_lt behind)

end InForceAt

/-- The fold over the pairs in front of a place finds the last accepted precision. -/
theorem inForceAt_take (slots : List Slot) (arguments : List Argument) (place : Nat) :
    InForceAt slots arguments place (inForce none ((slots.zip arguments).take place)) := by
  induction place with
  | zero => exact .unset fun earlier _ inside => absurd inside (Nat.not_lt_zero earlier)
  | succ place ih =>
    rw [List.take_add_one, inForce_append]
    cases found : (slots.zip arguments)[place]? with
    | none =>
      refine ih.skip fun number accepted => ?_
      have here : (slots.zip arguments)[place]? = some (.precision, .scalar number) :=
        List.getElem?_zip_eq_some.mpr ⟨accepted.slotHere, accepted.argumentHere⟩
      rw [found] at here
      contradiction
    | some pair =>
      rcases pair with ⟨slot, argument⟩
      obtain ⟨slotHere, argumentHere⟩ := List.getElem?_zip_eq_some.mp found
      rw [Option.toList_some, inForce_cons, inForce_nil]
      cases set : argument.setting? slot with
      | some setting =>
        obtain ⟨number, rfl, rfl, accepted, rfl⟩ := Argument.setting?_eq_some_iff.mp set
        exact .next ⟨slotHere, argumentHere, accepted⟩
      | none =>
        refine ih.skip fun number accepted => ?_
        obtain rfl := Option.some.inj (slotHere.symm.trans accepted.slotHere)
        obtain rfl := Option.some.inj (argumentHere.symm.trans accepted.argumentHere)
        have sets := Argument.setting?_eq_some_iff.mpr ⟨number, rfl, rfl, accepted.accepted, rfl⟩
        rw [set] at sets
        contradiction

/-! ## Steps -/

namespace Walk

/-- The walk after one call of `next?`. A call at the end leaves it where it is. -/
def advance (walk : Walk) : Walk :=
  (walk.next?.map Prod.snd).getD walk

/-- The walk after this many calls of `next?`. -/
def after : Nat → Walk → Walk
  | 0, walk => walk
  | count + 1, walk => (walk.after count).advance

/-- The walk over these pairs that has gone past the first `place` of them. -/
def past (pairs : List (Slot × Argument)) (place : Nat) : Walk where
  pending := pairs.drop place
  index := min place pairs.length
  precision := inForce none (pairs.take place)

section
variable {pairs : List (Slot × Argument)} {place : Nat}

theorem precision_past_succ {slot : Slot} {argument : Argument}
    (found : pairs[place]? = some (slot, argument)) :
    (past pairs (place + 1)).precision =
      Extent.precisionAfter (past pairs place).precision
        (item place (past pairs place).precision slot argument) := by
  rw [precisionAfter_item, past, List.take_add_one, found, Option.toList_some, inForce_append,
    inForce_cons, inForce_nil]
  rfl

theorem next?_past {slot : Slot} {argument : Argument}
    (found : pairs[place]? = some (slot, argument)) :
    (past pairs place).next? =
      some (item place (past pairs place).precision slot argument, past pairs (place + 1)) := by
  obtain ⟨inside, here⟩ := List.getElem?_eq_some_iff.mp found
  have pending : (past pairs place).pending = (slot, argument) :: pairs.drop (place + 1) := by
    rw [past, List.drop_eq_getElem_cons inside, here]
  have index : (past pairs place).index = place := Nat.min_eq_left (Nat.le_of_lt inside)
  have nextIndex : (past pairs (place + 1)).index = place + 1 := Nat.min_eq_left inside
  have later : { past pairs (place + 1) with index := place + 1 } = past pairs (place + 1) :=
    congrArg (fun index => { past pairs (place + 1) with index }) nextIndex.symm
  simp only [next?, pending, index, ← precision_past_succ found]
  exact congrArg (fun walk => some (_, walk)) later

theorem next?_past_end (ended : pairs.length ≤ place) : (past pairs place).next? = none := by
  rw [past, List.drop_eq_nil_of_le ended]
  rfl

theorem past_end (ended : pairs.length ≤ place) : past pairs (place + 1) = past pairs place := by
  have later := Nat.le_succ_of_le ended
  simp only [past, List.drop_eq_nil_of_le ended, List.drop_eq_nil_of_le later,
    List.take_of_length_le ended, List.take_of_length_le later, Nat.min_eq_right ended,
    Nat.min_eq_right later]

end

theorem advance_past (pairs : List (Slot × Argument)) (place : Nat) :
    (past pairs place).advance = past pairs (place + 1) := by
  cases found : pairs[place]? with
  | none =>
    have ended := List.getElem?_eq_none_iff.mp found
    rw [advance, next?_past_end ended, past_end ended]
    rfl
  | some pair =>
    rw [advance, next?_past found]
    rfl

/-- Counting calls is counting pairs, whichever of them fail. -/
theorem after_past (pairs : List (Slot × Argument)) (count : Nat) :
    (past pairs 0).after count = past pairs count := by
  induction count with
  | zero => rfl
  | succ count ih => rw [after, ih, advance_past]

theorem start_eq_past {slots : List Slot} {arguments : List Argument}
    (same : slots.length = arguments.length) :
    start slots arguments = .ok (past (slots.zip arguments) 0) := by
  rw [start, if_pos same, past, Nat.zero_min]
  rfl

theorem items_past (pairs : List (Slot × Argument)) :
    (past pairs 0).items =
      pairs.mapIdx fun place pair => item place (past pairs place).precision pair.1 pair.2 := by
  have items := items_eq_mapIdx pairs 0 none
  simp only [Nat.zero_add] at items
  rw [past, Nat.zero_min]
  exact items

theorem item_eq (index : Nat) (before : Option Nat) (slot : Slot) (argument : Argument) :
    item index before slot argument =
      if slot = .invalid then .error (.invalidArgument index)
      else if slot.accepts argument then Extent.measure slot before argument
      else .error (.typeMismatch index slot argument.category) := by
  cases accepted : slot.accepts argument <;> cases slot <;> simp [item, Slot.isValid, accepted]

/-- A walk over as many slots as arguments. Each of its calls finds one item, and then none finds
any more. An item is told by its slot, its argument and the last precision that was accepted in
front of it. One that fails leaves the index and the precision to the next one as if it had
succeeded and set nothing. -/
theorem steps_through_failures {slots : List Slot} {arguments : List Argument}
    (same : slots.length = arguments.length) :
    ∃ walk, start slots arguments = .ok walk ∧ walk.items.length = slots.length ∧
      (∀ count, (walk.after count).remaining = slots.length - count) ∧
      (∀ count, slots.length ≤ count → (walk.after count).next? = none) ∧
      ∀ place slot argument, slots[place]? = some slot → arguments[place]? = some argument →
        ∃ found,
          (walk.after place).next? = some (found, walk.after (place + 1)) ∧
          walk.items[place]? = some found ∧
          (walk.after place).index = place ∧
          InForceAt slots arguments place (walk.after place).precision ∧
          found =
            (if slot = .invalid then .error (.invalidArgument place)
            else if slot.accepts argument then
              Extent.measure slot (walk.after place).precision argument
            else .error (.typeMismatch place slot argument.category)) ∧
          ∀ error, found = .error error →
            (walk.after (place + 1)).index = place + 1 ∧
              (walk.after (place + 1)).precision = (walk.after place).precision := by
  let pairs := slots.zip arguments
  have length : pairs.length = slots.length := by
    rw [List.length_zip, ← same, Nat.min_self]
  refine ⟨past pairs 0, start_eq_past same, ?_, ?_, ?_, ?_⟩
  · rw [items_past, List.length_mapIdx, length]
  · intro count
    rw [after_past, past, remaining, List.length_drop, length]
  · intro count ended
    rw [after_past, next?_past_end (length ▸ ended)]
  · intro place slot argument slotHere argumentHere
    have here : pairs[place]? = some (slot, argument) :=
      List.getElem?_zip_eq_some.mpr ⟨slotHere, argumentHere⟩
    obtain ⟨inside, -⟩ := List.getElem?_eq_some_iff.mp here
    rw [after_past, after_past, next?_past here]
    refine ⟨_, rfl, ?_, Nat.min_eq_left (Nat.le_of_lt inside), inForceAt_take _ _ _,
      item_eq _ _ _ _, ?_⟩
    · rw [items_past, List.getElem?_mapIdx, here]
      rfl
    · intro error failed
      refine ⟨Nat.min_eq_left inside, ?_⟩
      rw [precision_past_succ here, failed]
      rfl

/-- The second precision slot refuses its argument, so the first number stays in force. -/
theorem steps_through_refused_precision :
    let slots : List Slot := [.precision, .invalid, .precision, .text .dynamic]
    let two : Argument := .scalar (.ofInt (.signed .two) 2)
    let text : Argument := .narrow 0x1000 [97, 98, 99]
    let arguments := [two, text, text, text]
    slots.length = arguments.length ∧
      ∃ walk, start slots arguments = .ok walk ∧
        (walk.after 2).next? =
          some (.error (.typeMismatch 2 .precision .narrow), walk.after 3) ∧
        (walk.after 3).next? =
          some (.ok { total := 6, content := some 2, precision := some 2 }, walk.after 4) ∧
        (walk.after 3).remaining = 1 ∧ (walk.after 4).next? = none := by
  intro slots two text arguments
  have same : slots.length = arguments.length := rfl
  obtain ⟨walk, started, -, remaining, ended, each⟩ := steps_through_failures same
  obtain ⟨refused, second, -, -, -, refusal, -⟩ := each 2 .precision text rfl rfl
  obtain ⟨found, last, -, -, -, measured, -⟩ := each 3 (.text .dynamic) text rfl rfl
  obtain rfl := Except.ok.inj started
  refine ⟨same, _, rfl, ?_, ?_, remaining 3, ended 4 (Nat.le_refl 4)⟩
  · rw [second, refusal]
    rfl
  · rw [last, measured]
    rfl

end Walk
end LogRecord
