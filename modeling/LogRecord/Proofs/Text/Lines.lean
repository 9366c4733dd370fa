import LogRecord.Text.Lines

/-! Lines read back as they were written.

A line may hold anything but a newline, and each may end in its own way. Whatever ends are chosen,
the reader finds the lines again (`Lines.Written.ofString_eq`). Where every line ends in a newline,
the newlines alone tell them apart (`Lines.terminated_join`). -/

set_option autoImplicit false
namespace LogRecord.Lines

def IsLine (text : String) : Prop :=
  '\n' ∉ text.toList

instance (text : String) : Decidable (IsLine text) :=
  inferInstanceAs (Decidable (¬ '\n' ∈ text.toList))

/-- A text in which these lines are written. A newline ends a line, with or without a carriage
return in front of it; a line that itself ends in a carriage return needs the second form. The last
line may go without an end unless it is empty. -/
inductive Written : List String → String → Prop where
  | nil : Written [] ""
  | newline {line : String} {lines : List String} {text : String} :
      IsLine line → line.toList.getLast? ≠ some '\r' → Written lines text →
      Written (line :: lines) (line ++ "\n" ++ text)
  | carriageReturn {line : String} {lines : List String} {text : String} :
      IsLine line → Written lines text →
      Written (line :: lines) (line ++ "\r\n" ++ text)
  | unended {line : String} : IsLine line → line ≠ "" → Written [line] line

variable {character : Char} {line front rest : List Char} {lines : List (List Char)}

theorem split_newline (rest : List Char) : split ('\n' :: rest) = [] :: split rest := by
  rw [split]

theorem split_carriageReturn (rest : List Char) :
    split ('\r' :: '\n' :: rest) = [] :: split rest := by
  rw [split]

theorem split_singleton (plain : character ≠ '\n') : split [character] = [[character]] := by
  rw [split, split]
  · exact plain
  · intro tail _ newline
    contradiction

theorem split_cons (plain : character ≠ '\n')
    (apart : character = '\r' → rest.head? ≠ some '\n') (found : split rest = line :: lines) :
    split (character :: rest) = (character :: line) :: lines := by
  have unlike (tail : List Char) (carriage : character = '\r') : rest ≠ '\n' :: tail :=
    fun newline => apart carriage (by rw [newline, List.head?_cons])
  rw [split, found]
  · exact plain
  · exact unlike

/-- A line is found whole in front of its end, unless its last character is taken for a part of
that end. -/
theorem split_append (plain : '\n' ∉ front)
    (apart : front.getLast? = some '\r' → rest.head? ≠ some '\n')
    (found : split rest = line :: lines) : split (front ++ rest) = (front ++ line) :: lines := by
  induction front with
  | nil => exact found
  | cons character front ih =>
    rw [List.mem_cons, not_or] at plain
    obtain ⟨here, later⟩ := plain
    rw [List.cons_append, List.cons_append]
    apply split_cons (Ne.symm here)
    · intro carriage
      cases front with
      | nil => exact apart (congrArg some carriage)
      | cons next front =>
        intro newline
        obtain rfl := Option.some.inj newline
        exact later List.mem_cons_self
    · apply ih later
      intro last
      apply apart
      rw [List.getLast?_cons, last, Option.getD_some]

theorem split_unended (plain : '\n' ∉ line) (nonempty : line ≠ []) : split line = [line] := by
  induction line with
  | nil => contradiction
  | cons character line ih =>
    rw [List.mem_cons, not_or] at plain
    obtain ⟨here, later⟩ := plain
    cases line with
    | nil => exact split_singleton (Ne.symm here)
    | cons next line =>
      apply split_cons (Ne.symm here)
      · rintro - newline
        obtain rfl := Option.some.inj newline
        exact later List.mem_cons_self
      · exact ih later (List.cons_ne_nil next line)

/-- The reader finds the lines again, however each of them is ended. -/
theorem Written.ofString_eq {lines : List String} {text : String} (written : Written lines text) :
    ofString text = lines := by
  induction written with
  | nil => rfl
  | @newline line lines text plain apart _ ih =>
    have ended : split ("\n".toList ++ text.toList) = [] :: split text.toList := split_newline _
    rw [ofString, String.toList_append, String.toList_append, List.append_assoc,
      split_append plain (fun carriage => absurd carriage apart) ended, List.map_cons,
      List.append_nil, String.ofList_toList, ← ofString, ih]
  | @carriageReturn line lines text plain _ ih =>
    have ended : split ("\r\n".toList ++ text.toList) = [] :: split text.toList :=
      split_carriageReturn _
    have front : ("\r\n".toList ++ text.toList).head? ≠ some '\n' := by simp
    rw [ofString, String.toList_append, String.toList_append, List.append_assoc,
      split_append plain (fun _ => front) ended, List.map_cons,
      List.append_nil, String.ofList_toList, ← ofString, ih]
  | @unended line plain nonempty =>
    have nonempty : line.toList ≠ [] := mt String.toList_eq_nil_iff.mp nonempty
    rw [ofString, split_unended plain nonempty, List.map_singleton, String.ofList_toList]

/-! ## Lines that all end in a newline -/

/-- Cut at its newlines, the text is these lines and nothing behind them. -/
def Terminated (lines : List String) (text : String) : Prop :=
  text.toList.splitOn '\n' = lines.map String.toList ++ [[]]

theorem terminated_join {lines : List String} (each : ∀ line ∈ lines, IsLine line) :
    Terminated lines (String.join (lines.map (· ++ "\n"))) := by
  induction lines with
  | nil => rfl
  | cons line lines ih =>
    obtain ⟨here, later⟩ := List.forall_mem_cons.mp each
    have newline (text : String) :
        (line ++ "\n" ++ text).toList = line.toList ++ '\n' :: text.toList := by
      rw [String.toList_append, String.toList_append, List.append_assoc]
      rfl
    rw [Terminated, List.map_cons, String.join_cons, newline,
      List.splitOn_append_cons_self_of_not_mem here, ih later, List.map_cons, List.cons_append]

theorem isLine_append {first second : String} :
    IsLine (first ++ second) ↔ IsLine first ∧ IsLine second := by
  simp only [IsLine, String.toList_append, List.mem_append, not_or]

theorem isLine_toString (number : Nat) : IsLine (toString number) := by
  intro newline
  rw [Nat.toString_eq_repr, Nat.toList_repr] at newline
  have digit := Nat.isDigit_of_mem_toDigits (by decide) (by decide) newline
  contradiction

end LogRecord.Lines
