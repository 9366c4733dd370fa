import LogRecord.Proofs.Format.Prechecking
import LogRecord.Proofs.Format.ReportedCharacter

/-! Reading goes forward and stays inside the bound of its window.

What a scan leaves is the window less some bytes at its front, at most all of them. A scan from
behind a place of the window therefore ends at a later place (`Directive.exists_spans`), and the
loops that go on from there come to the end of the window (`Precheck.exists_walk`,
`Located.exists_search`). `Directive.scan_stays_inside` states both. -/

set_option autoImplicit false
namespace LogRecord

open Grammar

/-! ## What a scan leaves -/

namespace Window

theorem drop_drop (first second : Nat) (window : Window) :
    (window.drop first).drop second = window.drop (first + second) := by
  simp only [drop, mk.injEq, List.drop_drop, true_and]
  omega

@[simp] theorem drop_size_contents (window : Window) : window.contents.drop window.size = [] :=
  List.drop_eq_nil_of_le (Nat.le_of_eq window.length_contents)

/-- A place inside the bound is told by what is left behind it. -/
theorem eq_of_drop_contents_eq {window : Window} {first second : Nat}
    (same : window.contents.drop first = window.contents.drop second)
    (firstInside : first ≤ window.size) (secondInside : second ≤ window.size) :
    first = second := by
  have lengths := congrArg List.length same
  simp only [List.length_drop, length_contents] at lengths
  omega

theorem size_eq_of_contents_eq {window other : Window}
    (same : other.contents = window.contents) : other.size = window.size := by
  rw [← length_contents, same, length_contents]

/-- The rest is the window less bytes at its front, of which it has enough. -/
def IsLeftOf (rest window : Window) : Prop :=
  ∃ count ≤ window.size, window.drop count = rest

variable {rest middle window : Window}

theorem isLeftOf_refl (window : Window) : window.IsLeftOf window :=
  ⟨0, Nat.zero_le _, rfl⟩

theorem IsLeftOf.trans (later : rest.IsLeftOf middle) (earlier : middle.IsLeftOf window) :
    rest.IsLeftOf window := by
  obtain ⟨first, firstInside, rfl⟩ := earlier
  obtain ⟨second, secondInside, rfl⟩ := later
  rw [size_drop] at secondInside
  exact ⟨first + second, by omega, (drop_drop first second window).symm⟩

theorem isLeftOf_drop_one {byte : UInt8} (front : window.front? = some byte) :
    (window.drop 1).IsLeftOf window :=
  ⟨1, size_pos_of_front? front, rfl⟩

theorem isLeftOf_skip (keep : UInt8 → Bool) (window : Window) :
    (window.skip keep).IsLeftOf window :=
  ⟨window.run keep, window.run_le keep, rfl⟩

end Window

theorem Precision.scan_isLeftOf (window : Window) : (scan window).2.IsLeftOf window := by
  simp only [scan]
  split
  next point =>
    have behindPoint := Window.isLeftOf_drop_one point
    split
    next star => exact (Window.isLeftOf_drop_one star).trans behindPoint
    next => exact (Window.isLeftOf_skip isDigit _).trans behindPoint
  next => exact Window.isLeftOf_refl window

theorem Conversion.scan_isLeftOf (window : Window) : (scan window).2.IsLeftOf window := by
  unfold scan
  split
  next => exact Window.isLeftOf_refl window
  next byte front => exact Window.isLeftOf_drop_one front

theorem Specifier.scanWidth_isLeftOf (window : Window) :
    (scanWidth window).2.IsLeftOf window := by
  unfold scanWidth
  split
  next star => exact Window.isLeftOf_drop_one star
  next => exact Window.isLeftOf_skip isDigit window

theorem Specifier.scan_isLeftOf (window : Window) : (scan window).2.IsLeftOf window := by
  apply (Conversion.scan_isLeftOf _).trans
  apply (Window.isLeftOf_skip isLengthModifier _).trans
  apply (Precision.scan_isLeftOf _).trans
  apply (scanWidth_isLeftOf _).trans
  exact Window.isLeftOf_skip isFlag window

theorem Directive.scan_isLeftOf (window : Window) : (scan window).2.IsLeftOf window := by
  unfold scan
  split
  next percent => exact Window.isLeftOf_drop_one percent
  next => exact Specifier.scan_isLeftOf window

/-! ## The span of a directive -/

namespace Directive

/-- The scan from behind `start` gives the directive and ends at `finish`. -/
structure Spans (window : Window) (start finish : Nat) (directive : Directive) : Prop where
  scanned : scan (window.drop (start + 1)) = (directive, window.drop finish)
  later : start < finish
  inside : finish ≤ window.size

variable {window : Window} {start finish : Nat} {directive : Directive}

theorem exists_spans (inside : start < window.size) :
    ∃ finish directive, Spans window start finish directive := by
  obtain ⟨count, enough, left⟩ := scan_isLeftOf (window.drop (start + 1))
  rw [Window.size_drop] at enough
  rw [Window.drop_drop] at left
  exact ⟨start + 1 + count, _, Prod.ext rfl left.symm, by omega, by omega⟩

theorem Spans.read_eq (spans : Spans window start finish directive) :
    read (window.contents.drop (start + 1)) = (directive, window.contents.drop finish) := by
  have same := scan_eq_read (window.drop (start + 1))
  rw [spans.scanned, Window.contents_drop, Window.contents_drop] at same
  exact same.symm

theorem Spans.locatedRead_eq (spans : Spans window start finish directive)
    (opens : window.contents[start]? = some '%'.toUInt8) :
    Located.read start (window.contents.drop start) =
      { offset := start, directive } :: Located.read finish (window.contents.drop finish) := by
  have inside := spans.inside
  rw [← Window.length_contents] at inside
  rw [Located.read_at_percent opens spans.later inside (congrArg Prod.snd spans.read_eq),
    spans.read_eq]

/-- Only what is inside the bound is read. -/
theorem Spans.of_contents_eq {other : Window} (spans : Spans window start finish directive)
    (same : other.contents = window.contents) : Spans other start finish directive := by
  have size := Window.size_eq_of_contents_eq same
  have startInside : start < other.size := by
    rw [size]
    exact Nat.lt_of_lt_of_le spans.later spans.inside
  obtain ⟨otherFinish, otherDirective, otherSpans⟩ := exists_spans startInside
  have reads := otherSpans.read_eq
  rw [same, spans.read_eq, Prod.mk.injEq] at reads
  obtain ⟨rfl, left⟩ := reads
  have otherInside : otherFinish ≤ window.size := otherSpans.inside.trans_eq size
  obtain rfl := Window.eq_of_drop_contents_eq left spans.inside otherInside
  exact otherSpans

theorem conversion_of_read {bytes rest : List UInt8} {specifier : Specifier}
    (reads : read bytes = (.specifier specifier, rest)) :
    specifier.conversion = (Conversion.read (Specifier.behindLead bytes)).1 ∧
      rest = (Specifier.behindLead bytes).tail := by
  rw [read] at reads
  split at reads
  next => cases reads
  next =>
    cases reads
    exact ⟨rfl, Conversion.read_snd _⟩

/-- At `place` stands a byte that is no conversion, directly behind the longest lead of a directive
whose `%` stands at `start`, and it is reported by this character. -/
structure StrayAt (window : Window) (start place : Nat) (character : Char) : Prop where
  behind : start + 1 ≤ place
  lead : ∃ lead : Lead, lead.IsLongest (window.contents.drop (start + 1)) ∧
    place = start + 1 + lead.bytes.length
  strange : ∃ byte, window.contents[place]? = some byte ∧ byte ∉ terminals.map Char.toUInt8
  reported : Conversion.character (window.drop place) = character

/-- A conversion that is not known is the last byte of its specifier. -/
theorem Spans.strayAt {specifier : Specifier} {character : Char}
    (spans : Spans window start finish (.specifier specifier))
    (unknown : specifier.conversion = .unknown character) :
    StrayAt window start (finish - 1) character := by
  obtain ⟨lead, longest⟩ := Lead.exists_isLongest (window.contents.drop (start + 1))
  obtain ⟨conversion, left⟩ := conversion_of_read spans.read_eq
  rw [longest.behindLead_eq, List.drop_drop] at conversion left
  have fault : (Conversion.read
      (window.contents.drop (start + 1 + lead.bytes.length))).1.fault? =
        some (.unknown character) := by
    rw [← conversion, unknown, Conversion.fault?]
  obtain ⟨byte, here, strange⟩ := (Conversion.fault?_read_iff _).2.1.mp ⟨character, fault⟩
  rw [List.head?_drop] at here
  have last : start + 1 + lead.bytes.length = finish - 1 := by
    obtain ⟨before, -⟩ := List.getElem?_eq_some_iff.mp here
    rw [Window.length_contents] at before
    rw [List.tail_drop] at left
    rw [Window.eq_of_drop_contents_eq left spans.inside before, Nat.add_sub_cancel]
  rw [last] at here fault
  refine ⟨?_, ⟨lead, longest, last.symm⟩, ⟨byte, here, strange⟩, ?_⟩
  · rw [← last]
    exact Nat.le_add_right _ _
  · rw [Conversion.character_eq, Window.contents_drop]
    exact (Conversion.character_of_fault fault).2

end Directive

/-! ## The loops -/

namespace Precheck

/-- A loop that goes byte by byte from the place on, takes each directive where its `%` stands and
goes on behind it. It comes to the end of the window or to the first directive that `stops` it, with
these directives on the way. -/
inductive Walk (window : Window) (stops : Directive → Bool) : Nat → List Directive → Prop where
  | ended : Walk window stops window.size []
  | literal {place : Nat} {byte : UInt8} {found : List Directive} :
      window.contents[place]? = some byte → byte ≠ '%'.toUInt8 →
        Walk window stops (place + 1) found → Walk window stops place found
  | stopped {place finish : Nat} {directive : Directive} :
      window.contents[place]? = some '%'.toUInt8 → directive.Spans window place finish →
        stops directive = true → Walk window stops place [directive]
  | taken {place finish : Nat} {directive : Directive} {found : List Directive} :
      window.contents[place]? = some '%'.toUInt8 → directive.Spans window place finish →
        stops directive = false → Walk window stops finish found →
          Walk window stops place (directive :: found)

-- What is left of the window is the variant: a literal byte and a directive both lead to a later
-- place.
theorem exists_walk {window : Window} {place : Nat} (stops : Directive → Bool)
    (inside : place ≤ window.size) : ∃ found, Walk window stops place found := by
  rcases Nat.eq_or_lt_of_le inside with rfl | before
  · exact ⟨[], .ended⟩
  · obtain ⟨byte, here⟩ : ∃ byte, window.contents[place]? = some byte :=
      ⟨_, List.getElem?_eq_getElem (before.trans_eq window.length_contents.symm)⟩
    by_cases opens : byte = '%'.toUInt8
    · subst opens
      obtain ⟨finish, directive, spans⟩ := Directive.exists_spans before
      have later := spans.later
      cases stop : stops directive with
      | true => exact ⟨[directive], .stopped here spans stop⟩
      | false =>
        obtain ⟨found, walk⟩ := exists_walk stops spans.inside
        exact ⟨directive :: found, .taken here spans stop walk⟩
    · obtain ⟨found, walk⟩ := exists_walk stops (Nat.succ_le_of_lt before)
      exact ⟨found, .literal here opens walk⟩
termination_by window.size - place

variable {window : Window} {stops : Directive → Bool} {place : Nat} {found : List Directive}

/-- What a walk takes is what reading finds, up to the directive that stops it. -/
theorem Walk.exists_read (walk : Walk window stops place found) :
    ∃ rest, (Located.read place (window.contents.drop place)).map (·.directive) = found ++ rest ∧
      ((∃ directive ∈ found, stops directive = true) ∨ rest = []) := by
  induction walk with
  | ended =>
    refine ⟨[], ?_, .inr rfl⟩
    rw [Window.drop_size_contents, Located.read]
    rfl
  | literal here plain _ ih =>
    rw [Located.read_at_literal here plain]
    exact ih
  | stopped here spans stop =>
    rw [drop_eq_cons here, Located.read, if_pos rfl, spans.read_eq]
    exact ⟨_, rfl, .inl ⟨_, List.mem_cons_self, stop⟩⟩
  | taken here spans _ _ ih =>
    obtain ⟨rest, split, reached⟩ := ih
    rw [spans.locatedRead_eq here, List.map_cons, split]
    refine ⟨rest, rfl, ?_⟩
    apply reached.imp_left
    rintro ⟨directive, member, stop⟩
    exact ⟨directive, List.mem_cons_of_mem _ member, stop⟩

theorem Walk.slotCountIn_eq (walk : Walk window (fun _ => false) place found) :
    slotCountIn (window.drop place) = (found.map Directive.slotCount).sum := by
  obtain ⟨rest, split, ⟨_, _, stop⟩ | rfl⟩ := walk.exists_read
  · contradiction
  · rw [List.append_nil] at split
    rw [Precheck.slotCountIn_eq place, Window.contents_drop, List.length_flatMap, ← split,
      List.map_map]
    simp only [Directive.length_slots, Function.comp_def]

theorem Walk.isUsableIn_eq (walk : Walk window (fun directive => !directive.isUsable) place found) :
    isUsableIn (window.drop place) = found.all Directive.isUsable := by
  obtain ⟨rest, split, reached⟩ := walk.exists_read
  have whole : isUsableIn (window.drop place) = (found ++ rest).all Directive.isUsable := by
    rw [Precheck.isUsableIn_eq place, Window.contents_drop, ← split, List.all_map]
    rfl
  rw [whole, List.all_append]
  rcases reached with ⟨directive, member, stop⟩ | rfl
  · have unusable : found.all Directive.isUsable = false :=
      List.all_eq_false.mpr ⟨directive, member, by simpa using stop⟩
    rw [unusable, Bool.false_and]
  · rw [List.all_nil, Bool.and_true]

end Precheck

namespace Located

/-- A loop that searches the window from the place on for the next `%`, takes the directive there
and goes on behind it, until no `%` is left. -/
inductive Search (window : Window) : Nat → List Located → Prop where
  | ended {place : Nat} : place ≤ window.size →
      (∀ byte ∈ window.contents.drop place, byte ≠ '%'.toUInt8) → Search window place []
  | taken {place skipped finish : Nat} {directive : Directive} {later : List Located} :
      place ≤ window.size →
        (∀ byte ∈ (window.contents.drop place).take skipped, byte ≠ '%'.toUInt8) →
        window.contents[place + skipped]? = some '%'.toUInt8 →
        directive.Spans window (place + skipped) finish → Search window finish later →
          Search window place ({ offset := place + skipped, directive } :: later)

variable {window : Window} {place : Nat}

theorem Search.literal {byte : UInt8} {found : List Located}
    (search : Search window (place + 1) found) (here : window.contents[place]? = some byte)
    (plain : byte ≠ '%'.toUInt8) : Search window place found := by
  cases search with
  | ended inside clear =>
    apply Search.ended (Nat.le_of_succ_le inside)
    rw [drop_eq_cons here]
    exact List.forall_mem_cons.mpr ⟨plain, clear⟩
  | @taken _ skipped finish directive later inside clear opens spans next =>
    rw [Nat.add_right_comm, Nat.add_assoc] at opens spans ⊢
    apply Search.taken (Nat.le_of_succ_le inside) _ opens spans next
    rw [drop_eq_cons here, List.take_succ_cons]
    exact List.forall_mem_cons.mpr ⟨plain, clear⟩

/-- A search takes the literal steps of a walk together. -/
theorem exists_search {found : List Directive}
    (walk : Precheck.Walk window (fun _ => false) place found) :
    ∃ located, Search window place located ∧ located.map (·.directive) = found := by
  induction walk with
  | ended =>
    refine ⟨[], .ended (Nat.le_refl _) ?_, rfl⟩
    rw [Window.drop_size_contents]
    exact List.forall_mem_nil _
  | literal here plain _ ih =>
    obtain ⟨located, search, same⟩ := ih
    exact ⟨located, search.literal here plain, same⟩
  | stopped _ _ stop => contradiction
  | @taken place finish directive _ opens spans _ _ ih =>
    obtain ⟨located, search, same⟩ := ih
    refine ⟨{ offset := place, directive } :: located, ?_, congrArg (directive :: ·) same⟩
    have inside : place ≤ window.size := Nat.le_of_lt (spans.later.trans_le spans.inside)
    exact @Search.taken window place 0 finish directive located inside (List.forall_mem_nil _)
      opens spans search

theorem Search.ofWindow_eq {found : List Located} (search : Search window place found) :
    ofWindow place (window.drop place) = found := by
  rw [ofWindow_eq_read, Window.contents_drop]
  induction search with
  | @ended place inside clear =>
    have ended := read_literal_append place [] clear
    rwa [List.append_nil, read] at ended
  | @taken place skipped finish directive later inside clear opens spans _ ih =>
    have skip := read_literal_append place (window.contents.drop (place + skipped)) clear
    have reached : ((window.contents.drop place).take skipped).length = skipped := by
      have after := spans.later
      have bound := spans.inside
      rw [List.length_take, List.length_drop, Window.length_contents]
      omega
    rw [← List.drop_drop, List.take_append_drop, List.drop_drop, reached] at skip
    rw [skip, spans.locatedRead_eq opens, ih]

end Located

/-! ## Inside the bound -/

/-- A scan from behind any place of a window ends at a later place inside the bound, whatever the
buffer holds behind it, and a conversion that is not known is the last byte of its specifier. So
the search of a format and both walks of the checks go on to later places only, and all of them end
with what the format and the checks give. -/
theorem Directive.scan_stays_inside (window : Window) :
    (∀ start < window.size, ∃ finish directive,
      Spans window start finish directive ∧
        (∀ other : Window, other.contents = window.contents →
          Spans other start finish directive) ∧
        ∀ specifier character, directive = .specifier specifier →
          specifier.conversion = .unknown character →
            StrayAt window start (finish - 1) character) ∧
      (∃ found, Located.Search window 0 found ∧ Located.ofWindow 0 window = found) ∧
      (∃ found, Precheck.Walk window (fun _ => false) 0 found ∧
        Precheck.slotCountIn window = (found.map Directive.slotCount).sum) ∧
      ∃ found, Precheck.Walk window (fun directive => !directive.isUsable) 0 found ∧
        Precheck.isUsableIn window = found.all Directive.isUsable := by
  have front := Nat.zero_le window.size
  refine ⟨?_, ?_, ?_, ?_⟩
  · intro start before
    obtain ⟨finish, directive, spans⟩ := exists_spans before
    refine ⟨finish, directive, spans, fun other same => spans.of_contents_eq same, ?_⟩
    rintro specifier character rfl unknown
    exact spans.strayAt unknown
  · obtain ⟨found, walk⟩ := Precheck.exists_walk (fun _ => false) front
    obtain ⟨located, search, -⟩ := Located.exists_search walk
    exact ⟨located, search, search.ofWindow_eq⟩
  · obtain ⟨found, walk⟩ := Precheck.exists_walk (fun _ => false) front
    exact ⟨found, walk, walk.slotCountIn_eq⟩
  · obtain ⟨found, walk⟩ := Precheck.exists_walk (fun directive => !directive.isUsable) front
    exact ⟨found, walk, walk.isUsableIn_eq⟩

/-- The bound cuts the character of the conversion, and the buffer goes on with the rest of it. -/
theorem Directive.scan_stays_inside_cut_character :
    let window : Window := { buffer := Utf8.bytes "a%5\u00fc", size := 4, size_le := by decide }
    let stray : Directive := .specifier
      { dynamicWidth := false, precision := .absent, conversion := .unknown '\uFFFD' }
    1 < window.size ∧ Spans window 1 4 stray ∧
      Spans (Window.whole ((Utf8.bytes "a%5\u00fc").take 4)) 1 4 stray ∧
      StrayAt window 1 3 '\uFFFD' := by
  intro window stray
  have before : 1 < window.size := by decide
  have known : scan (window.drop 2) = (stray, window.drop 4) := by decide +kernel
  obtain ⟨finish, directive, spans, anyBuffer, unknown⟩ :=
    (scan_stays_inside window).1 1 before
  obtain ⟨rfl, left⟩ := Prod.mk.inj (spans.scanned.symm.trans known)
  have leftBytes : window.contents.drop finish = window.contents.drop 4 := by
    rw [← Window.contents_drop, left, Window.contents_drop]
  obtain rfl : finish = 4 :=
    Window.eq_of_drop_contents_eq leftBytes spans.inside (Nat.le_refl 4)
  exact ⟨before, spans, anyBuffer _ (Window.contents_whole _), unknown _ _ rfl rfl⟩

end LogRecord
