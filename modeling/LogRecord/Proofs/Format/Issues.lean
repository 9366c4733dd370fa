import LogRecord.Proofs.Format.Places
import LogRecord.Proofs.Format.Reading

/-! The issues of a format against its slots and its text.

The issues stand in the order of the text, one for each invalid slot, and each tells what is wrong
with the specifier that it points at (`Format.issues_match_invalid_slots`). -/

set_option autoImplicit false
namespace LogRecord

/-! ## Order -/

/-- Nothing stands behind a specifier without conversion. -/
theorem Directive.read_unterminated {bytes : List UInt8}
    (unterminated : (read bytes).1.fault? = some .unterminated) : (read bytes).2 = [] := by
  unfold read at unterminated ⊢
  split at unterminated
  · contradiction
  next noPercent =>
    have ended := (Conversion.fault?_read_iff (Specifier.behindLead bytes)).2.2.mp unterminated
    rw [if_neg noPercent]
    change (Conversion.read (Specifier.behindLead bytes)).2 = []
    rw [Conversion.read_snd, List.head?_eq_none_iff.mp ended, List.tail_nil]

namespace Located

theorem le_offset_of_mem_read {offset : Nat} {bytes : List UInt8} {located : Located}
    (member : located ∈ read offset bytes) : offset ≤ located.offset := by
  fun_induction read offset bytes with
  | case1 => contradiction
  | case2 offset rest ih =>
    rcases List.mem_cons.mp member with rfl | later
    · exact Nat.le_refl _
    · exact Nat.le_trans (Nat.le_add_right _ _) (ih later)
  | case3 offset byte rest plain ih => exact Nat.le_of_succ_le (ih member)

theorem pairwise_read (offset : Nat) (bytes : List UInt8) :
    (read offset bytes).Pairwise fun earlier later =>
      earlier.offset < later.offset ∧ earlier.directive.fault? ≠ some .unterminated := by
  fun_induction read offset bytes with
  | case1 => exact .nil
  | case2 offset rest ih =>
    refine .cons ?_ ih
    intro later member
    have shorter := Directive.length_read_le rest
    have behind := le_offset_of_mem_read member
    refine ⟨by dsimp only; omega, ?_⟩
    intro unterminated
    rw [Directive.read_unterminated unterminated, read] at member
    contradiction
  | case3 offset byte rest plain ih => exact ih

end Located

theorem Format.pairwise_issues (bytes : List UInt8) :
    (ofBytes bytes).issues.Pairwise fun earlier later =>
      earlier.offset < later.offset ∧ earlier.fault ≠ .unterminated := by
  let view (issue : Issue) : Nat × Fault := (issue.offset, issue.fault)
  have ordered : ((ofBytes bytes).issues.map view).Pairwise fun earlier later =>
      earlier.1 < later.1 ∧ earlier.2 ≠ .unterminated := by
    rw [ofBytes_eq_read, ofDirectives, faults_issuesFrom, List.pairwise_filterMap]
    refine (Located.pairwise_read 0 (textOf bytes)).imp ?_
    rintro earlier later ⟨before, closed⟩ _ found _ laterFound
    obtain ⟨fault, faulty, rfl⟩ := Option.map_eq_some_iff.mp found
    obtain ⟨laterFault, -, rfl⟩ := Option.map_eq_some_iff.mp laterFound
    exact ⟨before, fun unterminated => closed (faulty.trans (congrArg some unterminated))⟩
  exact List.pairwise_map.mp ordered

/-! ## Issues against slots and text -/

open Grammar

theorem Format.exists_specifierAt_of_reports {bytes : List UInt8} {offset : Nat} {fault : Fault}
    (reported : (ofBytes bytes).Reports offset fault) :
    ∃ lead : Lead, SpecifierAt (textOf bytes) offset lead := by
  rw [ofBytes_eq_read] at reported
  obtain ⟨located, member, rfl, faulty⟩ := reports_iff.mp reported
  exact exists_specifierAt member faulty

theorem Format.reports_iff_of_specifierAt {bytes : List UInt8} {place : Nat} {lead : Lead}
    (specifier : SpecifierAt (textOf bytes) place lead) {fault : Fault} :
    (ofBytes bytes).Reports place fault ↔
      (Conversion.read ((textOf bytes).drop (place + 1 + lead.bytes.length))).1.fault? =
        some fault := by
  rw [ofBytes_eq_read, reports_iff, specifier.fault_iff]

/-- The byte behind the longest lead decides the class of the issue, if there is one. -/
theorem Format.reports_class_iff {bytes : List UInt8} {place : Nat} {lead : Lead}
    (specifier : SpecifierAt (textOf bytes) place lead) :
    let conversion? := (textOf bytes)[place + 1 + lead.bytes.length]?
    ((ofBytes bytes).Reports place .unsupported ↔ conversion? = some 'n'.toUInt8) ∧
      ((∃ character, (ofBytes bytes).Reports place (.unknown character)) ↔
        ∃ byte, conversion? = some byte ∧ byte ∉ terminals.map Char.toUInt8) ∧
      ((ofBytes bytes).Reports place .unterminated ↔ conversion? = none) := by
  simp only [reports_iff_of_specifierAt specifier, ← List.head?_drop]
  exact Conversion.fault?_read_iff _

theorem Grammar.SpecifierAt.drop_eq_lead {text : List UInt8} {place : Nat} {lead : Lead}
    (specifier : SpecifierAt text place lead)
    (ended : text[place + 1 + lead.bytes.length]? = none) :
    text.drop (place + 1) = lead.bytes := by
  have whole := Lead.isLongest_iff.mp specifier.spelled.lead
  rw [specifier.spelled.behindLead_eq,
    List.drop_eq_nil_of_le (List.getElem?_eq_none_iff.mp ended), List.append_nil] at whole
  exact whole.symm

/-- Every issue points at a specifier of the text, in order, and its slot is an invalid one, in
order and with none left out. Only the last specifier can be unterminated, as it takes up the rest
of the text. The conversion of a specifier, if the text has one, is the byte behind its longest
lead, and that byte alone decides which class of issue the specifier has, if any. -/
theorem Format.issues_match_invalid_slots (bytes : List UInt8) :
    let text := textOf bytes
    let format := ofBytes bytes
    (format.issues.map Issue.slot).Pairwise (· < ·) ∧
    (∀ place, place ∈ format.issues.map Issue.slot ↔ format.slots[place]? = some .invalid) ∧
    (format.issues.map Issue.offset).Pairwise (· < ·) ∧
    (∀ issue ∈ format.issues, text[issue.offset]? = some '%'.toUInt8 ∧
      ∃ lead : Lead, SpecifierAt text issue.offset lead) ∧
    (∀ earlier issue later, format.issues = earlier ++ issue :: later →
      issue.fault = .unterminated →
        later = [] ∧ ∃ lead : Lead, SpecifierAt text issue.offset lead ∧
          text.drop (issue.offset + 1) = lead.bytes) ∧
    ∀ place lead, SpecifierAt text place lead →
      let conversion? := text[place + 1 + lead.bytes.length]?
      (format.Reports place .unsupported ↔ conversion? = some 'n'.toUInt8) ∧
      ((∃ character, format.Reports place (.unknown character)) ↔
        ∃ byte, conversion? = some byte ∧ byte ∉ terminals.map Char.toUInt8) ∧
      (format.Reports place .unterminated ↔ conversion? = none) := by
  intro text format
  have ordered : format.issues.Pairwise _ := pairwise_issues bytes
  have slots : format.issues.map Issue.slot = format.slots.findIdxs (· == .invalid) :=
    slots_issuesFrom 0 _
  have pointed : ∀ issue ∈ format.issues, ∃ lead : Lead, SpecifierAt text issue.offset lead :=
    fun issue member => exists_specifierAt_of_reports ⟨issue, member, rfl, rfl⟩
  refine ⟨?_, fun place => mem_issue_slots_iff, ?_, ?_, ?_, ?_⟩
  · rw [slots]
    exact List.pairwise_findIdxs
  · exact List.pairwise_map.mpr (ordered.imp And.left)
  · intro issue member
    obtain ⟨lead, specifier⟩ := pointed issue member
    exact ⟨specifier.spelled.opens, lead, specifier⟩
  · intro earlier issue later split unterminated
    have member : issue ∈ format.issues := by
      rw [split]
      exact List.mem_append_right _ List.mem_cons_self
    rw [split] at ordered
    have last := (List.pairwise_cons.mp (List.pairwise_append.mp ordered).2.1).1
    obtain ⟨lead, specifier⟩ := pointed issue member
    have ended := (reports_class_iff specifier).2.2.mp ⟨issue, member, rfl, unterminated⟩
    refine ⟨?_, lead, specifier, specifier.drop_eq_lead ended⟩
    exact List.eq_nil_iff_forall_not_mem.mpr fun other behind =>
      (last other behind).2 unterminated
  · exact fun place lead specifier => reports_class_iff specifier

/-- At `%%%*q %.3n%d%.*`, with a null byte and a stray `%` behind it. -/
theorem Format.issues_match_mixed_text :
    let bytes := Utf8.bytes "%%%*q %.3n%d%.*" ++ [0, '%'.toUInt8]
    let text := textOf bytes
    let lead : Lead := ⟨[], .star, .absent, []⟩
    let earlier : List Issue := [⟨2, 1, .unknown 'q'⟩, ⟨6, 2, .unsupported⟩]
    let last : Issue := ⟨12, 5, .unterminated⟩
    (ofBytes bytes).issues = earlier ++ last :: [] ∧ last.fault = .unterminated ∧
      last ∈ (ofBytes bytes).issues ∧ text[last.offset]? = some '%'.toUInt8 ∧
      (∃ lead : Lead, text.drop (last.offset + 1) = lead.bytes) ∧
      SpecifierAt text 2 lead ∧ (∃ character, (ofBytes bytes).Reports 2 (.unknown character)) := by
  intro bytes text lead earlier last
  have known : text = Utf8.bytes "%%%*q %.3n%d%.*" := by decide +kernel
  have listed : (ofBytes bytes).issues = earlier ++ last :: [] := by decide +kernel
  have member : last ∈ (ofBytes bytes).issues := by
    rw [listed]
    exact List.mem_append_right earlier List.mem_cons_self
  have specifier : SpecifierAt text 2 lead := by
    rw [known]
    refine ⟨.percent .front (by decide +kernel) (by decide +kernel), by decide +kernel,
      by decide +kernel, Lead.isLongest_iff.mpr (by decide +kernel)⟩
  obtain ⟨-, -, -, pointed, closing, classes⟩ := issues_match_invalid_slots bytes
  obtain ⟨-, lead, -, whole⟩ := closing earlier last [] listed rfl
  refine ⟨listed, rfl, member, (pointed last member).1, ⟨lead, whole⟩, specifier, ?_⟩
  exact (classes 2 _ specifier).2.1.mpr ⟨'q'.toUInt8, by decide +kernel, by decide +kernel⟩

end LogRecord
