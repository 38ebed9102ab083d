import MediaTiers.Proofs.Text.Lowercase
import MediaTiers.Text.Basic

/-! Characters without letter case, such as white space and the comma. No letter and no lower-case partner is among
them, which the table of runs shows run by run, so lower-casing leaves the ones that a text has in their places and
brings in no others. -/
namespace MediaTiers.Text

/-- Neither the letters of the run nor their partners reach into the span. -/
def CaseRun.misses (run : CaseRun) (span : Span) : Bool :=
  (run.last < span.first || span.last < run.first) && (run.highest < span.first || span.last < run.lowest)

/-- The letters that lower-casing does not find in the table, and what it makes of them. -/
def specialLetters : List Char := ['Σ', 'σ', 'ς', 'İ', 'i', '\u0307']

/-- No character of the span takes part in lower-casing. -/
structure Span.Caseless (span : Span) : Prop where
  missed : ∀ run ∈ caseRuns, run.misses span = true
  plain : ∀ c ∈ specialLetters, span.contains c.toNat = false

theorem Span.contains_iff (span : Span) (code : Nat) :
    span.contains code = true ↔ span.first ≤ code ∧ code ≤ span.last := by
  simp [Span.contains]

theorem CaseRun.misses_letter (run : CaseRun) (span : Span) (code : Nat) (missed : run.misses span = true)
    (inside : run.contains code = true) : span.contains code = false := by
  rw [CaseRun.contains_iff] at inside
  rw [← Bool.not_eq_true,Span.contains_iff]
  simp only [misses,Bool.and_eq_true,Bool.or_eq_true,decide_eq_true_eq] at missed
  omega

theorem CaseRun.misses_partner (run : CaseRun) (span : Span) (code : Nat) (valid : run.isValid = true)
    (missed : run.misses span = true) (inside : run.contains code = true) :
    span.contains (code + run.shift).toNat = false := by
  obtain ⟨place,top⟩ := run.partner_eq code valid inside
  rw [← Bool.not_eq_true,Span.contains_iff]
  simp only [misses,Bool.and_eq_true,Bool.or_eq_true,decide_eq_true_eq] at missed
  omega

namespace Span.Caseless

variable {span : Span}

theorem isLower (caseless : span.Caseless) (c : Char) (inside : span.contains c.toNat = true) : IsLower c := by
  apply isLower_of_unlisted
  · rw [isListed,List.any_eq_false]
    intro run member listed
    rw [run.misses_letter span c.toNat (caseless.missed run member) listed] at inside
    exact Bool.false_ne_true inside
  · intro dotted
    rw [dotted,caseless.plain 'İ' (by decide)] at inside
    exact Bool.false_ne_true inside

theorem lowerChar (caseless : span.Caseless) (c : Char) :
    span.contains (lowerChar c).toNat = span.contains c.toNat := by
  rcases lowerChar_cases c with ⟨-,same⟩ | ⟨run,member,inside,lowered⟩
  · rw [same]
  · have valid := List.all_eq_true.mp caseRuns_valid run member
    have missed := caseless.missed run member
    rw [lowered,Char.toNat_ofNat,if_pos (run.partner_valid c.toNat valid inside),
      run.misses_partner span c.toNat valid missed inside,run.misses_letter span c.toNat missed inside]

theorem lowerAt (caseless : span.Caseless) (before : List Char) (c : Char) (after : List Char) (d : Char)
    (member : d ∈ lowerAt before c after) : span.contains d.toNat = span.contains c.toNat := by
  unfold Text.lowerAt at member
  split at member
  next sigma =>
    rw [List.mem_singleton.mp member,sigma,caseless.plain 'Σ' (by decide)]
    split
    · exact caseless.plain 'ς' (by decide)
    · exact caseless.plain 'σ' (by decide)
  next =>
    split at member
    next dotted =>
      rw [dotted,caseless.plain 'İ' (by decide)]
      rcases List.mem_pair.mp member with rfl | rfl
      · exact caseless.plain 'i' (by decide)
      · exact caseless.plain '\u0307' (by decide)
    next =>
      rw [List.mem_singleton.mp member]
      exact caseless.lowerChar c

end Span.Caseless

def commaSpan : Span := ⟨0x2C, 0x2C⟩

theorem caseRuns_miss :
    (caseRuns.all fun run => (commaSpan :: blankSpans).all run.misses) = true := by
  decide +kernel

theorem separator_caseless (span : Span) (member : span ∈ commaSpan :: blankSpans) : span.Caseless := by
  have plain : ((commaSpan :: blankSpans).all fun span =>
      specialLetters.all fun c => !span.contains c.toNat) = true := by decide
  constructor
  · intro run listed
    exact List.all_eq_true.mp (List.all_eq_true.mp caseRuns_miss run listed) span member
  · intro c special
    simpa using List.all_eq_true.mp (List.all_eq_true.mp plain span member) c special

theorem contains_comma (c : Char) : commaSpan.contains c.toNat = (c == ',') := by
  rw [Bool.eq_iff_iff,Span.contains_iff,beq_iff_eq,← Char.toNat_inj]
  exact ⟨fun inside => Nat.le_antisymm inside.2 inside.1,fun same => ⟨same.ge,same.le⟩⟩

theorem comma_isLower : IsLower ',' :=
  (separator_caseless commaSpan (.head _)).isLower ',' rfl

theorem comma_lowerAt (before : List Char) (c : Char) (after : List Char) (d : Char)
    (member : d ∈ lowerAt before c after) : (d == ',') = (c == ',') := by
  rw [← contains_comma,← contains_comma]
  exact (separator_caseless commaSpan (.head _)).lowerAt before c after d member

theorem isBlank_isLower (c : Char) (blank : isBlank c = true) : IsLower c := by
  obtain ⟨span,member,inside⟩ := List.any_eq_true.mp blank
  exact (separator_caseless span (.tail _ member)).isLower c inside

theorem isBlank_lowerAt (before : List Char) (c : Char) (after : List Char) (d : Char)
    (member : d ∈ lowerAt before c after) : isBlank d = isBlank c := by
  unfold isBlank inSpans
  rw [Bool.eq_iff_iff,List.any_eq_true,List.any_eq_true]
  apply exists_congr
  intro span
  apply and_congr_right
  intro listed
  rw [(separator_caseless span (.tail _ listed)).lowerAt before c after d member]

theorem lowerAt_ne_nil (before : List Char) (c : Char) (after : List Char) : lowerAt before c after ≠ [] := by
  unfold lowerAt
  split
  · simp
  · split <;> simp

/-- What holds of a character exactly if it holds of its lower-case form, holds of a text exactly if it holds of the
text in lower case. -/
theorem all_lower (test : Char → Bool)
    (kept : ∀ before c after, ∀ d ∈ lowerAt before c after, test d = test c) (cs : List Char) :
    (lower cs).all test = cs.all test := by
  have forward (before : List Char) : (lowerFrom before cs).all test = cs.all test := by
    induction cs generalizing before with
    | nil => rfl
    | cons c cs ih =>
      have here : (lowerAt before c cs).all test = test c := by
        obtain ⟨d,rest,form⟩ := List.exists_cons_of_ne_nil (lowerAt_ne_nil before c cs)
        rw [Bool.eq_iff_iff,List.all_eq_true]
        constructor
        · intro all
          rw [← kept before c cs d (by simp [form])]
          exact all d (by simp [form])
        · intro held e member
          rw [kept before c cs e member]
          exact held
      rw [lowerFrom,List.all_append,here,ih,List.all_cons]
  exact forward []

theorem length_le_lower (cs : List Char) : cs.length ≤ (lower cs).length := by
  have forward (before : List Char) : cs.length ≤ (lowerFrom before cs).length := by
    induction cs generalizing before with
    | nil => exact Nat.zero_le _
    | cons c cs ih =>
      have here := List.length_pos_of_ne_nil (lowerAt_ne_nil before c cs)
      have rest := ih (c :: before)
      rw [lowerFrom,List.length_append,List.length_cons]
      omega
  exact forward []

end MediaTiers.Text
