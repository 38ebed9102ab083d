import MediaTiers.Text.Lower
import Mathlib

/-! Lower-casing is done at once. The lower-case partners of the letters have no partners of their own, which the
table of runs shows run by run, so a second pass leaves every text as the first one left it. -/
namespace MediaTiers.Text

namespace CaseRun

def lowest (run : CaseRun) : Nat :=
  (run.first + run.shift).toNat

def highest (run : CaseRun) : Nat :=
  run.lowest + (run.last - run.first)

/-- No letter of the first run has its partner in the other: the partners lie apart from it, or take turns
with its letters. -/
def avoids (run other : CaseRun) : Bool :=
  run.highest < other.first || (other.last < run.lowest
    || other.step == 2 && (run.step == 2 || run.first == run.last) && run.lowest % 2 != other.first % 2)

/-- The partners are characters. -/
def isValid (run : CaseRun) : Bool :=
  0 ≤ run.first + run.shift
    && (run.highest < 0xD800 || 0xDFFF < run.lowest && run.highest < 0x110000)

theorem contains_iff (run : CaseRun) (code : Nat) :
    run.contains code = true ↔ run.first ≤ code ∧ code ≤ run.last ∧ (code - run.first) % run.step = 0 := by
  simp [contains,and_assoc]

theorem partner_eq (run : CaseRun) (code : Nat) (valid : run.isValid = true) (inside : run.contains code = true) :
    (code + run.shift).toNat = run.lowest + (code - run.first) ∧ (code + run.shift).toNat ≤ run.highest := by
  rw [contains_iff] at inside
  simp only [isValid,Bool.and_eq_true,decide_eq_true_eq] at valid
  unfold highest lowest
  omega

theorem partner_valid (run : CaseRun) (code : Nat) (valid : run.isValid = true) (inside : run.contains code = true) :
    (code + run.shift).toNat.isValidChar := by
  obtain ⟨place,top⟩ := run.partner_eq code valid inside
  simp only [isValid,Bool.and_eq_true,Bool.or_eq_true,decide_eq_true_eq] at valid
  unfold Nat.isValidChar
  omega

theorem avoids_partner (run other : CaseRun) (code : Nat) (valid : run.isValid = true)
    (apart : run.avoids other = true) (inside : run.contains code = true) :
    other.contains (code + run.shift).toNat = false := by
  obtain ⟨place,top⟩ := run.partner_eq code valid inside
  rw [contains_iff] at inside
  rw [← Bool.not_eq_true,contains_iff]
  simp only [avoids,Bool.or_eq_true,Bool.and_eq_true,decide_eq_true_eq,beq_iff_eq,bne_iff_ne] at apart
  rcases apart with below | above | ⟨⟨two,steps⟩,turns⟩
  · omega
  · omega
  · rw [two]
    rcases steps with both | single
    · rw [both] at inside
      omega
    · omega

end CaseRun

/-- The capital that has two lower-case characters, as a run of its own. -/
def dottedRun : CaseRun := ⟨0x130, 0x130, 1, 0⟩

theorem caseRuns_avoid : (caseRuns.all fun run => (dottedRun :: caseRuns).all run.avoids) = true := by
  decide +kernel

theorem caseRuns_valid : caseRuns.all (·.isValid) = true := by
  decide +kernel

theorem caseRuns_ascii : (caseRuns.all fun run => run == ⟨0x41, 0x5A, 1, 32⟩ || 0x80 ≤ run.first) = true := by
  decide +kernel

/-- A character that lower-casing leaves as it is, wherever it stands. -/
def IsLower (c : Char) : Prop :=
  ∀ before after, lowerAt before c after = [c]

def isListed (c : Char) : Bool :=
  caseRuns.any (·.contains c.toNat)

theorem isUpper_iff (c : Char) : c.isUpper = true ↔ 0x41 ≤ c.toNat ∧ c.toNat ≤ 0x5A := by
  simp [Char.isUpper,UInt32.le_iff_toNat_le]

theorem lowerChar_cases (c : Char) :
    (isListed c = false ∧ lowerChar c = c) ∨
      ∃ run ∈ caseRuns, run.contains c.toNat = true ∧ lowerChar c = Char.ofNat (c.toNat + run.shift).toNat := by
  unfold lowerChar
  split
  next ascii =>
    by_cases capital : c.isUpper = true
    · right
      obtain ⟨low,high⟩ := (isUpper_iff c).mp capital
      refine ⟨⟨0x41, 0x5A, 1, 32⟩,.head _,?_,Char.toLower_eq_of_isUpper capital⟩
      rw [CaseRun.contains_iff]
      exact ⟨low,high,Nat.mod_one _⟩
    · left
      refine ⟨?_,Char.toLower_eq_of_not_isUpper capital⟩
      rw [isUpper_iff] at capital
      rw [isListed,List.any_eq_false]
      intro run member
      have known := List.all_eq_true.mp caseRuns_ascii run member
      simp only [Bool.or_eq_true,beq_iff_eq,decide_eq_true_eq] at known
      rw [CaseRun.contains_iff]
      rcases known with rfl | beyond
      · simp only
        omega
      · omega
  next beyond =>
    cases found : caseRuns.find? (·.contains c.toNat) with
    | none =>
      left
      exact ⟨by simpa [isListed] using found,rfl⟩
    | some run =>
      right
      exact ⟨run,List.mem_of_find?_eq_some found,by simpa using List.find?_some found,rfl⟩

theorem isLower_of_unlisted (c : Char) (unlisted : isListed c = false) (undotted : c ≠ 'İ') : IsLower c := by
  have sigma : c ≠ 'Σ' := by
    rintro rfl
    revert unlisted
    decide +kernel
  have kept : lowerChar c = c := by
    rcases lowerChar_cases c with ⟨-,same⟩ | ⟨run,member,inside,-⟩
    · exact same
    · exact absurd inside (by simpa using List.any_eq_false.mp unlisted run member)
  intro before after
  simp only [lowerAt,sigma,undotted,if_false,kept]

theorem lowerChar_isLower (c : Char) (undotted : c ≠ 'İ') : IsLower (lowerChar c) := by
  rcases lowerChar_cases c with ⟨unlisted,same⟩ | ⟨run,member,inside,lowered⟩
  · rw [same]
    exact isLower_of_unlisted c unlisted undotted
  · have valid := List.all_eq_true.mp caseRuns_valid run member
    have apart := List.all_eq_true.mp (List.all_eq_true.mp caseRuns_avoid run member)
    have missed (other : CaseRun) (listed : other ∈ dottedRun :: caseRuns) :=
      run.avoids_partner other c.toNat valid (apart other listed) inside
    have code : (lowerChar c).toNat = (c.toNat + run.shift).toNat := by
      rw [lowered,Char.toNat_ofNat,if_pos (run.partner_valid c.toNat valid inside)]
    apply isLower_of_unlisted
    · rw [isListed,List.any_eq_false,code]
      intro other listed
      simpa using missed other (List.mem_cons_of_mem _ listed)
    · -- The dotted capital is no partner either, although it is in no run of the table.
      intro dotted
      have hit := missed dottedRun (List.mem_cons_self ..)
      rw [← code,dotted] at hit
      revert hit
      decide

theorem lowerAt_isLower (before : List Char) (c : Char) (after : List Char) :
    ∀ d ∈ lowerAt before c after, IsLower d := by
  have plain (d : Char) (unlisted : isListed d = false ∧ d ≠ 'İ') : IsLower d :=
    isLower_of_unlisted d unlisted.1 unlisted.2
  intro d member
  unfold lowerAt at member
  split at member
  next =>
    rw [List.mem_singleton.mp member]
    split
    · exact plain _ (by decide +kernel)
    · exact plain _ (by decide +kernel)
  next =>
    split at member
    next =>
      rcases List.mem_pair.mp member with rfl | rfl
      · exact plain _ (by decide +kernel)
      · exact plain _ (by decide +kernel)
    next undotted =>
      rw [List.mem_singleton.mp member]
      exact lowerChar_isLower c undotted

theorem lowerFrom_isLower (before cs : List Char) : ∀ d ∈ lowerFrom before cs, IsLower d := by
  induction cs generalizing before with
  | nil => simp [lowerFrom]
  | cons c cs ih =>
    intro d member
    rcases List.mem_append.mp member with here | later
    · exact lowerAt_isLower before c cs d here
    · exact ih (c :: before) d later

theorem lowerFrom_of_isLower (before cs : List Char) (lower : ∀ c ∈ cs, IsLower c) : lowerFrom before cs = cs := by
  induction cs generalizing before with
  | nil => rfl
  | cons c cs ih =>
    rw [lowerFrom,lower c (by simp),ih _ (fun d member => lower d (by simp [member]))]
    rfl

@[simp]
theorem lowercase_lowercase (s : String) : lowercase (lowercase s) = lowercase s := by
  unfold lowercase lower
  rw [String.toList_ofList,lowerFrom_of_isLower _ _ (lowerFrom_isLower _ _)]

end MediaTiers.Text
