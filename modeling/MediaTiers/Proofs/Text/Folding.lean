import MediaTiers.Proofs.Reading
import Mathlib

/-! Texts up to the case of their ASCII letters. Blanks, words matched in any letter case and lower-case forms do
not depend on it, so trimming, matching and lower-casing can all be done on the folded text. -/
namespace MediaTiers.Text

/-- A text with its ASCII letters in lower case. -/
def fold (cs : List Char) : List Char :=
  cs.map Char.toLower

def capitals : List Char :=
  (List.range 26).map fun place => Char.ofNat (0x41 + place)

theorem mem_capitals (c : Char) (capital : c.isUpper = true) : c ∈ capitals := by
  obtain ⟨low,high⟩ := (isUpper_iff c).mp capital
  refine List.mem_map.mpr ⟨c.toNat - 0x41,List.mem_range.mpr (by omega),?_⟩
  rw [Nat.add_sub_cancel' low,Char.ofNat_toNat]

/-- What a test says of the capitals decides whether it sees the letter case at all. -/
theorem toLower_unseen (test : Char → Bool) (unseen : (capitals.all fun c => test c.toLower == test c) = true)
    (c : Char) : test c.toLower = test c := by
  by_cases capital : c.isUpper = true
  · simpa using List.all_eq_true.mp unseen c (mem_capitals c capital)
  · rw [Char.toLower_eq_of_not_isUpper capital]

theorem isBlank_toLower (c : Char) : isBlank c.toLower = isBlank c :=
  toLower_unseen isBlank (by decide +kernel) c

theorem isCased_toLower (c : Char) : isCased c.toLower = isCased c :=
  toLower_unseen isCased (by decide +kernel) c

theorem isCaseIgnorable_toLower (c : Char) : isCaseIgnorable c.toLower = isCaseIgnorable c :=
  toLower_unseen isCaseIgnorable (by decide +kernel) c

theorem isFormOf_toLower (letter c : Char) : isFormOf letter c.toLower = isFormOf letter c := by
  -- The foreign forms are no capitals of ASCII, so only the first disjunct sees the case, and it folds anyway.
  have foreign (d : Char) (beyond : (capitals.all fun c => (c.toLower == d) == (c == d)) = true) :
      (c.toLower == d) = (c == d) := toLower_unseen (· == d) beyond c
  simp only [isFormOf,Char.toLower_toLower_eq_toLower,foreign 'ſ' (by decide),foreign '\u212A' (by decide),
    foreign 'ı' (by decide),foreign 'İ' (by decide)]

theorem trim_fold (cs : List Char) : trim (fold cs) = fold (trim cs) := by
  have same : isBlank ∘ Char.toLower = isBlank := funext isBlank_toLower
  simp only [trim,trimBy,fold,List.dropWhile_map,same,← List.map_reverse]

theorem after_fold (word cs : List Char) : after? word (fold cs) = (after? word cs).map fold := by
  induction word generalizing cs with
  | nil => rfl
  | cons letter word ih =>
    cases cs with
    | nil => rfl
    | cons c cs =>
      have rest := ih cs
      simp only [fold,List.map_cons,after?,isFormOf_toLower] at rest ⊢
      split
      · exact rest
      · rfl

theorem contains_newline_fold (cs : List Char) : (fold cs).contains '\n' = cs.contains '\n' := by
  have same (c : Char) : ('\n' == c.toLower) = ('\n' == c) := toLower_unseen ('\n' == ·) (by decide) c
  induction cs with
  | nil => rfl
  | cons c cs ih => simpa only [fold,List.map_cons,List.contains_cons,same] using congrArg _ ih

theorem meetsCased_fold (cs : List Char) : meetsCased (fold cs) = meetsCased cs := by
  have ignored : (!isCaseIgnorable ·) ∘ Char.toLower = (!isCaseIgnorable ·) :=
    funext fun c => congrArg not (isCaseIgnorable_toLower c)
  simp only [meetsCased,fold,List.find?_map,ignored,Option.any_map,isCased_toLower]

theorem lowerAt_fold (before : List Char) (c : Char) (after : List Char) :
    lowerAt (fold before) c.toLower (fold after) = lowerAt before c after := by
  by_cases capital : c.isUpper = true
  · have small : (capitals.all fun c => c.toLower.toNat < 0x80) = true := by decide
    have ascii : c.toLower.toNat < 0x80 := by simpa using List.all_eq_true.mp small c (mem_capitals c capital)
    rw [lowerAt_ascii before c after ascii,lowerAt_ascii _ c.toLower _ (by rwa [Char.toLower_toLower_eq_toLower]),
      Char.toLower_toLower_eq_toLower]
  · have final : sigmaIsFinal (fold before) (fold after) = sigmaIsFinal before after := by
      simp only [sigmaIsFinal,meetsCased_fold]
    rw [Char.toLower_eq_of_not_isUpper capital,lowerAt,final,lowerAt]

theorem lowerFrom_fold (before cs : List Char) : lowerFrom (fold before) (fold cs) = lowerFrom before cs := by
  induction cs generalizing before with
  | nil => rfl
  | cons c cs ih => exact congrArg₂ (· ++ ·) (lowerAt_fold before c cs) (ih (c :: before))

theorem lowercase_of_fold (s t : String) (same : fold s.toList = fold t.toList) : lowercase s = lowercase t := by
  have lowered (cs : List Char) : lower (fold cs) = lower cs := lowerFrom_fold [] cs
  rw [lowercase,← lowered,same,lowered,lowercase]

end MediaTiers.Text
