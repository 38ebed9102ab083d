import MediaTiers.Stylesheet.Basic

/-! The tree of a sheet and the row of its rules. A fact about all sheets is shown of the empty one, and of a
sheet from what is below its first rule and from the rules beside it. -/
namespace MediaTiers.Stylesheet

/-- Induction along a sheet: `inner` is about the rules below the first one, `rest` about those beside it. -/
@[elab_as_elim]
theorem induction {motive : List Rule → Prop} (nil : motive [])
    (cons : ∀ r rs, motive r.children → motive rs → motive (r :: rs)) (sheet : List Rule) :
    motive sheet := by
  generalize size : count sheet = n
  induction n using Nat.strongRecOn generalizing sheet with
  | _ n smaller =>
    cases sheet with
    | nil => exact nil
    | cons r rs =>
      have below := count_children r
      have total : r.count + count rs = n := by simpa only [count] using size
      exact cons r rs (smaller _ (by omega) _ rfl) (smaller _ (by omega) _ rfl)

theorem visit_append (rs ss : List Rule) : visit (rs ++ ss) = visit rs ++ visit ss := by
  induction rs using induction generalizing ss with
  | nil => simp [visit]
  | cons r rs inner rest =>
    rw [List.cons_append,visit,visit,inner,rest,inner]
    simp only [List.cons_append,List.append_assoc]

theorem rules_nil : rules [] = [] := by
  simp [rules,visit]

theorem rules_cons (r : Rule) (rs : List Rule) :
    rules (r :: rs) = r :: (rules r.children ++ rules rs) := by
  rw [rules,visit,visit_append]
  rfl

theorem forall_rules_cons (p : Rule → Prop) (r : Rule) (rs : List Rule) :
    (∀ s ∈ rules (r :: rs), p s) ↔ p r ∧ (∀ s ∈ rules r.children, p s) ∧ ∀ s ∈ rules rs, p s := by
  rw [rules_cons,List.forall_mem_cons,List.forall_mem_append]

theorem forall_rules_iff (p : Rule → Prop) (sheet : List Rule) :
    (∀ s ∈ rules sheet, p s) ↔ ∀ r ∈ sheet, p r ∧ ∀ s ∈ rules r.children, p s := by
  induction sheet with
  | nil => simp [rules_nil]
  | cons r rs ih => rw [forall_rules_cons,ih,List.forall_mem_cons,and_assoc]

/-- The rules in the order in which a walk leaves them: those below a rule, then the rule, then those
beside it. -/
def leaving : List Rule → List Rule
  | [] => []
  | r :: rs => leaving r.children ++ r :: leaving rs
termination_by sheet => count sheet
decreasing_by
  all_goals
    have := count_children r
    simp only [count]
    omega

theorem leaving_perm (sheet : List Rule) : (leaving sheet).Perm (rules sheet) := by
  induction sheet using induction with
  | nil => simp [leaving,rules_nil]
  | cons r rs inner rest =>
    rw [leaving,rules_cons]
    exact List.perm_middle.trans ((inner.append rest).cons r)

end MediaTiers.Stylesheet
