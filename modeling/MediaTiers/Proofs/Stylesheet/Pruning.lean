import MediaTiers.Proofs.Stylesheet.Walk

/-! What pruning costs. A walk that does not prune keeps every declaration that declares nothing. A walk that
prunes drops a rule for its own declaration list alone, and with the rule goes all that is below it: the
content of a sheet survives exactly when no rule to be dropped has content below it. -/
namespace MediaTiers

def Rule.content (r : Rule) : List Declaration :=
  r.entries.filter (·.isOther)

theorem Rule.content_spent (r : Rule) (spent : r.isSpent = true) : r.content = [] := by
  cases held : r.declarations with
  | none => simp [Rule.content,Rule.entries,held]
  | some ds =>
    rw [r.isSpent_some ds held,List.isEmpty_iff] at spent
    simpa [Rule.content,Rule.entries,held] using spent

theorem Rule.content_around (r : Rule) (inner : List Rule) : (r.around inner).content = r.content := by
  cases held : r.declarations <;> simp [Rule.content,Rule.entries,Rule.around,held]

namespace Stylesheet

/-- The declarations of a sheet that declare nothing, those of a rule before those below it. -/
def content (sheet : List Rule) : List Declaration :=
  (rules sheet).flatMap Rule.content

theorem content_nil : content [] = [] := by
  simp [content,rules_nil]

theorem content_cons (r : Rule) (rs : List Rule) :
    content (r :: rs) = r.content ++ (content r.children ++ content rs) := by
  simp [content,rules_cons]

theorem content_below (sheet : List Rule) (r : Rule) (member : r ∈ rules sheet) :
    (content r.children).Sublist (content sheet) := by
  induction sheet using induction with
  | nil => simp [rules_nil] at member
  | cons s ss inner rest =>
    rw [content_cons]
    rw [rules_cons] at member
    rcases List.mem_cons.mp member with rfl | deeper
    · exact (List.sublist_append_left _ _).trans (List.sublist_append_right _ _)
    · rcases List.mem_append.mp deeper with below | beside
      · exact (inner below).trans ((List.sublist_append_left _ _).trans (List.sublist_append_right _ _))
      · exact (rest beside).trans ((List.sublist_append_right _ _).trans (List.sublist_append_right _ _))

theorem left_content_sublist (prune : Bool) (sheet : List Rule) :
    (content (left prune sheet)).Sublist (content sheet) := by
  induction sheet using induction with
  | nil => simp [left]
  | cons r rs inner rest =>
    rw [left,content_cons]
    split
    · exact rest.trans ((List.sublist_append_right _ _).trans (List.sublist_append_right _ _))
    · rw [content_cons,Rule.content_around,around_children]
      exact (List.Sublist.refl _).append (inner.append rest)

private theorem append_eq_iff_of_sublist {α : Type} (xs ys us vs : List α)
    (first : us.Sublist xs) (second : vs.Sublist ys) : us ++ vs = xs ++ ys ↔ us = xs ∧ vs = ys := by
  constructor
  · intro equal
    have total := congrArg List.length equal
    simp only [List.length_append] at total
    have short := first.length_le
    have shorter := second.length_le
    exact ⟨first.eq_of_length (by omega),second.eq_of_length (by omega)⟩
  · rintro ⟨rfl,rfl⟩
    rfl

/-- The condition is about the tree alone: a rule to be dropped has nothing below it to lose. -/
theorem left_content_iff (prune : Bool) (sheet : List Rule) :
    content (left prune sheet) = content sheet ↔
      (prune = true → ∀ r ∈ rules sheet, r.isSpent = true → content r.children = []) := by
  induction sheet using induction with
  | nil => simp [left,rules_nil]
  | cons r rs inner rest =>
    have beside := left_content_sublist prune rs
    rw [left,content_cons,rules_cons]
    split
    next dropped =>
      obtain ⟨pruned,spent⟩ : prune = true ∧ r.isSpent = true := by simpa using dropped
      rw [r.content_spent spent,List.nil_append]
      constructor
      · intro equal _ s member
        -- Nothing that stays can make up for content below the dropped rule.
        have split := (append_eq_iff_of_sublist _ _ [] _ (List.nil_sublist _) beside).mp equal
        intro gone
        rcases List.mem_cons.mp member with rfl | deeper
        · exact split.1.symm
        · rcases List.mem_append.mp deeper with inside | outside
          · have part := content_below r.children s inside
            rw [← split.1] at part
            exact List.sublist_nil.mp part
          · exact rest.mp split.2 pruned s outside gone
      · intro harmless
        have empty := harmless pruned r (by simp) spent
        have same := rest.mpr (fun on s member => harmless on s (by simp [member]))
        rw [empty,same,List.nil_append]
    next stays =>
      have below := left_content_sublist prune r.children
      rw [content_cons,Rule.content_around,around_children,List.append_right_inj,
        append_eq_iff_of_sublist _ _ _ _ below beside,inner,rest]
      constructor
      · rintro ⟨safeBelow,safeBeside⟩ pruned s member gone
        rcases List.mem_cons.mp member with rfl | deeper
        · exact absurd (by simp [pruned,gone]) stays
        · rcases List.mem_append.mp deeper with inside | outside
          · exact safeBelow pruned s inside gone
          · exact safeBeside pruned s outside gone
      · intro harmless
        exact ⟨fun pruned s member => harmless pruned s (by simp [member]),
          fun pruned s member => harmless pruned s (by simp [member])⟩

/-- A successful walk keeps the content of a sheet, in order, exactly if it does not prune or no rule without
content of its own but with a declaration list has content below it. -/
theorem walk_content_iff (prune : Bool) (sheet : List Rule) (before after : Ledger)
    (walked : Walked (List Rule)) (ok : walk prune sheet before = .ok walked after) :
    content walked.kept = content sheet ↔
      (prune = true → ∀ r ∈ rules sheet, r.isSpent = true → content r.children = []) := by
  rw [walk_success prune sheet before after walked ok]
  exact left_content_iff prune sheet

/-- An empty rule goes without loss, and a media rule without a declaration list stays around its content. -/
theorem walk_content_iff_media :
    ∃ walked after,
      walk true [rule ".empty" [], media "palm" [rule ".a" [declaration "color" "red"]]]
        ⟨.empty defaultDelta, []⟩ = .ok walked after ∧
      (content walked.kept =
          content [rule ".empty" [], media "palm" [rule ".a" [declaration "color" "red"]]] ↔
        (true = true → ∀ r ∈ rules [rule ".empty" [], media "palm" [rule ".a" [declaration "color" "red"]]],
          r.isSpent = true → content r.children = [])) := by
  have ok : walk true [rule ".empty" [], media "palm" [rule ".a" [declaration "color" "red"]]]
      ⟨.empty defaultDelta, []⟩ =
    .ok ⟨[media "palm" [rule ".a" [declaration "color" "red"]]], [media "palm" [rule ".a" [declaration "color" "red"]]]⟩
      ⟨.empty defaultDelta, []⟩ := rfl
  exact ⟨_,_,ok,walk_content_iff _ _ _ _ _ ok⟩

/-- A media rule with an empty declaration list is dropped although there is content below it. -/
theorem walk_drops_nested_content :
    ∃ walked after,
      walk true [{ media "palm" [rule ".a" [declaration "color" "red"]] with declarations := some [] }]
        ⟨.empty defaultDelta, []⟩ = .ok walked after ∧
      content walked.kept ≠
        content [{ media "palm" [rule ".a" [declaration "color" "red"]] with declarations := some [] }] := by
  let dropped : Rule := { media "palm" [rule ".a" [declaration "color" "red"]] with declarations := some [] }
  refine ⟨⟨[], [dropped]⟩,⟨.empty defaultDelta, []⟩,rfl,?_⟩
  have other : (declaration "color" "red").isOther = true := rfl
  simp [content_cons,content_nil,Rule.content,Rule.entries,Rule.children,media,rule,other]

end Stylesheet
end MediaTiers
