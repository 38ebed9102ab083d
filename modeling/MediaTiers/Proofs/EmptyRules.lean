import MediaTiers.Proofs.Transform

/-! Pruning as a step of its own. A run that prunes gives the same as one that does not, with the empty rules taken
out of its tree at the end: what is registered, resolved and counted on the way does not depend on it. -/
namespace MediaTiers

/-- Whether a rule has a declaration list, and nothing in it. -/
def Rule.isHollow (r : Rule) : Bool :=
  r.declarations.any (·.isEmpty)

/-- A rule around other rules than its own, where it may hold any. -/
def Rule.holding (r : Rule) (inner : List Rule) : Rule :=
  ⟨r.type, r.selectors, r.declarations, r.rules.map fun _ => inner, r.media⟩

theorem Rule.isHollow_around (r : Rule) (inner : List Rule) : (r.around inner).isHollow = r.isSpent := by
  cases held : r.declarations with
  | none => simp [Rule.isHollow,Rule.around,Rule.isSpent,held]
  | some ds => simp [Rule.isHollow,Rule.around,r.isSpent_some ds held,held]

theorem Rule.holding_around (r : Rule) (inner outer : List Rule) : (r.around inner).holding outer = r.around outer := by
  simp [Rule.holding,Rule.around,Function.comp_def]

namespace Stylesheet

/-- A sheet without its hollow rules, at any depth; with a rule goes all that is below it. -/
def withoutHollow : List Rule → List Rule
  | [] => []
  | r :: rs =>
    if r.isHollow then withoutHollow rs
    else r.holding (withoutHollow r.children) :: withoutHollow rs
termination_by sheet => count sheet
decreasing_by
  all_goals
    have := count_children r
    simp only [count]
    omega

theorem withoutHollow_left (sheet : List Rule) : withoutHollow (left false sheet) = left true sheet := by
  induction sheet using induction with
  | nil => simp [left,withoutHollow]
  | cons r rs inner rest =>
    rw [left_unpruned,withoutHollow,r.isHollow_around,around_children,r.holding_around,inner,rest,left,Bool.true_and]

/-- Names may be replaced before or after: whether a rule is hollow does not depend on its media selector. -/
theorem withoutHollow_substituteMedia (m : OrderedMap String) (mode : MatchMode) (sheet : List Rule) :
    withoutHollow (substituteMedia m mode sheet) = substituteMedia m mode (withoutHollow sheet) := by
  induction sheet using induction with
  | nil => simp [substituteMedia,withoutHollow]
  | cons r rs inner rest =>
    obtain ⟨type,selectors,declarations,rules,media⟩ := r
    cases hollow : declarations.any (·.isEmpty) with
    | true => simp [substituteMedia_cons,withoutHollow,Rule.isHollow,hollow,rest]
    | false =>
      cases rules with
      | none => simp [substituteMedia_cons,withoutHollow,Rule.isHollow,Rule.holding,hollow,rest]
      | some nested =>
        have below : withoutHollow (substituteMedia m mode nested) = substituteMedia m mode (withoutHollow nested) :=
          inner
        simp [substituteMedia_cons,withoutHollow,Rule.isHollow,Rule.holding,Rule.children,hollow,below,rest]

end Stylesheet

def Rule.withoutHollow (r : Rule) : Rule :=
  r.holding (Stylesheet.withoutHollow r.children)

/-- A report of the same run with the hollow rules left out below the rules that were found. -/
def Report.withoutHollow (report : Report) : Report :=
  { report with mediaRules := report.mediaRules.map Rule.withoutHollow }

theorem Report.media_withoutHollow (report : Report) : report.withoutHollow.media = report.media := by
  rw [media,withoutHollow,List.map_map]
  rfl

theorem Rule.withoutHollow_substituteMedia (m : OrderedMap String) (mode : MatchMode) (r : Rule) :
    (r.substituteMedia m mode).withoutHollow = r.withoutHollow.substituteMedia m mode := by
  obtain ⟨type,selectors,declarations,rules,media⟩ := r
  cases rules with
  | none => rfl
  | some rs =>
    have below := Stylesheet.withoutHollow_substituteMedia m mode rs
    simp [withoutHollow,holding,children,substituteMedia,below]

namespace Stylesheet

theorem map_withoutHollow (m : OrderedMap String) (mode : MatchMode) (rs : List Rule) :
    (substituteMedia m mode rs).map Rule.withoutHollow = substituteMedia m mode (rs.map Rule.withoutHollow) := by
  simp only [substituteMedia_map,List.map_map,Function.comp_def,Rule.withoutHollow_substituteMedia]

/-- A rule is collected before it is dropped, so pruning makes a difference only below it. -/
theorem collected_withoutHollow (sheet : List Rule) :
    (collected false sheet).map Rule.withoutHollow = collected true sheet := by
  rw [collected,collected,List.map_map]
  apply List.map_congr_left
  intro r _
  simp only [Function.comp_apply,Rule.withoutHollow,around_children,r.holding_around,withoutHollow_left]

theorem resolve_withoutHollow (config : Config) (registry : Registry) (pruned full : Walked (List Rule))
    (kept : pruned.kept = withoutHollow full.kept)
    (collected : pruned.collected = full.collected.map Rule.withoutHollow) (media : pruned.media = full.media) :
    resolve { config with pruneEmpty := true } registry pruned =
      (resolve { config with pruneEmpty := false } registry full).map
        fun given => (withoutHollow given.1, given.2.withoutHollow) := by
  simp only [resolve,Config.mediaOptions,kept,collected,media]
  cases registry.mediaMap (MediaOptions.withFlags ⟨config.deviceWidth, config.useOnly⟩ registry.options) with
  | error failure => rfl
  | ok mediaMap =>
    simp only [Attempt.ok_bind]
    cases Selector.substituteAll mediaMap config.mode full.media with
    | error failure => rfl
    | ok replaced =>
      simp only [Attempt.ok_bind,Attempt.pure_ok,Except.map,withoutHollow_substituteMedia,Report.withoutHollow,
        map_withoutHollow]

/-- Runs that differ in pruning alone warn alike and fail alike. If they succeed, the pruned tree is the other one
without its hollow rules, and so are the rules below those that were found. All else that they report is the same. -/
theorem transform_pruned (sheet : Stylesheet) (config : Config) :
    let pruned := sheet.transform { config with pruneEmpty := true }
    let unpruned := sheet.transform { config with pruneEmpty := false }
    pruned = (unpruned.1, unpruned.2.map fun given => (withoutHollow given.1, given.2.withoutHollow)) ∧
      pruned.2.map (·.2.media) = unpruned.2.map (·.2.media) := by
  intro pruned unpruned
  have same : pruned =
      (unpruned.1, unpruned.2.map fun given => (withoutHollow given.1, given.2.withoutHollow)) := by
    simp only [pruned,unpruned,transform,walk_eq,Pass.bind_run]
    cases declareAll (walkOrder sheet) ⟨.empty config.delta, []⟩ with
    | error failure ledger => rfl
    | ok _ ledger =>
      simp only [Pass.pure_run]
      have media : Walked.media ⟨left true sheet, collected true sheet⟩ =
          Walked.media ⟨left false sheet, collected false sheet⟩ := by
        simp only [Walked.media,collected_media]
      rw [resolve_withoutHollow config ledger.registry _ _ (withoutHollow_left sheet).symm
        (collected_withoutHollow sheet).symm media]
  refine ⟨same,?_⟩
  rw [same]
  cases unpruned.2 with
  | error failure => rfl
  | ok given => exact congrArg Except.ok given.2.media_withoutHollow

end Stylesheet
end MediaTiers
