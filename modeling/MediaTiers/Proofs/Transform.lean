import MediaTiers.Proofs.Attempt
import MediaTiers.Proofs.Stylesheet.Declared
import MediaTiers.Transform
import Mathlib

/-! What a run leaves is settled: no rule declares anything any more, and after pruning no declaration list
is empty. A settled sheet passes through a further run as it is. -/
namespace MediaTiers

/-- A rule that declares nothing and, where empty rules are pruned, is not one. -/
def Rule.Settled (prune : Bool) (r : Rule) : Prop :=
  (∀ d ∈ r.entries, d.isOther = true) ∧ (prune = true → r.declarations ≠ some [])

theorem Rule.Settled.weaken {first second : Bool} {r : Rule}
    (wider : first = true ∨ second = false) (settled : r.Settled first) : r.Settled second := by
  refine ⟨settled.1,?_⟩
  intro pruned
  rcases wider with on | off
  · exact settled.2 on
  · simp [off] at pruned

theorem Rule.Settled.stays {prune : Bool} {r : Rule} (settled : r.Settled prune) :
    (prune && r.isSpent) = false := by
  cases held : r.declarations with
  | none => simp [Rule.isSpent,held]
  | some ds =>
    obtain ⟨others,nonempty⟩ := settled
    have kept : ds.filter (·.isOther) = ds := by
      apply List.filter_eq_self.mpr
      intro d member
      exact others d (by simpa [Rule.entries,held] using member)
    rw [r.isSpent_some ds held,kept]
    cases prune with
    | false => rfl
    | true =>
      have filled : ds ≠ [] := by simpa [held] using nonempty rfl
      simpa using filled

theorem Rule.Settled.around_self {prune : Bool} {r : Rule} (settled : r.Settled prune) :
    r.around r.children = r := by
  obtain ⟨type,selectors,declarations,rules,media⟩ := r
  have kept : declarations.map (·.filter (·.isOther)) = declarations := by
    cases declarations with
    | none => rfl
    | some ds =>
      rw [Option.map_some,List.filter_eq_self.mpr]
      intro d member
      exact settled.1 d (by simpa [Rule.entries] using member)
  have nested : (rules.map fun _ => rules.getD []) = rules := by
    cases rules <;> rfl
  simp only [Rule.around,Rule.children,kept,nested]

theorem Rule.substituteMedia_media (m : OrderedMap String) (mode : MatchMode) (r : Rule) :
    (r.substituteMedia m mode).media = mediaAfter m mode r.media := by
  obtain ⟨type,selectors,declarations,rules,media⟩ := r
  cases rules <;> rfl

theorem Rule.substituteMedia_children (m : OrderedMap String) (mode : MatchMode) (r : Rule) :
    (r.substituteMedia m mode).children = Stylesheet.substituteMedia m mode r.children := by
  obtain ⟨type,selectors,declarations,rules,media⟩ := r
  cases rules with
  | none => simp [substituteMedia,children,Stylesheet.substituteMedia]
  | some rs => simp [substituteMedia,children]

theorem Rule.around_settled (prune : Bool) (r : Rule) (inner : List Rule)
    (stays : (prune && r.isSpent) = false) : (r.around inner).Settled prune := by
  cases held : r.declarations with
  | none => simp [Rule.Settled,Rule.entries,Rule.around,held]
  | some ds =>
    rw [r.isSpent_some ds held] at stays
    constructor
    · intro d member
      have chosen : d ∈ ds.filter (·.isOther) := by
        simpa only [Rule.entries,Rule.around,held,Option.map_some,Option.getD_some] using member
      exact (List.mem_filter.mp chosen).2
    · rintro rfl
      simpa only [Rule.around,held,Option.map_some,Bool.true_and,ne_eq,Option.some.injEq,
        List.isEmpty_eq_false_iff] using stays

namespace Stylesheet

def Settled (prune : Bool) (sheet : List Rule) : Prop :=
  ∀ r ∈ rules sheet, r.Settled prune

theorem settled_cons (prune : Bool) (r : Rule) (rs : List Rule) :
    Settled prune (r :: rs) ↔ r.Settled prune ∧ Settled prune r.children ∧ Settled prune rs :=
  forall_rules_cons _ r rs

theorem left_settled (prune : Bool) (sheet : List Rule) : Settled prune (left prune sheet) := by
  induction sheet using induction with
  | nil => simp [left,Settled,rules_nil]
  | cons r rs inner rest =>
    rw [left]
    cases dropped : prune && r.isSpent with
    | true => simpa using rest
    | false =>
      rw [if_neg (by simp),settled_cons,around_children]
      exact ⟨r.around_settled prune _ dropped,inner,rest⟩

theorem left_of_settled (prune : Bool) (sheet : List Rule) (settled : Settled prune sheet) :
    left prune sheet = sheet := by
  induction sheet using induction with
  | nil => simp [left]
  | cons r rs inner rest =>
    obtain ⟨first,below,beside⟩ := (settled_cons prune r rs).mp settled
    rw [left,first.stays,if_neg (by simp),inner below,rest beside,first.around_self]

theorem collected_of_settled (prune : Bool) (sheet : List Rule) (settled : Settled prune sheet) :
    collected prune sheet = (leaving sheet).filter (!·.media.isEmpty) := by
  induction sheet using induction with
  | nil => simp [collected_nil,leaving]
  | cons r rs inner rest =>
    obtain ⟨first,below,beside⟩ := (settled_cons prune r rs).mp settled
    rw [collected_cons,inner below,rest beside,left_of_settled prune r.children below,first.around_self,leaving,
      List.filter_append,List.filter_cons,List.append_assoc]
    cases r.media.isEmpty <;> rfl

theorem walk_of_settled (prune : Bool) (sheet : List Rule) (settled : Settled prune sheet) :
    walk prune sheet = pure ⟨sheet, (leaving sheet).filter (!·.media.isEmpty)⟩ := by
  have others : ∀ d ∈ walkOrder sheet, d.isOther = true := by
    intro d member
    obtain ⟨r,left,inside⟩ := List.mem_flatMap.mp member
    exact (settled r ((leaving_perm sheet).mem_iff.mp left)).1 d inside
  rw [walk_eq,declareAll_others _ others,left_of_settled prune sheet settled,collected_of_settled prune sheet settled,
    pure_bind]

theorem substituteMedia_map (m : OrderedMap String) (mode : MatchMode) (rs : List Rule) :
    substituteMedia m mode rs = rs.map (·.substituteMedia m mode) := by
  induction rs with
  | nil => simp [substituteMedia]
  | cons r rs ih => rw [substituteMedia,ih,List.map_cons]

theorem substituteMedia_cons (m : OrderedMap String) (mode : MatchMode) (r : Rule) (rs : List Rule) :
    substituteMedia m mode (r :: rs) =
      ⟨r.type, r.selectors, r.declarations, r.rules.map (substituteMedia m mode), Rule.mediaAfter m mode r.media⟩
        :: substituteMedia m mode rs := by
  obtain ⟨type,selectors,declarations,rules,media⟩ := r
  cases rules <;> simp [substituteMedia,Rule.substituteMedia]

/-- Replacing names in media selectors touches no declaration. -/
theorem substituteMedia_settled (prune : Bool) (m : OrderedMap String) (mode : MatchMode) (sheet : List Rule)
    (settled : Settled prune sheet) : Settled prune (substituteMedia m mode sheet) := by
  induction sheet using induction with
  | nil => simpa [substituteMedia] using settled
  | cons r rs inner rest =>
    obtain ⟨first,below,beside⟩ := (settled_cons prune r rs).mp settled
    rw [substituteMedia_cons,settled_cons]
    refine ⟨first,?_,rest beside⟩
    cases nested : r.rules with
    | none => simp [Rule.children,Settled,rules_nil]
    | some rs => simpa [Rule.children,nested] using inner below

theorem substituteMedia_empty (mode : MatchMode) (sheet : List Rule) :
    substituteMedia [] mode sheet = sheet := by
  induction sheet using induction with
  | nil => simp [substituteMedia]
  | cons r rs inner rest =>
    obtain ⟨type,selectors,declarations,rules,media⟩ := r
    rw [substituteMedia_cons,rest]
    cases rules with
    | none => simp [Rule.mediaAfter]
    | some rs =>
      have unchanged : substituteMedia [] mode rs = rs := by simpa [Rule.children] using inner
      simp [Rule.mediaAfter,unchanged]

theorem mediaMap_empty (delta : Decimal) (o : MediaOptions) : (Registry.empty delta).mediaMap o = .ok [] := by
  simp [Registry.mediaMap,Registry.ofKind,Registry.empty_breakpoints,maxTiers,minTiers,ascending,sortFault?,tiersAlong,
    synthesizedQueries,namedQueries,customQueries,OrderedMap.ofList,OrderedMap.putAll]

theorem resolve_empty (config : Config) (walked : Walked (List Rule)) :
    resolve config (.empty config.delta) walked =
      .ok (walked.kept, ⟨[], [], walked.collected, 0, config.mediaOptions⟩) := by
  have options : config.mediaOptions.withFlags (Registry.empty config.delta).options = config.mediaOptions := rfl
  have found : (Registry.empty config.delta).breakpoints = [] := rfl
  simp only [resolve,options,found,mediaMap_empty,Attempt.ok_bind,Selector.substituteAll]
  simp [substituteMedia_empty]

theorem resolve_success (config : Config) (registry : Registry) (walked : Walked (List Rule)) (after : Stylesheet)
    (report : Report) (ok : resolve config registry walked = .ok (after, report)) :
    registry.mediaMap report.options = .ok report.mediaMap ∧
      (∃ replaced, Selector.substituteAll report.mediaMap config.mode walked.media = .ok (replaced, report.changed)) ∧
      report.mediaRules = substituteMedia report.mediaMap config.mode walked.collected ∧
      after = substituteMedia report.mediaMap config.mode walked.kept ∧
      report.breakpoints = registry.breakpoints ∧
      report.options = config.mediaOptions.withFlags registry.options := by
  obtain ⟨queries,found,rest⟩ := Attempt.bind_success _ _ _ ok
  obtain ⟨⟨selectors,changed⟩,replaced,given⟩ := Attempt.bind_success _ _ _ rest
  cases given
  exact ⟨found,⟨selectors,replaced⟩,rfl,rfl,rfl,rfl⟩

theorem transform_resolved (sheet after : Stylesheet) (config : Config) (warnings : List String) (report : Report)
    (ok : sheet.transform config = (warnings, .ok (after, report))) :
    Registrable config.delta (declaredPairs (walkOrder sheet)) ∧
      resolve config (registryOf config.delta (declaredPairs (walkOrder sheet)))
        ⟨left config.pruneEmpty sheet, collected config.pruneEmpty sheet⟩ = .ok (after, report) := by
  unfold transform at ok
  cases walks : walk config.pruneEmpty sheet ⟨.empty config.delta, []⟩ with
  | error failure ledger => simp [walks] at ok
  | ok walked ledger =>
    obtain ⟨registrable,held⟩ :=
      (walk_leaves config.pruneEmpty sheet config.delta ledger.registry).mp ⟨walked,ledger,walks,rfl⟩
    obtain rfl := walk_success config.pruneEmpty sheet _ ledger walked walks
    simp only [walks,Prod.mk.injEq,held] at ok
    exact ⟨registrable,ok.2⟩

/-- A run that succeeds has the media map of what the sheet declares, and replaces names in the rules that the walk
collected and in the tree that it left. -/
theorem transform_parts (sheet after : Stylesheet) (config : Config) (warnings : List String) (report : Report)
    (ok : sheet.transform config = (warnings, .ok (after, report))) :
    Registrable config.delta (declaredPairs (walkOrder sheet)) ∧
      (registryOf config.delta (declaredPairs (walkOrder sheet))).mediaMap report.options = .ok report.mediaMap ∧
      (∃ replaced, Selector.substituteAll report.mediaMap config.mode (selectorsMet sheet) =
        .ok (replaced, report.changed)) ∧
      report.mediaRules = substituteMedia report.mediaMap config.mode (collected config.pruneEmpty sheet) ∧
      after = substituteMedia report.mediaMap config.mode (left config.pruneEmpty sheet) := by
  obtain ⟨registrable,resolved⟩ := transform_resolved sheet after config warnings report ok
  obtain ⟨found,replaced,rewritten,given,-⟩ := resolve_success _ _ _ _ _ resolved
  rw [Walked.media,collected_media] at replaced
  exact ⟨registrable,found,replaced,rewritten,given⟩

theorem transform_success (sheet after : Stylesheet) (config : Config) (report : Report)
    (pairs : List (Value × Value)) (walked : Walked (List Rule)) (order : declaredPairs (walkOrder sheet) = pairs)
    (leaves : ⟨left config.pruneEmpty sheet, collected config.pruneEmpty sheet⟩ = walked)
    (registrable : Registrable config.delta pairs)
    (resolved : resolve config (registryOf config.delta pairs) walked = .ok (after, report)) :
    ∃ warnings, sheet.transform config = (warnings, .ok (after, report)) := by
  subst order leaves
  obtain ⟨walked,l,walks,held⟩ := (walk_leaves config.pruneEmpty sheet config.delta _).mpr ⟨registrable,rfl⟩
  obtain rfl := walk_success config.pruneEmpty sheet _ l walked walks
  refine ⟨l.warnings,?_⟩
  rw [transform,walks]
  simp only [held,resolved]

theorem transform_settled (sheet after : Stylesheet) (config : Config) (warnings : List String)
    (report : Report) (ok : sheet.transform config = (warnings, .ok (after, report))) :
    Settled config.pruneEmpty after := by
  obtain ⟨-,-,-,-,rfl⟩ := transform_parts sheet after config warnings report ok
  exact substituteMedia_settled _ _ _ _ (left_settled _ _)

/-- A run over what an earlier run gave finds nothing, warns of nothing and changes nothing, unless it prunes
and the earlier one did not. The rules it collects are those of the tree as they are. -/
theorem transform_again (sheet after : Stylesheet) (first second : Config) (warnings : List String)
    (report : Report) (pruned : first.pruneEmpty = true ∨ second.pruneEmpty = false)
    (ok : sheet.transform first = (warnings, .ok (after, report))) :
    after.transform second = ([], .ok (after,
      ⟨[], [], (leaving after).filter (!·.media.isEmpty), 0, second.mediaOptions⟩)) := by
  have settled : Settled second.pruneEmpty after := fun r member =>
    (transform_settled sheet after first warnings report ok r member).weaken pruned
  unfold transform
  rw [walk_of_settled second.pruneEmpty after settled,Pass.pure_run]
  simp only [resolve_empty]

/-- A run that replaces a name, and the one after it. -/
theorem transform_again_palm :
    let sheet : Stylesheet := [rule ".a" [declaration "breakpoint-palm" "max 340px"],
      media "palm" [rule ".b" [declaration "color" "red"]]]
    let after : Stylesheet := [media "screen and (max-width: 340px)" [rule ".b" [declaration "color" "red"]]]
    ∃ warnings report, sheet.transform .default = (warnings, .ok (after, report)) ∧ report.changed = 1 ∧
      after.transform .default = ([], .ok (after,
        ⟨[], [], (leaving after).filter (!·.media.isEmpty), 0, ⟨false, false⟩⟩)) := by
  intro sheet after
  let palm : Value × Value := (.text "breakpoint-palm", .text "max 340px")
  let r : Registry := .holding defaultDelta [.ofPoint "palm" .max (.finite false 340 0) .px defaultDelta] []
  let report : Report := ⟨r.breakpoints, [("palm-and-down", "screen and (max-width: 340px)"),
    ("palm", "screen and (max-width: 340px)")], after, 1, ⟨false, false⟩⟩
  have held : registryOf defaultDelta [palm] = r := by cbv
  have points : breakpointsSaid defaultDelta [palm] = r.breakpoints := by rw [← registryOf_breakpoints,held]
  have said : (Meaning.of? defaultDelta palm.1 palm.2).isSome := by cbv
  have registrable : Registrable defaultDelta [palm] := ⟨by simp [said],by simp [points,r]⟩
  have order : declaredPairs (walkOrder sheet) = [palm] := by cbv
  have taken : (declaration "breakpoint-palm" "max 340px").isOther = false := by cbv
  have stays : (declaration "color" "red").isOther = true := by cbv
  let kept : List Rule := [media "palm" [rule ".b" [declaration "color" "red"]]]
  have leaves : ⟨left true sheet, collected true sheet⟩ = (⟨kept, kept⟩ : Walked (List Rule)) := by
    simp [sheet,kept,left,collected_cons,collected_nil,rule,media,Rule.isSpent,Rule.around,Rule.children,Value.isEmpty,
      taken,stays]
  have resolved : resolve .default (registryOf defaultDelta [palm]) ⟨kept, kept⟩ = .ok (after, report) := by
    rw [held]
    cbv
  obtain ⟨warnings,ok⟩ := transform_success sheet after .default report [palm] _ order leaves registrable resolved
  exact ⟨warnings,report,ok,rfl,transform_again sheet after .default .default warnings report (.inl rfl) ok⟩

end Stylesheet
end MediaTiers
