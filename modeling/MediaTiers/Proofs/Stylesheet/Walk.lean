import MediaTiers.Proofs.Registry.Declare
import MediaTiers.Proofs.Stylesheet.Traversal
import MediaTiers.Stylesheet.Walk

/-! What a walk does to the registry and what it leaves of the tree, each on its own. The registry sees the
declarations one after another, in the order in which the walk leaves their rules. What stays of the
tree and what is collected from it do not depend on the registry. -/
namespace MediaTiers

def Rule.entries (r : Rule) : List Declaration :=
  r.declarations.getD []

/-- Whether a rule has a declaration list with nothing in it but options and breakpoints. -/
def Rule.isSpent (r : Rule) : Bool :=
  r.declarations.any fun ds => ds.all fun d => !d.isOther

def Rule.selector (r : Rule) : List Value :=
  if r.media.isEmpty then [] else [r.media]

/-- A rule with its other declarations only, around the rules that stay below it. -/
def Rule.around (r : Rule) (inner : List Rule) : Rule :=
  ⟨r.type, r.selectors, r.declarations.map (·.filter (·.isOther)), r.rules.map fun _ => inner, r.media⟩

namespace Stylesheet

/-- The declarations in the order in which a walk meets them. -/
def walkOrder (sheet : List Rule) : List Declaration :=
  (leaving sheet).flatMap Rule.entries

def selectorsMet (sheet : List Rule) : List Value :=
  (leaving sheet).flatMap Rule.selector

def left (prune : Bool) : List Rule → List Rule
  | [] => []
  | r :: rs =>
    if prune && r.isSpent then left prune rs
    else r.around (left prune r.children) :: left prune rs
termination_by sheet => count sheet
decreasing_by
  all_goals
    have := count_children r
    simp only [count]
    omega

/-- The rules with a media selector, each as a walk leaves it. -/
def collected (prune : Bool) (sheet : List Rule) : List Rule :=
  ((leaving sheet).filter (!·.media.isEmpty)).map fun r => r.around (left prune r.children)

end Stylesheet

theorem Rule.walk_children (prune : Bool) (r : Rule) :
    r.walk prune = Stylesheet.walk prune r.children >>= fun inner =>
      Rule.leave prune r.type r.selectors r.declarations r.media
        ⟨r.rules.map fun _ => inner.kept, inner.collected⟩ := by
  obtain ⟨type,selectors,declarations,rules,media⟩ := r
  cases rules with
  | none => simp [Rule.walk,Rule.children,Stylesheet.walk]
  | some rs => simp [Rule.walk,Rule.children]

theorem Rule.isSpent_some (r : Rule) (ds : List Declaration) (held : r.declarations = some ds) :
    r.isSpent = (ds.filter (·.isOther)).isEmpty := by
  rw [Bool.eq_iff_iff]
  simp [Rule.isSpent,held]

theorem Rule.leave_eq (prune : Bool) (r : Rule) (inner : Walked (List Rule)) :
    Rule.leave prune r.type r.selectors r.declarations r.media
        ⟨r.rules.map fun _ => inner.kept, inner.collected⟩ =
      declareAll r.entries >>= fun _ => pure
        ⟨if prune && r.isSpent then none else some (r.around inner.kept),
          inner.collected ++ if r.media.isEmpty then [] else [r.around inner.kept]⟩ := by
  cases held : r.declarations with
  | none => simp [Rule.leave,Rule.entries,Rule.isSpent,Rule.around,held,declareAll_nil]
  | some ds =>
    simp only [Rule.leave,Rule.entries,Rule.around,held,r.isSpent_some ds held,consume_eq,bind_assoc,pure_bind,
      Option.getD_some,Option.map_some]

namespace Stylesheet

theorem left_unpruned (r : Rule) (rs : List Rule) :
    left false (r :: rs) = r.around (left false r.children) :: left false rs := by
  rw [left,Bool.false_and,if_neg Bool.false_ne_true]

theorem around_children (prune : Bool) (r : Rule) :
    (r.around (left prune r.children)).children = left prune r.children := by
  cases nested : r.rules <;> simp [Rule.around,Rule.children,nested,left]

theorem collected_nil (prune : Bool) : collected prune [] = [] := by
  rw [collected,leaving]
  rfl

theorem collected_cons (prune : Bool) (r : Rule) (rs : List Rule) :
    collected prune (r :: rs) = (collected prune r.children ++
      if r.media.isEmpty then [] else [r.around (left prune r.children)]) ++ collected prune rs := by
  simp only [collected]
  rw [leaving,List.filter_append,List.map_append,List.filter_cons,List.append_assoc]
  cases r.media.isEmpty <;> rfl

/-- A walk registers all declarations in walk order, and only then what it leaves of the tree and the
rules it collected are given out: both are known beforehand. -/
theorem walk_eq (prune : Bool) (sheet : List Rule) :
    walk prune sheet = declareAll (walkOrder sheet) >>= fun _ =>
      pure ⟨left prune sheet, collected prune sheet⟩ := by
  induction sheet using Stylesheet.induction with
  | nil => simp [walk,walkOrder,collected_nil,leaving,left,declareAll_nil]
  | cons r rs inner rest =>
    rw [walk,Rule.walk_children,inner,rest]
    simp only [Rule.leave_eq,bind_assoc,pure_bind]
    simp only [walkOrder,leaving,collected_cons,List.flatMap_append,List.flatMap_cons,declareAll_append,bind_assoc]
    rw [left]
    cases prune && r.isSpent <;> simp

theorem walk_success (prune : Bool) (sheet : List Rule) (before after : Ledger) (walked : Walked (List Rule))
    (ok : walk prune sheet before = .ok walked after) : walked = ⟨left prune sheet, collected prune sheet⟩ := by
  rw [walk_eq] at ok
  obtain ⟨_,_,_,given⟩ := Pass.bind_success _ _ _ _ _ ok
  simp only [Pass.pure_run,EStateM.Result.ok.injEq] at given
  exact given.1.symm

/-- Whether a walk prunes makes no difference to the selectors it meets. -/
theorem collected_media (prune : Bool) (sheet : List Rule) :
    (collected prune sheet).map (·.media) = selectorsMet sheet := by
  rw [collected,List.map_map,selectorsMet]
  induction leaving sheet with
  | nil => rfl
  | cons r rs ih => cases empty : r.media.isEmpty <;> simp [Rule.selector,Rule.around,empty,← ih]

/-- A walk is the registration of all declarations one after another, those below a rule before its own: it fails
and warns as they do, and leaves the same registry. If it succeeds, it hands on the rules that have a media
selector, those below a rule before it, and each as the walk leaves it. -/
theorem walk_sequential (prune : Bool) (sheet : List Rule) (before : Ledger) :
    walk prune sheet before =
      match declareAll (walkOrder sheet) before with
      | .ok _ after => .ok ⟨left prune sheet,
          ((leaving sheet).filter (!·.media.isEmpty)).map fun r => r.around (left prune r.children)⟩ after
      | .error failure after => .error failure after := by
  rw [walk_eq,Pass.bind_run]
  cases declareAll (walkOrder sheet) before with
  | ok _ after => rfl
  | error failure after => rfl

end Stylesheet
end MediaTiers
