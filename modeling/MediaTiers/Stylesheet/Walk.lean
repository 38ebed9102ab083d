import MediaTiers.Registry
import MediaTiers.Stylesheet.Basic

/-! One walk over a rule tree: it fills the registry from the declarations, collects the rules that have a
media selector, and drops the rules that are left without declarations. -/
namespace MediaTiers

/-- What a walk leaves of a tree, and the rules with a media selector in the order they were met, each as
the walk leaves it, also where it is dropped from the tree. -/
structure Walked (α : Type) where
  kept : α
  collected : List Rule

def Walked.media {α : Type} (walked : Walked α) : List Value :=
  walked.collected.map (·.media)

/-- The last part of a visit, with the outcome of walking the nested rules in hand: consumes the
declarations, collects the rule, and decides whether it stays. -/
def Rule.leave (prune : Bool) (type : Value) (selectors : List Value)
    (declarations : Option (List Declaration)) (media : Value)
    (inner : Walked (Option (List Rule))) : Pass (Walked (Option Rule)) := do
  let collecting (r : Rule) : List Rule := inner.collected ++ if media.isEmpty then [] else [r]
  match declarations with
  | none =>
    let r : Rule := ⟨type, selectors, none, inner.kept, media⟩
    return ⟨some r, collecting r⟩
  | some ds =>
    let left ← consume ds
    let r : Rule := ⟨type, selectors, some left, inner.kept, media⟩
    return ⟨if prune && left.isEmpty then none else some r, collecting r⟩

mutual

/-- Visits a rule: first the nested rules, then the rule itself. With `prune`, a rule whose
declaration list is empty afterwards is dropped. -/
def Rule.walk (prune : Bool) : Rule → Pass (Walked (Option Rule))
  | ⟨type, selectors, declarations, none, media⟩ =>
    Rule.leave prune type selectors declarations media ⟨none, []⟩
  | ⟨type, selectors, declarations, some rs, media⟩ => do
    let inner ← Stylesheet.walk prune rs
    Rule.leave prune type selectors declarations media ⟨some inner.kept, inner.collected⟩

def Stylesheet.walk (prune : Bool) : List Rule → Pass (Walked (List Rule))
  | [] => return ⟨[], []⟩
  | r :: rs => do
    let first ← r.walk prune
    let rest ← Stylesheet.walk prune rs
    return ⟨first.kept.toList ++ rest.kept, first.collected ++ rest.collected⟩

end

end MediaTiers
