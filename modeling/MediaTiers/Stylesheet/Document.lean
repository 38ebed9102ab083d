import MediaTiers.Stylesheet.Basic
import MediaTiers.Value.Access

/-! Stylesheet trees as document values. Fields that a node does not carry are left out of the
document, and reading fills them with their defaults. -/
namespace MediaTiers

namespace Declaration

def toValue (d : Declaration) : Value :=
  if d.type.same (.text "comment") then
    .record [("type", .text "comment"), ("comment", d.comment)]
  else .record [("type", d.type), ("property", d.property), ("value", d.value)]

def ofValue (v : Value) : Except Failure Declaration := do
  let property ← v.fieldD "property" .null
  let value ← v.fieldD "value" .null
  let type ← v.fieldD "type" (.text "declaration")
  let comment ← v.fieldD "comment" .null
  return { property, value, type, comment }

end Declaration

mutual

def Rule.toValue : Rule → Value
  | ⟨type, selectors, declarations, rules, media⟩ =>
    .record <| ("type", type)
      :: (if selectors.isEmpty then [] else [("selectors", .list selectors)])
      ++ (if media.isNull then [] else [("media", media)])
      ++ (match declarations with
        | none => []
        | some ds => [("declarations", .list (ds.map (·.toValue)))])
      ++ (match rules with
        | none => []
        | some rs => [("rules", .list (Stylesheet.toValues rs))])

def Stylesheet.toValues : List Rule → List Value
  | [] => []
  | r :: rs => r.toValue :: Stylesheet.toValues rs

end

def Declaration.listOf (v : Value) : Except Failure (Option (List Declaration)) :=
  if v.isNull then .ok none else do some <$> (← v.elements).mapM Declaration.ofValue

def Rule.ofValueWithin : (depth : Nat) → Value → Except Failure Rule
  | 0, _ => .error .endless
  | depth + 1, v => do
    let type ← v.fieldD "type" (.text "rule")
    let selectors ← (← v.fieldD "selectors" (.list [])).elements
    let declarations ← Declaration.listOf (← v.fieldD "declarations" .null)
    let nested ← v.fieldD "rules" .null
    let rules ← if nested.isNull then pure none else do
      some <$> (← nested.elements).mapM (Rule.ofValueWithin depth)
    let media ← v.fieldD "media" .null
    return { type, selectors, declarations, rules, media }

/-- Reads a rule from a map. Rules nest no deeper than there are values to hold them, unless a value is
among its own rules. -/
def Rule.ofValue (v : Value) : Except Failure Rule :=
  Rule.ofValueWithin (v.size + 1) v

namespace Stylesheet

def toValue (sheet : Stylesheet) : Value :=
  .record [("type", .text "stylesheet"),
    ("stylesheet", .record [("rules", .list (toValues sheet))])]

def ofValueWithin (depth : Nat) (v : Value) : Except Failure Stylesheet := do
  let body ← v.fieldD "stylesheet" v
  (← (← body.fieldD "rules" (.list [])).elements).mapM (Rule.ofValueWithin depth)

def ofValue (v : Value) : Except Failure Stylesheet :=
  ofValueWithin (v.size + 1) v

end Stylesheet
end MediaTiers
