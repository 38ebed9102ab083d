import MediaTiers.Declaration

/-! Stylesheet trees: rules with selectors, declarations, nested rules and a media selector. Fields
hold document values, because a tree read from a document is checked only where it is used. -/
namespace MediaTiers

/-- A rule. A missing declaration list means that the node cannot hold declarations; a missing media
selector is null. -/
structure Rule where
  type : Value
  selectors : List Value
  declarations : Option (List Declaration)
  rules : Option (List Rule)
  media : Value
  deriving Repr, Inhabited

abbrev Stylesheet := List Rule

mutual

def Rule.count : Rule → Nat
  | ⟨_, _, _, none, _⟩ => 1
  | ⟨_, _, _, some rs, _⟩ => 1 + Stylesheet.count rs

def Stylesheet.count : List Rule → Nat
  | [] => 0
  | r :: rs => r.count + Stylesheet.count rs

end

def Rule.children (r : Rule) : List Rule :=
  r.rules.getD []

namespace Stylesheet

theorem count_append (rs ss : List Rule) : count (rs ++ ss) = count rs + count ss := by
  induction rs with
  | nil => simp [count]
  | cons r rs ih => simp [count, ih, Nat.add_assoc]

theorem count_children (r : Rule) : count r.children + 1 = r.count := by
  obtain ⟨type, selectors, declarations, rules, media⟩ := r
  cases rules <;> simp [Rule.children, Rule.count, count, Nat.add_comm]

/-- The rules met from a stack of them: the top one, then its children in order, then the rest. Every
step takes one rule off, so the rules left to meet become fewer. -/
def visit : (stack : List Rule) → List Rule
  | [] => []
  | r :: stack => r :: visit (r.children ++ stack)
termination_by stack => count stack
decreasing_by
  have := count_children r
  simp only [count_append, count]
  omega

def rules (sheet : Stylesheet) : List Rule :=
  visit sheet

def mediaRules (sheet : Stylesheet) : List Rule :=
  sheet.rules.filter (!·.media.isEmpty)

def mediaSelectors (sheet : Stylesheet) : List Value :=
  sheet.mediaRules.map (·.media)

def find? (sheet : Stylesheet) (selector : Value) : Option Rule :=
  sheet.rules.find? fun r => r.selectors.any (·.same selector)

end Stylesheet

def declaration (property value : String) : Declaration :=
  ⟨.text property, .text value, .text "declaration", .null⟩

def rule (selector : String) (declarations : List Declaration) : Rule :=
  ⟨.text "rule", [.text selector], some declarations, none, .null⟩

def media (selector : String) (rules : List Rule) : Rule :=
  ⟨.text "media", [], none, some rules, .text selector⟩

end MediaTiers
