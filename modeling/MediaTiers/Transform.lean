import MediaTiers.Config.Basic
import MediaTiers.Stylesheet.Walk
import MediaTiers.Tier

/-! A run over one stylesheet: walk it, resolve the registry into a media map, replace names in the
media selectors. Every run starts from an empty registry. -/
namespace MediaTiers

structure Report where
  breakpoints : List Breakpoint
  mediaMap : OrderedMap String
  mediaRules : List Rule
  changed : Nat
  options : MediaOptions
  deriving Repr

/-- A media selector with names replaced; an empty one, or one that is no text, is kept. -/
def Rule.mediaAfter (m : OrderedMap String) (mode : MatchMode) (media : Value) : Value :=
  if m.isEmpty || media.isEmpty then media
  else match Selector.substituteValue m mode media with
    | .ok replaced => replaced
    | .error _ => media

mutual

def Rule.substituteMedia (m : OrderedMap String) (mode : MatchMode) : Rule → Rule
  | ⟨type, selectors, declarations, none, media⟩ =>
    ⟨type, selectors, declarations, none, Rule.mediaAfter m mode media⟩
  | ⟨type, selectors, declarations, some rs, media⟩ =>
    ⟨type, selectors, declarations, some (Stylesheet.substituteMedia m mode rs),
      Rule.mediaAfter m mode media⟩

def Stylesheet.substituteMedia (m : OrderedMap String) (mode : MatchMode) : List Rule → List Rule
  | [] => []
  | r :: rs => r.substituteMedia m mode :: Stylesheet.substituteMedia m mode rs

end

def Report.media (report : Report) : List Value :=
  report.mediaRules.map (·.media)

/-- The part of a run after the walk. Names are replaced in every rule that was collected, also in one that is not
in the tree any more. -/
def Stylesheet.resolve (config : Config) (registry : Registry) (walked : Walked (List Rule)) :
    Except Failure (Stylesheet × Report) := do
  let options := config.mediaOptions.withFlags registry.options
  let mediaMap ← registry.mediaMap options
  let (_, changed) ← Selector.substituteAll mediaMap config.mode walked.media
  return (Stylesheet.substituteMedia mediaMap config.mode walked.kept,
    { breakpoints := registry.breakpoints, mediaMap,
      mediaRules := Stylesheet.substituteMedia mediaMap config.mode walked.collected, changed, options })

def Stylesheet.transform (sheet : Stylesheet) (config : Config) :
    List String × Except Failure (Stylesheet × Report) :=
  match Stylesheet.walk config.pruneEmpty sheet ⟨.empty config.delta, []⟩ with
  | .ok walked ledger => (ledger.warnings, Stylesheet.resolve config ledger.registry walked)
  | .error failure ledger => (ledger.warnings, .error failure)

end MediaTiers
