import MediaTiers.Breakpoint
import MediaTiers.Decimal.Reader
import MediaTiers.Selector
import MediaTiers.Value.Access
import MediaTiers.Value.Display
import MediaTiers.Value.Order

/-! The configuration of a run: defaults for what a stylesheet does not decide itself, read from a
document value and written back to one. -/
namespace MediaTiers

structure Config where
  useOnly : Bool
  deviceWidth : Bool
  pruneEmpty : Bool
  delta : Decimal
  mode : MatchMode
  deriving DecidableEq, Repr

namespace Config

def default : Config :=
  ⟨false, false, true, defaultDelta, .word⟩

def mediaOptions (c : Config) : MediaOptions :=
  ⟨c.deviceWidth, c.useOnly⟩

def knownKeys : List String :=
  ["use_only", "device_width", "prune_empty_rules", "fractional_delta", "match_mode"]

def isKnownKey : Value → Bool
  | .text key => knownKeys.contains key
  | _ => false

def checkKeys (entries : List (Value × Value)) : Except Failure Unit := do
  let unknown ← Value.sorted ((entries.map (·.1)).filter (!isKnownKey ·))
  if !unknown.isEmpty then throw (.config (.unknownKeys (← unknown.mapM (·.display))))

def readFlag (entries : List (Value × Value)) (key : String) (default : Bool) :
    Except Failure Bool :=
  match Value.lookup? key entries with
  | none => .ok default
  | some (.bool b) => .ok b
  | some v => do throw (.config (.notFlag key (← v.display)))

/-- The delta is read from the plain text of its value and has to be finite and above zero. -/
def readDelta (entries : List (Value × Value)) : Except Failure Decimal :=
  match Value.lookup? "fractional_delta" entries with
  | none => .ok defaultDelta
  | some v => do match Decimal.read? (← v.plain).toList with
    | none => throw (.config (.unreadableDelta (← v.display)))
    | some delta => if delta.isPositive then return delta else throw (.config (.deltaNotPositive delta))

/-- The mode is looked up by the plain text of its value, in any letter case. -/
def readMode (entries : List (Value × Value)) : Except Failure MatchMode :=
  match Value.lookup? "match_mode" entries with
  | none => .ok .word
  | some v => do match MatchMode.ofName? (Text.lowercase (← v.plain)) with
    | none => throw (.config (.unknownMode (← v.display)))
    | some mode => return mode

/-- Reads a configuration; an empty value stands for the defaults. -/
def ofValue (v : Value) : Except Failure Config :=
  if v.isEmpty then .ok default
  else match v.bare with
    | .map entries => do
      checkKeys entries
      let useOnly ← readFlag entries "use_only" false
      let deviceWidth ← readFlag entries "device_width" false
      let pruneEmpty ← readFlag entries "prune_empty_rules" true
      let delta ← readDelta entries
      let mode ← readMode entries
      return { useOnly, deviceWidth, pruneEmpty, delta, mode }
    | v => .error (.config (.notMapping v.kindName))

def toValue (c : Config) : Value :=
  .record [("use_only", .bool c.useOnly), ("device_width", .bool c.deviceWidth),
    ("prune_empty_rules", .bool c.pruneEmpty), ("fractional_delta", .text (toString c.delta)),
    ("match_mode", .text c.mode.name)]

end Config
end MediaTiers
