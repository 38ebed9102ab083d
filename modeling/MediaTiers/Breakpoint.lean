import MediaTiers.Failure
import MediaTiers.Text.Lower

/-! Breakpoints: named points on the width line, or named feature queries. A point is written with
its unit, and neighbouring tiers are kept apart by the tie-break delta of the unit. -/
namespace MediaTiers

inductive Kind where
  | min
  | max
  | custom
  deriving DecidableEq, Repr

namespace Kind

def name : Kind → String
  | .min => "min"
  | .max => "max"
  | .custom => "custom"

def ofName? (s : String) : Option Kind :=
  [Kind.min, .max, .custom].find? (·.name == s)

def ofName (s : String) : Except Failure Kind :=
  match ofName? s with
  | some kind => .ok kind
  | none => .error (.unknownName .kind (Text.quoted s))

end Kind

inductive LengthUnit where
  | px
  | em
  | rem
  deriving DecidableEq, Repr

namespace LengthUnit

def name : LengthUnit → String
  | .px => "px"
  | .em => "em"
  | .rem => "rem"

def ofName? (s : String) : Option LengthUnit :=
  [LengthUnit.px, .em, .rem].find? (·.name == s)

def ofName (s : String) : Except Failure LengthUnit :=
  match ofName? s with
  | some u => .ok u
  | none => .error (.unknownName .unit (Text.quoted s))

/-- Points in this unit may lie closer together than one. -/
def isFractional (u : LengthUnit) : Bool :=
  u != .px

end LengthUnit

def defaultDelta : Decimal :=
  .finite false 1 (-4)

/-- A named breakpoint. One with a point has `value` and `unit`, a custom one has `raw`. -/
structure Breakpoint where
  name : String
  kind : Kind
  value : Option Decimal
  unit : Option LengthUnit
  raw : Option String
  delta : Decimal
  deriving DecidableEq, Repr

def pointText (value : Decimal) (unit : LengthUnit) : Except Failure String :=
  return (← numeric value.plain) ++ unit.name

namespace Breakpoint

def ofPoint (name : String) (kind : Kind) (value : Decimal) (unit : LengthUnit) (delta : Decimal) :
    Breakpoint :=
  ⟨name, kind, some value, some unit, none, delta⟩

def ofQuery (name raw : String) : Breakpoint :=
  ⟨name, .custom, none, none, some raw, defaultDelta⟩

def isTyped (b : Breakpoint) : Bool :=
  b.kind != .custom

/-- The least distance to the next tier: one pixel, or the breakpoint's delta in fractional units. -/
def tieBreak (b : Breakpoint) : Except Failure Decimal :=
  match b.unit with
  | none => .error (.noTieBreak b.name)
  | some u => .ok (if u.isFractional then b.delta else .ofNat 1)

def point (b : Breakpoint) : Except Failure String :=
  match b.value, b.unit with
  | some value, some unit => pointText value unit
  | _, _ => .error (.noPoint b.name)

def shifted (b : Breakpoint) (direction : Decimal.Direction) : Except Failure String := do
  let step ← numeric ((← b.tieBreak).directed direction)
  match b.value, b.unit with
  | some value, some unit => pointText (← numeric (value.add step)) unit
  | _, _ => .error .wrongOperand

end Breakpoint

structure MediaOptions where
  deviceWidth : Bool
  useOnly : Bool
  deriving DecidableEq, Repr

inductive Bound where
  | min
  | max
  deriving DecidableEq, Repr

def Bound.name : Bound → String
  | .min => "min"
  | .max => "max"

namespace MediaOptions

def mediaType (o : MediaOptions) : String :=
  if o.useOnly then "only screen" else "screen"

def feature (o : MediaOptions) (bound : String) : String :=
  bound ++ if o.deviceWidth then "-device-width" else "-width"

/-- The options after option declarations: a declared flag replaces the one that was set. -/
def withFlags (o : MediaOptions) (flags : List (String × Bool)) : MediaOptions where
  deviceWidth := (flags.lookup "device").getD o.deviceWidth
  useOnly := (flags.lookup "use-only").getD o.useOnly

end MediaOptions
end MediaTiers
