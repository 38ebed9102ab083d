import MediaTiers.Registry

/-! Tiers: the width ranges that points cut out of the line. A max point closes its tier from above,
a min point opens its tier from below, and the neighbouring point gives the other end. -/
namespace MediaTiers

structure Range where
  lower : Option String
  upper : Option String
  deriving DecidableEq, Repr

def MediaOptions.condition (o : MediaOptions) (bound : Bound) (point : String) : String :=
  "(" ++ o.feature bound.name ++ ": " ++ point ++ ")"

def Range.query (o : MediaOptions) (r : Range) : String :=
  " and ".intercalate <| o.mediaType ::
    (r.lower.map (o.condition .min)).toList ++ (r.upper.map (o.condition .max)).toList

/-- A declared name with its range, and the ranges of the names made from it. -/
structure Tier where
  name : String
  range : Range
  synthesized : List (String × Range)
  deriving DecidableEq, Repr

def andUp (name : String) : String := name ++ "-and-up"

def andDown (name : String) : String := name ++ "-and-down"

def orderFault? : Option Decimal → Option Failure
  | none => some .wrongOperand
  | some x => if x.isNaN then some (.number .invalidOperation) else none

def comparisonFault? (x y : Option Decimal) : Option Failure :=
  match orderFault? x, orderFault? y with
  | some .wrongOperand, _ | _, some .wrongOperand => some .wrongOperand
  | some failure, _ => some failure
  | none, fault => fault

/-- The first failure that ordering the values meets: each value is compared with an earlier one. -/
def sortFault? : List (Option Decimal) → Option Failure
  | x :: y :: rest => comparisonFault? x y <|> rest.findSome? orderFault?
  | _ => none

def atMost (x y : Breakpoint) : Bool :=
  match x.value, y.value with
  | some a, some b => a.compareValue b != .gt
  | _, _ => true

/-- The breakpoints by ascending value; those of equal value keep their order. -/
def ascending (bs : List Breakpoint) : Except Failure (List Breakpoint) :=
  match sortFault? (bs.map (·.value)) with
  | some failure => .error failure
  | none => .ok (bs.mergeSort atMost)

def maxTier (below : Option Breakpoint) (b : Breakpoint) : Except Failure Tier := do
  let point ← b.point
  let upTo : Range := ⟨none, some point⟩
  match below with
  | none => return ⟨b.name, upTo, [(andDown b.name, upTo)]⟩
  | some neighbour =>
    let lower ← neighbour.shifted .up
    return ⟨b.name, ⟨some lower, some point⟩,
      [(andDown b.name, upTo), (andUp b.name, ⟨some lower, none⟩)]⟩

def minTier (above : Option Breakpoint) (b : Breakpoint) : Except Failure Tier := do
  let point ← b.point
  let fromPoint : Range := ⟨some point, none⟩
  match above with
  | none => return ⟨b.name, fromPoint, [(andUp b.name, fromPoint)]⟩
  | some neighbour =>
    let upper ← neighbour.shifted .down
    return ⟨b.name, ⟨some point, some upper⟩,
      [(andUp b.name, fromPoint), (andDown b.name, ⟨none, some upper⟩)]⟩

def tiersAlong (tier : Option Breakpoint → Breakpoint → Except Failure Tier) :
    Option Breakpoint → List Breakpoint → Except Failure (List Tier)
  | _, [] => .ok []
  | neighbour, b :: bs => do
    let first ← tier neighbour b
    let rest ← tiersAlong tier (some b) bs
    return first :: rest

def maxTiers (bs : List Breakpoint) : Except Failure (List Tier) := do
  tiersAlong maxTier none (← ascending bs)

def minTiers (bs : List Breakpoint) : Except Failure (List Tier) := do
  tiersAlong minTier none (← ascending bs).reverse

def namedQueries (o : MediaOptions) (tiers : List Tier) : OrderedMap String :=
  .ofList (tiers.map fun t => (t.name, t.range.query o))

def synthesizedQueries (o : MediaOptions) (tiers : List Tier) : OrderedMap String :=
  .ofList (tiers.flatMap fun t => t.synthesized.map fun e => (e.1, e.2.query o))

def customQueries (bs : List Breakpoint) : OrderedMap String :=
  .ofList (bs.map fun b => (b.name, b.raw.getD ""))

/-- The queries of all names of a registry. A declared name takes precedence over a made one of the
same spelling. -/
def Registry.mediaMap (r : Registry) (o : MediaOptions) : Except Failure (OrderedMap String) := do
  let maxs ← maxTiers (r.ofKind .max)
  let mins ← minTiers (r.ofKind .min)
  return synthesizedQueries o maxs
    |>.putAll (synthesizedQueries o mins)
    |>.putAll (namedQueries o maxs)
    |>.putAll (namedQueries o mins)
    |>.putAll (customQueries (r.ofKind .custom))

end MediaTiers
