import MediaTiers.Declaration
import MediaTiers.OrderedMap

/-! The registry of one run: the breakpoints declared so far under their names, in order, and the flags of the
options. Registration is by lower-cased name, and no two points of one kind and unit may coincide. -/
namespace MediaTiers

structure Registry where
  delta : Decimal
  entries : OrderedMap Breakpoint
  options : OrderedMap Bool
  deriving DecidableEq, Repr

namespace Registry

def empty (delta : Decimal) : Registry :=
  ⟨delta, [], []⟩

def breakpoints (r : Registry) : List Breakpoint :=
  r.entries.map (·.2)

def names (r : Registry) : List String :=
  r.entries.map (·.1)

def get? (r : Registry) (name : String) : Option Breakpoint :=
  r.entries.lookup (Text.lowercase name)

def contains (r : Registry) (name : String) : Bool :=
  (r.get? name).isSome

def ofKind (r : Registry) (kind : Kind) : List Breakpoint :=
  r.breakpoints.filter (·.kind == kind)

def setOption (r : Registry) (key : String) (flag : Bool) : Registry :=
  { r with options := r.options.put (Text.lowercase key) flag }

def store (r : Registry) (b : Breakpoint) : Registry :=
  { r with entries := r.entries.put b.name b }

/-- Refuses a name that is taken; the name is in lower case already. -/
def checkName (r : Registry) (name : String) : Except Failure Unit :=
  if r.names.contains name then .error (.duplicateName name) else .ok ()

def sitsAt (value : Decimal) (unit : LengthUnit) (b : Breakpoint) : Except Failure Bool :=
  match b.unit, b.value with
  | some u, some v => if u = unit then numeric (v.equal value) else .ok false
  | _, _ => .ok false

def checkPoint (name : String) (kind : Kind) (value : Decimal) (unit : LengthUnit) :
    (others : List Breakpoint) → Except Failure Unit
  | [] => .ok ()
  | b :: others => do
    if ← sitsAt value unit b then
      throw (.duplicatePoint name kind.name (← pointText value unit) b.name)
    checkPoint name kind value unit others

def admitPoint (r : Registry) (name : String) (kind : Kind) (value : Decimal) (unit : LengthUnit) :
    Except Failure Unit := do
  if kind = .custom then throw .customWithPoint
  r.checkName name
  checkPoint name kind value unit (r.ofKind kind)

/-- Registers a breakpoint with a point. A point that cannot be written is reported after it has
been stored. -/
def addPoint (r : Registry) (name : String) (kind : Kind) (value : Decimal) (unit : LengthUnit) :
    Registry × Except Failure Breakpoint :=
  let name := Text.lowercase name
  match r.admitPoint name kind value unit with
  | .error failure => (r, .error failure)
  | .ok _ =>
    let b := Breakpoint.ofPoint name kind value unit r.delta
    (r.store b, b.point.map fun _ => b)

def addNamedPoint (r : Registry) (name kind : String) (value : Except Failure Decimal)
    (unit : String) : Registry × Except Failure Breakpoint :=
  let parts : Except Failure (Kind × LengthUnit × Decimal) := do
    let kind ← Kind.ofName (Text.lowercase kind)
    let unit ← LengthUnit.ofName (Text.lowercase unit)
    return (kind, unit, ← value)
  match parts with
  | .error failure => (r, .error failure)
  | .ok (kind, unit, value) => r.addPoint name kind value unit

def addQuery (r : Registry) (name raw : String) : Registry × Except Failure Breakpoint :=
  let name := Text.lowercase name
  match r.checkName name with
  | .error failure => (r, .error failure)
  | .ok _ =>
    let b := Breakpoint.ofQuery name raw
    (r.store b, .ok b)

def reset (r : Registry) : Registry :=
  empty r.delta

end Registry

structure Ledger where
  registry : Registry
  warnings : List String
  deriving DecidableEq, Repr

/-- A step that may fill the registry, warn, and fail; what was filled before a failure stays. -/
abbrev Pass := EStateM Failure Ledger

namespace Pass

def warn (text : String) : Pass Unit :=
  modify fun l => { l with warnings := l.warnings ++ [text] }

def onRegistry {α : Type} (step : Registry → Registry × Except Failure α) : Pass α := fun l =>
  match step l.registry with
  | (registry, .ok a) => .ok a { l with registry }
  | (registry, .error failure) => .error failure { l with registry }

def ofExcept {α : Type} : Except Failure α → Pass α
  | .ok a => pure a
  | .error failure => throw failure

end Pass

def knownOptionKeys : List String := ["device", "use-only"]

/-- Registers an option declaration; an unknown key is kept but warned about. -/
def declareOption (key : String) (value : Value) : Pass Unit := do
  if !knownOptionKeys.contains (Text.lowercase key) then
    Pass.warn ("Unknown breakpoints option: " ++ key)
  let flag ← Pass.ofExcept (flagOf value)
  Pass.onRegistry fun r => (r.setOption key flag, .ok ())

def declareText (name : String) (text : String) : Pass Unit := do
  let failed (fault : ValueFault) (text : String) : Pass Unit :=
    throw ((Failure.malformed fault none (some (.text text))).forBreakpoint (Text.lowercase name))
  if text.toList.isEmpty then failed .empty text
  else match ← Pass.ofExcept (Reading.ofText text.toList) with
    | .malformed fault text => failed fault text
    | .query => discard (Pass.onRegistry (·.addQuery name text))
    | .point kind value unit => discard (Pass.onRegistry (·.addPoint name kind value unit))

/-- Registers a breakpoint declaration from its trimmed value. A row of bytes cannot be read, and is
found empty before that is noticed. -/
def declareBreakpoint (name : String) : RawValue → Pass Unit
  | .text s => declareText name s
  | .bytes bs =>
    if bs.isEmpty then throw (.malformed .empty (some (Text.lowercase name)) (some (.bytes bs)))
    else throw .wrongOperand

/-- Registers a declaration if it declares an option or a breakpoint, and says whether it did. -/
def declare (property value : Value) : Pass Bool := do
  match ← Pass.ofExcept (Property.ofValue property) with
  | .other => return false
  | .option key => declareOption key value; return true
  | .breakpoint name => declareBreakpoint name (← Pass.ofExcept (trimmedValue value)); return true

def consume : List Declaration → Pass (List Declaration)
  | [] => return []
  | d :: ds => do
    let taken ← declare d.property d.value
    let kept ← consume ds
    return if taken then kept else d :: kept

/-- Consumes from a list that its owner goes on using, and counts what was taken out. The list is
replaced once all of it has been read, so a failure leaves it as it was. -/
def sift : EStateM Failure (Ledger × List Declaration) Nat := fun (l, ds) =>
  match consume ds l with
  | .ok kept after => .ok (ds.length - kept.length) (after, kept)
  | .error failure after => .error failure (after, ds)

end MediaTiers
