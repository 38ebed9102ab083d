import MediaTiers.Failure
import MediaTiers.Value.Basic

/-! The order of map keys. Numbers are ordered among themselves, and so are texts, byte rows, days,
and moments with or without a zone; values of different sorts have no order. -/
namespace MediaTiers.Value

inductive OrderClass where
  | number
  | text
  | bytes
  | day
  | moment (zoned : Bool)
  deriving DecidableEq, Repr

def orderClass? : Value → Option OrderClass
  | .bool _ | .int _ | .float _ => some .number
  | .text _ => some .text
  | .bytes _ => some .bytes
  | .day _ => some .day
  | .moment m => some (.moment m.zone.isSome)
  | .shared _ v | .cyclic _ v => v.orderClass?
  | _ => none

/-- A number as infinity sign, numerator and denominator. -/
def numberKey : Value → Int × Int × Nat
  | .float (.finite negative m e) =>
    (0, Binary64.scaled negative m e (min e 0), twoPow (-(min e 0)).toNat)
  | .float (.infinite negative) => (if negative then -1 else 1, 0, 1)
  | v => (0, v.asInt?.getD 0, 1)

def isNaN : Value → Bool
  | .float .nan => true
  | _ => false

def numberLess (x y : Value) : Bool :=
  if x.isNaN || y.isNaN then false
  else
    let (i, n, d) := x.numberKey
    let (j, m, e) := y.numberKey
    if i = j then n * e < m * d else i < j

def less (x y : Value) : Bool :=
  match x.content, y.content with
  | .text a, .text b => a < b
  | .bytes a, .bytes b => a < b
  | .day a, .day b => a.ordinal < b.ordinal
  | .moment a, .moment b => a.instant < b.instant
  | x, y => numberLess x y

/-- Whether the values can be put in order: a single one always can. -/
def sortable : List Value → Bool
  | [] | [_] => true
  | v :: vs => v.orderClass?.isSome && vs.all fun w => w.orderClass? == v.orderClass?

def sorted (vs : List Value) : Except Failure (List Value) :=
  if sortable vs then .ok (vs.mergeSort fun x y => !y.less x) else .error .wrongOperand

end MediaTiers.Value
