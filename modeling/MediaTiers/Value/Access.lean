import MediaTiers.Decimal.Reader
import MediaTiers.Failure
import MediaTiers.Value.Basic

/-! Reading a value: from a document, its fields by name, its elements in order, and the decimal it denotes. -/
namespace MediaTiers

/-- A format of documents: how a text is read, and how a value is written. -/
structure DocumentFormat where
  read : String → Except Failure Value
  write : Value → Except Failure String

namespace Value

def field? (key : String) (v : Value) : Except Failure (Option Value) :=
  match v.bare with
  | .map entries => .ok (lookup? key entries)
  | _ => .error .missingOperation

def fieldD (v : Value) (key : String) (default : Value) : Except Failure Value :=
  return (← v.field? key).getD default

/-- The elements of a value in order: those of a collection, the keys of a map, the characters of a
text, the numbers of a byte row. -/
def elements (v : Value) : Except Failure (List Value) :=
  match v.bare with
  | .list items | .tuple items | .set items => .ok items
  | .map entries => .ok (entries.map (·.1))
  | .text s => .ok (s.toList.map fun c => .text (String.singleton c))
  | .bytes bs => .ok (bs.map fun b => .int b.toNat)
  | _ => .error .wrongOperand

def toDecimal : Value → Except Failure Decimal
  | .text s => numeric (Decimal.ofString s)
  | v => match v.asInt? with
    | some n => .ok (.ofInt n)
    | none => .error .wrongOperand

end Value
end MediaTiers
