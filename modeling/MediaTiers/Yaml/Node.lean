import MediaTiers.Binary64.Shortest
import MediaTiers.Integer
import MediaTiers.Value.Basic
import MediaTiers.Yaml.Base64
import MediaTiers.Yaml.Tag

/-! Document nodes as they are written: tagged scalars, sequences and mappings. A shared value becomes an
anchored node where it is met first, and an alias wherever it is met again. -/
namespace MediaTiers.Yaml

inductive Node where
  | scalar (tag : Tag) (text : String)
  | sequence (tag : Tag) (items : List Node)
  | mapping (tag : Tag) (entries : List (Node × Node))
  /-- The node of a shared value, by the mark of that value. -/
  | anchored (mark : Nat) (n : Node)
  | alias (mark : Nat)
  deriving Repr

instance : Inhabited Node := ⟨.scalar .null ""⟩

/-- A binary number with a point, so that it reads back as one. -/
def floatText : Binary64 → String
  | .nan => ".nan"
  | .infinite negative => if negative then "-.inf" else ".inf"
  | x =>
    let s := x.text
    if s.contains '.' then s
    else String.ofList (s.toList.takeWhile (· != 'e') ++ ".0".toList ++ s.toList.dropWhile (· != 'e'))

abbrev Noding := StateT (List Nat) (Except Failure)

mutual

/-- The node of a value. Shared numbers are written out wherever they are met. -/
def Node.ofValue : Value → Noding Node
  | .null => return .scalar .null "null"
  | .bool b => return .scalar .bool (if b then "true" else "false")
  | .int n => return .scalar .int (← Integer.text n)
  | .float x => return .scalar .float (floatText x)
  | .text s => return .scalar .str s
  | .bytes bs => return .scalar .binary (base64Text bs)
  | .day d => return .scalar .timestamp d.iso
  | .moment m => return .scalar .timestamp (m.iso " ")
  | .list items | .tuple items => return .sequence .seq (← Node.ofValues items)
  | .set items => return .mapping .set (← Node.ofMembers items)
  | .map entries => return .mapping .map (← Node.ofEntries entries)
  | .shared _ (.float x) => return .scalar .float (floatText x)
  | .shared mark v | .cyclic mark v => do
    if (← get).contains mark then return .alias mark
    modify (mark :: ·)
    return .anchored mark (← Node.ofValue v)
  | .again mark => return .alias mark

def Node.ofValues : List Value → Noding (List Node)
  | [] => return []
  | v :: vs => do
    let n ← Node.ofValue v
    let ns ← Node.ofValues vs
    return n :: ns

def Node.ofMembers : List Value → Noding (List (Node × Node))
  | [] => return []
  | v :: vs => do
    let n ← Node.ofValue v
    let ns ← Node.ofMembers vs
    return (n, .scalar .null "null") :: ns

def Node.ofEntries : List (Value × Value) → Noding (List (Node × Node))
  | [] => return []
  | (k, v) :: es => do
    let key ← Node.ofValue k
    let value ← Node.ofValue v
    let rest ← Node.ofEntries es
    return (key, value) :: rest

end

def Node.ofDocument (v : Value) : Except Failure Node :=
  (·.1) <$> (Node.ofValue v).run []

mutual

def Node.aliases : Node → List Nat
  | .scalar .. => []
  | .sequence _ items => Node.aliasesOfAll items
  | .mapping _ entries => Node.aliasesOfEntries entries
  | .anchored _ n => n.aliases
  | .alias mark => [mark]

def Node.aliasesOfAll : List Node → List Nat
  | [] => []
  | n :: ns => n.aliases ++ Node.aliasesOfAll ns

def Node.aliasesOfEntries : List (Node × Node) → List Nat
  | [] => []
  | (k, v) :: es => k.aliases ++ v.aliases ++ Node.aliasesOfEntries es

end

end MediaTiers.Yaml
