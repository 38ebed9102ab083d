import MediaTiers.Binary64.Shortest
import MediaTiers.Integer
import MediaTiers.Text.Quoted
import MediaTiers.Value.Basic

/-! JSON texts of values: ASCII only, one element a line, two spaces deeper at each level. A value that
contains itself has none. -/
namespace MediaTiers.Json

def unitEscape (n : Nat) : List Char :=
  '\\' :: 'u' :: Text.hexDigits 4 n

def pairEscape (code : Nat) : List Char :=
  unitEscape (0xD800 + (code - 0x10000) / 0x400) ++ unitEscape (0xDC00 + (code - 0x10000) % 0x400)

def charText (c : Char) : List Char :=
  if c == '"' || c == '\\' then ['\\', c]
  else if c == '\n' then ['\\', 'n']
  else if c == '\r' then ['\\', 'r']
  else if c == '\t' then ['\\', 't']
  else if c == '\x0c' then ['\\', 'f']
  else if c == '\x08' then ['\\', 'b']
  else if 0x20 ≤ c.toNat && c.toNat ≤ 0x7E then [c]
  else if c.toNat < 0x10000 then unitEscape c.toNat
  else pairEscape c.toNat

def stringText (s : String) : List Char :=
  '"' :: s.toList.flatMap charText ++ ['"']

def floatText : Binary64 → String
  | .nan => "NaN"
  | .infinite negative => if negative then "-Infinity" else "Infinity"
  | x => x.text

/-- A key as a text: numbers and constants are named as they are written. -/
def keyText (v : Value) : Except Failure String :=
  match v.content with
  | .text s => .ok s
  | .null => .ok "null"
  | .bool b => .ok (if b then "true" else "false")
  | .int n => Integer.text n
  | .float x => .ok (floatText x)
  | _ => .error .wrongOperand

def newline (level : Nat) : List Char :=
  '\n' :: List.replicate (2 * level) ' '

def enclosed (left right : Char) (level : Nat) (elements : List (List Char)) : List Char :=
  if elements.isEmpty then [left, right]
  else left :: newline (level + 1) ++ (",".toList ++ newline (level + 1)).intercalate elements
    ++ newline level ++ [right]

mutual

/-- The text of a value that starts at a level, inside the shared values of the given marks. -/
def textAt (outer : List Nat) (level : Nat) : Value → Except Failure (List Char)
  | .null => .ok "null".toList
  | .bool b => .ok (if b then "true".toList else "false".toList)
  | .int n => return (← Integer.text n).toList
  | .float x => .ok (floatText x).toList
  | .text s => .ok (stringText s)
  | .list items | .tuple items => do
    return enclosed '[' ']' level (← textsAt outer (level + 1) items)
  | .map entries => do
    return enclosed '\x7b' '\x7d' level (← entryTextsAt outer (level + 1) entries)
  | .bytes _ | .day _ | .moment _ | .set _ => .error .wrongOperand
  | .shared mark v | .cyclic mark v =>
    if outer.contains mark then .error .circular else textAt (mark :: outer) level v
  | .again _ => .error .circular

def textsAt (outer : List Nat) (level : Nat) : List Value → Except Failure (List (List Char))
  | [] => .ok []
  | v :: vs => do
    let first ← textAt outer level v
    let rest ← textsAt outer level vs
    return first :: rest

def entryTextsAt (outer : List Nat) (level : Nat) :
    List (Value × Value) → Except Failure (List (List Char))
  | [] => .ok []
  | (k, v) :: es => do
    let key ← keyText k
    let first ← textAt outer level v
    let rest ← entryTextsAt outer level es
    return (stringText key ++ ':' :: ' ' :: first) :: rest

end

/-- The JSON text of a value; days, moments, byte rows and sets have none. -/
def write (v : Value) : Except Failure String :=
  return String.ofList (← textAt [] 0 v)

end MediaTiers.Json
