import MediaTiers.Binary64.Shortest
import MediaTiers.Integer
import MediaTiers.Text.Quoted
import MediaTiers.Value.Basic

/-! Values as messages show them: texts in quotes, lists in brackets, maps in braces, days and moments
by their fields. A value inside itself is shown by its brackets alone. -/
namespace MediaTiers.Value

def fieldList (fields : List Int) : String :=
  ", ".intercalate (fields.map toString)

def distanceText (minutes : Int) : String :=
  let days := minutes.fdiv 1440
  let seconds := minutes.fmod 1440 * 60
  let parts := (if days = 0 then [] else [s!"days={days}"])
    ++ (if seconds = 0 then [] else [s!"seconds={seconds}"])
  "datetime.timedelta(" ++ (if parts.isEmpty then "0" else ", ".intercalate parts) ++ ")"

def zoneDisplay (minutes : Int) : String :=
  if minutes = 0 then "datetime.timezone.utc"
  else "datetime.timezone(" ++ distanceText minutes ++ ")"

def dayDisplay (d : Day) : String :=
  "datetime.date(" ++ fieldList [d.year, d.month, d.day] ++ ")"

/-- Seconds are left out when they and their fraction are zero. -/
def momentDisplay (m : Moment) : String :=
  let clock : List Int := [m.hour, m.minute]
  let fine : List Int :=
    if m.micro ≠ 0 then [m.second, m.micro] else if m.second ≠ 0 then [m.second] else []
  "datetime.datetime(" ++ fieldList ([(m.day.year : Int), m.day.month, m.day.day] ++ clock ++ fine)
    ++ (m.zone.map fun z => ", tzinfo=" ++ zoneDisplay z).getD "" ++ ")"

def byteChars (quote : Char) (b : UInt8) : List Char :=
  let c := Char.ofNat b.toNat
  if c == quote || c == '\\' then ['\\', c]
  else if c == '\n' then ['\\', 'n']
  else if c == '\r' then ['\\', 'r']
  else if c == '\t' then ['\\', 't']
  else if 0x20 ≤ b.toNat && b.toNat < 0x7F then [c]
  else '\\' :: 'x' :: Text.hexDigits 2 b.toNat

def bytesDisplay (bs : List UInt8) : String :=
  let quote := Text.quoteFor (bs.map fun b => Char.ofNat b.toNat)
  String.ofList ('b' :: quote :: bs.flatMap (byteChars quote) ++ [quote])

def ellipsis : Value → String
  | .list _ => "[...]"
  | .tuple _ => "(...)"
  | .set _ => "set(...)"
  | _ => "\x7b...\x7d"

mutual

/-- A value inside a message. `outer` holds the collections around it by their marks, with what stands
for them inside. -/
def displayWithin (outer : List (Nat × String)) : Value → Except Failure String
  | .null => .ok "None"
  | .bool b => .ok (if b then "True" else "False")
  | .int n => Integer.text n
  | .float x => .ok x.text
  | .text s => .ok (Text.quoted s)
  | .bytes bs => .ok (bytesDisplay bs)
  | .day d => .ok (dayDisplay d)
  | .moment m => .ok (momentDisplay m)
  | .list items => do
    return "[" ++ ", ".intercalate (← displayAll outer items) ++ "]"
  | .tuple items => do match ← displayAll outer items with
    | [only] => return "(" ++ only ++ ",)"
    | shown => return "(" ++ ", ".intercalate shown ++ ")"
  | .set items => do match ← displayAll outer items with
    | [] => return "set()"
    | shown => return "\x7b" ++ ", ".intercalate shown ++ "\x7d"
  | .map entries => do
    return "\x7b" ++ ", ".intercalate (← displayEntries outer entries) ++ "\x7d"
  | .shared mark v | .cyclic mark v => match outer.lookup mark with
    | some short => .ok short
    | none => displayWithin ((mark, v.ellipsis) :: outer) v
  | .again mark => .ok ((outer.lookup mark).getD "...")

def displayAll (outer : List (Nat × String)) : List Value → Except Failure (List String)
  | [] => .ok []
  | v :: vs => do
    let first ← displayWithin outer v
    let rest ← displayAll outer vs
    return first :: rest

def displayEntries (outer : List (Nat × String)) :
    List (Value × Value) → Except Failure (List String)
  | [] => .ok []
  | (k, v) :: es => do
    let key ← displayWithin outer k
    let value ← displayWithin outer v
    let rest ← displayEntries outer es
    return (key ++ ": " ++ value) :: rest

end

def display (v : Value) : Except Failure String :=
  displayWithin [] v

/-- The plain text of a value: a text is itself, a day and a moment are in calendar form, and
anything else is as messages show it. -/
def plain (v : Value) : Except Failure String :=
  match v.content with
  | .text s => .ok s
  | .day d => .ok d.iso
  | .moment m => .ok (m.iso " ")
  | _ => v.display

def kindName : Value → String
  | .null => "NoneType"
  | .bool _ => "bool"
  | .int _ => "int"
  | .float _ => "float"
  | .text _ => "str"
  | .bytes _ => "bytes"
  | .day _ => "date"
  | .moment _ => "datetime"
  | .list _ => "list"
  | .tuple _ => "tuple"
  | .set _ => "set"
  | .map _ => "dict"
  | .shared _ v | .cyclic _ v => v.kindName
  | .again _ => ""

end MediaTiers.Value
