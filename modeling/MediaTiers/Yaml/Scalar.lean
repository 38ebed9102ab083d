import MediaTiers.Binary64.Basic
import MediaTiers.Integer
import MediaTiers.Text.Lower
import MediaTiers.Value.Display
import MediaTiers.Yaml.Base64
import MediaTiers.Yaml.Tag

/-! The values of scalars: each tag has its own reading of a text. -/
namespace MediaTiers.Yaml

def withoutLows (s : String) : List Char :=
  s.toList.filter (· != '_')

def colonParts (cs : List Char) : List (List Char) :=
  ((String.ofList cs).splitOn ":").map (·.toList)

/-- A number without its sign: binary, hexadecimal or octal by what it starts with, in base sixty between
colons, otherwise decimal. -/
def magnitude (cs : List Char) : Except Failure Int :=
  match cs with
  | [] => .error .emptyNumeral
  | ['0'] => .ok 0
  | '0' :: 'b' :: ds => Integer.read 2 ds
  | '0' :: 'x' :: ds => Integer.read 16 ds
  | '0' :: _ => Integer.read 8 cs
  | _ =>
    if cs.contains ':' then do
      return (← (colonParts cs).mapM (Integer.read 10)).foldl (fun n d => 60 * n + d) 0
    else Integer.read 10 cs

def intValue (s : String) : Except Failure Int := do
  let (negative, cs) := Decimal.splitSign (withoutLows s)
  let n ← magnitude cs
  return if negative then -n else n

def binaryOf (cs : List Char) : Except Failure Binary64 :=
  match Binary64.read? cs with
  | some x => .ok x
  | none => .error (.scalar (.badFloat (String.ofList cs)))

/-- The sum of sections of base sixty, the last one first. Every power of sixty has to be a binary number
itself, and every step is rounded. -/
def sixtySum : (scale : Int) → List Binary64 → Binary64 → Except Failure Binary64
  | _, [], total => .ok total
  | scale, x :: xs, total => match Binary64.ofInt? scale with
    | some factor => sixtySum (60 * scale) xs (total.add (x.mul factor))
    | none => .error .beyondRange

def floatValue (s : String) : Except Failure Value := do
  let lowered := Text.lower (withoutLows s)
  if lowered.isEmpty then throw .emptyNumeral
  let (negative, cs) := Decimal.splitSign lowered
  if cs == ".inf".toList then return .float (.infinite negative)
  if cs == ".nan".toList then return .nan
  let x ←
    if cs.contains ':' then do
      sixtySum 1 (← (colonParts cs).mapM binaryOf).reverse (.ofZero false)
    else binaryOf cs
  return .float (x.negateIf negative)

def boolValue (s : String) : Except Failure Bool :=
  match boolWords.lookup (Text.lowercase s) with
  | some b => .ok b
  | none => .error .unknownFlag

def fieldNumber (ds : List Char) : Nat :=
  Text.numberOf ds

def dayOf (year month day : Nat) : Except Failure Day := do
  if year == 0 then throw (.scalar (.yearOutOfRange year))
  if month == 0 || month > 12 then throw (.scalar .monthOutOfRange)
  if day == 0 || day > Day.daysIn year month then throw (.scalar .dayOutOfRange)
  return ⟨year, month, day⟩

def zoneOf : Option (Option (Bool × List Char × List Char)) → Except Failure (Option Int)
  | none => .ok none
  | some none => .ok (some 0)
  | some (some (west, hour, minute)) =>
    let n : Int := fieldNumber hour * 60 + fieldNumber minute
    let n := if west then -n else n
    if n.natAbs < 1440 then .ok (some n)
    else .error (.scalar (.zoneOutOfRange (Value.distanceText n)))

def microOf (ds : List Char) : Nat :=
  fieldNumber ((ds ++ List.replicate 6 '0').take 6)

def timeValue (s : String) : Except Failure Value := do
  match timeFields? s.toList with
  | none => throw .missingOperation
  | some t =>
    let zone ← zoneOf t.zone
    let day ← dayOf (fieldNumber t.year) (fieldNumber t.month) (fieldNumber t.day)
    match t.clock with
    | none => return .day day
    | some (hour, minute, second) =>
      let (hour, minute, second) := (fieldNumber hour, fieldNumber minute, fieldNumber second)
      if hour > 23 then throw (.scalar .hourOutOfRange)
      if minute > 59 then throw (.scalar .minuteOutOfRange)
      if second > 59 then throw (.scalar .secondOutOfRange)
      return .moment ⟨day, hour, minute, second, microOf t.fraction, zone⟩

def scalarValue (tag : Tag) (s : String) : Except Failure Value :=
  match tag with
  | .null => .ok .null
  | .bool => .bool <$> boolValue s
  | .int => .int <$> intValue s
  | .float => floatValue s
  | .binary => .bytes <$> bytesValue s
  | .timestamp => timeValue s
  | .str => .ok (.text s)
  | _ => .error .notYaml

end MediaTiers.Yaml
