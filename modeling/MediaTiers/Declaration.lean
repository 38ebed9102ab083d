import MediaTiers.Breakpoint
import MediaTiers.Decimal.Reader
import MediaTiers.Text.Basic
import MediaTiers.Value.Basic

/-! Declarations and what they mean: which properties declare breakpoints or options, when a flag is
set, and how the value of a breakpoint is read. -/
namespace MediaTiers

structure Declaration where
  property : Value
  value : Value
  type : Value
  comment : Value
  deriving Repr, Inhabited

inductive Property where
  | option (key : String)
  | breakpoint (name : String)
  | other
  deriving DecidableEq, Repr

namespace Property

/-- The part of a property after an introducing word, which may itself follow `var-`. It has to be
one line and must not be empty. -/
def subject? (word : String) (cs : List Char) : Option String := do
  let rest := (Text.after? "var-".toList cs).getD cs
  let subject ← Text.after? word.toList rest
  guard (!subject.isEmpty && !subject.contains '\n')
  return String.ofList subject

def ofTrimmed (cs : List Char) : Property :=
  match subject? "breakpoints-" cs, subject? "breakpoint-" cs with
  | some key, _ => .option key
  | none, some name => .breakpoint name
  | none, none => .other

/-- The meaning of a property. Anything empty means nothing, and what is neither empty nor a text
cannot be read. -/
def ofValue : Value → Except Failure Property
  | .text s => .ok (ofTrimmed (Text.trim s.toList))
  | .bytes bs => if bs.isEmpty then .ok .other else .error .wrongOperand
  | v => if v.isEmpty then .ok .other else .error .missingOperation

def className : Property → String
  | .option _ => "option"
  | .breakpoint _ => "breakpoint"
  | .other => "other"

end Property

def trueValues : List String := ["1", "true", "yes"]

/-- Whether an option value sets its flag; a missing one does not. -/
def flagOf : Value → Except Failure Bool
  | .null | .bytes _ => .ok false
  | .text s => .ok (trueValues.contains (Text.lowercase (Text.trimmed s)))
  | _ => .error .missingOperation

def isType (word : List Char) : Bool :=
  Text.spells "min" word || Text.spells "max" word

def unitOf? (word : List Char) : Option LengthUnit :=
  [LengthUnit.px, .em, .rem].find? fun u => Text.spells u.name word

/-- Digits, then perhaps a point and more digits; one digit at least has to be there. Gives the
digits before the point, those after it, and the rest. -/
def splitNumeral? (cs : List Char) : Option (List Char × List Char × List Char) :=
  let whole := cs.takeWhile Text.isDigit
  match cs.dropWhile Text.isDigit with
  | '.' :: rest =>
    let fraction := rest.takeWhile Text.isDigit
    if whole.isEmpty && fraction.isEmpty then none
    else some (whole, fraction, rest.dropWhile Text.isDigit)
  | rest => if whole.isEmpty then none else some (whole, [], rest)

def pointOf? (word : List Char) : Option (Decimal × LengthUnit) := do
  let (whole, fraction, rest) ← splitNumeral? word
  let unit ← unitOf? rest
  return (.finite false (Text.numberOf (whole ++ fraction)) (-fraction.length), unit)

def isPoint (word : List Char) : Bool :=
  (pointOf? word).isSome

/-- How the value of a breakpoint reads. A malformed one is kept as it was given. -/
inductive Reading where
  | query
  | point (kind : Kind) (value : Decimal) (unit : LengthUnit)
  | malformed (fault : ValueFault) (text : String)
  deriving DecidableEq, Repr

namespace Reading

def ofPair (type : List Char) (value : Decimal) (unit : LengthUnit) : Except Failure Reading :=
  return .point (← Kind.ofName (Text.lowercase (String.ofList type))) value unit

def ofTwo (text : String) (first second : List Char) : Except Failure Reading :=
  match isType first, pointOf? second with
  | true, some (value, unit) => ofPair first value unit
  | _, _ => match isType second, pointOf? first with
    | true, some (value, unit) => ofPair second value unit
    | _, _ => .ok (.malformed .pair text)

/-- A value is meant as a point as soon as one of its words is a type or a point; it then has to
consist of one of each, in either order. Any other value is a feature query. -/
def ofText (cs : List Char) : Except Failure Reading :=
  let parts := Text.words cs
  if parts.any fun word => isType word || isPoint word then
    match parts with
    | [first, second] => ofTwo (String.ofList cs) first second
    | _ => .ok (.malformed .format (String.ofList cs))
  else .ok .query

def ofValue : Value → Except Failure Reading
  | .text s => ofText s.toList
  | .bytes _ => .error .wrongOperand
  | _ => .error .missingOperation

end Reading

/-- The value of a breakpoint without white space around it; anything empty counts as the empty text.
Byte rows know the white space of ASCII only. -/
def trimmedValue : Value → Except Failure RawValue
  | .text s => .ok (.text (Text.trimmed s))
  | .bytes bs =>
    if bs.isEmpty then .ok (.text "")
    else .ok (.bytes (Text.trimBy (fun b => Text.isAsciiSpace (Char.ofNat b.toNat)) bs))
  | v => if v.isEmpty then .ok (.text "") else .error .missingOperation

end MediaTiers
