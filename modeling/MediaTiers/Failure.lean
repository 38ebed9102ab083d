import MediaTiers.Decimal.Printer
import MediaTiers.Text.Quoted

/-! What can go wrong, by cause, and the wording of each cause. -/
namespace MediaTiers

inductive ValueFault where
  /-- Nothing is left once white space is trimmed. -/
  | empty
  /-- A type or a point occurs, but there are not exactly two words. -/
  | format
  /-- Two words that are not one type and one point. -/
  | pair
  deriving DecidableEq, Repr

def ValueFault.reason : ValueFault → String
  | .empty => "value is empty"
  | .format => "not in the format: <type> <point>, e.g. \"min 1000px\" or \"max 340px\""
  | .pair => "missing type or point, i.e. \"max\" or \"min\" and e.g. \"1000px\", \"60em\" or \"40rem\" respectively"

/-- A value as it was handed in: a text, or a row of bytes in the place of one. -/
inductive RawValue where
  | text (s : String)
  | bytes (bs : List UInt8)
  deriving DecidableEq, Repr

/-- A closed family of names that a text is looked up in. -/
inductive Family where
  | kind
  | unit
  | mode
  deriving DecidableEq, Repr

def Family.name : Family → String
  | .kind => "BreakpointKind"
  | .unit => "Unit"
  | .mode => "MatchMode"

/-- Why a configuration is refused. Offending values are carried as messages show them. -/
inductive ConfigFault where
  | notMapping (kindName : String)
  | unknownKeys (keys : List String)
  | notFlag (key : String) (shown : String)
  | unreadableDelta (shown : String)
  | deltaNotPositive (delta : Decimal)
  | unknownMode (shown : String)
  | invalidYaml (path : String)
  deriving DecidableEq, Repr

def ConfigFault.message : ConfigFault → String
  | .notMapping kindName => "Config must be a mapping, got " ++ kindName
  | .unknownKeys keys => "Unknown config keys: [" ++ ", ".intercalate keys ++ "]"
  | .notFlag key shown => key ++ " must be true or false, got " ++ shown
  | .unreadableDelta shown => "Invalid fractional_delta: " ++ shown
  | .deltaNotPositive delta => "fractional_delta must be positive, got " ++ toString delta
  | .unknownMode shown => "Invalid match_mode: " ++ shown
  | .invalidYaml path => "Invalid YAML in " ++ path

/-- Why a tagged scalar of a document has no value although the document is well formed. -/
inductive ScalarFault where
  | badInteger (base : Nat) (text : String)
  | badFloat (text : String)
  | noCharacter
  | yearOutOfRange (year : Nat)
  | monthOutOfRange
  | dayOutOfRange
  | hourOutOfRange
  | minuteOutOfRange
  | secondOutOfRange
  | zoneOutOfRange (shown : String)
  deriving DecidableEq, Repr

def ScalarFault.message : ScalarFault → String
  | .badInteger base text =>
    s!"invalid literal for int() with base {base}: "
      ++ String.ofList ((Text.quoted text).toList.take 200)
  | .noCharacter => "chr() arg not in range(0x110000)"
  | .badFloat text => "could not convert string to float: " ++ Text.quoted text
  | .yearOutOfRange year => s!"year {year} is out of range"
  | .monthOutOfRange => "month must be in 1..12"
  | .dayOutOfRange => "day is out of range for month"
  | .hourOutOfRange => "hour must be in 0..23"
  | .minuteOutOfRange => "minute must be in 0..59"
  | .secondOutOfRange => "second must be in 0..59"
  | .zoneOutOfRange shown =>
    "offset must be a timedelta strictly between -timedelta(hours=24) and timedelta(hours=24), not "
      ++ shown ++ "."

inductive Failure where
  | malformed (fault : ValueFault) (name : Option String) (value : Option RawValue)
  | duplicateName (name : String)
  | duplicatePoint (name kind point existing : String)
  | config (fault : ConfigFault)
  | missingFile (path : String)
  /-- A word that no member of a closed family has as its name. -/
  | unknownName (family : Family) (shown : String)
  | noPoint (name : String)
  | noTieBreak (name : String)
  /-- A custom breakpoint was registered as one with a point. -/
  | customWithPoint
  | number (signal : Decimal.Signal)
  /-- A value was asked for something that values of its kind do not have: a text operation, or the
  look-up of a field. -/
  | missingOperation
  /-- A value of the wrong kind was handed to an operation: iteration, splitting, ordering,
  arithmetic or writing. -/
  | wrongOperand
  | notYaml
  | notJson
  | notUtf8
  | scalar (fault : ScalarFault)
  /-- A word that is not in the table of truth values. -/
  | unknownFlag
  /-- A numeral without a single character. -/
  | emptyNumeral
  /-- A number that is too large for the form it has to take. -/
  | beyondRange
  /-- A whole number with too many digits, and how many a text gave. -/
  | tooManyDigits (count : Option Nat)
  /-- A value that contains itself was to be written out. -/
  | circular
  /-- A value that contains itself was to be read to its end. -/
  | endless
  deriving DecidableEq, Repr

namespace Failure

/-- The wording of a failure; failures that are told by their kind alone have none. -/
def message : Failure → String
  | .malformed fault none _ => fault.reason
  | .malformed fault (some name) _ => "Error in breakpoint \"" ++ name ++ "\": " ++ fault.reason
  | .duplicateName name => "Breakpoint with name: " ++ name ++ " is already defined!"
  | .duplicatePoint name kind point existing =>
    "A breakpoint at: " ++ kind ++ " " ++ point ++ " is already defined! (\"" ++ name
      ++ "\" collides with \"" ++ existing ++ "\")"
  | .config fault => fault.message
  | .missingFile path => "Config file not found: " ++ path
  | .unknownName family shown => shown ++ " is not a valid " ++ family.name
  | .noPoint name => "Custom breakpoint " ++ Text.quoted name ++ " has no point"
  | .noTieBreak name => "Custom breakpoint " ++ Text.quoted name ++ " has no tie-break delta"
  | .customWithPoint => "register_typed() requires kind 'min' or 'max'"
  | .scalar fault => fault.message
  | .tooManyDigits count => "Exceeds the limit (4300 digits) for integer string conversion"
    ++ (count.map fun n => s!": value has {n} digits").getD ""
    ++ "; use sys.set_int_max_str_digits() to increase the limit"
  | .circular => "Circular reference detected"
  | .number _ | .missingOperation | .wrongOperand | .notYaml | .notJson | .notUtf8
  | .unknownFlag | .emptyNumeral | .beyondRange | .endless => ""

def forBreakpoint (name : String) : Failure → Failure
  | .malformed fault _ value => .malformed fault (some name) value
  | failure => failure

end Failure

def numeric {α : Type} : Except Decimal.Signal α → Except Failure α
  | .ok a => .ok a
  | .error signal => .error (.number signal)

end MediaTiers
