/-! Tags of document nodes, and the tag that an unquoted scalar has by its spelling alone. -/
namespace MediaTiers.Yaml

inductive Tag where
  | null
  | bool
  | int
  | float
  | binary
  | timestamp
  | str
  | seq
  | map
  | set
  | omap
  | pairs
  | merge
  | value
  | other (uri : String)
  deriving DecidableEq, Repr

namespace Tag

def known : List (String × Tag) :=
  [("null", .null), ("bool", .bool), ("int", .int), ("float", .float), ("binary", .binary),
   ("timestamp", .timestamp), ("str", .str), ("seq", .seq), ("map", .map), ("set", .set),
   ("omap", .omap), ("pairs", .pairs), ("merge", .merge), ("value", .value)]

def family : String := "tag:yaml.org,2002:"

def ofUri (uri : String) : Tag :=
  match known.find? fun k => family ++ k.1 == uri with
  | some k => k.2
  | none => .other uri

def shorthand (tag : Tag) : String :=
  match known.find? fun k => k.2 == tag, tag with
  | some k, _ => "!!" ++ k.1
  | none, .other uri => "!<" ++ uri ++ ">"
  | none, _ => "!"

end Tag

/-! Spellings of scalars. -/

def boolWords : List (String × Bool) :=
  [("yes", true), ("Yes", true), ("YES", true), ("no", false), ("No", false), ("NO", false),
   ("true", true), ("True", true), ("TRUE", true), ("false", false), ("False", false),
   ("FALSE", false), ("on", true), ("On", true), ("ON", true), ("off", false), ("Off", false),
   ("OFF", false)]

def nullWords : List String := ["~", "null", "Null", "NULL", ""]

def afterSign : List Char → List Char
  | '+' :: cs | '-' :: cs => cs
  | cs => cs

def isDigitOrLow (c : Char) : Bool :=
  c.isDigit || c == '_'

def isHexOrLow (c : Char) : Bool :=
  isDigitOrLow c || 'a' ≤ c && c ≤ 'f' || 'A' ≤ c && c ≤ 'F'

def isExponent : List Char → Bool
  | [] => true
  | mark :: sign :: ds =>
    (mark == 'e' || mark == 'E') && (sign == '+' || sign == '-') && !ds.isEmpty && ds.all Char.isDigit
  | _ => false

def afterSixties : List Char → List Char
  | ':' :: a :: b :: cs =>
    if '0' ≤ a && a ≤ '5' && b.isDigit then afterSixties cs
    else if a.isDigit then afterSixties (b :: cs) else ':' :: a :: b :: cs
  | [':', a] => if a.isDigit then [] else [':', a]
  | cs => cs

/-- Digits that may be set apart by low lines, not starting with one. -/
def afterNumeral? : List Char → Option (List Char)
  | c :: cs => if c.isDigit then some (cs.dropWhile isDigitOrLow) else none
  | [] => none

def isFloat (cs : List Char) : Bool :=
  let body := afterSign cs
  let special := ["inf", "Inf", "INF"].any fun w => body == '.' :: w.toList
  let nan := ["nan", "NaN", "NAN"].any fun w => cs == '.' :: w.toList
  let fraction := match cs with
    | '.' :: rest => (afterNumeral? rest).any isExponent
    | _ => false
  let numeral := match afterNumeral? body with
    | some ('.' :: rest) => isExponent (rest.dropWhile isDigitOrLow)
    | some rest => match rest, afterSixties rest with
      | ':' :: _, '.' :: tail => tail.all isDigitOrLow
      | _, _ => false
    | none => false
  special || nan || fraction || numeral

def isInt (cs : List Char) : Bool :=
  match afterSign cs with
  | '0' :: 'b' :: ds => !ds.isEmpty && ds.all fun c => c == '0' || c == '1' || c == '_'
  | '0' :: 'x' :: ds => !ds.isEmpty && ds.all isHexOrLow
  | '0' :: ds => ds.all fun c => '0' ≤ c && c ≤ '7' || c == '_'
  | c :: cs => '1' ≤ c && c ≤ '9' && (afterSixties (cs.dropWhile isDigitOrLow)).isEmpty
  | [] => false

def takeDigits? (least most : Nat) (cs : List Char) : Option (List Char × List Char) :=
  let ds := (cs.takeWhile Char.isDigit).take most
  if ds.length < least then none else some (ds, cs.drop ds.length)

def expect? (c : Char) : List Char → Option (List Char)
  | d :: cs => if c == d then some cs else none
  | [] => none

def isGap (c : Char) : Bool :=
  c == ' ' || c == '\t'

structure TimeFields where
  year : List Char
  month : List Char
  day : List Char
  clock : Option (List Char × List Char × List Char)
  fraction : List Char
  zone : Option (Option (Bool × List Char × List Char))
  deriving Repr

def zoneFields? (cs : List Char) : Option (Option (Option (Bool × List Char × List Char))) :=
  match cs, cs.dropWhile isGap with
  | [], _ => some none
  | _, ['Z'] => some (some none)
  | _, sign :: rest => do
    guard (sign == '+' || sign == '-')
    let (hour, rest) ← takeDigits? 1 2 rest
    match rest with
    | [] => return some (some (sign == '-', hour, []))
    | rest =>
      let (minute, rest) ← takeDigits? 2 2 (← expect? ':' rest)
      guard rest.isEmpty
      return some (some (sign == '-', hour, minute))
  | _, [] => none

def clockFields? (year month day cs : List Char) : Option TimeFields := do
  let (hour, rest) ← takeDigits? 1 2 cs
  let (minute, rest) ← takeDigits? 2 2 (← expect? ':' rest)
  let (second, rest) ← takeDigits? 2 2 (← expect? ':' rest)
  let (fraction, rest) := match rest with
    | '.' :: rest => (rest.takeWhile Char.isDigit, rest.dropWhile Char.isDigit)
    | rest => ([], rest)
  return ⟨year, month, day, some (hour, minute, second), fraction, ← zoneFields? rest⟩

def withoutFinalBreak (cs : List Char) : List Char :=
  if cs.getLast? == some '\n' then cs.dropLast else cs

def timeFields? (cs : List Char) : Option TimeFields := do
  let (year, rest) ← takeDigits? 4 4 (withoutFinalBreak cs)
  let (month, rest) ← takeDigits? 1 2 (← expect? '-' rest)
  let (day, rest) ← takeDigits? 1 2 (← expect? '-' rest)
  match rest with
  | [] => return ⟨year, month, day, none, [], none⟩
  | c :: rest =>
    if c == 'T' || c == 't' then clockFields? year month day rest
    else do
      guard (isGap c)
      clockFields? year month day (rest.dropWhile isGap)

/-- A day needs two digits of month and day; a moment may do with one. -/
def isTimestamp (cs : List Char) : Bool :=
  (timeFields? cs).any fun t => t.clock.isSome || t.month.length == 2 && t.day.length == 2

def Tag.ofSpelling (cs : List Char) : Tag :=
  let s := String.ofList cs
  if boolWords.any (·.1 == s) then .bool
  else if isFloat cs then .float
  else if isInt cs then .int
  else if s == "<<" then .merge
  else if nullWords.contains s then .null
  else if isTimestamp cs then .timestamp
  else if s == "=" then .value
  else if ["!", "&", "*"].contains s then .other (Tag.family ++ "yaml")
  else .str

/-- The tag of an unquoted scalar. A line feed at its end does not count, unless it is all there is. -/
def Tag.ofPlain (s : String) : Tag :=
  match s.toList with
  | ['\n'] => .str
  | cs => .ofSpelling (withoutFinalBreak cs)

end MediaTiers.Yaml
