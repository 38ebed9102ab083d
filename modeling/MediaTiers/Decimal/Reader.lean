import MediaTiers.Decimal.Basic
import MediaTiers.Text.Basic

/-! Reading a decimal from text. White space around it and underscores anywhere do not count, and the
digits of every script do. Reading is exact: what cannot be held without rounding is refused. -/
namespace MediaTiers.Decimal

def maxExact : Int := 999999999999999999

def minExact : Int := -1999999999999999997

/-- A character as far as reading is concerned: digits of all scripts become ASCII digits. -/
def asciiForm? (c : Char) : Option Char :=
  if c.toNat = 0 then none
  else if c.toNat < 0x80 then some c
  else if Text.isBlank c then some ' '
  else (Text.digitValue? c).map Nat.digitChar

def splitSign : List Char → Bool × List Char
  | '-' :: cs => (true, cs)
  | '+' :: cs => (false, cs)
  | cs => (false, cs)

def readExponent? (cs : List Char) : Option Int :=
  let (negative, ds) := splitSign cs
  if ds.isEmpty || !ds.all Char.isDigit then none
  else some (if negative then -(Text.numberOf ds : Int) else Text.numberOf ds)

/-- Coefficient and exponent of a magnitude: digits with at most one point among them, then perhaps
an exponent. -/
def readParts? (cs : List Char) : Option (Nat × Int) := do
  let whole := cs.takeWhile Char.isDigit
  let rest := cs.dropWhile Char.isDigit
  let (fraction, rest) := match rest with
    | '.' :: rest => (rest.takeWhile Char.isDigit, rest.dropWhile Char.isDigit)
    | rest => ([], rest)
  guard !(whole ++ fraction).isEmpty
  let scale ← match rest with
    | [] => some 0
    | mark :: rest => if mark = 'e' ∨ mark = 'E' then readExponent? rest else none
  return (Text.numberOf (whole ++ fraction), scale - fraction.length)

def readFinite? (negative : Bool) (cs : List Char) : Option Decimal := do
  let (coefficient, exponent) ← readParts? cs
  guard (adjusted coefficient exponent ≤ maxExact ∧ minExact ≤ exponent)
  return .finite negative coefficient exponent

def readNaN? (negative signaling : Bool) (payload : List Char) : Option Decimal :=
  if payload.all Char.isDigit then some (.nan negative signaling (Text.numberOf payload)) else none

def readAscii? (cs : List Char) : Option Decimal :=
  let (negative, body) := splitSign cs
  match body.map Char.toLower with
  | 'n' :: 'a' :: 'n' :: payload => readNaN? negative false payload
  | 's' :: 'n' :: 'a' :: 'n' :: payload => readNaN? negative true payload
  | ['i', 'n', 'f'] | ['i', 'n', 'f', 'i', 'n', 'i', 't', 'y'] => some (.infinite negative)
  | _ => readFinite? negative body

def read? (cs : List Char) : Option Decimal :=
  (((Text.trim cs).filter (· != '_')).mapM asciiForm?).bind readAscii?

def ofString (s : String) : Except Signal Decimal :=
  match read? s.toList with
  | some x => .ok x
  | none => .error .invalidOperation

end MediaTiers.Decimal
