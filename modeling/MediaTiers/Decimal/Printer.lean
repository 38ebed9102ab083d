import MediaTiers.Decimal.Arithmetic

/-! The two written forms of a decimal: the exact one, which shows coefficient and exponent, and
plain notation without exponent or trailing zeros, which shows the rounded value. -/
namespace MediaTiers.Decimal

def signText (negative : Bool) : List Char :=
  if negative then ['-'] else []

def withPoint (ds : List Char) (places : Nat) : List Char :=
  if places = 0 then ds
  else
    let ds := List.replicate (places + 1 - ds.length) '0' ++ ds
    ds.take (ds.length - places) ++ '.' :: ds.drop (ds.length - places)

def exponentText (exponent : Int) : List Char :=
  'E' :: (if exponent < 0 then '-' else '+') :: digits exponent.natAbs

def nanText (negative signaling : Bool) (payload : Nat) : List Char :=
  signText negative ++ (if signaling then "sNaN" else "NaN").toList
    ++ (if payload = 0 then [] else digits payload)

def infinityText (negative : Bool) : List Char :=
  signText negative ++ "Infinity".toList

/-- The form that keeps coefficient and exponent: a power of ten is written out when the exponent is
positive or the leading digit lies beyond the sixth place. -/
def exact : Decimal → List Char
  | .finite negative coefficient exponent =>
    let ds := digits coefficient
    let leading := adjusted coefficient exponent
    signText negative ++
      if exponent ≤ 0 ∧ -6 ≤ leading then withPoint ds exponent.natAbs
      else withPoint ds (ds.length - 1) ++ exponentText leading
  | .infinite negative => infinityText negative
  | .nan negative signaling payload => nanText negative signaling payload

instance : ToString Decimal where
  toString x := String.ofList x.exact

def plainDigits (coefficient : Nat) (exponent : Int) : List Char :=
  if 0 ≤ exponent then digits coefficient ++ List.replicate exponent.toNat '0'
  else withPoint (digits coefficient) exponent.natAbs

def plainText : Decimal → List Char
  | .finite negative coefficient exponent =>
    if coefficient = 0 then plainDigits 0 exponent
    else signText negative ++ plainDigits coefficient exponent
  | .infinite negative => infinityText negative
  | .nan negative signaling payload => nanText negative signaling payload

/-- The value in plain notation: rounded to the precision, no exponent, no trailing zeros, no sign
on zero. -/
def plain (x : Decimal) : Except Signal String :=
  return String.ofList (plainText (← normalize x))

end MediaTiers.Decimal
