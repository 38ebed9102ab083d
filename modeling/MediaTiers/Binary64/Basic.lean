import MediaTiers.Decimal.Reader

/-! Binary floating point numbers of double width as exact values `± mantissa · 2 ^ exponent`.
Every operation computes the exact rational result and rounds it once, half to even. -/
namespace MediaTiers

/-- A finite number has either a 53-bit mantissa or the least exponent. -/
inductive Binary64 where
  | finite (negative : Bool) (mantissa : Nat) (exponent : Int)
  | infinite (negative : Bool)
  | nan
  deriving DecidableEq, Repr

namespace Binary64

def minExponent : Int := -1074

def maxExponent : Int := 971

def ofZero (negative : Bool) : Binary64 :=
  .finite negative 0 minExponent

def leadingBit (n d : Nat) : Int :=
  let e : Int := (n.log2 : Int) - d.log2
  if n * twoPow (-e).toNat < d * twoPow e.toNat then e - 1 else e

def ofRatio (negative : Bool) (n d : Nat) : Binary64 :=
  if n = 0 then ofZero negative
  else
    let q := max (leadingBit n d - 52) minExponent
    let m := roundHalfEven (n * twoPow (-q).toNat) (d * twoPow q.toNat)
    let (m, q) := if m = twoPow 53 then (twoPow 52, q + 1) else (m, q)
    if q > maxExponent then .infinite negative else .finite negative m q

/-- The number nearest to `± coefficient · 10 ^ exponent`. Magnitudes far outside the range are
settled by the leading digit alone. -/
def ofDecimal (negative : Bool) (coefficient : Nat) (exponent : Int) : Binary64 :=
  let leading := Decimal.adjusted coefficient exponent
  if coefficient = 0 ∨ leading < -400 then ofZero negative
  else if leading > 400 then .infinite negative
  else ofRatio negative (coefficient * tenPow exponent.toNat) (tenPow (-exponent).toNat)

def isZero : Binary64 → Bool
  | .finite _ m _ => m == 0
  | _ => false

/-- The signed integer `± m · 2 ^ e` over the power of two that makes it whole. -/
def scaled (negative : Bool) (m : Nat) (e : Int) (least : Int) : Int :=
  let magnitude := m * twoPow (e - least).toNat
  if negative then -magnitude else magnitude

def add : Binary64 → Binary64 → Binary64
  | .finite n a e, .finite m b f =>
    let least := min e f
    let total := scaled n a e least + scaled m b f least
    if total = 0 then ofZero (n && m)
    else ofRatio (total < 0) (total.natAbs * twoPow least.toNat) (twoPow (-least).toNat)
  | .nan, _ | _, .nan => .nan
  | .infinite n, .infinite m => if n = m then .infinite n else .nan
  | .infinite n, _ => .infinite n
  | _, .infinite m => .infinite m

def mul : Binary64 → Binary64 → Binary64
  | .finite n a e, .finite m b f =>
    ofRatio (xor n m) (a * b * twoPow (e + f).toNat) (twoPow (-(e + f)).toNat)
  | .nan, _ | _, .nan => .nan
  | .infinite n, .infinite m => .infinite (xor n m)
  | .infinite n, .finite m b _ | .finite m b _, .infinite n =>
    if b = 0 then .nan else .infinite (xor n m)

def ofInt? (k : Int) : Option Binary64 :=
  match ofRatio (k < 0) k.natAbs 1 with
  | .infinite _ => none
  | x => some x

def negateIf (flip : Bool) : Binary64 → Binary64
  | .finite n a e => .finite (xor n flip) a e
  | .infinite n => .infinite (xor n flip)
  | .nan => .nan

def equalsInt : Binary64 → Int → Bool
  | .finite n a e, k => scaled n a e (min e 0) == k * twoPow (-(min e 0)).toNat
  | _, _ => false

/-- Equality of values: both zeros are equal, and NaN equals nothing. -/
def equal : Binary64 → Binary64 → Bool
  | .nan, _ | _, .nan => false
  | x, y => x == y || x.isZero && y.isZero

def less : Binary64 → Binary64 → Bool
  | .finite n a e, .finite m b f => scaled n a e (min e f) < scaled m b f (min e f)
  | .infinite n, .infinite m => n && !m
  | .infinite n, .finite .. => n
  | .finite .., .infinite m => !m
  | .nan, _ | _, .nan => false

/-- The number nearest to a numeral of any script, or infinity or NaN by name. White space around it
does not count. -/
def read? (cs : List Char) : Option Binary64 :=
  let (negative, body) := Decimal.splitSign (Text.numeralForm cs)
  match body.map Char.toLower with
  | ['i', 'n', 'f'] | ['i', 'n', 'f', 'i', 'n', 'i', 't', 'y'] => some (.infinite negative)
  | ['n', 'a', 'n'] => some .nan
  | _ => (Decimal.readParts? body).map fun (coefficient, exponent) =>
    ofDecimal negative coefficient exponent

end Binary64
end MediaTiers
