/-! Decimal numbers that keep their trailing zeros: a sign, a coefficient and a power of ten, with
infinities and the two kinds of not-a-number. Comparison is exact and looks at the value only. -/
namespace MediaTiers

def tenPow (n : Nat) : Nat :=
  Nat.pow 10 n

def twoPow (n : Nat) : Nat :=
  Nat.pow 2 n

def roundHalfEven (n d : Nat) : Nat :=
  let q := n / d
  let r := n % d
  if 2 * r < d then q
  else if 2 * r > d then q + 1
  else if q % 2 = 0 then q else q + 1

/-- A finite decimal denotes `± coefficient · 10 ^ exponent`; the payload of a NaN is zero when it
carries none. -/
inductive Decimal where
  | finite (negative : Bool) (coefficient : Nat) (exponent : Int)
  | infinite (negative : Bool)
  | nan (negative signaling : Bool) (payload : Nat)
  deriving DecidableEq, Repr

namespace Decimal

inductive Signal where
  | invalidOperation
  | overflow
  deriving DecidableEq, Repr

def ofNat (n : Nat) : Decimal :=
  .finite false n 0

def ofInt (n : Int) : Decimal :=
  .finite (n < 0) n.natAbs 0

def digits (n : Nat) : List Char :=
  Nat.toDigits 10 n

def digitCount (n : Nat) : Nat :=
  (digits n).length

def adjusted (coefficient : Nat) (exponent : Int) : Int :=
  exponent + digitCount coefficient - 1

def isFinite : Decimal → Bool
  | .finite .. => true
  | _ => false

def isNaN : Decimal → Bool
  | .nan .. => true
  | _ => false

def isSignaling : Decimal → Bool
  | .nan _ signaling _ => signaling
  | _ => false

/-- Order of `a · 10 ^ e` and `b · 10 ^ f`. Leading digits of different weight decide at once, so
the powers of ten that remain are no longer than the coefficients. -/
def compareMagnitude (a : Nat) (e : Int) (b : Nat) (f : Int) : Ordering :=
  if a = 0 ∨ b = 0 then compare a b
  else match compare (adjusted a e) (adjusted b f) with
    | .eq => compare (a * tenPow (e - f).toNat) (b * tenPow (f - e).toNat)
    | unequal => unequal

def compareValue : Decimal → Decimal → Ordering
  | .finite n a e, .finite m b f =>
    if a = 0 ∧ b = 0 then .eq
    else if a = 0 then if m then .gt else .lt
    else if b = 0 then if n then .lt else .gt
    else match n, m with
      | false, false => compareMagnitude a e b f
      | true, true => compareMagnitude b f a e
      | true, false => .lt
      | false, true => .gt
  | .infinite n, .infinite m => if n = m then .eq else if n then .lt else .gt
  | .infinite n, _ => if n then .lt else .gt
  | _, .infinite m => if m then .gt else .lt
  | _, _ => .eq

/-- Numeric equality. A quiet NaN equals nothing, and asking about a signaling one is refused. -/
def equal (x y : Decimal) : Except Signal Bool :=
  if x.isSignaling || y.isSignaling then .error .invalidOperation
  else if x.isNaN || y.isNaN then .ok false
  else .ok (compareValue x y == .eq)

def less (x y : Decimal) : Except Signal Bool :=
  if x.isNaN || y.isNaN then .error .invalidOperation
  else .ok (compareValue x y == .lt)

def isPositive : Decimal → Bool
  | .finite negative coefficient _ => !negative && coefficient != 0
  | _ => false

end Decimal
end MediaTiers
