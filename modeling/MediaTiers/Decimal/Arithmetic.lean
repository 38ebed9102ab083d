import MediaTiers.Decimal.Basic

/-! Arithmetic with 28 significant digits. Results are rounded half to even, a result too large for
the exponent range is refused, and one too small loses digits. -/
namespace MediaTiers.Decimal

def precision : Nat := 28

def maxAdjusted : Int := 999999

def minExponent : Int := -1000026

/-- How many last digits have to go before a finite decimal fits. -/
def excess (coefficient : Nat) (exponent : Int) : Nat :=
  max (digitCount coefficient - precision) (minExponent - exponent).toNat

def fitFinite (negative : Bool) (coefficient : Nat) (exponent : Int) : Except Signal Decimal :=
  if adjusted coefficient exponent > maxAdjusted then .error .overflow
  else
    let drop := excess coefficient exponent
    let kept := if drop > digitCount coefficient then 0 else roundHalfEven coefficient (tenPow drop)
    let shifted := exponent + drop
    let (kept, shifted) :=
      if digitCount kept > precision then (kept / 10, shifted + 1) else (kept, shifted)
    if kept ≠ 0 ∧ adjusted kept shifted > maxAdjusted then .error .overflow
    else .ok (.finite negative kept shifted)

def fitPayload (payload : Nat) : Nat :=
  payload % tenPow precision

def fitNaN (negative signaling : Bool) (payload : Nat) : Except Signal Decimal :=
  if signaling then .error .invalidOperation else .ok (.nan negative false (fitPayload payload))

def fit : Decimal → Except Signal Decimal
  | .finite negative coefficient exponent =>
    if coefficient = 0 then .ok (.finite negative 0 (max minExponent (min exponent maxAdjusted)))
    else fitFinite negative coefficient exponent
  | .infinite negative => .ok (.infinite negative)
  | .nan negative signaling payload => fitNaN negative signaling payload

def signed (negative : Bool) (n : Nat) : Int :=
  if negative then -n else n

def sumFinite (n : Bool) (a : Nat) (e : Int) (m : Bool) (b : Nat) (f : Int) : Decimal :=
  let total := signed n (a * tenPow (e - f).toNat) + signed m (b * tenPow (f - e).toNat)
  .finite (total < 0) total.natAbs (min e f)

/-- A term that lies wholly below the digits that rounding can see counts as one unit just there:
it still breaks ties, and the powers of ten stay small. `a · 10 ^ e` is the other term. -/
def visibleTerm (a : Nat) (e : Int) (b : Nat) (f : Int) : Nat × Int :=
  let floor := e + min (-1) ((digitCount a : Int) - precision - 2)
  if b ≠ 0 ∧ adjusted b f < floor then (1, floor) else (b, f)

def addFinite (n : Bool) (a : Nat) (e : Int) (m : Bool) (b : Nat) (f : Int) :
    Except Signal Decimal :=
  if a = 0 then
    if b = 0 then fit (.finite (n && m) 0 (min e f)) else fit (.finite m b f)
  else if b = 0 then fit (.finite n a e)
  else if f ≤ e then
    let (b, f) := visibleTerm a e b f
    fit (sumFinite n a e m b f)
  else
    let (a, e) := visibleTerm b f a e
    fit (sumFinite n a e m b f)

def add : Decimal → Decimal → Except Signal Decimal
  | .finite n a e, .finite m b f => addFinite n a e m b f
  | .nan n s p, .nan _ t _ => if s || t then .error .invalidOperation else fitNaN n s p
  | .nan n s p, _ => fitNaN n s p
  | _, .nan m t q => fitNaN m t q
  | .infinite n, .infinite m => if n = m then .ok (.infinite n) else .error .invalidOperation
  | .infinite n, _ => .ok (.infinite n)
  | _, .infinite m => .ok (.infinite m)

inductive Direction where
  | up
  | down
  deriving DecidableEq, Repr

def directed (direction : Direction) : Decimal → Except Signal Decimal
  | .finite negative coefficient exponent =>
    fit (.finite (xor negative (direction == .down)) coefficient exponent)
  | .infinite negative => .ok (.infinite (xor negative (direction == .down)))
  | .nan negative signaling payload => fitNaN negative signaling payload

def stripZeros (coefficient : Nat) (exponent : Int) : Nat × Int :=
  if coefficient = 0 then (0, 0)
  else if coefficient % 10 = 0 then stripZeros (coefficient / 10) (exponent + 1)
  else (coefficient, exponent)
termination_by coefficient
decreasing_by omega

/-- Rounds and removes trailing zeros; every zero gets the exponent zero. -/
def normalize (x : Decimal) : Except Signal Decimal :=
  return match ← fit x with
    | .finite negative coefficient exponent =>
      let (coefficient, exponent) := stripZeros coefficient exponent
      .finite negative coefficient exponent
    | special => special

end MediaTiers.Decimal
