import MediaTiers.Binary64.Basic
import MediaTiers.Decimal.Printer

/-! The shortest decimal that reads back as a given binary number, and its written form. -/
namespace MediaTiers.Binary64

/-- The least `k` with `m · 2 ^ e < 10 ^ k`, for a positive magnitude. The search starts from an
estimate that is never too large and at most one too small. -/
def decimalScale (m : Nat) (e : Int) : Int :=
  let estimate := ((m.log2 : Int) + e) * 30103 / 100000
  let below (k : Int) := m * twoPow e.toNat * tenPow (-k).toNat < tenPow k.toNat * twoPow (-e).toNat
  if below (estimate - 1) then estimate - 1
  else if below estimate then estimate
  else if below (estimate + 1) then estimate + 1
  else estimate + 2

def decimalWith? (m : Nat) (e : Int) (scale : Int) (count : Nat) : Option (Nat × Int) :=
  let grid := scale - count
  let n := m * twoPow e.toNat * tenPow (-grid).toNat
  let d := twoPow (-e).toNat * tenPow grid.toNat
  let low := n / d
  let readsBack (c : Nat) := ofDecimal false c grid == .finite false m e
  let nearest := roundHalfEven n d
  if readsBack nearest then some (nearest, grid)
  else if readsBack low then some (low, grid)
  else if readsBack (low + 1) then some (low + 1, grid)
  else none

/-- Digits and exponent of the shortest decimal that reads back as a positive number. Seventeen
digits always suffice. -/
def shortest (m : Nat) (e : Int) : Nat × Int :=
  let scale := decimalScale m e
  ((List.range 17).findSome? fun n => decimalWith? m e scale (n + 1)).getD (m, 0)

def exponentDigits (n : Nat) : List Char :=
  if n < 10 then '0' :: Decimal.digits n else Decimal.digits n

/-- A positive magnitude: positional from the fourth place after the point up to sixteen digits
before it, always with a fraction; otherwise with a signed exponent. -/
def magnitudeText (m : Nat) (e : Int) : List Char :=
  let (c, x) := shortest m e
  let (c, x) := Decimal.stripZeros c x
  let ds := Decimal.digits c
  let leading := Decimal.adjusted c x
  if -4 ≤ leading ∧ leading < 16 then
    if x ≥ 0 then ds ++ List.replicate x.toNat '0' ++ ['.', '0']
    else Decimal.withPoint ds x.natAbs
  else
    Decimal.withPoint ds (ds.length - 1) ++ 'e' :: (if leading < 0 then '-' else '+')
      :: exponentDigits leading.natAbs

def text : Binary64 → String
  | .finite negative m e => String.ofList <|
    Decimal.signText negative ++ if m = 0 then ['0', '.', '0'] else magnitudeText m e
  | .infinite negative => if negative then "-inf" else "inf"
  | .nan => "nan"

end MediaTiers.Binary64
