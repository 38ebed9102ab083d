import MediaTiers.Decimal.Reader
import MediaTiers.Failure
import MediaTiers.Text.Basic

/-! Whole numbers as texts. In base ten, neither reading nor writing goes beyond 4300 digits. -/
namespace MediaTiers.Integer

def maxDigits : Nat := 4300

def text (n : Int) : Except Failure String :=
  if (Decimal.digits n.natAbs).length > maxDigits then .error (.tooManyDigits none)
  else .ok (toString n)

def digitValue? (c : Char) : Option Nat :=
  if c.isDigit then some (c.toNat - '0'.toNat)
  else if 'a' ≤ c ∧ c ≤ 'f' then some (c.toNat - 'a'.toNat + 10)
  else if 'A' ≤ c ∧ c ≤ 'F' then some (c.toNat - 'A'.toNat + 10)
  else none

def isDigitIn (base : Nat) (c : Char) : Bool :=
  (digitValue? c).any (· < base)

def baseMarks (base : Nat) : List Char :=
  if base = 2 then ['b', 'B'] else if base = 8 then ['o', 'O']
  else if base = 16 then ['x', 'X'] else []

def afterBaseMark (base : Nat) : List Char → List Char
  | '0' :: c :: cs => if (baseMarks base).contains c then cs else '0' :: c :: cs
  | cs => cs

def valueIn (base : Nat) (ds : List Char) : Nat :=
  ds.foldl (fun n d => base * n + (digitValue? d).getD 0) 0

/-- Reads a number in a base: white space around it does not count, a sign and the mark of the base may
stand in front, and the digits of every script count. -/
def read (base : Nat) (cs : List Char) : Except Failure Int :=
  let (negative, body) := Decimal.splitSign (Text.numeralForm cs)
  let body := afterBaseMark base body
  let ds := body.takeWhile (isDigitIn base)
  if base = 10 ∧ ds.length > maxDigits then .error (.tooManyDigits (some ds.length))
  else if ds.isEmpty ∨ ds.length < body.length then
    .error (.scalar (.badInteger base (String.ofList cs)))
  else .ok (if negative then -(valueIn base ds : Int) else valueIn base ds)

end MediaTiers.Integer
