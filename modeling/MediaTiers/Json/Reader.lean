import MediaTiers.Binary64.Basic
import MediaTiers.Integer
import MediaTiers.Text.Basic
import MediaTiers.Value.Basic

/-! Reading JSON texts. Beyond the standard, the three special numbers are accepted by name; of
several entries with one key the last value counts, at the place of the first. -/
namespace MediaTiers.Json

def isSpace (c : Char) : Bool :=
  c == ' ' || c == '\t' || c == '\n' || c == '\r'

def skipSpace (cs : List Char) : List Char :=
  cs.dropWhile isSpace

def unitOf? (a b c d : Char) : Option Nat := do
  let hex? := Integer.digitValue?
  return (((← hex? a) * 16 + (← hex? b)) * 16 + (← hex? c)) * 16 + (← hex? d)

def shortEscape? : Char → Option Char
  | '"' => some '"'
  | '\\' => some '\\'
  | '/' => some '/'
  | 'b' => some '\x08'
  | 'f' => some '\x0c'
  | 'n' => some '\n'
  | 'r' => some '\r'
  | 't' => some '\t'
  | _ => none

inductive Piece where
  | char (c : Char)
  | unit (n : Nat)
  deriving DecidableEq, Repr

def isHighHalf (n : Nat) : Bool :=
  0xD800 ≤ n && n < 0xDC00

def isLowHalf (n : Nat) : Bool :=
  0xDC00 ≤ n && n < 0xE000

/-- The character of a 16-bit unit; half of a pair on its own has none and is replaced. -/
def unitChar (n : Nat) : Char :=
  if isHighHalf n || isLowHalf n then '\uFFFD' else Char.ofNat n

def pairChar (high low : Nat) : Char :=
  Char.ofNat (0x10000 + (high - 0xD800) * 0x400 + (low - 0xDC00))

/-- Joins the halves of pairs; `pending` is a high half that was read just before. -/
def joinPieces : (pending : Option Nat) → List Piece → List Char
  | none, [] => []
  | some high, [] => [unitChar high]
  | none, .char c :: ps => c :: joinPieces none ps
  | some high, .char c :: ps => unitChar high :: c :: joinPieces none ps
  | none, .unit n :: ps =>
    if isHighHalf n then joinPieces (some n) ps else unitChar n :: joinPieces none ps
  | some high, .unit n :: ps =>
    if isLowHalf n then pairChar high n :: joinPieces none ps
    else if isHighHalf n then unitChar high :: joinPieces (some n) ps
    else unitChar high :: unitChar n :: joinPieces none ps

def pieces : List Char → Option (List Piece × List Char)
  | [] => none
  | '"' :: rest => some ([], rest)
  | '\\' :: 'u' :: a :: b :: c :: d :: rest => do
    let n ← unitOf? a b c d
    let (ps, rest) ← pieces rest
    return (.unit n :: ps, rest)
  | '\\' :: e :: rest => do
    let c ← shortEscape? e
    let (ps, rest) ← pieces rest
    return (.char c :: ps, rest)
  | c :: rest => do
    guard (0x20 ≤ c.toNat && c != '\\')
    let (ps, rest) ← pieces rest
    return (.char c :: ps, rest)

def stringBody (cs : List Char) : Except Failure (String × List Char) :=
  match pieces cs with
  | some (ps, rest) => .ok (String.ofList (joinPieces none ps), rest)
  | none => .error .notJson

def exponentPart (cs : List Char) : Option (Int × List Char) :=
  match cs with
  | mark :: rest =>
    if mark = 'e' ∨ mark = 'E' then
      let (negative, rest) : Bool × List Char := match rest with
        | '-' :: rest => (true, rest)
        | '+' :: rest => (false, rest)
        | rest => (false, rest)
      let ds := rest.takeWhile Char.isDigit
      if ds.isEmpty then none
      else
        let n : Int := Text.numberOf ds
        some (if negative then -n else n, rest.dropWhile Char.isDigit)
    else none
  | [] => none

def fractionPart : List Char → Option (List Char × List Char)
  | '.' :: rest =>
    let ds := rest.takeWhile Char.isDigit
    if ds.isEmpty then none else some (ds, rest.dropWhile Char.isDigit)
  | _ => none

def wholePart : List Char → Option (List Char × List Char)
  | '0' :: rest => some (['0'], rest)
  | cs =>
    let ds := cs.takeWhile Char.isDigit
    if ds.isEmpty then none else some (ds, cs.dropWhile Char.isDigit)

def whole (negative : Bool) (ds : List Char) : Except Failure Value :=
  if ds.length > Integer.maxDigits then .error (.tooManyDigits (some ds.length))
  else
    let n : Int := Text.numberOf ds
    .ok (.int (if negative then -n else n))

/-- A number without its sign. One with a fraction or an exponent is a binary number. -/
def number (negative : Bool) (cs : List Char) : Except Failure (Value × List Char) :=
  match wholePart cs with
  | none => .error .notJson
  | some (ds, rest) =>
    match fractionPart rest, exponentPart rest with
    | none, none => return (← whole negative ds, rest)
    | some (fraction, rest), _ =>
      let (scale, rest) := (exponentPart rest).getD (0, rest)
      let x := .ofDecimal negative (Text.numberOf (ds ++ fraction)) (scale - fraction.length)
      .ok (.float x, rest)
    | none, some (scale, rest) => .ok (.float (.ofDecimal negative (Text.numberOf ds) scale), rest)

def mapOf (entries : List (String × Value)) : Value :=
  .map (entries.foldl (fun m e => Value.insertEntry (.text e.1) e.2 m) [])

def afterWord? : (word : List Char) → List Char → Option (List Char)
  | [], cs => some cs
  | _ :: _, [] => none
  | w :: word, c :: cs => if w = c then afterWord? word cs else none

def constant (cs : List Char) : Option (Value × List Char) :=
  let named (word : String) (v : Value) := (afterWord? word.toList cs).map fun rest => (v, rest)
  named "null" .null <|> named "true" (.bool true) <|> named "false" (.bool false)
    <|> named "NaN" .nan <|> named "Infinity" (.float (.infinite false))
    <|> named "-Infinity" (.float (.infinite true))

mutual

def value : (bound : Nat) → List Char → Except Failure (Value × List Char)
  | 0, _ => .error .notJson
  | bound + 1, cs => match cs with
    | '"' :: rest => do
      let (s, rest) ← stringBody rest
      return (.text s, rest)
    | '[' :: rest => match skipSpace rest with
      | ']' :: rest => .ok (.list [], rest)
      | rest => do
        let (vs, rest) ← items bound rest
        return (.list vs, rest)
    | '\x7b' :: rest => match skipSpace rest with
      | '\x7d' :: rest => .ok (.map [], rest)
      | rest => do
        let (es, rest) ← entries bound rest
        return (mapOf es, rest)
    | cs => match constant cs, cs with
      | some found, _ => .ok found
      | none, '-' :: rest => number true rest
      | none, cs => number false cs

def items : (bound : Nat) → List Char → Except Failure (List Value × List Char)
  | 0, _ => .error .notJson
  | bound + 1, cs => do
    let (v, rest) ← value bound cs
    match skipSpace rest with
    | ']' :: rest => return ([v], rest)
    | ',' :: rest =>
      let (vs, rest) ← items bound (skipSpace rest)
      return (v :: vs, rest)
    | _ => throw .notJson

def entries : (bound : Nat) → List Char → Except Failure (List (String × Value) × List Char)
  | 0, _ => .error .notJson
  | bound + 1, cs => match cs with
    | '"' :: rest => do
      let (key, rest) ← stringBody rest
      match skipSpace rest with
      | ':' :: rest =>
        let (v, rest) ← value bound (skipSpace rest)
        match skipSpace rest with
        | '\x7d' :: rest => return ([(key, v)], rest)
        | ',' :: rest =>
          let (es, rest) ← entries bound (skipSpace rest)
          return ((key, v) :: es, rest)
        | _ => throw .notJson
      | _ => throw .notJson
    | _ => .error .notJson

end

/-- Reads a JSON text: the value that the whole of it denotes; white space around that does not count.
Every call goes at least one character on, so the length of the text bounds them. -/
def read (s : String) : Except Failure Value := do
  let cs := s.toList
  let (v, rest) ← value (2 * cs.length + 2) (skipSpace cs)
  if (skipSpace rest).isEmpty then return v else throw .notJson

end MediaTiers.Json
