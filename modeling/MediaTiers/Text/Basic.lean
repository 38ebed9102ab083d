/-! Classes of characters and what depends on them: white space, trimming and words; letters of either case;
digits of every script, and numerals written with them. -/
namespace MediaTiers.Text

structure Span where
  first : Nat
  last : Nat
  deriving DecidableEq, Repr

def Span.contains (span : Span) (code : Nat) : Bool :=
  span.first ≤ code && code ≤ span.last

def inSpans (spans : List Span) (c : Char) : Bool :=
  spans.any (·.contains c.toNat)

/-- The white space of Unicode, together with the four information separators. -/
def blankSpans : List Span :=
  [⟨0x9, 0xD⟩, ⟨0x1C, 0x20⟩, ⟨0x85, 0x85⟩, ⟨0xA0, 0xA0⟩, ⟨0x1680, 0x1680⟩, ⟨0x2000, 0x200A⟩,
   ⟨0x2028, 0x2029⟩, ⟨0x202F, 0x202F⟩, ⟨0x205F, 0x205F⟩, ⟨0x3000, 0x3000⟩]

def isBlank (c : Char) : Bool :=
  inSpans blankSpans c

def trimBy {α : Type} (test : α → Bool) (xs : List α) : List α :=
  ((xs.dropWhile test).reverse.dropWhile test).reverse

def trim (cs : List Char) : List Char :=
  trimBy isBlank cs

def words (cs : List Char) : List (List Char) :=
  (cs.splitBy fun a b => isBlank a == isBlank b).filter fun run => !run.all isBlank

def trimmed (s : String) : String :=
  String.ofList (trim s.toList)

def isFormOf (letter c : Char) : Bool :=
  c.toLower == letter
    || letter == 's' && c == 'ſ'
    || letter == 'k' && c == '\u212A'
    || letter == 'i' && (c == 'ı' || c == 'İ')

/-- What follows `word` at the start of a text, in any letter case. -/
def after? : (word : List Char) → List Char → Option (List Char)
  | [], cs => some cs
  | _ :: _, [] => none
  | letter :: word, c :: cs => if isFormOf letter c then after? word cs else none

def spells (word : String) (cs : List Char) : Bool :=
  after? word.toList cs == some []

/-- The code points of the zeros; each script's other nine digits follow its zero in order. -/
def digitZeros : List Nat :=
  [0x30, 0x660, 0x6F0, 0x7C0, 0x966, 0x9E6, 0xA66, 0xAE6, 0xB66, 0xBE6, 0xC66, 0xCE6, 0xD66,
   0xDE6, 0xE50, 0xED0, 0xF20, 0x1040, 0x1090, 0x17E0, 0x1810, 0x1946, 0x19D0, 0x1A80, 0x1A90,
   0x1B50, 0x1BB0, 0x1C40, 0x1C50, 0xA620, 0xA8D0, 0xA900, 0xA9D0, 0xA9F0, 0xAA50, 0xABF0,
   0xFF10, 0x104A0, 0x10D30, 0x11066, 0x110F0, 0x11136, 0x111D0, 0x112F0, 0x11450, 0x114D0,
   0x11650, 0x116C0, 0x11730, 0x118E0, 0x11950, 0x11C50, 0x11D50, 0x11DA0, 0x16A60, 0x16AC0,
   0x16B50, 0x1D7CE, 0x1D7D8, 0x1D7E2, 0x1D7EC, 0x1D7F6, 0x1E140, 0x1E2F0, 0x1E950, 0x1FBF0]

def digitValue? (c : Char) : Option Nat :=
  (digitZeros.find? fun start => start ≤ c.toNat && c.toNat < start + 10).map (c.toNat - ·)

def isDigit (c : Char) : Bool :=
  (digitValue? c).isSome

/-- Positional value of a row of digits; a character that is no digit counts as zero. -/
def numberOf (cs : List Char) : Nat :=
  cs.foldl (fun total c => 10 * total + (digitValue? c).getD 0) 0

def isAsciiSpace (c : Char) : Bool :=
  c == ' ' || 0x9 ≤ c.toNat && c.toNat ≤ 0xD

/-- A character as numerals take it: beyond ASCII, digits of all scripts become ASCII digits and white
space becomes a space. -/
def numeralChar (c : Char) : Char :=
  if c.toNat < 0x80 then c
  else if isBlank c then ' '
  else match digitValue? c with
    | some d => Nat.digitChar d
    | none => c

def numeralForm (cs : List Char) : List Char :=
  trimBy isAsciiSpace (cs.map numeralChar)

end MediaTiers.Text
