import MediaTiers.Yaml.Tag

/-! How a scalar may be written: which of its characters rule out the unquoted form, and which rule
out single quotes. -/
namespace MediaTiers.Yaml

def isBreak (c : Char) : Bool :=
  c == '\n' || c == '\x85' || c == '\u2028' || c == '\u2029'

def isBoundary (c? : Option Char) : Bool :=
  match c? with
  | none => true
  | some c => c == '\x00' || c == ' ' || c == '\t' || c == '\r' || isBreak c

def leadingIndicators : List Char :=
  ['#', ',', '[', ']', '\x7b', '\x7d', '&', '*', '!', '|', '>', '\'', '"', '%', '@', '\x60']

def isPlainAscii (c : Char) : Bool :=
  0x20 ≤ c.toNat && c.toNat ≤ 0x7E

/-- Whether a character at its place would be taken for an indicator. `before` and `after` are its
neighbours. -/
def isIndicatorAt (before? : Option Char) (c : Char) (after? : Option Char) : Bool :=
  match before? with
  | none =>
    leadingIndicators.contains c || (c == '?' || c == ':' || c == '-') && isBoundary after?
  | some before =>
    c == ':' && isBoundary after? || c == '#' && isBoundary (some before)

def anyPlace (test : Option Char → Char → Option Char → Bool) :
    (before? : Option Char) → List Char → Bool
  | _, [] => false
  | before?, c :: cs => test before? c cs.head? || anyPlace test (some c) cs

def startsLikeMark : List Char → Bool
  | '-' :: '-' :: '-' :: _ | '.' :: '.' :: '.' :: _ => true
  | _ => false

structure Analysis where
  empty : Bool
  multiline : Bool
  plain : Bool
  single : Bool
  block : Bool
  deriving DecidableEq, Repr

def analyze (cs : List Char) : Analysis :=
  if cs.isEmpty then ⟨true, false, true, true, false⟩
  else
    let isSpaceOrBreak (c? : Option Char) := c?.any fun c => c == ' ' || isBreak c
    let multiline := cs.any isBreak
    let special := cs.any fun c => c != '\n' && !isPlainAscii c
    let indicators := startsLikeMark cs || anyPlace isIndicatorAt none cs
    let breakSpace := anyPlace (fun b? c _ => c == ' ' && b?.any isBreak) none cs
    let spaceBreak := anyPlace (fun b? c _ => isBreak c && b? == some ' ') none cs
    let edges := isSpaceOrBreak cs.head? || isSpaceOrBreak cs.getLast?
    { empty := false
      multiline
      plain := !(edges || breakSpace || spaceBreak || special || multiline || indicators)
      single := !(breakSpace || spaceBreak || special)
      block := !(cs.getLast? == some ' ' || spaceBreak || special) }

inductive Style where
  | plain
  | single
  | double
  | literal
  deriving DecidableEq, Repr

/-- The form of a scalar. A key before a colon has to stay on one line; byte rows are written as
literal blocks elsewhere. -/
def chooseStyle (tag : Tag) (s : String) (asKey : Bool) : Style :=
  let a := analyze s.toList
  if tag == .binary then if !asKey && a.block then .literal else .double
  else if Tag.ofPlain s == tag && a.plain && !(asKey && (a.empty || a.multiline)) then .plain
  else if a.single && !(asKey && a.multiline) then .single
  else .double

end MediaTiers.Yaml
