import MediaTiers.Text.Casing

/-! Lower-casing of texts. Every letter goes to its lower-case partner, the dotted capital I becomes
two characters, and a capital sigma becomes the final form at the end of a word. -/
namespace MediaTiers.Text

def lowerChar (c : Char) : Char :=
  if c.toNat < 0x80 then c.toLower
  else match caseRuns.find? (·.contains c.toNat) with
    | some run => Char.ofNat (c.toNat + run.shift).toNat
    | none => c

def isCased (c : Char) : Bool :=
  inSpans casedSpans c

def isCaseIgnorable (c : Char) : Bool :=
  inSpans caseIgnorableSpans c

/-- The nearest character that letter case does not look through has a case. -/
def meetsCased (cs : List Char) : Bool :=
  (cs.find? (!isCaseIgnorable ·)).any isCased

/-- A sigma ends its word when a cased character comes before it and none after it; `before` is the
text before it read backwards. -/
def sigmaIsFinal (before after : List Char) : Bool :=
  meetsCased before && !meetsCased after

def lowerAt (before : List Char) (c : Char) (after : List Char) : List Char :=
  if c = 'Σ' then [if sigmaIsFinal before after then 'ς' else 'σ']
  else if c = 'İ' then ['i', '\u0307']
  else [lowerChar c]

def lowerFrom (before : List Char) : List Char → List Char
  | [] => []
  | c :: after => lowerAt before c after ++ lowerFrom (c :: before) after

def lower (cs : List Char) : List Char :=
  lowerFrom [] cs

def lowercase (s : String) : String :=
  String.ofList (lower s.toList)

end MediaTiers.Text
