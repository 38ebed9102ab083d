import MediaTiers.OrderedMap
import MediaTiers.Failure
import MediaTiers.Text.Basic
import MediaTiers.Text.Lower
import MediaTiers.Value.Basic

/-! Media selectors: how they fall into words and separators, and how names in them are replaced by
their queries. -/
namespace MediaTiers

inductive MatchMode where
  | word
  | exact
  deriving DecidableEq, Repr

namespace MatchMode

def name : MatchMode → String
  | .word => "word"
  | .exact => "exact"

def ofName? (s : String) : Option MatchMode :=
  [MatchMode.word, .exact].find? (·.name == s)

def ofName (s : String) : Except Failure MatchMode :=
  match ofName? s with
  | some mode => .ok mode
  | none => .error (.unknownName .mode (Text.quoted s))

end MatchMode

namespace Selector

def isSeparator (c : Char) : Bool :=
  c == ',' || Text.isBlank c

/-- A text cut at its separators: what stands before the first one, that separator itself, and so on. A separator is
a comma or a run of white space, and what stands between two of them may be empty. -/
def pieces (cs : List Char) : List (List Char) :=
  let word := cs.takeWhile (!isSeparator ·)
  match _left : cs.dropWhile (!isSeparator ·) with
  | [] => [word]
  | ',' :: rest => word :: [','] :: pieces rest
  | c :: rest => word :: (c :: rest.takeWhile Text.isBlank) :: pieces (rest.dropWhile Text.isBlank)
termination_by cs.length
decreasing_by
  all_goals
    have shorter := congrArg List.length _left
    have dropped := (List.dropWhile_sublist (!isSeparator ·) : (cs.dropWhile _).Sublist cs).length_le
    have blanks := (List.dropWhile_sublist Text.isBlank : (rest.dropWhile _).Sublist rest).length_le
    simp only [List.length_cons] at shorter
    omega

def tokens (s : String) : List String :=
  ((pieces s.toList).filter (!·.isEmpty)).map String.ofList

def replace (m : OrderedMap String) (token : String) : String :=
  (m.lookup (Text.lowercase token)).getD token

def substitute (m : OrderedMap String) (mode : MatchMode) (s : String) : String :=
  match mode with
  | .word => String.join ((tokens s).map (replace m))
  | .exact => (m.lookup (Text.lowercase (Text.trimmed s))).getD s

def substituteValue (m : OrderedMap String) (mode : MatchMode) : Value → Except Failure Value
  | .text s => .ok (.text (substitute m mode s))
  | .bytes bs => match mode with
    | .word => .error .wrongOperand
    | .exact => .ok (.bytes bs)
  | _ => match mode with
    | .word => .error .wrongOperand
    | .exact => .error .missingOperation

def differs (before after : Value) : Bool :=
  !before.same after

/-- Replaces names in selectors and counts those that changed. Without any name nothing is looked
at. -/
def substituteAll (m : OrderedMap String) (mode : MatchMode) (selectors : List Value) :
    Except Failure (List Value × Nat) := do
  if m.isEmpty then return (selectors, 0)
  let replaced ← selectors.mapM (substituteValue m mode)
  return (replaced, (selectors.zip replaced).countP fun pair => differs pair.1 pair.2)

end Selector
end MediaTiers
