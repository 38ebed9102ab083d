import MediaTiers.Yaml.Lexeme

/-! Block scalars: literal ones keep their line ends, folded ones turn single line ends into spaces,
and the header says what happens to the line ends at the end. -/
namespace MediaTiers.Yaml

inductive Chomping where
  | clip
  | keep
  | strip
  deriving DecidableEq, Repr

def chomping? : Option Char → Option Chomping
  | some '+' => some .keep
  | some '-' => some .strip
  | _ => none

def increment? (c : Cursor) : Except Failure (Option Nat × Cursor) :=
  match c.peek? with
  | some d =>
    if d == '0' then .error .notYaml
    else if d.isDigit then .ok (some (d.toNat - '0'.toNat), c.step)
    else .ok (none, c)
  | none => .ok (none, c)

def blockHeader (c : Cursor) : Except Failure ((Chomping × Option Nat) × Cursor) := do
  let (chomping, increment, c) ← match chomping? c.peek? with
    | some chomping => do
      let (increment, c) ← increment? c.step
      pure (chomping, increment, c)
    | none => do
      let (increment, c) ← increment? c
      match increment, chomping? c.peek? with
      | some _, some chomping => pure (chomping, increment, c.step)
      | _, _ => pure (.clip, increment, c)
  if endsWord c.peek? then return ((chomping, increment), ← c.endLine) else throw .notYaml

def leadingLines : (bound : Nat) → (breaks : List Char) → (deepest : Nat) → Cursor →
    List Char × Nat × Cursor
  | 0, breaks, deepest, c => (breaks, deepest, c)
  | bound + 1, breaks, deepest, c =>
    if c.peek? == some ' ' then
      let c := c.step
      leadingLines bound breaks (max deepest c.column) c
    else match c.lineEnd with
      | ([], _) => (breaks, deepest, c)
      | (b, c) => leadingLines bound (breaks ++ b) deepest c

def skipIndent (indent : Nat) (c : Cursor) : Cursor :=
  c.forward (min (indent - c.column) (c.rest.takeWhile (· == ' ')).length)

def emptyLines (indent : Nat) : (bound : Nat) → (breaks : List Char) → Cursor → List Char × Cursor
  | 0, breaks, c => (breaks, c)
  | bound + 1, breaks, c =>
    let c := skipIndent indent c
    match c.lineEnd with
    | ([], _) => (breaks, c)
    | (b, c) => emptyLines indent bound (breaks ++ b) c

def isGapStart (c? : Option Char) : Bool :=
  c? == some ' ' || c? == some '\t'

/-- The line before the place: its line end, and whether it began with something else than a space. -/
structure LineBefore where
  lineEnd : List Char
  flush : Bool

/-- What stands between two lines of text, the empty lines apart. A folded scalar joins lines that
both begin with text: by a space, or by the empty lines between them alone. -/
def lineJoint (folded : Bool) (before : LineBefore) (breaks : List Char) (next? : Option Char) :
    List Char :=
  if folded && before.lineEnd == ['\n'] && before.flush && !isGapStart next? then
    if breaks.isEmpty then [' '] else []
  else before.lineEnd

/-- The lines of a block scalar: the text up to the last line, the end of that line, and the empty
lines after it. -/
def blockLines (folded : Bool) (indent : Nat) : (bound : Nat) → (text : List Char) →
    (before? : Option LineBefore) → (breaks : List Char) → Cursor →
    List Char × List Char × List Char × Cursor
  | 0, text, _, breaks, c => (text, [], breaks, c)
  | bound + 1, text, before?, breaks, c =>
    if c.column == indent && c.peek?.isSome then
      let joint := (before?.map fun b => lineJoint folded b breaks c.peek?).getD []
      let (line, after) := c.spanWhile (!isLineEnd ·)
      let (lineEnd, after) := after.lineEnd
      let (later, after) := emptyLines indent (after.rest.length + 1) [] after
      blockLines folded indent bound (text ++ joint ++ breaks ++ line)
        (some ⟨lineEnd, !isGapStart c.peek?⟩) later after
    else (text, (before?.map (·.lineEnd)).getD [], breaks, c)

def blockScalar (folded : Bool) (blockIndent : Int) (c : Cursor) : Except Failure (String × Cursor) := do
  let ((chomping, increment), c) ← blockHeader c.step
  let bound := c.rest.length + 1
  let least := (max 1 (blockIndent + 1)).toNat
  let (indent, breaks, c) := match increment with
    | some n =>
      let indent := least + n - 1
      let (breaks, c) := emptyLines indent bound [] c
      (indent, breaks, c)
    | none =>
      let (breaks, deepest, c) := leadingLines bound [] 0 c
      (max least deepest, breaks, c)
  let (text, lastEnd, breaks, c) := blockLines folded indent bound [] none breaks c
  let tail := match chomping with
    | .strip => []
    | .clip => lastEnd
    | .keep => lastEnd ++ breaks
  return (String.ofList (text ++ tail), c)

end MediaTiers.Yaml
