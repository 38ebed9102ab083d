import MediaTiers.Yaml.Lexeme

/-! Scalars that flow over lines: quoted ones up to their closing quote, plain ones up to the first
indicator. A single line end inside counts as a space, further ones stand for themselves. -/
namespace MediaTiers.Yaml

def shortEscape? (c : Char) : Option Char :=
  [('0', '\x00'), ('a', '\x07'), ('b', '\x08'), ('t', '\t'), ('\t', '\t'), ('n', '\n'),
   ('v', '\x0b'), ('f', '\x0c'), ('r', '\r'), ('e', '\x1b'), (' ', ' '), ('"', '"'), ('\\', '\\'),
   ('/', '/'), ('N', '\x85'), ('_', '\xa0'), ('L', '\u2028'), ('P', '\u2029')].lookup c

def escapeLength? : Char → Option Nat
  | 'x' => some 2
  | 'u' => some 4
  | 'U' => some 8
  | _ => none

/-- The character of a numeric escape, given its digits. Numbers that are too large for a character
are told apart from those that are too large for any signed word. -/
def numericEscape (ds : List Char) (count : Nat) : Except Failure Char := do
  let values := ds.filterMap Integer.digitValue?
  if values.length < count then throw .notYaml
  let code := values.foldl (fun n d => 16 * n + d) 0
  if code < 0x110000 then return Char.ofNat code
  throw (if code < 0x80000000 then .scalar .noCharacter else .beyondRange)

def quotedBreaks : (bound : Nat) → (breaks : List Char) → Cursor → Except Failure (List Char × Cursor)
  | 0, _, _ => .error .notYaml
  | bound + 1, breaks, c =>
    if c.atSeparator then .error .notYaml
    else
      let c := c.skipWhile isGap
      match c.lineEnd with
      | ([], _) => .ok (breaks, c)
      | (b, c) => quotedBreaks bound (breaks ++ b) c

def foldedBreaks (bound : Nat) (c : Cursor) : Except Failure (List Char × Cursor) := do
  let (lineEnd, c) := c.lineEnd
  let (breaks, c) ← quotedBreaks bound [] c
  let joint := if lineEnd != ['\n'] then lineEnd else if breaks.isEmpty then [' '] else []
  return (joint ++ breaks, c)

def escape (bound : Nat) (c : Cursor) : Except Failure (List Char × Cursor) :=
  match c.peek? with
  | none => .error .notYaml
  | some e => match shortEscape? e, escapeLength? e with
    | some ch, _ => .ok ([ch], c.step)
    | none, some count => do
      let ch ← numericEscape (c.step.rest.take count) count
      return ([ch], c.forward (count + 1))
    | none, none =>
      if isLineEnd e then quotedBreaks bound [] c.lineEnd.2 else .error .notYaml

def quotedBody (double : Bool) : (bound : Nat) → (text : List Char) → Cursor → Except Failure (List Char × Cursor)
  | 0, _, _ => .error .notYaml
  | bound + 1, text, c => match c.rest with
    | [] => .error .notYaml
    | '"' :: _ => if double then .ok (text, c.step) else quotedBody double bound (text ++ ['"']) c.step
    | '\'' :: rest =>
      if double then quotedBody double bound (text ++ ['\'']) c.step
      else if rest.head? == some '\'' then quotedBody double bound (text ++ ['\'']) (c.forward 2)
      else .ok (text, c.step)
    | '\\' :: _ =>
      if double then do
        let (cs, c) ← escape bound c.step
        quotedBody double bound (text ++ cs) c
      else quotedBody double bound (text ++ ['\\']) c.step
    | ch :: _ =>
      if isGap ch || isLineEnd ch then do
        let (gap, after) := c.spanWhile isGap
        if after.peek?.isNone then throw .notYaml
        if endsLine after.peek? then
          let (breaks, after) ← foldedBreaks bound after
          quotedBody double bound (text ++ breaks) after
        else quotedBody double bound (text ++ gap) after
      else quotedBody double bound (text ++ [ch]) c.step

def quotedScalar (double : Bool) (c : Cursor) : Except Failure (String × Cursor) := do
  let (text, c) ← quotedBody double (c.rest.length + 1) [] c.step
  return (String.ofList text, c)

def endsPlain (inFlow : Bool) (ch : Char) (next? : Option Char) : Bool :=
  let flowMark (ch : Char) := ",[]\x7b\x7d".toList.contains ch
  isBoundary (some ch)
    || ch == ':' && (isBoundary next? || inFlow && next?.any flowMark)
    || inFlow && (ch == '?' || flowMark ch)

def plainWord (inFlow : Bool) : List Char → List Char
  | [] => []
  | ch :: cs => if endsPlain inFlow ch cs.head? then [] else ch :: plainWord inFlow cs

/-- Spaces and empty lines after the first line end in a plain scalar; nothing if a document mark
follows. -/
def plainBreaks : (bound : Nat) → (breaks : List Char) → Cursor → Option (List Char) × Cursor
  | 0, breaks, c => (some breaks, c)
  | bound + 1, breaks, c =>
    if c.atSeparator then (none, c)
    else
      let c := c.skipSpaces
      match c.lineEnd with
      | ([], _) => (some breaks, c)
      | (b, c) => plainBreaks bound (breaks ++ b) c

/-- The gap after a word of a plain scalar, as it counts if another word follows. The flag says that
a line ended in it. -/
def plainGap (c : Cursor) : Option (List Char) × Bool × Cursor :=
  let (spaces, c) := c.spanWhile (· == ' ')
  match c.lineEnd with
  | ([], _) => (if spaces.isEmpty then none else some spaces, false, c)
  | (lineEnd, c) => match plainBreaks (c.rest.length + 1) [] c with
    | (none, c) => (none, true, c)
    | (some breaks, c) =>
      let joint := if lineEnd != ['\n'] then lineEnd else if breaks.isEmpty then [' '] else []
      (some (joint ++ breaks), true, c)

def plainBody (inFlow : Bool) (indent : Int) : (bound : Nat) → (text gap : List Char) →
    (lineEnded : Bool) → Cursor → List Char × Bool × Cursor
  | 0, text, _, lineEnded, c => (text, lineEnded, c)
  | bound + 1, text, gap, lineEnded, c =>
    if c.peek? == some '#' then (text, lineEnded, c)
    else
      let word := plainWord inFlow c.rest
      if word.isEmpty then (text, lineEnded, c)
      else
        let text := text ++ gap ++ word
        match plainGap (c.forward word.length) with
        | (none, lineEnded, c) => (text, lineEnded, c)
        | (some gap, lineEnded, c) =>
          if c.peek? == some '#' || !inFlow && (c.column : Int) < indent then (text, lineEnded, c)
          else plainBody inFlow indent bound text gap lineEnded c

end MediaTiers.Yaml
