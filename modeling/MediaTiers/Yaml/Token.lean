import MediaTiers.Yaml.Block
import MediaTiers.Yaml.Flow

/-! Tokens of a document text. Indentation becomes explicit start and end tokens of blocks, and a
scalar turns out to be a key when a colon follows it on the same line: its key token is then put in
front of it. No more of the text is read than is needed to know the next token. -/
namespace MediaTiers.Yaml

inductive Token where
  | directive (d : Directive)
  | documentStart
  | documentEnd
  | blockSequenceStart
  | blockMappingStart
  | blockEnd
  | flowSequenceStart
  | flowSequenceEnd
  | flowMappingStart
  | flowMappingEnd
  | flowEntry
  | blockEntry
  | key
  | value
  | alias (name : String)
  | anchor (name : String)
  | tag (t : RawTag)
  | scalar (text : String) (plain : Bool)
  | streamEnd
  deriving DecidableEq, Repr

/-- A token that becomes a key if a colon follows in time; `position` is its place among the tokens.
A required one must become a key. -/
structure PendingKey where
  position : Nat
  required : Bool
  index : Nat
  line : Nat
  column : Nat

/-- The tokens so far and what is needed to go on. The first `taken` tokens have been used, and `done`
says that the text has come to its end. Pending keys are held by flow level. -/
structure Layout where
  cursor : Cursor
  tokens : Array Token
  taken : Nat
  done : Bool
  flowLevel : Nat
  indent : Int
  indents : List Int
  keyAllowed : Bool
  pending : List (Nat × PendingKey)

namespace Layout

def start (cs : List Char) : Layout :=
  ⟨.ofText cs, #[], 0, false, 0, -1, [], true, []⟩

def push (t : Token) (l : Layout) : Layout :=
  { l with tokens := l.tokens.push t }

/-- Spaces, comments and line ends before the next token. Outside of flow collections a new line may
start with a key. -/
def skipToToken : (bound : Nat) → Layout → Layout
  | 0, l => l
  | bound + 1, l =>
    let c := l.cursor.skipSpaces.skipComment
    match c.lineEnd with
    | ([], _) => { l with cursor := c }
    | (_, c) => skipToToken bound
      { l with cursor := c, keyAllowed := l.keyAllowed || l.flowLevel == 0 }

def skipMark (l : Layout) : Layout :=
  if l.cursor.index == 0 && l.cursor.peek? == some '\uFEFF' then { l with cursor := l.cursor.step }
  else l

/-- A pending key is given up at the end of its line, and after 1024 characters. -/
def isStale (c : Cursor) (k : PendingKey) : Bool :=
  k.line != c.line || c.index - k.index > 1024

def dropStale (l : Layout) : Except Failure Layout :=
  if l.pending.any fun p => isStale l.cursor p.2 && p.2.required then .error .notYaml
  else .ok { l with pending := l.pending.filter fun p => !isStale l.cursor p.2 }

def dropPending (l : Layout) : Except Failure Layout :=
  if l.pending.any fun p => p.1 == l.flowLevel && p.2.required then .error .notYaml
  else .ok { l with pending := l.pending.filter fun p => p.1 != l.flowLevel }

def savePending (l : Layout) : Except Failure Layout := do
  if !l.keyAllowed then return l
  let c := l.cursor
  let required := l.flowLevel == 0 && l.indent == c.column
  let l ← l.dropPending
  return { l with pending :=
    (l.flowLevel, ⟨l.tokens.size, required, c.index, c.line, c.column⟩) :: l.pending }

def unwindTo (column : Int) : (indents : List Int) → Layout → Layout
  | [], l => l
  | outer :: indents, l =>
    if l.indent > column then
      unwindTo column indents ({ l with indent := outer, indents }.push .blockEnd)
    else l

def unwind (column : Int) (l : Layout) : Layout :=
  if l.flowLevel > 0 then l else unwindTo column l.indents l

def openBlock (column : Nat) (l : Layout) : Bool × Layout :=
  if l.indent < column then (true, { l with indent := column, indents := l.indent :: l.indents })
  else (false, l)

def openBlockWith (t : Token) (l : Layout) : Layout :=
  match l.openBlock l.cursor.column with
  | (true, l) => l.push t
  | (false, l) => l

def take (count : Nat) (t : Token) (l : Layout) : Layout :=
  { l with cursor := l.cursor.forward count }.push t

def streamEnd (l : Layout) : Except Failure Layout := do
  let l ← (l.unwind (-1)).dropPending
  return { l with keyAllowed := false, pending := [], done := true }.push .streamEnd

def directiveLine (l : Layout) : Except Failure Layout := do
  let l ← (l.unwind (-1)).dropPending
  let (d, cursor) ← directive l.cursor
  return { l with cursor, keyAllowed := false }.push (.directive d)

def documentMark (t : Token) (l : Layout) : Except Failure Layout := do
  let l ← (l.unwind (-1)).dropPending
  return { l with keyAllowed := false }.take 3 t

def flowStart (t : Token) (l : Layout) : Except Failure Layout := do
  let l ← l.savePending
  return { l with flowLevel := l.flowLevel + 1, keyAllowed := true }.take 1 t

def flowEnd (t : Token) (l : Layout) : Except Failure Layout := do
  if l.flowLevel == 0 then throw .notYaml
  let l ← l.dropPending
  return { l with flowLevel := l.flowLevel - 1, keyAllowed := false }.take 1 t

def flowEntry (l : Layout) : Except Failure Layout := do
  let l ← l.dropPending
  return { l with keyAllowed := true }.take 1 .flowEntry

/-- An entry of a block sequence. Inside a flow collection it is left to be refused later. -/
def blockEntry (l : Layout) : Except Failure Layout := do
  if l.flowLevel == 0 && !l.keyAllowed then throw .notYaml
  let l := if l.flowLevel == 0 then l.openBlockWith .blockSequenceStart else l
  let l ← l.dropPending
  return { l with keyAllowed := true }.take 1 .blockEntry

def keyMark (l : Layout) : Except Failure Layout := do
  if l.flowLevel == 0 && !l.keyAllowed then throw .notYaml
  let l := if l.flowLevel == 0 then l.openBlockWith .blockMappingStart else l
  let l ← l.dropPending
  return { l with keyAllowed := l.flowLevel == 0 }.take 1 .key

/-- Puts the key token in front of a token that turned out to be a key, and opens a block mapping at
its column where one starts. -/
def resolveKey (k : PendingKey) (l : Layout) : Layout :=
  let l := { l with
    pending := l.pending.filter fun p => p.1 != l.flowLevel
    tokens := l.tokens.insertIdxIfInBounds k.position .key
    keyAllowed := false }
  if l.flowLevel == 0 then
    match l.openBlock k.column with
    | (true, l) => { l with tokens := l.tokens.insertIdxIfInBounds k.position .blockMappingStart }
    | (false, l) => l
  else l

def valueMark (l : Layout) : Except Failure Layout := do
  match l.pending.lookup l.flowLevel with
  | some k => return (l.resolveKey k).take 1 .value
  | none =>
    if l.flowLevel == 0 && !l.keyAllowed then throw .notYaml
    let l := if l.flowLevel == 0 then l.openBlockWith .blockMappingStart else l
    let l ← l.dropPending
    return { l with keyAllowed := l.flowLevel == 0 }.take 1 .value

def keyable (read : Cursor → Except Failure (Token × Cursor)) (l : Layout) :
    Except Failure Layout := do
  let l ← l.savePending
  let (t, cursor) ← read l.cursor
  return { l with cursor, keyAllowed := false }.push t

def block (folded : Bool) (l : Layout) : Except Failure Layout := do
  let l ← l.dropPending
  let (text, cursor) ← blockScalar folded l.indent l.cursor
  return { l with cursor, keyAllowed := true }.push (.scalar text false)

def plain (l : Layout) : Except Failure Layout := do
  let l ← l.savePending
  let c := l.cursor
  let (text, lineEnded, cursor) :=
    plainBody (l.flowLevel > 0) (l.indent + 1) (c.rest.length + 1) [] [] false c
  return { l with cursor, keyAllowed := lineEnded }.push (.scalar (String.ofList text) true)

def startsPlain (l : Layout) : Bool :=
  let c := l.cursor
  match c.peek? with
  | none => false
  | some ch =>
    !(isBoundary (some ch) || "-?:,[]\x7b\x7d#&*!|>'\"%@\x60".toList.contains ch)
      || !isBoundary (c.peekAt? 1) && (ch == '-' || l.flowLevel == 0 && (ch == '?' || ch == ':'))

def token (ch : Char) (l : Layout) : Except Failure Layout :=
  let c := l.cursor
  let inFlow := l.flowLevel > 0
  let apart := isBoundary (c.peekAt? 1)
  if ch == '%' && c.column == 0 then l.directiveLine
  else if ch == '-' && c.column == 0 && c.atMark '-' then l.documentMark .documentStart
  else if ch == '.' && c.column == 0 && c.atMark '.' then l.documentMark .documentEnd
  else if ch == '[' then l.flowStart .flowSequenceStart
  else if ch == '\x7b' then l.flowStart .flowMappingStart
  else if ch == ']' then l.flowEnd .flowSequenceEnd
  else if ch == '\x7d' then l.flowEnd .flowMappingEnd
  else if ch == ',' then l.flowEntry
  else if ch == '-' && apart then l.blockEntry
  else if ch == '?' && (inFlow || apart) then l.keyMark
  else if ch == ':' && (inFlow || apart) then l.valueMark
  else if ch == '*' then l.keyable fun c => (anchorName c).map fun (n, c) => (.alias n, c)
  else if ch == '&' then l.keyable fun c => (anchorName c).map fun (n, c) => (.anchor n, c)
  else if ch == '!' then l.keyable fun c => (rawTag c).map fun (t, c) => (.tag t, c)
  else if ch == '|' && !inFlow then l.block false
  else if ch == '>' && !inFlow then l.block true
  else if ch == '\'' then l.keyable fun c => (quotedScalar false c).map fun (s, c) => (.scalar s false, c)
  else if ch == '"' then l.keyable fun c => (quotedScalar true c).map fun (s, c) => (.scalar s false, c)
  else if l.startsPlain then l.plain
  else .error .notYaml

def fetch (l : Layout) : Except Failure Layout := do
  let l ← (l.skipMark.skipToToken (l.cursor.rest.length + 1)).dropStale
  let l := l.unwind l.cursor.column
  match l.cursor.peek? with
  | none => l.streamEnd
  | some ch => l.token ch

/-- Reads on until the next token is known: until there is one, and it cannot turn out to be a key any
more. Each token takes at least one character, so the length of the text bounds the steps. -/
def settle : (bound : Nat) → Layout → Except Failure Layout
  | 0, _ => .error .notYaml
  | bound + 1, l => do
    if l.done then return l
    if l.taken == l.tokens.size then settle bound (← l.fetch)
    else
      let l ← l.dropStale
      if l.pending.any fun p => p.2.position == l.taken then settle bound (← l.fetch) else return l

def next (l : Layout) : Token :=
  l.tokens[l.taken]?.getD .streamEnd

end Layout
end MediaTiers.Yaml
