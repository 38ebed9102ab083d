import MediaTiers.Failure
import MediaTiers.Yaml.Style

/-! A place in a document text: what is left to read, and where that is by line and column. -/
namespace MediaTiers.Yaml

structure Cursor where
  rest : List Char
  index : Nat
  line : Nat
  column : Nat

def isLineEnd (c : Char) : Bool :=
  c == '\r' || isBreak c

def endsLine (c? : Option Char) : Bool :=
  c?.all isLineEnd

def endsWord (c? : Option Char) : Bool :=
  c?.all fun c => c == ' ' || isLineEnd c

def isNameChar (c : Char) : Bool :=
  c.isAlphanum || c == '-' || c == '_'

namespace Cursor

def ofText (cs : List Char) : Cursor :=
  ⟨cs, 0, 0, 0⟩

def peek? (c : Cursor) : Option Char :=
  c.rest.head?

def peekAt? (n : Nat) (c : Cursor) : Option Char :=
  c.rest[n]?

/-- Goes one character on. The two characters of a line end count once, and a byte order mark takes
no column. -/
def step (c : Cursor) : Cursor :=
  match c.rest with
  | [] => c
  | ch :: rest =>
    if isBreak ch || ch == '\r' && rest.head? != some '\n' then ⟨rest, c.index + 1, c.line + 1, 0⟩
    else if ch == '\uFEFF' then { c with rest, index := c.index + 1 }
    else { c with rest, index := c.index + 1, column := c.column + 1 }

def forward : Nat → Cursor → Cursor
  | 0, c => c
  | n + 1, c => forward n c.step

def spanWhile (test : Char → Bool) (c : Cursor) : List Char × Cursor :=
  let cs := c.rest.takeWhile test
  (cs, c.forward cs.length)

def skipWhile (test : Char → Bool) (c : Cursor) : Cursor :=
  (c.spanWhile test).2

def skipSpaces (c : Cursor) : Cursor :=
  c.skipWhile (· == ' ')

/-- A line end as it counts in a scalar, and the place after it; nothing if there is none. -/
def lineEnd (c : Cursor) : List Char × Cursor :=
  match c.rest with
  | '\r' :: '\n' :: _ => (['\n'], c.forward 2)
  | '\r' :: _ | '\n' :: _ | '\x85' :: _ => (['\n'], c.step)
  | '\u2028' :: _ => (['\u2028'], c.step)
  | '\u2029' :: _ => (['\u2029'], c.step)
  | _ => ([], c)

def atMark (mark : Char) (c : Cursor) : Bool :=
  c.rest.take 3 == [mark, mark, mark] && isBoundary (c.peekAt? 3)

def atSeparator (c : Cursor) : Bool :=
  c.atMark '-' || c.atMark '.'

def skipComment (c : Cursor) : Cursor :=
  if c.peek? == some '#' then c.skipWhile (!isLineEnd ·) else c

def endLine (c : Cursor) : Except Failure Cursor :=
  let c := c.skipSpaces.skipComment
  if endsLine c.peek? then .ok c.lineEnd.2 else .error .notYaml

end Cursor
end MediaTiers.Yaml
