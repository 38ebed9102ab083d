import MediaTiers.Text.Quoted
import MediaTiers.Yaml.Style

/-! A page being written: the text so far, the column, and what stands right before the column.
Scalars are written on it in their four forms, long ones being broken at spaces. -/
namespace MediaTiers.Yaml

/-- `spaced` says that white space stands before the column, `indented` that nothing but indentation
and list marks stand on the line. -/
structure Page where
  reversed : List Char
  column : Nat
  spaced : Bool
  indented : Bool

namespace Page

def width : Nat := 80

def blank : Page :=
  ⟨[], 0, true, true⟩

def text (p : Page) : String :=
  String.ofList p.reversed.reverse

def put (cs : List Char) (p : Page) : Page :=
  { p with reversed := cs.reverse ++ p.reversed, column := p.column + cs.length }

def indicator (mark : String) (needsSpace : Bool) (spaced : Bool) (keepsIndent : Bool)
    (p : Page) : Page :=
  let p' := p.put (if p.spaced || !needsSpace then mark.toList else ' ' :: mark.toList)
  { p' with spaced, indented := p.indented && keepsIndent }

def lineBreak (c : Char) (p : Page) : Page :=
  ⟨c :: p.reversed, 0, true, true⟩

def indent (depth : Nat) (p : Page) : Page :=
  let p :=
    if !p.indented || p.column > depth || p.column == depth && !p.spaced then p.lineBreak '\n' else p
  if p.column < depth then { p.put (List.replicate (depth - p.column) ' ') with spaced := true } else p

def inked (p : Page) : Page :=
  { p with spaced := false, indented := false }

/-- An unquoted scalar. A single space past the width becomes a line break where `split` allows. -/
def plainBody (depth : Nat) (split : Bool) : List (List Char) → Page → Page
  | [], p => p
  | [' '] :: runs, p =>
    plainBody depth split runs
      (if p.column > width && split then (p.indent depth).inked else p.put [' '])
  | run :: runs, p => plainBody depth split runs (p.put run)

def runsOf (cs : List Char) : List (List Char) :=
  cs.splitBy fun a b => (a == ' ') == (b == ' ') && isBreak a == isBreak b

def plain (depth : Nat) (split : Bool) (cs : List Char) (p : Page) : Page :=
  if cs.isEmpty then p
  else plainBody depth split (runsOf cs) (if p.spaced then p else p.put [' ']).inked

/-- Breaks inside single quotes: the first one is written twice. -/
def breaks (depth : Nat) (run : List Char) (p : Page) : Page :=
  let p := if run.head? == some '\n' then p.lineBreak '\n' else p
  (run.foldl (fun p c => p.lineBreak c) p).indent depth

def doubledQuotes (cs : List Char) : List Char :=
  cs.flatMap fun c => if c == '\'' then ['\'', '\''] else [c]

def singleBody (depth : Nat) (split : Bool) : (first : Bool) → List (List Char) → Page → Page
  | _, [], p => p
  | first, run :: runs, p =>
    let p :=
      if run == [' '] && p.column > width && split && !first && !runs.isEmpty then p.indent depth
      else if run.any isBreak then p.breaks depth run
      else p.put (doubledQuotes run)
    singleBody depth split false runs p

def single (depth : Nat) (split : Bool) (cs : List Char) (p : Page) : Page :=
  (singleBody depth split true (runsOf cs) (p.indicator "'" true false false)).indicator "'" false
    false false

def escapeMark? (c : Char) : Option Char :=
  [('\x00', '0'), ('\x07', 'a'), ('\x08', 'b'), ('\t', 't'), ('\n', 'n'), ('\x0b', 'v'),
   ('\x0c', 'f'), ('\r', 'r'), ('\x1b', 'e'), ('"', '"'), ('\\', '\\'), ('\x85', 'N'),
   ('\xa0', '_'), ('\u2028', 'L'), ('\u2029', 'P')].lookup c

def upperHex (count n : Nat) : List Char :=
  (Text.hexDigits count n).map Char.toUpper

def escaped (c : Char) : List Char :=
  match escapeMark? c with
  | some mark => ['\\', mark]
  | none =>
    if c.toNat < 0x100 then '\\' :: 'x' :: upperHex 2 c.toNat
    else if c.toNat < 0x10000 then '\\' :: 'u' :: upperHex 4 c.toNat
    else '\\' :: 'U' :: upperHex 8 c.toNat

def needsEscape (c : Char) : Bool :=
  c == '"' || c == '\\' || !isPlainAscii c

/-- The inside of double quotes. `pending` holds the characters not yet written, in reverse. Past
the width the line is broken, after a backslash, before a space or after an escape, except at the
first and the last character. -/
def doubleBody (depth : Nat) (split : Bool) :
    (first : Bool) → (pending : List Char) → List Char → Page → Page
  | _, pending, [], p => p.put pending.reverse
  | first, pending, c :: cs, p =>
    let special := needsEscape c
    let p := if special then (p.put pending.reverse).put (escaped c) else p
    let pending := if special then [] else pending
    if !first && !cs.isEmpty && (c == ' ' || special || pending.isEmpty)
        && p.column + pending.length - (if special then 1 else 0) > width && split then
      let p := ((p.put (pending.reverse ++ ['\\'])).indent depth).inked
      let upcoming := if special then cs.head? else some c
      let p := if upcoming == some ' ' then p.put ['\\'] else p
      doubleBody depth split false (if special then [] else [c]) cs p
    else doubleBody depth split false (if special then [] else c :: pending) cs p

def double (depth : Nat) (split : Bool) (cs : List Char) (p : Page) : Page :=
  (doubleBody depth split true [] cs (p.indicator "\"" true false false)).indicator "\"" false
    false false

def literalBody (depth : Nat) : List (List Char) → Page → Page
  | [], p => p
  | run :: runs, p =>
    let p :=
      if run.any isBreak then
        let p := run.foldl (fun p c => p.lineBreak c) p
        if runs.isEmpty then p else p.indent depth
      else
        let p := { p with reversed := run.reverse ++ p.reversed }
        if runs.isEmpty then p.lineBreak '\n' else p
    literalBody depth runs p

def literal (depth : Nat) (cs : List Char) (p : Page) : Page :=
  literalBody depth (runsOf cs) (((p.indicator "|" true false false).lineBreak '\n').indent depth)

def scalar (style : Style) (depth : Nat) (split : Bool) (cs : List Char) (p : Page) : Page :=
  match style with
  | .plain => p.plain depth split cs
  | .single => p.single depth split cs
  | .double => p.double depth split cs
  | .literal => p.literal depth cs

end Page
end MediaTiers.Yaml
