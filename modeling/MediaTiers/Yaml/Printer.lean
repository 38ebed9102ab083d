import MediaTiers.Value.Access
import MediaTiers.Value.Time
import MediaTiers.Yaml.Node
import MediaTiers.Yaml.Page
import MediaTiers.Yaml.Parser

/-! Documents in writing: mappings and sequences as blocks, two columns deeper at each level, lists
under a key at the key's own column. Anchors are numbered in the order in which they are first referred
to, and what is not referred to has none. -/
namespace MediaTiers.Yaml

inductive Place where
  | root
  | item
  | value
  | key
  deriving DecidableEq, Repr

def anchorText? (marks : List Nat) (mark : Nat) : Option String :=
  (marks.idxOf? mark).map fun n => "id" ++ padded 3 (n + 1)

def anchorLength (marks : List Nat) (mark : Nat) : Nat :=
  ((anchorText? marks mark).map (·.length)).getD 0

/-- A key is written before a colon if it is short and fits on one line; other keys get a mark of
their own. `before` is the length of its anchor. -/
def isShortKey (marks : List Nat) (before : Nat) : Node → Bool
  | .scalar tag s =>
    let a := analyze s.toList
    before + tag.shorthand.length + s.length < 128 && !a.empty && !a.multiline
  | .sequence _ items => items.isEmpty
  | .mapping _ entries => entries.isEmpty
  | .anchored mark n => isShortKey marks (before + anchorLength marks mark) n
  | .alias mark => anchorLength marks mark < 128

def deeper (depth : Option Nat) : Nat :=
  match depth with
  | none => 0
  | some d => d + 2

def scalarDepth (depth : Option Nat) : Nat :=
  depth.getD 0 + 2

/-- A tag is written where the form of the node does not tell it. -/
def writeTag (tag : Tag) (p : Page) : Page :=
  p.indicator tag.shorthand true false false

def writeAnchor (sign : String) (marks : List Nat) (mark : Nat) (p : Page) : Page :=
  match anchorText? marks mark with
  | some name => p.indicator (sign ++ name) true false false
  | none => p

def writeScalar (tag : Tag) (s : String) (depth : Option Nat) (asKey : Bool) (p : Page) : Page :=
  let style := chooseStyle tag s asKey
  let p := if style == .plain || tag == .str then p else writeTag tag p
  p.scalar style (scalarDepth depth) (!asKey) s.toList

def writeEmpty (left right : String) (p : Page) : Page :=
  (p.indicator left true true false).indicator right false false false

mutual

def writeNode (marks : List Nat) (place : Place) (depth : Option Nat) : Node → Page → Page
  | .scalar tag s, p => writeScalar tag s depth (place == .key) p
  | .sequence tag items, p =>
    let p := if tag == .seq then p else writeTag tag p
    if items.isEmpty then writeEmpty "[" "]" p
    else
      let atKey := (place == .value || place == .key) && !p.indented
      writeItems marks (if atKey then depth.getD 0 else deeper depth) items p
  | .mapping tag entries, p =>
    let p := if tag == .map then p else writeTag tag p
    if entries.isEmpty then writeEmpty "\x7b" "\x7d" p
    else writeEntries marks (deeper depth) entries p
  | .anchored mark n, p => writeNode marks place depth n (writeAnchor "&" marks mark p)
  | .alias mark, p => writeAnchor "*" marks mark p

def writeItems (marks : List Nat) (depth : Nat) : List Node → Page → Page
  | [], p => p
  | n :: ns, p =>
    let p := (p.indent depth).indicator "-" true false true
    writeItems marks depth ns (writeNode marks .item (some depth) n p)

def writeEntries (marks : List Nat) (depth : Nat) : List (Node × Node) → Page → Page
  | [], p => p
  | (k, v) :: es, p =>
    let p := p.indent depth
    let p :=
      if isShortKey marks 0 k then
        (writeNode marks .key (some depth) k p).indicator ":" false false false
      else
        let p := writeNode marks .value (some depth) k (p.indicator "?" true false true)
        (p.indent depth).indicator ":" true false true
    writeEntries marks depth es (writeNode marks .value (some depth) v p)

end

def write (v : Value) : Except Failure String := do
  let n ← Node.ofDocument v
  return ((writeNode n.aliases.eraseDups .root none n .blank).indent 0).text

def format : DocumentFormat :=
  ⟨read, write⟩

end MediaTiers.Yaml
