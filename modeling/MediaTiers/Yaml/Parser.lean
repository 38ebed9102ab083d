import MediaTiers.Yaml.Content
import MediaTiers.Yaml.Token

/-! Nodes from tokens. An alias stands for the node that its anchor was put on, also inside that node.
Tokens are looked at one by one, so that of several faults in a text the first one counts. -/
namespace MediaTiers.Yaml

/-- The text being read, the nodes and anchors so far, and what the tag handles stand for. `bound` is a
bound on the tokens that can still be fetched. -/
structure Feed where
  layout : Layout
  bound : Nat
  graph : Graph
  anchors : List (String × Nat)
  handles : List (String × String)

namespace Feed

def defaultHandles : List (String × String) :=
  [("!", "!"), ("!!", Tag.family)]

def ofText (cs : List Char) : Feed :=
  ⟨.start cs, cs.length + 2, #[], [], defaultHandles⟩

end Feed

abbrev Composing := StateT Feed (Except Failure)

namespace Composing

def peek : Composing Token := do
  let f ← get
  let layout ← f.layout.settle f.bound
  set { f with layout }
  return layout.next

def skip : Composing Unit :=
  modify fun f => { f with layout.taken := f.layout.taken + 1 }

def nextIsIn (ts : List Token) : Composing Bool :=
  return ts.contains (← peek)

def add (anchor : Option String) (v : Vertex) : Composing Nat := do
  let f ← get
  let i := f.graph.size
  if anchor.any fun a => (f.anchors.lookup a).isSome then throw .notYaml
  let anchors := (anchor.map fun a => (a, i)).toList ++ f.anchors
  set { f with graph := f.graph.push v, anchors }
  return i

def fill (i : Nat) (shape : Shape) : Composing Unit :=
  modify fun f => { f with graph := f.graph.setShape i shape }

def empty : Composing Nat :=
  add none .empty

/-- A sequence is there before its elements are read, so that they can refer to it. -/
def sequence (anchor : Option String) (tag : Tag) (items : Composing (List Nat)) : Composing Nat := do
  let i ← add anchor ⟨tag, .sequence []⟩
  fill i (.sequence (← items))
  return i

def mapping (anchor : Option String) (tag : Tag) (entries : Composing (List (Nat × Nat))) :
    Composing Nat := do
  let i ← add anchor ⟨tag, .mapping []⟩
  fill i (.mapping (← entries))
  return i

def aliased (name : String) : Composing Nat := do
  match (← get).anchors.lookup name with
  | some i => return i
  | none => throw .notYaml

def properties : Composing (Option String × Option RawTag) := do
  match ← peek with
  | .anchor a =>
    skip
    match ← peek with
    | .tag t => skip; return (some a, some t)
    | _ => return (some a, none)
  | .tag t =>
    skip
    match ← peek with
    | .anchor a => skip; return (some a, some t)
    | _ => return (none, some t)
  | _ => return (none, none)

def tagName : Option RawTag → Composing (Option String)
  | none => return none
  | some ⟨none, suffix⟩ => return some suffix
  | some ⟨some handle, suffix⟩ => do
    match (← get).handles.lookup handle with
    | some family => return some (family ++ suffix)
    | none => throw .notYaml

/-- Whether a flow collection ends here, going over its end, or else over the comma in front of the next
element. A comma may also stand in front of the end. -/
def flowEnds (last : Token) (first : Bool) : Composing Bool := do
  if ← nextIsIn [last] then
    skip
    return true
  if first then return false
  if !(← nextIsIn [.flowEntry]) then throw .notYaml
  skip
  if ← nextIsIn [last] then
    skip
    return true
  return false

end Composing

/-- The tag of a collection; a lone mark says no more than no tag at all. -/
def collectionTag (name : Option String) (default : Tag) : Tag :=
  match name with
  | none | some "!" => default
  | some uri => .ofUri uri

def scalarTag (name : Option String) (text : String) (plain : Bool) : Tag :=
  match name with
  | none => if plain then .ofPlain text else .str
  | some "!" => .ofPlain text
  | some uri => .ofUri uri

open Composing

mutual

/-- A node. Block collections only count where `block` says so, and with `indentless` a sequence may
start without being indented. -/
def node (block indentless : Bool) : (bound : Nat) → Composing Nat
  | 0 => throw .notYaml
  | bound + 1 => do
    if let .alias name := ← peek then
      skip
      aliased name
    else
      let (anchor, raw) ← properties
      let name ← tagName raw
      content block indentless anchor name bound

/-- What follows the properties of a node. A node may be left out after an anchor or a tag. -/
def content (block indentless : Bool) (anchor name : Option String) : (bound : Nat) → Composing Nat
  | 0 => throw .notYaml
  | bound + 1 => do
    let seq := Composing.sequence anchor (collectionTag name .seq)
    let map := Composing.mapping anchor (collectionTag name .map)
    let missing : Composing Nat :=
      if anchor.isNone && name.isNone then throw .notYaml
      else add anchor ⟨scalarTag name "" true, .scalar ""⟩
    match ← peek with
    | .scalar text plain => skip; add anchor ⟨scalarTag name text plain, .scalar text⟩
    | .flowSequenceStart => seq do skip; flowItems true bound
    | .flowMappingStart => map do skip; flowEntries true bound
    | .blockEntry => if indentless then seq (blockItems false bound) else missing
    | .blockSequenceStart => if block then seq do skip; blockItems true bound else missing
    | .blockMappingStart => if block then map do skip; blockEntries bound else missing
    | _ => missing

def nodeUnless (stops : List Token) (block indentless : Bool) : (bound : Nat) → Composing Nat
  | 0 => throw .notYaml
  | bound + 1 => do
    if ← nextIsIn stops then empty else node block indentless bound

def blockItems (closed : Bool) : (bound : Nat) → Composing (List Nat)
  | 0 => throw .notYaml
  | bound + 1 => do
    match ← peek with
    | .blockEntry =>
      skip
      let stops : List Token :=
        if closed then [.blockEntry, .blockEnd] else [.blockEntry, .key, .value, .blockEnd]
      let n ← nodeUnless stops true false bound
      let ns ← blockItems closed bound
      return n :: ns
    | .blockEnd =>
      if closed then skip
      return []
    | _ => if closed then throw .notYaml else return []

def blockEntries : (bound : Nat) → Composing (List (Nat × Nat))
  | 0 => throw .notYaml
  | bound + 1 => do
    match ← peek with
    | .key =>
      skip
      let k ← nodeUnless [.key, .value, .blockEnd] true true bound
      let v ← valueOf [.key, .value, .blockEnd] true bound
      let es ← blockEntries bound
      return (k, v) :: es
    | .blockEnd => skip; return []
    | _ => throw .notYaml

def valueOf (stops : List Token) (block : Bool) : (bound : Nat) → Composing Nat
  | 0 => throw .notYaml
  | bound + 1 => do
    if ← nextIsIn [.value] then
      skip
      nodeUnless stops block block bound
    else empty

/-- The elements of a flow sequence up to its end; a pair counts as a mapping of its own. -/
def flowItems (first : Bool) : (bound : Nat) → Composing (List Nat)
  | 0 => throw .notYaml
  | bound + 1 => do
    if ← flowEnds .flowSequenceEnd first then return []
    let stops : List Token := [.flowEntry, .flowSequenceEnd]
    if ← nextIsIn [.key] then
      let pair ← Composing.mapping none .map do
        skip
        let k ← nodeUnless (.value :: stops) false false bound
        let v ← valueOf stops false bound
        return [(k, v)]
      let ns ← flowItems false bound
      return pair :: ns
    else
      let n ← node false false bound
      let ns ← flowItems false bound
      return n :: ns

def flowEntries (first : Bool) : (bound : Nat) → Composing (List (Nat × Nat))
  | 0 => throw .notYaml
  | bound + 1 => do
    if ← flowEnds .flowMappingEnd first then return []
    let stops : List Token := [.flowEntry, .flowMappingEnd]
    if ← nextIsIn [.key] then
      skip
      let k ← nodeUnless (.value :: stops) false false bound
      let v ← valueOf stops false bound
      let es ← flowEntries false bound
      return (k, v) :: es
    else
      let k ← node false false bound
      let _ ← peek
      let v ← empty
      let es ← flowEntries false bound
      return (k, v) :: es

end

/-- The directives in front of a document: what they make of the tag handles. A version other than one,
a second version and a handle given twice are refused. -/
def directives (versioned : Bool) (handles : List (String × String)) :
    (bound : Nat) → Composing (List (String × String))
  | 0 => throw .notYaml
  | bound + 1 => do
    match ← peek with
    | .directive (.version major) =>
      skip
      if versioned || major != 1 then throw .notYaml
      directives true handles bound
    | .directive (.tag handle family) =>
      skip
      if (handles.lookup handle).isSome then throw .notYaml
      directives versioned ((handle, family) :: handles) bound
    | .directive .other =>
      skip
      directives versioned handles bound
    | _ => return handles ++ Feed.defaultHandles

def documentStart (bound : Nat) : Composing Unit := do
  let handles ← directives false [] bound
  if !(← nextIsIn [.documentStart]) then throw .notYaml
  skip
  modify ({ · with handles })

def skipDocumentEnds : (bound : Nat) → Composing Unit
  | 0 => throw .notYaml
  | bound + 1 => do
    if ← nextIsIn [.documentEnd] then
      skip
      skipDocumentEnds bound

def streamEnd (bound : Nat) : Composing Unit := do
  skipDocumentEnds bound
  if !(← nextIsIn [.streamEnd]) then
    documentStart bound
    throw .notYaml

def documentContent (bound : Nat) : Composing Nat := do
  match ← peek with
  | .directive _ | .documentStart | .documentEnd | .streamEnd => empty
  | _ => node true false bound

def document (bound : Nat) : Composing (Option Nat) := do
  match ← peek with
  | .streamEnd => return none
  | .directive _ | .documentStart =>
    documentStart bound
    let root ← documentContent bound
    streamEnd bound
    return some root
  | _ =>
    let root ← node true false bound
    streamEnd bound
    return some root

/-- A bound on the nested calls for a text: a character is good for four tokens at most, and a token for
four calls. -/
def callBound (cs : List Char) : Nat :=
  16 * cs.length + 40

def graphOf (cs : List Char) : Except Failure (Option (Graph × Nat)) := do
  let (root, feed) ← (document (callBound cs)).run (.ofText cs)
  return root.map fun i => (feed.graph, i)

def isAllowed (c : Char) : Bool :=
  let n := c.toNat
  n == 0x09 || n == 0x0A || n == 0x0D || 0x20 ≤ n && n ≤ 0x7E || n == 0x85
    || 0xA0 ≤ n && n ≤ 0xFFFD || 0x10000 ≤ n

def read (text : String) : Except Failure Value := do
  let cs := text.toList
  if !cs.all isAllowed then throw .notYaml
  match ← graphOf cs with
  | none => return .null
  | some (g, root) => g.toValue root

end MediaTiers.Yaml
