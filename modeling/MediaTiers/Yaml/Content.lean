import MediaTiers.Yaml.Graph
import MediaTiers.Yaml.Scalar

/-! The values of document nodes. Scalars get their values at once, while a collection is first put down
empty and waits for its turn: collections are filled in the order in which they were met. Before a
mapping is filled, it takes over the entries of the mappings that it is merged with. -/
namespace MediaTiers.Yaml

/-- The value of a node, as far as it is known; collections name their parts by the numbers of nodes. -/
inductive Cell where
  | atom (v : Value)
  | list (items : List Nat)
  | pairs (items : List (Nat × Nat))
  | set (members : List Nat)
  | map (entries : List (Nat × Nat))
  deriving Inhabited

def Cell.parts : Cell → List Nat
  | .atom _ => []
  | .list items | .set items => items
  | .pairs items | .map items => items.flatMap fun e => [e.1, e.2]

/-- The nodes with the values known so far, and the collections in the order in which they are filled. -/
structure Assembly where
  graph : Graph
  cells : Array (Option Cell)
  waiting : Array Nat

abbrev Assembling := StateT Assembly (Except Failure)

namespace Assembly

def start (g : Graph) : Assembly :=
  ⟨g, Array.replicate g.size none, #[]⟩

def cell? (a : Assembly) (i : Nat) : Option Cell :=
  (a.cells[i]?).join

def put (a : Assembly) (i : Nat) (c : Cell) : Assembly :=
  { a with cells := a.cells.setIfInBounds i (some c) }

/-- The value of a node that is no collection; only such values can be keys. -/
def atom? (a : Assembly) (i : Nat) : Option Value :=
  match a.cell? i with
  | some (.atom v) => some v
  | _ => none

def putEntry (a : Assembly) (k v : Nat) : List (Nat × Nat) → List (Nat × Nat)
  | [] => [(k, v)]
  | (j, w) :: es =>
    let equal := match a.atom? j, a.atom? k with
      | some x, some y => x.same y
      | _, _ => false
    if equal then (j, v) :: es else (j, w) :: a.putEntry k v es

end Assembly

/-- The text of a scalar. A mapping stands for the scalar under its value key. -/
def scalarText (g : Graph) : (bound : Nat) → Nat → Except Failure String
  | 0, _ => .error .endless
  | bound + 1, i => match g.shape i with
    | .scalar text => .ok text
    | .sequence _ => .error .notYaml
    | .mapping entries => match entries.find? fun e => g.tag e.1 == .value with
      | some (_, v) => scalarText g bound v
      | none => .error .notYaml

/-- Values of which it can show that they are met again, although they hold no others. -/
def keepsMark : Value → Bool
  | .day _ | .moment _ | .float .nan => true
  | _ => false

def atomValue (g : Graph) (i : Nat) : Except Failure Value := do
  let s ← scalarText g (g.size + 1) i
  if g.tag i == .timestamp && (g.shape i matches .mapping _) then throw .wrongOperand
  let v ← scalarValue (g.tag i) s
  return if keepsMark v then .shared (i + 1) v else v

def emptyCell? : Tag → Option Cell
  | .seq => some (.list [])
  | .omap | .pairs => some (.pairs [])
  | .set => some (.set [])
  | .map => some (.map [])
  | _ => none

def isScalarTag : Tag → Bool
  | .null | .bool | .int | .float | .binary | .timestamp | .str => true
  | _ => false

namespace Assembling

def build (i : Nat) : Assembling Unit := do
  let a ← get
  if (a.cell? i).isSome then return
  match emptyCell? (a.graph.tag i) with
  | some c => set { a.put i c with waiting := a.waiting.push i }
  | none =>
    if !isScalarTag (a.graph.tag i) then throw .notYaml
    let v ← atomValue a.graph i
    set (a.put i (.atom v))

def setEntries (i : Nat) (entries : List (Nat × Nat)) : Assembling Unit :=
  modify fun a => { a with graph := a.graph.setShape i (.mapping entries) }

def prepend (merged : List (Nat × Nat)) (i : Nat) : Assembling Unit := do
  if !merged.isEmpty then setEntries i (merged ++ (← get).graph.entries i)

def nameKeys (i : Nat) : Assembling Unit :=
  modify fun a =>
    let keys := ((a.graph.entries i).map (·.1)).filter fun k => a.graph.tag k == .value
    { a with graph := keys.foldl (fun g k => g.setTag k .str) a.graph }

/-- Takes the merge entries out of a mapping, one after another, and gives the entries that they stand
for: those of a mapping, or of a row of mappings with the last of them first. The mappings are freed of
their own merge entries before. Every step takes an entry out, so the number of entries bounds them. -/
def merged : (bound : Nat) → Nat → Assembling (List (Nat × Nat))
  | 0, _ => throw .endless
  | bound + 1, i => do
    nameKeys i
    let g := (← get).graph
    let entriesOf (j : Nat) : Assembling (List (Nat × Nat)) := do
      if !((← get).graph.shape j matches .mapping _) then throw .notYaml
      prepend (← merged bound j) j
      return (← get).graph.entries j
    match (g.entries i).findIdx? fun e => g.tag e.1 == .merge with
    | none => return []
    | some place =>
      let value := ((g.entries i).map (·.2)).getD place 0
      setEntries i ((g.entries i).eraseIdx place)
      let taken ← match g.shape value with
        | .mapping _ => entriesOf value
        | .sequence items => do pure (← items.mapM entriesOf).reverse.flatten
        | .scalar _ => throw .notYaml
      let rest ← merged bound i
      return taken ++ rest

def flatten (i : Nat) : Assembling Unit := do
  let bound := (← get).graph.entryCount + 1
  prepend (← merged bound i) i

def buildEntries : List (Nat × Nat) → (built : List (Nat × Nat)) → Assembling (List (Nat × Nat))
  | [], built => return built
  | (k, v) :: es, built => do
    build k
    if ((← get).atom? k).isNone then throw .notYaml
    build v
    buildEntries es ((← get).putEntry k v built)

def buildPairs : List Nat → Assembling (List (Nat × Nat))
  | [] => return []
  | i :: is => do
    match (← get).graph.entries i with
    | [(k, v)] =>
      build k
      build v
      let rest ← buildPairs is
      return (k, v) :: rest
    | _ => throw .notYaml

def mappingEntries (i : Nat) : Assembling (List (Nat × Nat)) := do
  if !((← get).graph.shape i matches .mapping _) then throw .notYaml
  flatten i
  buildEntries ((← get).graph.entries i) []

def sequenceItems (i : Nat) : Assembling (List Nat) := do
  match (← get).graph.shape i with
  | .sequence items => return items
  | _ => throw .notYaml

def fill (i : Nat) : Assembling Unit := do
  let filled ← match (← get).cell? i with
    | some (.list _) => do
      let items ← sequenceItems i
      items.forM build
      pure (.list items)
    | some (.pairs _) => .pairs <$> (do buildPairs (← sequenceItems i))
    | some (.set _) => do pure (.set ((← mappingEntries i).map (·.1)))
    | some (.map _) => .map <$> mappingEntries i
    | _ => throw .notYaml
  modify (·.put i filled)

/-- Fills the collections from a place in the row on. Every node waits once at most. -/
def fillFrom : (bound : Nat) → (next : Nat) → Assembling Unit
  | 0, _ => return
  | bound + 1, next => do
    match (← get).waiting[next]? with
    | none => return
    | some i =>
      fill i
      fillFrom bound (next + 1)

def buildAll (root : Nat) : Assembling Unit := do
  build root
  fillFrom ((← get).graph.size + 1) 0

end Assembling

def useCounts (cells : Array (Option Cell)) (root : Nat) : Array Nat :=
  let parts := cells.toList.flatMap fun c? => (c?.map (·.parts)).getD []
  (root :: parts).foldl (fun counts i => counts.modify i (· + 1)) (Array.replicate cells.size 0)

structure Spelled where
  value : Value
  loose : List Nat

/-- A step of spelling out values; the state holds those that refer to nothing around them. -/
abbrev Spelling := StateM (Array (Option Value))

/-- The value of a node, spelled out. A node that is used more than once, or inside of such a node, keeps
a mark: its number and one. `within` says that it is inside, and `outer` are the collections around it.
No collection is entered inside itself, so the number of nodes bounds the depth. -/
def spell (cells : Array (Option Cell)) (counts : Array Nat) :
    (bound : Nat) → (within : Bool) → (outer : List Nat) → Nat → Spelling Spelled
  | 0, _, _, _ => return ⟨.null, []⟩
  | bound + 1, within, outer, i => do
    if outer.contains i then return ⟨.again (i + 1), [i]⟩
    if let some v := ((← get)[i]?).join then return ⟨v, []⟩
    let repeated := within || counts.getD i 0 > 1
    let part := spell cells counts bound repeated (i :: outer)
    let marked (mark : Nat) (v : Value) (loose : List Nat) : Value :=
      if !repeated then v else if loose.isEmpty then .shared mark v else .cyclic mark v
    let whole (v : Value) (loose : List Nat) : Spelling Spelled := do
      let value := marked (i + 1) v loose
      let loose := loose.filter (· != i)
      if loose.isEmpty then modify (·.setIfInBounds i (some value))
      return ⟨value, loose⟩
    let pair (n : Nat) (e : Nat × Nat) : Spelling Spelled := do
      let k ← part e.1
      let v ← part e.2
      let loose := k.loose ++ v.loose
      return ⟨marked ((n + 1) * (cells.size + 1) + i + 1) (.tuple [k.value, v.value]) loose, loose⟩
    match (cells[i]?).join with
    | none => return ⟨.null, []⟩
    | some (.atom v) =>
      let kept := repeated || v.mark? == Value.nan.mark?
      return ⟨if kept then v else v.content, []⟩
    | some (.list items) =>
      let items ← items.mapM part
      whole (.list (items.map (·.value))) (items.flatMap (·.loose))
    | some (.set members) =>
      let members ← members.mapM part
      whole (.set (members.map (·.value))) []
    | some (.pairs items) =>
      let items ← (items.zipIdx.mapM fun (e, n) => pair n e)
      whole (.list (items.map (·.value))) (items.flatMap (·.loose))
    | some (.map entries) =>
      let entries ← entries.mapM fun e => do return (← part e.1, ← part e.2)
      whole (.map (entries.map fun e => (e.1.value, e.2.value))) (entries.flatMap (·.2.loose))

def Graph.toValue (g : Graph) (root : Nat) : Except Failure Value := do
  let (_, a) ← (Assembling.buildAll root).run (.start g)
  let counts := useCounts a.cells root
  let spelling := spell a.cells counts (a.cells.size + 1) false [] root
  return (spelling.run (Array.replicate a.cells.size none)).1.value

end MediaTiers.Yaml
