import MediaTiers.Yaml.Tag

/-! The nodes of a document, by number. Collections name their parts by number as well, so that one node
can stand in several places and even inside itself. -/
namespace MediaTiers.Yaml

inductive Shape where
  | scalar (text : String)
  | sequence (items : List Nat)
  | mapping (entries : List (Nat × Nat))
  deriving DecidableEq, Repr

structure Vertex where
  tag : Tag
  shape : Shape
  deriving DecidableEq, Repr

def Vertex.empty : Vertex :=
  ⟨.null, .scalar ""⟩

instance : Inhabited Vertex := ⟨.empty⟩

abbrev Graph := Array Vertex

namespace Graph

def tag (g : Graph) (i : Nat) : Tag :=
  (g.getD i .empty).tag

def shape (g : Graph) (i : Nat) : Shape :=
  (g.getD i .empty).shape

def setTag (g : Graph) (i : Nat) (tag : Tag) : Graph :=
  g.modify i ({ · with tag })

def setShape (g : Graph) (i : Nat) (shape : Shape) : Graph :=
  g.modify i ({ · with shape })

def entries (g : Graph) (i : Nat) : List (Nat × Nat) :=
  match g.shape i with
  | .mapping entries => entries
  | _ => []

def entryCount (g : Graph) : Nat :=
  (List.range g.size).foldl (fun n i => n + (g.entries i).length) 0

end Graph
end MediaTiers.Yaml
