/-! Maps from names that keep the order in which the names were first written. -/
namespace MediaTiers

/-- Entries in the order of their first appearance; look-up takes the first entry of a name. -/
abbrev OrderedMap (β : Type) := List (String × β)

namespace OrderedMap

variable {β : Type}

/-- Writes an entry: a name that is there keeps its place, a new one goes to the end. -/
def put (key : String) (value : β) : OrderedMap β → OrderedMap β
  | [] => [(key, value)]
  | (k, v) :: entries => if k = key then (key, value) :: entries else (k, v) :: put key value entries

def putAll (entries : List (String × β)) (m : OrderedMap β) : OrderedMap β :=
  entries.foldl (fun m entry => put entry.1 entry.2 m) m

def ofList (entries : List (String × β)) : OrderedMap β :=
  putAll entries []

end OrderedMap
end MediaTiers
