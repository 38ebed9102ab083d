import MediaTiers.Binary64.Basic
import MediaTiers.Value.Time

/-! Document values: what a configuration or a stylesheet document can hold before it is read as one.
Maps keep the order in which their keys were first written. A value that can be met in several places
carries a mark. Where such a value is inside itself, its mark alone stands for the whole of it. -/
namespace MediaTiers

inductive Value where
  | null
  | bool (b : Bool)
  | int (n : Int)
  | float (x : Binary64)
  | text (s : String)
  | bytes (bs : List UInt8)
  | day (d : Day)
  | moment (m : Moment)
  | list (items : List Value)
  | tuple (items : List Value)
  | set (items : List Value)
  | map (entries : List (Value × Value))
  /-- A value under its mark; wherever the mark occurs, it is the same value that is met. Nothing in it
  refers to a value around it. -/
  | shared (mark : Nat) (v : Value)
  /-- A value under its mark that refers to itself or to values around it. -/
  | cyclic (mark : Nat) (v : Value)
  /-- Inside the cyclic value of that mark: that value again. -/
  | again (mark : Nat)
  deriving Repr, Inhabited

namespace Value

def mark? : Value → Option Nat
  | .shared mark _ | .cyclic mark _ | .again mark => some mark
  | _ => none

def content : Value → Value
  | .shared _ v | .cyclic _ v => v
  | v => v

mutual

/-- Puts a value in for its mark, wherever the mark stands for it. -/
def unfold (mark : Nat) (self : Value) : Value → Value
  | .again m => if m = mark then self else .again m
  | .cyclic m v => if m = mark then .cyclic m v else .cyclic m (unfold mark self v)
  | .list items => .list (unfoldAll mark self items)
  | .tuple items => .tuple (unfoldAll mark self items)
  | .set items => .set (unfoldAll mark self items)
  | .map entries => .map (unfoldEntries mark self entries)
  | v => v

def unfoldAll (mark : Nat) (self : Value) : List Value → List Value
  | [] => []
  | v :: vs => unfold mark self v :: unfoldAll mark self vs

def unfoldEntries (mark : Nat) (self : Value) : List (Value × Value) → List (Value × Value)
  | [] => []
  | (k, v) :: es => (unfold mark self k, unfold mark self v) :: unfoldEntries mark self es

end

/-- A value with its kind on the outside: a cyclic one is unfolded once. -/
def bare : Value → Value
  | .shared _ v => v
  | .cyclic mark v => unfold mark (.cyclic mark v) v
  | v => v

mutual

def size : Value → Nat
  | .list items | .tuple items | .set items => 1 + sizeAll items
  | .map entries => 1 + sizeEntries entries
  | .shared _ v | .cyclic _ v => 1 + size v
  | _ => 1

def sizeAll : List Value → Nat
  | [] => 0
  | v :: vs => size v + sizeAll vs

def sizeEntries : List (Value × Value) → Nat
  | [] => 0
  | (k, v) :: es => size k + size v + sizeEntries es

end

def isEmpty : Value → Bool
  | .null => true
  | .bool b => !b
  | .int n => n == 0
  | .float x => x.isZero
  | .text s => s.toList.isEmpty
  | .bytes bs => bs.isEmpty
  | .day _ | .moment _ | .again _ => false
  | .list items | .tuple items | .set items => items.isEmpty
  | .map entries => entries.isEmpty
  | .shared _ v | .cyclic _ v => v.isEmpty

def isNull : Value → Bool
  | .null => true
  | _ => false

/-- Truth values count as the numbers zero and one. -/
def asInt? : Value → Option Int
  | .bool b => some (if b then 1 else 0)
  | .int n => some n
  | _ => none

def sameAtom (x y : Value) : Bool :=
  match x, y with
  | .null, .null => true
  | .float a, .float b => a.equal b
  | .text a, .text b => a == b
  | .bytes a, .bytes b => a == b
  | .day a, .day b => a == b
  | .moment a, .moment b => a.zone.isSome == b.zone.isSome && a.instant == b.instant
  | .float a, y => y.asInt?.any a.equalsInt
  | x, .float b => x.asInt?.any b.equalsInt
  | x, y => match x.asInt?, y.asInt? with
    | some a, some b => a == b
    | _, _ => false

mutual

/-- Equality by content: numbers by value, moments by what they point to, lists in order, maps and sets
in any order. One and the same value equals itself whatever it holds. -/
def same : Value → Value → Bool
  | .shared mark x, y | .cyclic mark x, y => y.mark? == some mark || same x y
  | .again mark, y => y.mark? == some mark
  | .list xs, y => match y.content with
    | .list ys => sameItems xs ys
    | _ => false
  | .tuple xs, y => match y.content with
    | .tuple ys => sameItems xs ys
    | _ => false
  | .set xs, y => match y.content with
    | .set ys => xs.length == ys.length && allIn xs ys
    | _ => false
  | .map es, y => match y.content with
    | .map fs => es.length == fs.length && allEntriesIn es fs
    | _ => false
  | x, y => sameAtom x y.content

def sameItems : List Value → List Value → Bool
  | [], [] => true
  | x :: xs, y :: ys => same x y && sameItems xs ys
  | _, _ => false

def allIn : List Value → List Value → Bool
  | [], _ => true
  | x :: xs, ys => ys.any (same x) && allIn xs ys

def allEntriesIn : List (Value × Value) → List (Value × Value) → Bool
  | [], _ => true
  | (k, v) :: es, fs => fs.any (fun f => same k f.1 && same v f.2) && allEntriesIn es fs

end

/-- Writes an entry of a map: a key that is there keeps its place and its spelling. -/
def insertEntry (key value : Value) : List (Value × Value) → List (Value × Value)
  | [] => [(key, value)]
  | (k, v) :: es => if same k key then (k, value) :: es else (k, v) :: insertEntry key value es

def lookup? (key : String) : List (Value × Value) → Option Value
  | [] => none
  | (.text k, v) :: es => if k = key then some v else lookup? key es
  | _ :: es => lookup? key es

/-- The NaN that documents name: wherever they do, it is one and the same value. -/
def nan : Value :=
  .shared 0 (.float .nan)

def record (fields : List (String × Value)) : Value :=
  .map (fields.map fun f => (.text f.1, f.2))

end Value
end MediaTiers
