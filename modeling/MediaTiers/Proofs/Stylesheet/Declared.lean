import MediaTiers.Proofs.Registry.Meaning
import MediaTiers.Proofs.Stylesheet.Walk

/-! What a sheet declares, wherever it stands in the tree. A walk succeeds exactly if all of it can be registered
together, and then leaves the registry that holds it. -/
namespace MediaTiers

def declaredPairs (ds : List Declaration) : List (Value × Value) :=
  (ds.filter (!·.isOther)).map (·.pair)

theorem Declaration.says_nothing (delta : Decimal) (d : Declaration) (other : d.isOther = true) :
    Meaning.of? delta d.property d.value = some .nothing := by
  rw [Meaning.of?,d.isOther_iff.mp other]

theorem filterMap_declared {β : Type} (f : Value × Value → Option β) (ds : List Declaration)
    (silent : ∀ d : Declaration, d.isOther = true → f d.pair = none) :
    (ds.map (·.pair)).filterMap f = (declaredPairs ds).filterMap f := by
  rw [declaredPairs,List.filterMap_map,List.filterMap_map,List.filterMap_filter]
  apply List.filterMap_congr
  intro d _
  cases other : d.isOther with
  | true => simpa using silent d other
  | false => simp

theorem breakpointsSaid_declared (delta : Decimal) (ds : List Declaration) :
    breakpointsSaid delta (ds.map (·.pair)) = breakpointsSaid delta (declaredPairs ds) := by
  apply filterMap_declared
  intro d other
  simp [Declaration.pair,d.says_nothing delta other,Meaning.breakpoint?]

theorem flagsSaid_declared (delta : Decimal) (ds : List Declaration) :
    flagsSaid delta (ds.map (·.pair)) = flagsSaid delta (declaredPairs ds) := by
  apply filterMap_declared
  intro d other
  simp [Declaration.pair,d.says_nothing delta other,Meaning.flag?]

theorem readable_declared (delta : Decimal) (ds : List Declaration) :
    (∀ d ∈ ds, (Meaning.of? delta d.property d.value).isSome) ↔
      ∀ p ∈ declaredPairs ds, (Meaning.of? delta p.1 p.2).isSome := by
  constructor
  · intro readable p member
    obtain ⟨d,inside,rfl⟩ := List.mem_map.mp member
    exact readable d (List.mem_of_mem_filter inside)
  · intro readable d member
    cases other : d.isOther with
    | true => simp [d.says_nothing delta other]
    | false => exact readable d.pair (List.mem_map_of_mem (by simp [member,other]))

/-- Every declaration says something, and no two of the breakpoints clash. -/
structure Registrable (delta : Decimal) (pairs : List (Value × Value)) : Prop where
  readable : ∀ p ∈ pairs, (Meaning.of? delta p.1 p.2).isSome
  apart : (breakpointsSaid delta pairs).Pairwise fun a b => ¬a.Clashes b

theorem Registrable.perm {delta : Decimal} {pairs others : List (Value × Value)} (same : pairs.Perm others)
    (registrable : Registrable delta pairs) : Registrable delta others := by
  constructor
  · intro p member
    exact registrable.readable p (same.mem_iff.mpr member)
  · have moved : (breakpointsSaid delta pairs).Perm (breakpointsSaid delta others) := same.filterMap _
    refine (moved.pairwise_iff ?_).mp registrable.apart
    intro a b free clash
    exact free clash.symm

def registryOf (delta : Decimal) (pairs : List (Value × Value)) : Registry :=
  .holding delta (breakpointsSaid delta pairs) (.ofList (flagsSaid delta pairs))

theorem registryOf_breakpoints (delta : Decimal) (pairs : List (Value × Value)) :
    (registryOf delta pairs).breakpoints = breakpointsSaid delta pairs :=
  Registry.holding_breakpoints ..

theorem Registrable.sound {delta : Decimal} {pairs : List (Value × Value)} (registrable : Registrable delta pairs) :
    (registryOf delta pairs).Sound := by
  refine ⟨Registry.holding_keyed _ _ _,?_,by simpa only [registryOf_breakpoints] using registrable.apart⟩
  rw [registryOf_breakpoints]
  intro b member
  obtain ⟨p,_,said⟩ := List.mem_filterMap.mp member
  obtain ⟨m,meant,found⟩ := Option.bind_eq_some_iff.mp said
  exact Meaning.of_formed delta p.1 p.2 m meant b found

/-- A row of declarations is registered exactly if what it declares can be, and leaves the registry of it. -/
theorem declareAll_leaves (ds : List Declaration) (delta : Decimal) (r : Registry) :
    (declareAll ds).Leaves ⟨.empty delta, []⟩ r ↔
      Registrable delta (declaredPairs ds) ∧ r = registryOf delta (declaredPairs ds) := by
  have registered := declareAll_iff ds ⟨.empty delta, []⟩ r (Registry.empty_sound delta)
  simp only [Registry.empty_breakpoints,List.nil_append,breakpointsSaid_declared,flagsSaid_declared,
    readable_declared] at registered
  constructor
  · intro leaves
    obtain ⟨readable,apart,result⟩ := registered.mp leaves
    exact ⟨⟨readable,apart⟩,result⟩
  · rintro ⟨⟨readable,apart⟩,result⟩
    exact registered.mpr ⟨readable,apart,result⟩

namespace Stylesheet

def declared (sheet : Stylesheet) : List (Value × Value) :=
  declaredPairs ((rules sheet).flatMap Rule.entries)

theorem walkOrder_declared (sheet : Stylesheet) : (declaredPairs (walkOrder sheet)).Perm (declared sheet) := by
  have moved := (leaving_perm sheet).flatMap_right Rule.entries
  exact (moved.filter _).map _

/-- A walk succeeds exactly if what the sheet declares can be registered, and leaves the registry of it. -/
theorem walk_leaves (prune : Bool) (sheet : Stylesheet) (delta : Decimal) (r : Registry) :
    (walk prune sheet).Leaves ⟨.empty delta, []⟩ r ↔
      Registrable delta (declaredPairs (walkOrder sheet)) ∧ r = registryOf delta (declaredPairs (walkOrder sheet)) := by
  rw [walk_eq,Pass.leaves_then]
  exact declareAll_leaves (walkOrder sheet) delta r

end Stylesheet

end MediaTiers
