import MediaTiers.Proofs.Decimal.Equality
import MediaTiers.Proofs.OrderedMap
import MediaTiers.Proofs.Registry.Operation
import MediaTiers.Proofs.Text.Lowercase

/-! What holds of a registry after any operations, those that fail included: a breakpoint is kept under its own name,
names and keys are in lower case and name one thing, a point has its value and unit and a query its text, and no two
points of one kind and unit lie at one place, however their numbers are spelled. -/
namespace MediaTiers

namespace Breakpoint

/-- Two points of one kind and unit at one place of the line or at one of its ends. -/
def SharesPoint (a b : Breakpoint) : Prop :=
  a.kind ≠ .custom ∧ a.kind = b.kind ∧ a.unit = b.unit ∧
    ∃ p, a.value.bind Decimal.place? = some p ∧ b.value.bind Decimal.place? = some p

/-- A point has a value and a unit and no text, a query has a text and nothing else. -/
def HasItsParts (b : Breakpoint) : Prop :=
  (b.kind ≠ .custom → b.value.isSome ∧ b.unit.isSome ∧ b.raw = none) ∧
    (b.kind = .custom → b.value = none ∧ b.unit = none ∧ b.raw.isSome)

end Breakpoint

namespace Registry

structure WellKept (r : Registry) : Prop where
  keyed : r.Keyed
  lowerNames : ∀ b ∈ r.breakpoints, Text.lowercase b.name = b.name
  distinct : r.names.Nodup
  lowerKeys : ∀ entry ∈ r.options, Text.lowercase entry.1 = entry.1
  parts : ∀ b ∈ r.breakpoints, b.HasItsParts
  apart : r.breakpoints.Pairwise fun a b => ¬a.SharesPoint b

theorem empty_wellKept (delta : Decimal) : (empty delta).WellKept := by
  constructor <;> simp [empty,names,Keyed,breakpoints]

theorem setOption_wellKept (r : Registry) (key : String) (flag : Bool) (kept : r.WellKept) :
    (r.setOption key flag).WellKept := by
  refine ⟨kept.keyed,kept.lowerNames,kept.distinct,?_,kept.parts,kept.apart⟩
  intro entry member
  have listed : entry.1 ∈ (r.options.put (Text.lowercase key) flag).map (·.1) := List.mem_map_of_mem member
  rcases (OrderedMap.mem_keys_put r.options _ _ flag).mp listed with same | old
  · rw [same,Text.lowercase_lowercase]
  · obtain ⟨given,inside,equal⟩ := List.mem_map.mp old
    rw [← equal]
    exact kept.lowerKeys given inside

theorem push_wellKept (r : Registry) (b : Breakpoint) (kept : r.WellKept) (lower : Text.lowercase b.name = b.name)
    (fresh : b.name ∉ r.names) (parts : b.HasItsParts)
    (apart : ∀ a ∈ r.breakpoints, ¬a.SharesPoint b) : (r.push b).WellKept := by
  refine ⟨kept.keyed.push b,?_,?_,kept.lowerKeys,?_,?_⟩
  · simpa [or_imp,forall_and] using ⟨kept.lowerNames,lower⟩
  · rw [push_names,← List.concat_eq_append,List.nodup_concat]
    exact ⟨fresh,kept.distinct⟩
  · simpa [or_imp,forall_and] using ⟨kept.parts,parts⟩
  · simpa [List.pairwise_append,kept.apart] using apart

theorem checkPoint_apart (name : String) (kind : Kind) (value : Decimal) (unit : LengthUnit)
    (others : List Breakpoint) (ok : checkPoint name kind value unit others = .ok ()) :
    ∀ b ∈ others, sitsAt value unit b = .ok false := by
  induction others with
  | nil => simp
  | cons b others ih =>
    rw [checkPoint] at ok
    obtain ⟨sits,here,rest⟩ := Attempt.bind_success _ _ _ ok
    cases sits with
    | true =>
      cases written : pointText value unit <;> simp [written] at rest
    | false =>
      have later := ih (by simpa using rest)
      exact List.forall_mem_cons.mpr ⟨here,later⟩

theorem admitPoint_apart (r : Registry) (name : String) (kind : Kind) (value : Decimal) (unit : LengthUnit)
    (ok : r.admitPoint name kind value unit = .ok ()) :
    kind ≠ .custom ∧ name ∉ r.names ∧
      ∀ a ∈ r.breakpoints, ¬a.SharesPoint (.ofPoint name kind value unit r.delta) := by
  unfold admitPoint at ok
  by_cases custom : kind = .custom
  · simp [custom] at ok
  simp only [custom,if_false] at ok
  obtain ⟨_,free,apart⟩ := Attempt.bind_success _ _ _ ok
  refine ⟨custom,(r.checkName_iff name).mp free,?_⟩
  rintro a member ⟨-,sameKind,sameUnit,place,aPlace,here⟩
  have among : a ∈ r.ofKind kind := List.mem_filter.mpr ⟨member,beq_iff_eq.mpr sameKind⟩
  have missed := checkPoint_apart _ _ _ _ _ apart a among
  obtain ⟨v,held,vPlace⟩ := Option.bind_eq_some_iff.mp aPlace
  have level : v.equal value = .ok true := (Decimal.equal_iff v value).mpr ⟨place,vPlace,here⟩
  have unitHeld : a.unit = some unit := sameUnit
  simp [sitsAt,unitHeld,held,level,numeric] at missed

theorem addPoint_wellKept (r : Registry) (name : String) (kind : Kind) (value : Decimal) (unit : LengthUnit)
    (kept : r.WellKept) : (r.addPoint name kind value unit).1.WellKept := by
  rcases r.addPoint_left name kind value unit with same | ⟨admitted,pushed⟩
  · rwa [same]
  · obtain ⟨typed,fresh,apart⟩ := admitPoint_apart _ _ _ _ _ admitted
    rw [pushed]
    refine push_wellKept r _ kept (Text.lowercase_lowercase name) fresh ?_ apart
    exact ⟨fun _ => ⟨rfl,rfl,rfl⟩,fun custom => absurd custom typed⟩

theorem addQuery_wellKept (r : Registry) (name raw : String) (kept : r.WellKept) :
    (r.addQuery name raw).1.WellKept := by
  rcases r.addQuery_left name raw with same | ⟨free,pushed⟩
  · rwa [same]
  · rw [pushed]
    refine push_wellKept r _ kept (Text.lowercase_lowercase name) ((r.checkName_iff _).mp free) ?_ ?_
    · exact ⟨fun typed => absurd rfl typed,fun _ => ⟨rfl,rfl,rfl⟩⟩
    · rintro a - ⟨typed,custom,-⟩
      exact typed custom

theorem wellKept_stable : Stable WellKept where
  flag := setOption_wellKept
  point r name kind value unit _ kept := addPoint_wellKept r name kind value unit kept
  query := addQuery_wellKept

theorem after_wellKept (r : Registry) (operation : Operation) (kept : r.WellKept) :
    (operation.after r).WellKept := by
  cases operation with
  | option key flag => exact setOption_wellKept r key flag kept
  | point name kind value unit => exact addPoint_wellKept r name kind value unit kept
  | namedPoint name kind value unit =>
    rcases r.addNamedPoint_eq name kind unit value with ⟨failure,same⟩ | ⟨k,x,u,-,-,-,same⟩
    · simpa only [Operation.after,same] using kept
    · simpa only [Operation.after,same] using addPoint_wellKept r name k x u kept
  | query name raw => exact addQuery_wellKept r name raw kept
  | declare property value => exact wellKept_stable.declare property value ⟨r, []⟩ kept
  | consume ds => exact wellKept_stable.consume ds ⟨r, []⟩ kept
  | walk prune sheet => exact wellKept_stable.walk prune sheet ⟨r, []⟩ kept
  | reset => exact empty_wellKept r.delta

theorem afterAll_wellKept (delta : Decimal) (operations : List Operation) :
    (afterAll delta operations).WellKept :=
  List.foldlRecOn operations Operation.after (empty_wellKept delta) fun r kept operation _ =>
    after_wellKept r operation kept

theorem WellKept.eq_of_name {r : Registry} (kept : r.WellKept) (a b : Breakpoint) (aMember : a ∈ r.breakpoints)
    (bMember : b ∈ r.breakpoints) (same : a.name = b.name) : a = b := by
  have distinct := kept.distinct
  rw [kept.keyed.names_eq] at distinct
  exact List.inj_on_of_nodup_map distinct aMember bMember same

theorem contains_false_iff (r : Registry) (name : String) :
    r.contains name = false ↔ Text.lowercase name ∉ r.names := by
  rw [contains,get?,Option.isSome_eq_false_iff,Option.isNone_iff_eq_none,OrderedMap.lookup_none_iff,names]

/-- Look-up finds the one breakpoint of a name, in any spelling of it. -/
theorem WellKept.get_iff {r : Registry} (kept : r.WellKept) (name : String) (b : Breakpoint) :
    r.get? name = some b ↔ b ∈ r.breakpoints ∧ b.name = Text.lowercase name := by
  rw [get?,OrderedMap.lookup_eq_some_iff r.entries (OrderedMap.functional_of_nodup _ kept.distinct)]
  constructor
  · intro member
    exact ⟨List.mem_map_of_mem member,(kept.keyed _ member).symm⟩
  · rintro ⟨member,named⟩
    obtain ⟨e,listed,rfl⟩ := List.mem_map.mp member
    rwa [← named,← kept.keyed e listed]

theorem get_lowercase (r : Registry) (name : String) : r.get? (Text.lowercase name) = r.get? name := by
  rw [get?,get?,Text.lowercase_lowercase]

/-- After any operations, failed ones among them, the registry is well kept, holds every breakpoint under its own
name, and answers for a name in any spelling as for its lower-case form. -/
theorem operations_keep_invariant (delta : Decimal) (operations : List Operation) :
    let r := afterAll delta operations
    r.WellKept ∧ (∀ b ∈ r.breakpoints, r.get? b.name = some b) ∧
      ∀ name, r.get? name = r.get? (Text.lowercase name) ∧ r.contains name = r.contains (Text.lowercase name) := by
  intro r
  have kept := afterAll_wellKept delta operations
  refine ⟨kept,?_,?_⟩
  · intro b member
    exact (kept.get_iff b.name b).mpr ⟨member,(kept.lowerNames b member).symm⟩
  · intro name
    have same := (r.get_lowercase name).symm
    exact ⟨same,congrArg Option.isSome same⟩

end Registry
end MediaTiers
