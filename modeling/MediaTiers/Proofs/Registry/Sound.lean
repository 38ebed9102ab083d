import MediaTiers.Proofs.Attempt
import MediaTiers.Proofs.Decimal.Rational
import MediaTiers.Proofs.OrderedMap
import MediaTiers.Registry
import Mathlib.Data.List.Pairwise

/-! What a registry holds: breakpoints as registration makes them, under their names, no two of which clash. A clash is
a name used twice, or two points of one kind and unit at one place of the line; it has no order. -/
namespace MediaTiers

theorem Decimal.equal_finite (x y : Decimal) (xFinite : x.isFinite = true) (yFinite : y.isFinite = true) :
    x.equal y = .ok (decide (x.rational = y.rational)) := by
  have order := compareValue_eq x y xFinite yFinite
  have quiet : ∀ z : Decimal, z.isFinite = true → z.isNaN = false ∧ z.isSignaling = false := by
    intro z finite
    cases z <;> simp_all [isFinite,isNaN,isSignaling]
  rw [equal,(quiet x xFinite).1,(quiet x xFinite).2,(quiet y yFinite).1,(quiet y yFinite).2,order]
  by_cases same : x.rational = y.rational
  · simp [same]
  · have unequal : compare x.rational y.rational ≠ .eq := fun equal => same (compare_eq_iff_eq.mp equal)
    simp [same,unequal]

namespace Breakpoint

def position (b : Breakpoint) : ℚ :=
  (b.value.getD (.ofNat 0)).rational

theorem position_eq (b : Breakpoint) (value : Decimal) (held : b.value = some value) : b.position = value.rational := by
  simp [position,held]

/-- The breakpoints that registration makes: finite points with the delta of the registry, and queries. -/
inductive Formed (delta : Decimal) : Breakpoint → Prop where
  | point (name : String) (kind : Kind) (value : Decimal) (unit : LengthUnit) (typed : kind ≠ .custom)
      (finite : value.isFinite = true) : Formed delta (.ofPoint name kind value unit delta)
  | query (name raw : String) : Formed delta (.ofQuery name raw)

/-- Two points of one kind and unit at one place. -/
def Coincides (a b : Breakpoint) : Prop :=
  a.kind = b.kind ∧ a.kind ≠ .custom ∧ a.unit = b.unit ∧ a.position = b.position

/-- Two breakpoints that cannot be registered together. -/
def Clashes (a b : Breakpoint) : Prop :=
  a.name = b.name ∨ a.Coincides b

theorem Clashes.symm {a b : Breakpoint} (clash : a.Clashes b) : b.Clashes a := by
  rcases clash with name | ⟨kind,typed,unit,place⟩
  · exact .inl name.symm
  · exact .inr ⟨kind.symm,kind ▸ typed,unit.symm,place.symm⟩

theorem clashes_query (a : Breakpoint) (name raw : String) : a.Clashes (.ofQuery name raw) ↔ a.name = name := by
  constructor
  · rintro (called | ⟨kind,typed,-⟩)
    · exact called
    · exact absurd kind typed
  · exact .inl

end Breakpoint

def Breakpoint.entry (b : Breakpoint) : String × Breakpoint :=
  (b.name, b)

namespace Registry

def holding (delta : Decimal) (bs : List Breakpoint) (options : OrderedMap Bool) : Registry :=
  ⟨delta, bs.map (·.entry), options⟩

@[simp]
theorem holding_breakpoints (delta : Decimal) (bs : List Breakpoint) (options : OrderedMap Bool) :
    (holding delta bs options).breakpoints = bs := by
  simp [holding,breakpoints,Breakpoint.entry,Function.comp_def]

@[simp]
theorem holding_names (delta : Decimal) (bs : List Breakpoint) (options : OrderedMap Bool) :
    (holding delta bs options).names = bs.map (·.name) := by
  simp [holding,names,Breakpoint.entry]

@[simp]
theorem holding_delta (delta : Decimal) (bs : List Breakpoint) (options : OrderedMap Bool) :
    (holding delta bs options).delta = delta := rfl

@[simp]
theorem holding_options (delta : Decimal) (bs : List Breakpoint) (options : OrderedMap Bool) :
    (holding delta bs options).options = options := rfl

@[simp]
theorem empty_breakpoints (delta : Decimal) : (empty delta).breakpoints = [] := rfl

def push (r : Registry) (b : Breakpoint) : Registry :=
  { r with entries := r.entries ++ [b.entry] }

@[simp]
theorem push_breakpoints (r : Registry) (b : Breakpoint) : (r.push b).breakpoints = r.breakpoints ++ [b] := by
  simp [push,breakpoints,Breakpoint.entry]

@[simp]
theorem push_names (r : Registry) (b : Breakpoint) : (r.push b).names = r.names ++ [b.name] := by
  simp [push,names,Breakpoint.entry]

@[simp]
theorem push_delta (r : Registry) (b : Breakpoint) : (r.push b).delta = r.delta := rfl

theorem store_fresh (r : Registry) (b : Breakpoint) (fresh : b.name ∉ r.names) : r.store b = r.push b := by
  rw [store,OrderedMap.put_fresh r.entries b.name b fresh]
  rfl

def Keyed (r : Registry) : Prop :=
  ∀ e ∈ r.entries, e.1 = e.2.name

theorem Keyed.names_eq {r : Registry} (keyed : r.Keyed) : r.names = r.breakpoints.map (·.name) := by
  rw [names,breakpoints,List.map_map]
  exact List.map_congr_left keyed

theorem Keyed.fresh_iff {r : Registry} (keyed : r.Keyed) (name : String) :
    name ∉ r.names ↔ ∀ b ∈ r.breakpoints, b.name ≠ name := by
  simp [keyed.names_eq]

theorem Keyed.push {r : Registry} (keyed : r.Keyed) (b : Breakpoint) : (r.push b).Keyed := by
  intro e member
  rcases List.mem_append.mp member with old | new
  · exact keyed e old
  · rw [List.mem_singleton.mp new]
    rfl

theorem holding_keyed (delta : Decimal) (bs : List Breakpoint) (options : OrderedMap Bool) :
    (holding delta bs options).Keyed := by
  intro e member
  obtain ⟨b,-,rfl⟩ := List.mem_map.mp member
  rfl

/-- Every breakpoint is kept under its own name and none is malformed, and no two of them clash. -/
structure Sound (r : Registry) : Prop where
  keyed : r.Keyed
  formed : ∀ b ∈ r.breakpoints, b.Formed r.delta
  apart : r.breakpoints.Pairwise fun a b => ¬a.Clashes b

theorem sitsAt_formed (delta value : Decimal) (unit : LengthUnit) (b : Breakpoint) (formed : b.Formed delta)
    (finite : value.isFinite = true) :
    sitsAt value unit b = .ok (decide (b.unit = some unit ∧ b.position = value.rational)) := by
  cases formed with
  | query name raw => simp [sitsAt,Breakpoint.ofQuery]
  | point name kind v u typed vFinite =>
    have level := Decimal.equal_finite v value vFinite finite
    by_cases same : u = unit
    · simp [sitsAt,Breakpoint.ofPoint,Breakpoint.position,same,level,numeric]
    · simp [sitsAt,Breakpoint.ofPoint,same]

theorem checkPoint_iff (delta : Decimal) (name : String) (kind : Kind) (value : Decimal) (unit : LengthUnit)
    (others : List Breakpoint) (formed : ∀ b ∈ others, b.Formed delta) (finite : value.isFinite = true) :
    checkPoint name kind value unit others = .ok () ↔
      ∀ b ∈ others, ¬(b.unit = some unit ∧ b.position = value.rational) := by
  induction others with
  | nil => simp [checkPoint]
  | cons b others ih =>
    have rest := ih fun c member => formed c (by simp [member])
    rw [checkPoint,sitsAt_formed delta value unit b (formed b (by simp)) finite,Attempt.ok_bind]
    by_cases here : b.unit = some unit ∧ b.position = value.rational
    · -- The report of a duplicate may itself fail, for want of a text of the point.
      cases written : pointText value unit <;> simp [here]
    · simp only [here,decide_false,Bool.false_eq_true,if_false,List.forall_mem_cons,not_false_eq_true,
        true_and]
      exact rest

theorem checkName_iff (r : Registry) (name : String) :
    r.checkName name = .ok () ↔ name ∉ r.names := by
  rw [checkName]
  by_cases taken : r.names.contains name = true
  · rw [if_pos taken]
    simpa using taken
  · rw [if_neg taken]
    simpa using taken

theorem admitPoint_fresh (r : Registry) (name : String) (kind : Kind) (value : Decimal) (unit : LengthUnit)
    (ok : r.admitPoint name kind value unit = .ok ()) : name ∉ r.names := by
  unfold admitPoint at ok
  by_cases custom : kind = .custom
  · simp [custom] at ok
  · simp only [custom,if_false] at ok
    obtain ⟨_,free,-⟩ := Attempt.bind_success _ _ _ ok
    exact (r.checkName_iff name).mp free

theorem store_point (r : Registry) (name : String) (kind : Kind) (value : Decimal) (unit : LengthUnit)
    (ok : r.admitPoint name kind value unit = .ok ()) :
    r.store (.ofPoint name kind value unit r.delta) = r.push (.ofPoint name kind value unit r.delta) :=
  r.store_fresh (.ofPoint name kind value unit r.delta) (r.admitPoint_fresh name kind value unit ok)

theorem store_query (r : Registry) (name raw : String) (ok : r.checkName name = .ok ()) :
    r.store (.ofQuery name raw) = r.push (.ofQuery name raw) :=
  r.store_fresh (.ofQuery name raw) ((r.checkName_iff name).mp ok)

/-- A point is admitted exactly if it is no query in disguise and clashes with nothing registered. -/
theorem admitPoint_iff (r : Registry) (name : String) (kind : Kind) (value : Decimal) (unit : LengthUnit)
    (sound : r.Sound) (finite : value.isFinite = true) :
    r.admitPoint name kind value unit = .ok () ↔
      kind ≠ .custom ∧ ∀ b ∈ r.breakpoints, ¬b.Clashes (.ofPoint name kind value unit r.delta) := by
  by_cases custom : kind = .custom
  · simp [admitPoint,custom]
  have among := checkPoint_iff r.delta name kind value unit (r.ofKind kind)
    (fun b member => sound.formed b (List.mem_of_mem_filter member)) finite
  have named := (r.checkName_iff name).trans (sound.keyed.fresh_iff name)
  have admitted : r.admitPoint name kind value unit =
      r.checkName name >>= fun _ => checkPoint name kind value unit (r.ofKind kind) := by
    simp [admitPoint,custom]
  rw [admitted]
  constructor
  · intro ok
    obtain ⟨_,free,apart⟩ := Attempt.bind_success _ _ _ ok
    refine ⟨custom,?_⟩
    rintro b member (taken | ⟨sameKind,_,sameUnit,samePlace⟩)
    · exact named.mp free b member taken
    · exact among.mp apart b (by simp [ofKind,member,sameKind,Breakpoint.ofPoint]) ⟨sameUnit,samePlace⟩
  · rintro ⟨_,apart⟩
    have free : r.checkName name = .ok () := named.mpr fun b member taken => apart b member (.inl taken)
    rw [free,Attempt.ok_bind,among]
    rintro b member ⟨sameUnit,samePlace⟩
    obtain ⟨member,sameKind⟩ := List.mem_filter.mp member
    have kindEq : b.kind = kind := by simpa using sameKind
    exact apart b member (.inr ⟨kindEq,kindEq ▸ custom,sameUnit,samePlace⟩)

theorem kind_of_mem (r : Registry) (kind : Kind) (b : Breakpoint) (member : b ∈ r.ofKind kind) : b.kind = kind := by
  simpa using (List.mem_filter.mp member).2

theorem ofKind_point (r : Registry) (kind : Kind) (sound : r.Sound) (typed : kind ≠ .custom) (b : Breakpoint)
    (member : b ∈ r.ofKind kind) :
    ∃ value, b.value = some value ∧ value.isFinite = true ∧ b.delta = r.delta := by
  have sameKind := r.kind_of_mem kind b member
  cases sound.formed b (List.mem_of_mem_filter member) with
  | query name raw => exact absurd sameKind.symm typed
  | point name k value u _ finite => exact ⟨value,rfl,finite,rfl⟩

theorem Sound.eq_of_clashes {r : Registry} (sound : r.Sound) (a b : Breakpoint) (aMember : a ∈ r.breakpoints)
    (bMember : b ∈ r.breakpoints) (clash : a.Clashes b) : a = b := by
  by_contra different
  have symmetric : Std.Symm fun a b : Breakpoint => ¬a.Clashes b := ⟨fun _ _ free clash => free clash.symm⟩
  exact sound.apart.forall aMember bMember different clash

theorem Sound.names_nodup {r : Registry} (sound : r.Sound) : r.names.Nodup := by
  rw [sound.keyed.names_eq]
  exact List.pairwise_map.mpr (sound.apart.imp fun free called => free (.inl called))

theorem empty_sound (delta : Decimal) : (empty delta).Sound :=
  ⟨by simp [empty,Keyed],by simp,by simp⟩

/-- The options do not matter. -/
theorem Sound.of_entries {r s : Registry} (sound : r.Sound) (entries : s.entries = r.entries) (delta : s.delta = r.delta) :
    s.Sound := by
  have listed : s.breakpoints = r.breakpoints := by rw [breakpoints,entries,breakpoints]
  refine ⟨?_,?_,?_⟩
  · rw [Keyed,entries]
    exact sound.keyed
  · rw [listed,delta]
    exact sound.formed
  · rw [listed]
    exact sound.apart

theorem push_sound (r : Registry) (b : Breakpoint) (sound : r.Sound) (formed : b.Formed r.delta)
    (fresh : ∀ a ∈ r.breakpoints, ¬a.Clashes b) : (r.push b).Sound := by
  refine ⟨sound.keyed.push b,?_,?_⟩
  · rw [push_breakpoints]
    exact List.forall_mem_append.mpr ⟨sound.formed,by simpa using formed⟩
  · rw [push_breakpoints,List.pairwise_append]
    exact ⟨sound.apart,List.pairwise_singleton _ b,by simpa using fresh⟩

theorem addPoint_success (r after : Registry) (name : String) (kind : Kind) (value : Decimal) (unit : LengthUnit)
    (b : Breakpoint) (ok : r.addPoint name kind value unit = (after, .ok b)) :
    r.admitPoint (Text.lowercase name) kind value unit = .ok () ∧
      after = r.push (.ofPoint (Text.lowercase name) kind value unit r.delta) := by
  simp only [addPoint] at ok
  cases admitted : r.admitPoint (Text.lowercase name) kind value unit with
  | error failure => simp [admitted] at ok
  | ok _ =>
    simp only [admitted,Prod.mk.injEq] at ok
    exact ⟨rfl,ok.1.symm.trans (r.store_point _ _ _ _ admitted)⟩

theorem addPoint_sound (r after : Registry) (name : String) (kind : Kind) (value : Decimal) (unit : LengthUnit)
    (b : Breakpoint) (sound : r.Sound) (finite : value.isFinite = true)
    (ok : r.addPoint name kind value unit = (after, .ok b)) : after.Sound ∧ after.delta = r.delta := by
  obtain ⟨admitted,rfl⟩ := addPoint_success r after name kind value unit b ok
  obtain ⟨typed,fresh⟩ := (admitPoint_iff r _ kind value unit sound finite).mp admitted
  exact ⟨push_sound r _ sound (.point _ kind value unit typed finite) fresh,rfl⟩

theorem addNamedPoint_success (r after : Registry) (name kind unit : String) (value : Decimal) (b : Breakpoint)
    (ok : r.addNamedPoint name kind (.ok value) unit = (after, .ok b)) :
    ∃ k u, r.addPoint name k value u = (after, .ok b) := by
  unfold addNamedPoint at ok
  cases kindRead : Kind.ofName (Text.lowercase kind) with
  | error failure => simp [kindRead] at ok
  | ok k => cases unitRead : LengthUnit.ofName (Text.lowercase unit) with
    | error failure => simp [kindRead,unitRead] at ok
    | ok u => exact ⟨k,u,by simpa [kindRead,unitRead] using ok⟩

/-- The registries that successful registrations of finite points lead to. Kind and unit may be given as such
or by name. -/
inductive Reached (delta : Decimal) : Registry → Prop where
  | empty : Reached delta (empty delta)
  | point (r after : Registry) (name : String) (kind : Kind) (value : Decimal) (unit : LengthUnit)
      (b : Breakpoint) : Reached delta r → value.isFinite = true →
      r.addPoint name kind value unit = (after, .ok b) → Reached delta after
  | named (r after : Registry) (name kind unit : String) (value : Decimal) (b : Breakpoint) :
      Reached delta r → value.isFinite = true →
      r.addNamedPoint name kind (.ok value) unit = (after, .ok b) → Reached delta after

/-- Every registry that is reached is sound, and keeps the delta it was made with. -/
theorem Reached.sound {delta : Decimal} {r : Registry} (reached : Reached delta r) :
    r.Sound ∧ r.delta = delta := by
  induction reached with
  | empty => exact ⟨empty_sound delta,rfl⟩
  | point r after name kind value unit b _ finite ok ih =>
    obtain ⟨sound,same⟩ := addPoint_sound r after name kind value unit b ih.1 finite ok
    exact ⟨sound,same.trans ih.2⟩
  | named r after name kind unit value b _ finite ok ih =>
    obtain ⟨k,u,added⟩ := addNamedPoint_success r after name kind unit value b ok
    obtain ⟨sound,same⟩ := addPoint_sound r after name k value u b ih.1 finite added
    exact ⟨sound,same.trans ih.2⟩

end Registry
end MediaTiers
