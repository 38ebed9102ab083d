import MediaTiers.Proofs.Registry.Meaning
import MediaTiers.Proofs.Stylesheet.Walk

/-! The operations on a registry, and what they leave of it whether they succeed or fail. All of them are made of
three steps: a flag is set, a point is added, a query is added. A property of registries that these steps keep
is kept by every operation. -/
namespace MediaTiers

namespace Pass

variable {α β : Type} {holds : Registry → Prop}

/-- What a pass leaves behind, also when it fails. -/
def after (x : Pass α) (l : Ledger) : Ledger :=
  match x l with
  | .ok _ left => left
  | .error _ left => left

def Keeps (x : Pass α) (holds : Registry → Prop) : Prop :=
  ∀ l, holds l.registry → holds (x.after l).registry

theorem keeps_pure (a : α) : (pure a : Pass α).Keeps holds := fun _ before => before

theorem keeps_throw (failure : Failure) : (throw failure : Pass α).Keeps holds := fun _ before => before

theorem keeps_ofExcept (outcome : Except Failure α) : (ofExcept outcome).Keeps holds := by
  cases outcome with
  | ok a => exact keeps_pure a
  | error failure => exact keeps_throw failure

theorem keeps_warn (text : String) : (warn text).Keeps holds := fun _ before => before

theorem keeps_bind (x : Pass α) (f : α → Pass β) (first : x.Keeps holds) (rest : ∀ a, (f a).Keeps holds) :
    (x >>= f).Keeps holds := by
  intro l before
  have middle := first l before
  unfold after at middle ⊢
  rw [bind_run]
  cases run : x l with
  | ok a left =>
    rw [run] at middle
    exact rest a left middle
  | error failure left =>
    rw [run] at middle
    exact middle

theorem keeps_onRegistry (step : Registry → Registry × Except Failure α)
    (kept : ∀ r, holds r → holds (step r).1) : (onRegistry step).Keeps holds := by
  intro l before
  have registry : ((onRegistry step).after l).registry = (step l.registry).1 := by
    unfold after onRegistry
    rcases step l.registry with ⟨left,outcome⟩
    cases outcome <;> rfl
  rw [registry]
  exact kept l.registry before

theorem keeps_discard (x : Pass α) (kept : x.Keeps holds) : (discard x : Pass PUnit).Keeps holds := by
  rw [discard_eq]
  exact keeps_bind x _ kept fun _ => keeps_pure _

end Pass

namespace Registry

/-- A property of registries that every step keeps, whatever its outcome; points read from texts are finite. -/
structure Stable (holds : Registry → Prop) : Prop where
  flag : ∀ r key set, holds r → holds (r.setOption key set)
  point : ∀ r name kind value unit, value.isFinite = true → holds r → holds (r.addPoint name kind value unit).1
  query : ∀ r name raw, holds r → holds (r.addQuery name raw).1

variable {holds : Registry → Prop}

theorem Stable.declareOption (stable : Stable holds) (key : String) (value : Value) :
    (declareOption key value).Keeps holds := by
  have set : (Pass.ofExcept (flagOf value) >>= fun flag =>
      Pass.onRegistry fun r => (r.setOption key flag, .ok ())).Keeps holds :=
    Pass.keeps_bind _ _ (Pass.keeps_ofExcept _) fun flag =>
      Pass.keeps_onRegistry _ fun r before => stable.flag r key flag before
  unfold MediaTiers.declareOption
  cases !knownOptionKeys.contains (Text.lowercase key) with
  | false => exact set
  | true => exact Pass.keeps_bind _ _ (Pass.keeps_warn _) fun _ => set

theorem Stable.declareText (stable : Stable holds) (name text : String) :
    (declareText name text).Keeps holds := by
  unfold MediaTiers.declareText
  cases text.toList.isEmpty with
  | true => exact Pass.keeps_throw _
  | false =>
    simp only [if_false,Bool.false_eq_true]
    cases read : Reading.ofText text.toList with
    | error failure => exact Pass.keeps_throw failure
    | ok reading =>
      rw [Pass.ofExcept_ok,pure_bind]
      cases reading with
      | malformed fault shown => exact Pass.keeps_throw _
      | query => exact Pass.keeps_discard _ (Pass.keeps_onRegistry _ fun r before => stable.query r name text before)
      | point kind value unit =>
        have finite := Reading.ofText_finite _ _ _ _ read
        exact Pass.keeps_discard _
          (Pass.keeps_onRegistry _ fun r before => stable.point r name kind value unit finite before)

theorem Stable.declare (stable : Stable holds) (property value : Value) :
    (declare property value).Keeps holds := by
  unfold MediaTiers.declare
  refine Pass.keeps_bind _ _ (Pass.keeps_ofExcept _) ?_
  intro meant
  cases meant with
  | other => exact Pass.keeps_pure _
  | option key => exact Pass.keeps_bind _ _ (stable.declareOption key value) fun _ => Pass.keeps_pure _
  | breakpoint name =>
    refine Pass.keeps_bind _ _ (Pass.keeps_ofExcept _) ?_
    intro raw
    refine Pass.keeps_bind _ _ ?_ fun _ => Pass.keeps_pure _
    cases raw with
    | text s => exact stable.declareText name s
    | bytes bs =>
      rw [declareBreakpoint]
      split
      · exact Pass.keeps_throw _
      · exact Pass.keeps_throw _

theorem Stable.declareAll (stable : Stable holds) (ds : List Declaration) : (declareAll ds).Keeps holds := by
  induction ds with
  | nil => exact Pass.keeps_pure _
  | cons d ds ih =>
    rw [declareAll_cons]
    exact Pass.keeps_bind _ _ (stable.declare _ _) fun _ => ih

theorem Stable.consume (stable : Stable holds) (ds : List Declaration) : (consume ds).Keeps holds := by
  rw [consume_eq]
  exact Pass.keeps_bind _ _ (stable.declareAll ds) fun _ => Pass.keeps_pure _

theorem Stable.walk (stable : Stable holds) (prune : Bool) (sheet : Stylesheet) :
    (Stylesheet.walk prune sheet).Keeps holds := by
  rw [Stylesheet.walk_eq]
  exact Pass.keeps_bind _ _ (stable.declareAll _) fun _ => Pass.keeps_pure _

theorem addPoint_left (r : Registry) (name : String) (kind : Kind) (value : Decimal) (unit : LengthUnit) :
    (r.addPoint name kind value unit).1 = r ∨
      r.admitPoint (Text.lowercase name) kind value unit = .ok () ∧
        (r.addPoint name kind value unit).1 = r.push (.ofPoint (Text.lowercase name) kind value unit r.delta) := by
  simp only [addPoint]
  cases admitted : r.admitPoint (Text.lowercase name) kind value unit with
  | error failure => exact .inl rfl
  | ok _ => exact .inr ⟨rfl,r.store_point _ _ _ _ admitted⟩

theorem addQuery_left (r : Registry) (name raw : String) :
    (r.addQuery name raw).1 = r ∨ r.checkName (Text.lowercase name) = .ok () ∧
      (r.addQuery name raw).1 = r.push (.ofQuery (Text.lowercase name) raw) := by
  simp only [addQuery]
  cases free : r.checkName (Text.lowercase name) with
  | error failure => exact .inl rfl
  | ok _ => exact .inr ⟨rfl,r.store_query _ raw free⟩

/-- A point given by name is added as a point, or nothing happens. -/
theorem addNamedPoint_eq (r : Registry) (name kind unit : String) (value : Except Failure Decimal) :
    (∃ failure, r.addNamedPoint name kind value unit = (r, .error failure)) ∨
      ∃ k x u, Kind.ofName (Text.lowercase kind) = .ok k ∧ LengthUnit.ofName (Text.lowercase unit) = .ok u ∧
        value = .ok x ∧ r.addNamedPoint name kind value unit = r.addPoint name k x u := by
  unfold addNamedPoint
  cases kindRead : Kind.ofName (Text.lowercase kind) with
  | error failure => exact .inl ⟨failure,rfl⟩
  | ok k => cases unitRead : LengthUnit.ofName (Text.lowercase unit) with
    | error failure => exact .inl ⟨failure,rfl⟩
    | ok u => cases value with
      | error failure => exact .inl ⟨failure,rfl⟩
      | ok x => exact .inr ⟨k,x,u,rfl,rfl,rfl,rfl⟩

end Registry

inductive Operation where
  | option (key : String) (flag : Bool)
  | point (name : String) (kind : Kind) (value : Decimal) (unit : LengthUnit)
  | namedPoint (name kind : String) (value : Except Failure Decimal) (unit : String)
  | query (name raw : String)
  | declare (property value : Value)
  | consume (ds : List Declaration)
  | walk (prune : Bool) (sheet : Stylesheet)
  | reset

def Operation.after (r : Registry) : Operation → Registry
  | .option key flag => r.setOption key flag
  | .point name kind value unit => (r.addPoint name kind value unit).1
  | .namedPoint name kind value unit => (r.addNamedPoint name kind value unit).1
  | .query name raw => (r.addQuery name raw).1
  | .declare property value => ((MediaTiers.declare property value).after ⟨r, []⟩).registry
  | .consume ds => ((MediaTiers.consume ds).after ⟨r, []⟩).registry
  | .walk prune sheet => ((Stylesheet.walk prune sheet).after ⟨r, []⟩).registry
  | .reset => r.reset

/-- The registry that a row of operations makes of an empty one. -/
def Registry.afterAll (delta : Decimal) (operations : List Operation) : Registry :=
  operations.foldl Operation.after (.empty delta)

end MediaTiers
