import MediaTiers.Proofs.Registry.Declare
import MediaTiers.Proofs.Registry.Sound

/-! What a declaration says by itself, before any registry is looked at. A row of declarations can be registered
exactly if each of them says something and no two of the breakpoints clash, and the registry then holds
what they said, in order. -/
namespace MediaTiers

/-- What a declaration says: nothing, the flag of an option, or a breakpoint. -/
inductive Meaning where
  | nothing
  | flag (key : String) (set : Bool)
  | breakpoint (b : Breakpoint)
  deriving DecidableEq, Repr

namespace Meaning

def ofPoint? (b : Breakpoint) : Option Meaning :=
  match b.isTyped, b.point with
  | true, .ok _ => some (.breakpoint b)
  | _, _ => none

def ofText? (delta : Decimal) (name text : String) : Option Meaning :=
  match text.toList.isEmpty, Reading.ofText text.toList with
  | false, .ok .query => some (.breakpoint (.ofQuery name text))
  | false, .ok (.point kind value unit) => ofPoint? (.ofPoint name kind value unit delta)
  | _, _ => none

/-- What a property and its value say, in a registry with this delta. -/
def of? (delta : Decimal) (property value : Value) : Option Meaning :=
  match Property.ofValue property with
  | .ok .other => some .nothing
  | .ok (.option key) => (flagOf value).toOption.map (.flag (Text.lowercase key))
  | .ok (.breakpoint name) => match trimmedValue value with
    | .ok (.text text) => ofText? delta (Text.lowercase name) text
    | _ => none
  | .error _ => none

def breakpoint? : Meaning → Option Breakpoint
  | .breakpoint b => some b
  | _ => none

def flag? : Meaning → Option (String × Bool)
  | .flag key set => some (key, set)
  | _ => none

def Fits (m : Meaning) (r : Registry) : Prop :=
  ∀ b ∈ m.breakpoint?, ∀ a ∈ r.breakpoints, ¬a.Clashes b

end Meaning

def Registry.record (r : Registry) (m : Meaning) : Registry :=
  ⟨r.delta, r.entries ++ m.breakpoint?.toList.map (·.entry), r.options.putAll m.flag?.toList⟩

def Pass.Leaves {α : Type} (x : Pass α) (l : Ledger) (r : Registry) : Prop :=
  ∃ a after, x l = .ok a after ∧ after.registry = r

namespace Pass

variable {α β : Type}

theorem leaves_pure (a : α) (l : Ledger) (r : Registry) : (pure a : Pass α).Leaves l r ↔ l.registry = r := by
  simp [Leaves]

theorem leaves_throw (failure : Failure) (l : Ledger) (r : Registry) : ¬(throw failure : Pass α).Leaves l r := by
  simp [Leaves]

theorem leaves_bind (x : Pass α) (f : α → Pass β) (l : Ledger) (r : Registry) :
    (x >>= f).Leaves l r ↔ ∃ a middle, x l = .ok a middle ∧ (f a).Leaves middle r := by
  simp only [Leaves,bind_run]
  cases x l <;> simp

theorem fails_iff (x : Pass α) (l : Ledger) :
    (∃ failure after, x l = .error failure after) ↔ ¬∃ r, x.Leaves l r := by
  unfold Leaves
  cases x l <;> simp

theorem leaves_then (x : Pass α) (b : β) (l : Ledger) (r : Registry) :
    (x >>= fun _ => pure b).Leaves l r ↔ x.Leaves l r := by
  simp only [leaves_bind,leaves_pure]
  rfl

theorem discard_eq (x : Pass α) : (discard x : Pass PUnit) = x >>= fun _ => pure PUnit.unit := by
  rw [discard,map_const,bind_pure_comp]
  rfl

theorem leaves_discard (x : Pass α) (l : Ledger) (r : Registry) : (discard x).Leaves l r ↔ x.Leaves l r := by
  rw [discard_eq,leaves_then]

theorem leaves_onRegistry (step : Registry → Registry × Except Failure α) (l : Ledger) (r : Registry) :
    (onRegistry step).Leaves l r ↔ ∃ a, step l.registry = (r, .ok a) := by
  unfold Leaves onRegistry
  rcases same : step l.registry with ⟨after,outcome⟩
  cases outcome <;> simp

end Pass

namespace Reading

theorem pointOf_finite (word : List Char) (value : Decimal) (unit : LengthUnit)
    (read : pointOf? word = some (value, unit)) : value.isFinite = true := by
  unfold pointOf? at read
  simp only [Option.bind_eq_bind,Option.bind_eq_some_iff,Option.pure_def,Option.some.injEq,Prod.mk.injEq] at read
  obtain ⟨_,_,_,_,rfl,_⟩ := read
  rfl

theorem ofPair_finite (type : List Char) (value : Decimal) (unit : LengthUnit) (kind : Kind) (x : Decimal)
    (u : LengthUnit) (ok : ofPair type value unit = .ok (.point kind x u)) : x = value := by
  obtain ⟨_,_,given⟩ := Attempt.bind_success _ _ _ ok
  simp only [Attempt.pure_ok,Except.ok.injEq,Reading.point.injEq] at given
  exact given.2.1.symm

theorem ofText_finite (cs : List Char) (kind : Kind) (value : Decimal) (unit : LengthUnit)
    (read : ofText cs = .ok (.point kind value unit)) : value.isFinite = true := by
  have two : ∀ text first second, ofTwo text first second = .ok (.point kind value unit) → value.isFinite = true := by
    intro text first second ok
    unfold ofTwo at ok
    split at ok
    next x u _ point =>
      rw [ofPair_finite _ _ _ _ _ _ ok]
      exact pointOf_finite _ _ _ point
    next =>
      split at ok
      next x u _ point =>
        rw [ofPair_finite _ _ _ _ _ _ ok]
        exact pointOf_finite _ _ _ point
      next => simp at ok
  unfold ofText at read
  simp only at read
  split at read
  next =>
    split at read
    next first second _ => exact two _ first second read
    next => simp at read
  next => simp at read

end Reading

namespace Registry

theorem addPoint_iff (r after : Registry) (name : String) (kind : Kind) (value : Decimal) (unit : LengthUnit)
    (sound : r.Sound) (finite : value.isFinite = true) :
    (∃ b, r.addPoint name kind value unit = (after, .ok b)) ↔
      kind ≠ .custom ∧ (Breakpoint.ofPoint (Text.lowercase name) kind value unit r.delta).point.isOk ∧
      (∀ a ∈ r.breakpoints, ¬a.Clashes (.ofPoint (Text.lowercase name) kind value unit r.delta)) ∧
      after = r.push (.ofPoint (Text.lowercase name) kind value unit r.delta) := by
  have admitted := admitPoint_iff r (Text.lowercase name) kind value unit sound finite
  simp only [addPoint]
  cases outcome : r.admitPoint (Text.lowercase name) kind value unit with
  | error failure =>
    simp only [outcome,reduceCtorEq,false_iff] at admitted
    simp only [Prod.mk.injEq,reduceCtorEq,and_false,exists_false,false_iff]
    rintro ⟨typed,_,fresh,_⟩
    exact admitted ⟨typed,fresh⟩
  | ok _ =>
    obtain ⟨typed,fresh⟩ := admitted.mp outcome
    rw [r.store_point _ _ _ _ outcome]
    cases written : (Breakpoint.ofPoint (Text.lowercase name) kind value unit r.delta).point with
    | error failure => simp [Except.map,Except.isOk,Except.toBool]
    | ok text =>
      constructor
      · rintro ⟨b,added⟩
        exact ⟨typed,rfl,fresh,(Prod.mk.inj added).1.symm⟩
      · rintro ⟨-,-,-,rfl⟩
        exact ⟨_,rfl⟩

theorem addQuery_iff (r after : Registry) (name raw : String) (keyed : r.Keyed) :
    (∃ b, r.addQuery name raw = (after, .ok b)) ↔
      (∀ a ∈ r.breakpoints, ¬a.Clashes (.ofQuery (Text.lowercase name) raw)) ∧
      after = r.push (.ofQuery (Text.lowercase name) raw) := by
  have named := r.checkName_iff (Text.lowercase name)
  simp only [addQuery,Breakpoint.clashes_query,← keyed.fresh_iff]
  cases outcome : r.checkName (Text.lowercase name) with
  | error failure =>
    simp only [outcome,reduceCtorEq,false_iff] at named
    simp only [Prod.mk.injEq,reduceCtorEq,and_false,exists_false,false_iff]
    rintro ⟨fresh,_⟩
    exact named fresh
  | ok _ =>
    rw [r.store_query _ raw outcome]
    constructor
    · rintro ⟨b,added⟩
      exact ⟨named.mp outcome,(Prod.mk.inj added).1.symm⟩
    · rintro ⟨-,rfl⟩
      exact ⟨_,rfl⟩

end Registry

@[simp]
theorem Registry.record_breakpoints (r : Registry) (m : Meaning) :
    (r.record m).breakpoints = r.breakpoints ++ m.breakpoint?.toList := by
  simp [record,breakpoints,Breakpoint.entry,Function.comp_def]

theorem Registry.record_breakpoint (r : Registry) (b : Breakpoint) : r.record (.breakpoint b) = r.push b := rfl

theorem Meaning.fits_breakpoint (r : Registry) (b : Breakpoint) :
    (Meaning.breakpoint b).Fits r ↔ ∀ a ∈ r.breakpoints, ¬a.Clashes b := by
  simp [Fits,breakpoint?]

theorem Meaning.ofPoint_iff (b : Breakpoint) (m : Meaning) :
    ofPoint? b = some m ↔ b.kind ≠ .custom ∧ b.point.isOk ∧ m = .breakpoint b := by
  have typed : b.isTyped = true ↔ b.kind ≠ .custom := by simp [Breakpoint.isTyped]
  rw [ofPoint?,← typed]
  cases b.isTyped <;> cases b.point <;> simp [Except.isOk,Except.toBool,eq_comm]

/-- A value that reads as a point goes to the registry as that point. -/
theorem declare_point (property value : Value) (name text : String) (kind : Kind) (x : Decimal) (unit : LengthUnit)
    (meant : Property.ofValue property = .ok (.breakpoint name)) (trimmed : trimmedValue value = .ok (.text text))
    (read : Reading.ofText text.toList = .ok (.point kind x unit)) :
    declare property value = Pass.onRegistry (·.addPoint name kind x unit) >>= fun _ => pure true := by
  have filled : text.toList.isEmpty = false := by
    cases none : text.toList with
    | nil =>
      rw [none] at read
      cases read
    | cons c cs => rfl
  simp only [declare,declareBreakpoint,declareText,meant,trimmed,read,filled,Pass.ofExcept_ok,pure_bind,
    Pass.discard_eq,bind_assoc,Bool.false_eq_true,if_false]

theorem declareText_iff (name text : String) (l : Ledger) (r : Registry) (sound : l.registry.Sound) :
    (declareText name text).Leaves l r ↔ ∃ m, Meaning.ofText? l.registry.delta (Text.lowercase name) text = some m ∧
      m.Fits l.registry ∧ r = l.registry.record m := by
  unfold declareText Meaning.ofText?
  cases blank : text.toList.isEmpty with
  | true => simp [Pass.leaves_throw]
  | false =>
    simp only [if_false,Bool.false_eq_true]
    cases read : Reading.ofText text.toList with
    | error failure => simp [Pass.leaves_bind]
    | ok reading =>
      simp only [Pass.ofExcept_ok,pure_bind]
      cases reading with
      | malformed fault shown => simp [Pass.leaves_throw]
      | query =>
        rw [Pass.leaves_discard,Pass.leaves_onRegistry,Registry.addQuery_iff _ _ _ _ sound.keyed]
        simp [Meaning.fits_breakpoint,Registry.record_breakpoint]
      | point kind value unit =>
        have finite := Reading.ofText_finite _ _ _ _ read
        rw [Pass.leaves_discard,Pass.leaves_onRegistry,Registry.addPoint_iff _ _ _ _ _ _ sound finite]
        simp only [Meaning.ofPoint_iff,and_assoc,exists_and_left,exists_eq_left,Meaning.fits_breakpoint,
          Registry.record_breakpoint]
        rfl

theorem declareOption_iff (key : String) (value : Value) (l : Ledger) (r : Registry) :
    (declareOption key value).Leaves l r ↔ ∃ flag, flagOf value = .ok flag ∧ r = l.registry.setOption key flag := by
  have set : ∀ l : Ledger, (Pass.ofExcept (flagOf value) >>= fun flag =>
      Pass.onRegistry fun r => (r.setOption key flag, .ok ())).Leaves l r ↔
        ∃ flag, flagOf value = .ok flag ∧ r = l.registry.setOption key flag := by
    intro l
    cases flagOf value with
    | error failure => simp [Pass.leaves_bind]
    | ok flag => simp [Pass.leaves_onRegistry,eq_comm]
  unfold declareOption
  cases unknown : !knownOptionKeys.contains (Text.lowercase key) with
  | false => exact set l
  | true =>
    -- A warning does not touch the registry.
    have warned : Pass.warn ("Unknown breakpoints option: " ++ key) l =
      .ok () ⟨l.registry, l.warnings ++ ["Unknown breakpoints option: " ++ key]⟩ := rfl
    simp only [if_true,Pass.leaves_bind (Pass.warn _),warned,EStateM.Result.ok.injEq]
    simp [set]

/-- Declaring succeeds exactly if something is said that fits, and then this is recorded. -/
theorem declare_iff (property value : Value) (l : Ledger) (r : Registry) (sound : l.registry.Sound) :
    (declare property value).Leaves l r ↔ ∃ m, Meaning.of? l.registry.delta property value = some m ∧
      m.Fits l.registry ∧ r = l.registry.record m := by
  unfold declare Meaning.of?
  cases meant : Property.ofValue property with
  | error failure => simp [Pass.leaves_bind]
  | ok property =>
    simp only [Pass.ofExcept_ok,pure_bind]
    cases property with
    | other =>
      simp [Pass.leaves_pure,Meaning.Fits,Registry.record,Meaning.breakpoint?,Meaning.flag?,OrderedMap.putAll,
        eq_comm]
    | option key =>
      rw [Pass.leaves_then,declareOption_iff]
      cases flagOf value with
      | error failure => simp [Except.toOption]
      | ok flag =>
        simp [Except.toOption,Meaning.Fits,Registry.record,Meaning.breakpoint?,Meaning.flag?,OrderedMap.putAll,
          Registry.setOption]
    | breakpoint name =>
      simp only
      cases trimmed : trimmedValue value with
      | error failure => simp [Pass.leaves_bind]
      | ok raw =>
        simp only [Pass.ofExcept_ok,pure_bind,Pass.leaves_then]
        cases raw with
        | text s => exact declareText_iff name s l r sound
        | bytes bs =>
          cases blank : bs.isEmpty <;> simp [declareBreakpoint,blank,Pass.leaves_throw]

theorem Meaning.ofText_formed (delta : Decimal) (name text : String) (b : Breakpoint)
    (said : ofText? delta name text = some (.breakpoint b)) : b.Formed delta := by
  unfold ofText? at said
  split at said
  next =>
    obtain rfl : Breakpoint.ofQuery name text = b := by simpa using said
    exact .query _ _
  next kind value unit _ read =>
    obtain ⟨typed,-,same⟩ := (ofPoint_iff _ _).mp said
    obtain rfl := Meaning.breakpoint.inj same
    exact .point _ _ _ _ typed (Reading.ofText_finite _ _ _ _ read)
  next => simp at said

theorem Meaning.of_breakpoint (delta : Decimal) (property value : Value) (b : Breakpoint)
    (said : of? delta property value = some (.breakpoint b)) :
    ∃ name text, ofText? delta name text = some (.breakpoint b) := by
  unfold of? at said
  split at said
  next => simp at said
  next => simp at said
  next =>
    split at said
    next => exact ⟨_,_,said⟩
    next => simp at said
  next => simp at said

theorem Meaning.of_formed (delta : Decimal) (property value : Value) (m : Meaning)
    (said : of? delta property value = some m) : ∀ b ∈ m.breakpoint?, b.Formed delta := by
  intro b found
  cases m with
  | nothing => simp [breakpoint?] at found
  | flag key set => simp [breakpoint?] at found
  | breakpoint c =>
    obtain rfl : c = b := by simpa [breakpoint?] using found
    obtain ⟨name,text,read⟩ := of_breakpoint delta property value c said
    exact ofText_formed delta name text c read

theorem Registry.record_sound (r : Registry) (m : Meaning) (sound : r.Sound)
    (formed : ∀ b ∈ m.breakpoint?, b.Formed r.delta) (fits : m.Fits r) : (r.record m).Sound := by
  cases m with
  | nothing => simpa [record,Meaning.breakpoint?,Meaning.flag?,OrderedMap.putAll] using sound
  | flag key set =>
    have same : (r.record (.flag key set)).entries = r.entries := List.append_nil _
    exact sound.of_entries same rfl
  | breakpoint b => exact push_sound r b sound (formed b rfl) ((Meaning.fits_breakpoint r b).mp fits)

def Declaration.pair (d : Declaration) : Value × Value :=
  (d.property, d.value)

def breakpointsSaid (delta : Decimal) (pairs : List (Value × Value)) : List Breakpoint :=
  pairs.filterMap fun p => (Meaning.of? delta p.1 p.2).bind Meaning.breakpoint?

def flagsSaid (delta : Decimal) (pairs : List (Value × Value)) : List (String × Bool) :=
  pairs.filterMap fun p => (Meaning.of? delta p.1 p.2).bind Meaning.flag?

theorem breakpointsSaid_cons (delta : Decimal) (p : Value × Value) (pairs : List (Value × Value)) (m : Meaning)
    (said : Meaning.of? delta p.1 p.2 = some m) :
    breakpointsSaid delta (p :: pairs) = m.breakpoint?.toList ++ breakpointsSaid delta pairs := by
  cases found : m.breakpoint? <;> simp [breakpointsSaid,said,found]

theorem flagsSaid_cons (delta : Decimal) (p : Value × Value) (pairs : List (Value × Value)) (m : Meaning)
    (said : Meaning.of? delta p.1 p.2 = some m) :
    flagsSaid delta (p :: pairs) = m.flag?.toList ++ flagsSaid delta pairs := by
  cases found : m.flag? <;> simp [flagsSaid,said,found]

/-- A row of declarations is registered exactly if each says something and no two breakpoints clash. -/
theorem declareAll_iff (ds : List Declaration) (l : Ledger) (r : Registry) (sound : l.registry.Sound) :
    (declareAll ds).Leaves l r ↔
      (∀ d ∈ ds, (Meaning.of? l.registry.delta d.property d.value).isSome) ∧
      ((l.registry.breakpoints ++ breakpointsSaid l.registry.delta (ds.map (·.pair))).Pairwise
        fun a b => ¬a.Clashes b) ∧
      r = ⟨l.registry.delta, l.registry.entries ++ (breakpointsSaid l.registry.delta (ds.map (·.pair))).map (·.entry),
        l.registry.options.putAll (flagsSaid l.registry.delta (ds.map (·.pair)))⟩ := by
  induction ds generalizing l with
  | nil =>
    rw [declareAll_nil,Pass.leaves_pure]
    constructor
    · rintro rfl
      exact ⟨by simp,by simpa [breakpointsSaid] using sound.apart,by simp [breakpointsSaid,flagsSaid,OrderedMap.putAll]⟩
    · rintro ⟨-,-,rfl⟩
      simp [breakpointsSaid,flagsSaid,OrderedMap.putAll]
  | cons d ds ih =>
    -- Once the first declaration is recorded, the rest is registered on top of it.
    have rest : ∀ m middle, Meaning.of? l.registry.delta d.property d.value = some m → m.Fits l.registry →
        middle.registry = l.registry.record m → ((declareAll ds).Leaves middle r ↔
          (∀ e ∈ ds, (Meaning.of? l.registry.delta e.property e.value).isSome) ∧
          ((l.registry.breakpoints ++ breakpointsSaid l.registry.delta ((d :: ds).map (·.pair))).Pairwise
            fun a b => ¬a.Clashes b) ∧
          r = ⟨l.registry.delta,
            l.registry.entries ++ (breakpointsSaid l.registry.delta ((d :: ds).map (·.pair))).map (·.entry),
            l.registry.options.putAll (flagsSaid l.registry.delta ((d :: ds).map (·.pair)))⟩) := by
      intro m middle said fits same
      have formed := Meaning.of_formed _ _ _ m said
      rw [ih middle (same ▸ Registry.record_sound _ m sound formed fits),same,List.map_cons,
        breakpointsSaid_cons _ _ _ m said,flagsSaid_cons _ _ _ m said]
      simp only [Registry.record_breakpoints]
      simp [Registry.record,OrderedMap.putAll,List.foldl_append]
    rw [declareAll_cons,Pass.leaves_bind]
    constructor
    · rintro ⟨taken,middle,first,later⟩
      obtain ⟨m,said,fits,same⟩ := (declare_iff d.property d.value l _ sound).mp ⟨taken,middle,first,rfl⟩
      obtain ⟨readable,apart,result⟩ := (rest m middle said fits same).mp later
      exact ⟨List.forall_mem_cons.mpr ⟨by simp [said],readable⟩,apart,result⟩
    · rintro ⟨readable,apart,result⟩
      obtain ⟨m,said⟩ := Option.isSome_iff_exists.mp (readable d (by simp))
      have fits : m.Fits l.registry := by
        intro b found a member
        refine (List.pairwise_append.mp apart).2.2 a member b ?_
        simp [List.map_cons,breakpointsSaid_cons _ d.pair _ m said,Option.mem_def.mp found]
      obtain ⟨taken,middle,first,same⟩ := (declare_iff d.property d.value l _ sound).mpr ⟨m,said,fits,rfl⟩
      exact ⟨taken,middle,first,(rest m middle said fits same).mpr
        ⟨fun e member => readable e (by simp [member]),apart,result⟩⟩

end MediaTiers
