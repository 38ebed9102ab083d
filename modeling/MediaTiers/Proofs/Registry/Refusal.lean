import MediaTiers.Proofs.Reading
import MediaTiers.Proofs.Registry.Atomicity

/-! The ways in which a declaration of texts can fail. It is refused if its value is malformed or its name or point is
taken. No other failure gets out of it, but for a value that pairs a point with the word `min` in foreign
letters. -/
namespace MediaTiers

/-- The failures that refuse a declaration: a malformed value, a name that is taken, a point that is taken. -/
def Failure.isRefusal : Failure → Bool
  | .malformed _ _ _ | .duplicateName _ | .duplicatePoint _ _ _ _ => true
  | _ => false

namespace Pass

variable {α β : Type}

def Escapes (x : Pass α) (l : Ledger) : Prop :=
  ∃ failure after, x l = .error failure after ∧ failure.isRefusal = false

theorem escapes_pure (a : α) (l : Ledger) : ¬(pure a : Pass α).Escapes l := by
  simp [Escapes]

theorem escapes_throw (failure : Failure) (l : Ledger) :
    (throw failure : Pass α).Escapes l ↔ failure.isRefusal = false := by
  simp [Escapes]

theorem escapes_bind (x : Pass α) (f : α → Pass β) (l : Ledger) :
    (x >>= f).Escapes l ↔ x.Escapes l ∨ ∃ a middle, x l = .ok a middle ∧ (f a).Escapes middle := by
  simp only [Escapes,bind_run]
  cases x l <;> simp

theorem escapes_then (x : Pass α) (b : β) (l : Ledger) : (x >>= fun _ => pure b).Escapes l ↔ x.Escapes l := by
  simp only [escapes_bind,escapes_pure,and_false,exists_false,or_false]

theorem escapes_discard (x : Pass α) (l : Ledger) : (discard x : Pass PUnit).Escapes l ↔ x.Escapes l := by
  rw [discard_eq,escapes_then]

theorem escapes_onRegistry (step : Registry → Registry × Except Failure α) (l : Ledger) :
    (onRegistry step).Escapes l ↔ ∃ failure, (step l.registry).2 = .error failure ∧ failure.isRefusal = false := by
  unfold Escapes onRegistry
  rcases step l.registry with ⟨after,outcome⟩
  cases outcome <;> simp

end Pass

namespace Registry

theorem sound_stable : Stable Sound where
  flag r key set sound := sound.of_entries rfl rfl
  point r name kind value unit finite sound := by
    rcases r.addPoint_left name kind value unit with same | ⟨admitted,pushed⟩
    · rwa [same]
    · obtain ⟨typed,fresh⟩ := (admitPoint_iff r _ kind value unit sound finite).mp admitted
      rw [pushed]
      exact push_sound r _ sound (.point _ kind value unit typed finite) fresh
  query r name raw sound := by
    rcases r.addQuery_left name raw with same | ⟨free,pushed⟩
    · rwa [same]
    · rw [pushed]
      refine push_sound r _ sound (.query _ raw) ?_
      intro a member
      rw [Breakpoint.clashes_query]
      exact (sound.keyed.fresh_iff _).mp ((r.checkName_iff _).mp free) a member

def declared (delta : Decimal) (earlier : List (Value × Value)) : Registry :=
  afterAll delta (earlier.map fun entry => .declare entry.1 entry.2)

theorem declared_sound (delta : Decimal) (earlier : List (Value × Value)) : (declared delta earlier).Sound := by
  refine List.foldlRecOn _ _ (empty_sound delta) ?_
  intro r sound operation member
  obtain ⟨entry,-,rfl⟩ := List.mem_map.mp member
  exact sound_stable.declare entry.1 entry.2 ⟨r, []⟩ sound

theorem checkName_refusal (r : Registry) (name : String) (failure : Failure)
    (failed : r.checkName name = .error failure) : failure.isRefusal = true := by
  unfold checkName at failed
  split at failed
  · cases failed
    rfl
  · cases failed

theorem checkPoint_refusal (delta : Decimal) (name : String) (kind : Kind) (value : Decimal) (unit : LengthUnit)
    (others : List Breakpoint) (formed : ∀ b ∈ others, b.Formed delta) (finite : value.isFinite = true)
    (text : String) (written : pointText value unit = .ok text) (failure : Failure)
    (failed : checkPoint name kind value unit others = .error failure) : failure.isRefusal = true := by
  induction others with
  | nil => cases failed
  | cons b others ih =>
    rw [checkPoint,sitsAt_formed delta value unit b (formed b (by simp)) finite,Attempt.ok_bind] at failed
    by_cases here : b.unit = some unit ∧ b.position = value.rational
    · -- The report of a duplicate holds the text of the point.
      simp only [here,written] at failed
      cases failed
      rfl
    · simp only [here] at failed
      exact ih (fun c member => formed c (by simp [member])) failed

/-- A point that can be written is registered or refused. -/
theorem addPoint_refusal (r : Registry) (name : String) (kind : Kind) (value : Decimal) (unit : LengthUnit)
    (sound : r.Sound) (typed : kind ≠ .custom) (finite : value.isFinite = true) (text : String)
    (written : pointText value unit = .ok text) (failure : Failure)
    (failed : (r.addPoint name kind value unit).2 = .error failure) : failure.isRefusal = true := by
  rcases r.addPoint_failed _ name kind value unit failure (Prod.ext rfl failed) with ⟨refused,-⟩ | ⟨-,-,unwritten⟩
  · unfold admitPoint at refused
    simp only [typed,if_false] at refused
    cases named : r.checkName (Text.lowercase name) with
    | error taken =>
      simp only [named] at refused
      cases refused
      exact r.checkName_refusal _ _ named
    | ok _ =>
      simp only [named] at refused
      exact checkPoint_refusal r.delta _ kind value unit _
        (fun b member => sound.formed b (List.mem_of_mem_filter member)) finite text written failure refused
  · rw [written] at unwritten
    cases unwritten

theorem addQuery_refusal (r : Registry) (name raw : String) (failure : Failure)
    (failed : (r.addQuery name raw).2 = .error failure) : failure.isRefusal = true := by
  simp only [addQuery] at failed
  cases free : r.checkName (Text.lowercase name) with
  | error refusal =>
    simp only [free] at failed
    cases failed
    exact r.checkName_refusal _ _ free
  | ok _ => simp [free] at failed

end Registry

theorem pointText_brief (cs word : List Char) (value : Decimal) (unit : LengthUnit) (brief : HasBriefNumerals cs)
    (inside : word <:+: cs) (read : pointOf? word = some (value, unit)) : ∃ text, pointText value unit = .ok text := by
  have finite := Reading.pointOf_finite word value unit read
  have quiet : value.isSignaling = false := by
    cases value <;> simp_all [Decimal.isFinite,Decimal.isSignaling]
  have small : (10 : ℚ) ^ 1000 < Decimal.roundingLimit := by
    refine lt_trans ?_ Decimal.roundingLimit_decade.1
    rw [← zpow_natCast]
    exact zpow_lt_zpow_right₀ (by norm_num) (by decide)
  exact (pointText_ok_iff value unit).mpr ⟨quiet,(brief.point_lt inside value unit read).trans small⟩

theorem declareText_native (name : String) (cs : List Char) (l : Ledger) (sound : l.registry.Sound)
    (brief : HasBriefNumerals cs) (filled : (Text.trim cs).isEmpty = false)
    (native : ¬Reading.PairsForeign (Text.trim cs)) : ¬(declareText name (String.ofList (Text.trim cs))).Escapes l := by
  unfold declareText
  rw [String.toList_ofList,filled]
  simp only [Bool.false_eq_true,if_false]
  rcases Reading.ofText_native _ native with query | ⟨fault,malformed⟩ | ⟨kind,value,unit,point,typed,word,member,read⟩
  · rw [query,Pass.ofExcept_ok,pure_bind,Pass.escapes_discard,Pass.escapes_onRegistry]
    rintro ⟨failure,failed,escaped⟩
    simp [Registry.addQuery_refusal _ _ _ _ failed] at escaped
  · rw [malformed,Pass.ofExcept_ok,pure_bind,Pass.escapes_throw]
    simp [Failure.forBreakpoint,Failure.isRefusal]
  · have inside := (Text.word_infix _ word member).trans (Text.trim_infix cs)
    have finite := Reading.pointOf_finite word value unit read
    obtain ⟨text,written⟩ := pointText_brief cs word value unit brief inside read
    rw [point,Pass.ofExcept_ok,pure_bind,Pass.escapes_discard,Pass.escapes_onRegistry]
    rintro ⟨failure,failed,escaped⟩
    simp [Registry.addPoint_refusal _ _ kind value unit sound typed finite text written _ failed] at escaped

theorem declareText_escapes_iff (name : String) (cs : List Char) (l : Ledger) (sound : l.registry.Sound)
    (brief : HasBriefNumerals cs) :
    (declareText name (String.ofList (Text.trim cs))).Escapes l ↔ Reading.PairsForeign (Text.trim cs) := by
  cases blank : (Text.trim cs).isEmpty with
  | true =>
    have unpaired : ¬Reading.PairsForeign [] := by
      rintro ⟨type,value,unit,⟨-,word,-,order⟩,-⟩
      simp [Text.words] at order
    rw [List.isEmpty_iff.mp blank,declareText]
    simpa [Pass.escapes_throw,Failure.forBreakpoint,Failure.isRefusal] using unpaired
  | false =>
    by_cases foreign : Reading.PairsForeign (Text.trim cs)
    · obtain ⟨shown,failed⟩ := Reading.ofText_foreign _ foreign
      rw [declareText,String.toList_ofList,blank]
      simp [failed,foreign,Pass.escapes_bind,Pass.escapes_throw,Failure.isRefusal]
    · simp only [foreign,iff_false]
      exact declareText_native name cs l sound brief blank foreign

def Value.ofText? : Option String → Value
  | some s => .text s
  | none => .null

theorem declareOption_accepts (key : String) (value : Option String) (l : Ledger) :
    ¬(declareOption key (.ofText? value)).Escapes l := by
  obtain ⟨flag,read⟩ : ∃ flag, flagOf (.ofText? value) = .ok flag := by
    cases value <;> exact ⟨_,rfl⟩
  have accepted : ∃ r, (declareOption key (.ofText? value)).Leaves l r :=
    ⟨_,(declareOption_iff key _ l _).mpr ⟨flag,read,rfl⟩⟩
  rintro ⟨failure,after,failed,-⟩
  exact (Pass.fails_iff _ l).mp ⟨failure,after,failed⟩ accepted

theorem declareBreakpoint_escapes_iff (name : String) (value : Option String) (l : Ledger) (sound : l.registry.Sound)
    (brief : ∀ text ∈ value, HasBriefNumerals text.toList) :
    (Pass.ofExcept (trimmedValue (.ofText? value)) >>= declareBreakpoint name).Escapes l ↔
      ∃ text ∈ value, Reading.PairsForeign (Text.trim text.toList) := by
  cases value with
  | none =>
    have empty : trimmedValue (.ofText? none) = .ok (.text "") := rfl
    rw [empty,Pass.ofExcept_ok,pure_bind,declareBreakpoint,declareText]
    simp [Pass.escapes_throw,Failure.forBreakpoint,Failure.isRefusal]
  | some text =>
    have trimmed : trimmedValue (.ofText? (some text)) = .ok (.text (Text.trimmed text)) := rfl
    rw [trimmed,Pass.ofExcept_ok,pure_bind,declareBreakpoint,Text.trimmed,
      declareText_escapes_iff name text.toList l sound (brief text rfl)]
    simp

/-- Where texts are declared one after another, what is not accepted is refused, unless the property names a
breakpoint and the value pairs a point with the word `min` in foreign letters. -/
theorem declare_escapes_iff (delta : Decimal) (earlier : List (Value × Value)) (warnings : List String)
    (property value : Option String) (brief : ∀ text ∈ value, HasBriefNumerals text.toList) :
    (declare (.ofText? property) (.ofText? value)).Escapes ⟨.declared delta earlier, warnings⟩ ↔
      ∃ s ∈ property, ∃ name, Property.ofTrimmed (Text.trim s.toList) = .breakpoint name ∧
        ∃ text ∈ value, Reading.PairsForeign (Text.trim text.toList) := by
  have sound := Registry.declared_sound delta earlier
  unfold declare
  cases property with
  | none =>
    have other : Property.ofValue (.ofText? none) = .ok .other := rfl
    rw [other,Pass.ofExcept_ok,pure_bind]
    simp [Pass.escapes_pure]
  | some s =>
    have meant : Property.ofValue (.ofText? (some s)) = .ok (.ofTrimmed (Text.trim s.toList)) := rfl
    rw [meant,Pass.ofExcept_ok,pure_bind]
    cases meaning : Property.ofTrimmed (Text.trim s.toList) with
    | other => simp [meaning,Pass.escapes_pure]
    | option key =>
      simp only [Pass.escapes_then,declareOption_accepts]
      simp [meaning]
    | breakpoint name =>
      have step := declareBreakpoint_escapes_iff name value ⟨.declared delta earlier, warnings⟩ sound brief
      simp only [← bind_assoc,Pass.escapes_then]
      simpa [meaning] using step

/-- An i with a dot, after the point. -/
theorem declare_escapes_iff_wide :
    let value := "10px mİn"
    (∀ text ∈ some value, HasBriefNumerals text.toList) ∧
      (declare (.ofText? (some "Breakpoint-Wide")) (.ofText? (some value))).Escapes
        ⟨.declared defaultDelta [(.text "breakpoint-palm", .text "max 340px")], []⟩ := by
  intro value
  have brief : ∀ text ∈ some value, HasBriefNumerals text.toList := by
    rintro _ ⟨⟩
    exact .of_length (by decide)
  have paired : Reading.PairsForeign (Text.trim value.toList) :=
    ⟨['m', 'İ', 'n'],.finite false 10 0,.px,⟨rfl,['1', '0', 'p', 'x'],rfl,.inr (by decide +kernel)⟩,rfl⟩
  exact ⟨brief,(declare_escapes_iff _ _ _ _ _ brief).mpr ⟨_,rfl,"Wide",rfl,value,rfl,paired⟩⟩

/-- A dotless i is taken for an i, and names no kind after that. -/
theorem declare_escapes_dotless :
    let before : Ledger := ⟨.declared defaultDelta [], []⟩
    HasBriefNumerals "mın 10px".toList ∧
      declare (.text "breakpoint-a") (.text "mın 10px") before = .error (.unknownName .kind "'mın'") before ∧
      (Failure.unknownName .kind "'mın'").isRefusal = false := by
  intro before
  have meant : Property.ofValue (.text "breakpoint-a") = .ok (.breakpoint "a") := by decide +kernel
  have trimmed : trimmedValue (.text "mın 10px") = .ok (.text "mın 10px") := by decide +kernel
  have read : Reading.ofText "mın 10px".toList = .error (.unknownName .kind "'mın'") := by decide +kernel
  have present : "mın 10px".toList.isEmpty = false := rfl
  refine ⟨.of_length (by decide),?_,rfl⟩
  simp only [declare,declareBreakpoint,declareText,meant,trimmed,read,present,Pass.ofExcept_ok,Pass.ofExcept_error,
    pure_bind,Pass.bind_run]
  rfl

end MediaTiers
