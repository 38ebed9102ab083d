import MediaTiers.Proofs.Registry.Refusal

/-! Sifting a declaration list that its owner goes on using. A success takes out of the list what declares something,
and the registry has all of that. A failure leaves the list whole, while the registry keeps what the declarations
before the failing one have brought to it, and nothing of that one. -/
namespace MediaTiers

namespace Pass

variable {α β : Type}

/-- A failure leaves the registry as it was; there may be new warnings. -/
def Atomic (x : Pass α) : Prop :=
  ∀ l failure after, x l = .error failure after → after.registry = l.registry

theorem atomic_pure (a : α) : (pure a : Pass α).Atomic := by
  intro l failure after failed
  cases failed

theorem atomic_throw (failure : Failure) : (throw failure : Pass α).Atomic := by
  intro l reason after failed
  cases failed
  rfl

theorem atomic_bind (x : Pass α) (f : α → Pass β) (idle : ∀ r, x.Keeps (· = r)) (rest : ∀ a, (f a).Atomic) :
    (x >>= f).Atomic := by
  -- The first part may come to its end, so it must not touch the registry at all.
  intro l failure after failed
  have kept : (x.after l).registry = l.registry := idle l.registry l rfl
  rw [bind_run] at failed
  unfold Pass.after at kept
  cases first : x l with
  | ok a middle =>
    rw [first] at failed kept
    exact (rest a middle failure after failed).trans kept
  | error reason middle =>
    rw [first] at failed kept
    cases failed
    exact kept

theorem atomic_then (x : Pass α) (b : β) (atomic : x.Atomic) : (x >>= fun _ => pure b).Atomic := by
  intro l failure after failed
  rw [bind_run] at failed
  cases first : x l with
  | ok a middle => simp [first] at failed
  | error reason middle =>
    rw [first] at failed
    cases failed
    exact atomic l failure after first

theorem atomic_discard (x : Pass α) (atomic : x.Atomic) : (discard x : Pass PUnit).Atomic := by
  rw [discard_eq]
  exact atomic_then x _ atomic

theorem atomic_onRegistry (step : Registry → Registry × Except Failure α)
    (refused : ∀ r after failure, step r = (after, .error failure) → after = r) : (onRegistry step).Atomic := by
  intro l failure after failed
  unfold onRegistry at failed
  rcases run : step l.registry with ⟨left,outcome⟩
  rw [run] at failed
  cases outcome with
  | ok a => cases failed
  | error reason =>
    cases failed
    exact refused l.registry left failure run

end Pass

theorem declareOption_atomic (key : String) (value : Value) : (declareOption key value).Atomic := by
  have set : (Pass.ofExcept (flagOf value) >>= fun flag =>
      Pass.onRegistry fun r => (r.setOption key flag, .ok ())).Atomic := by
    apply Pass.atomic_bind _ _ fun r => Pass.keeps_ofExcept _
    intro flag
    apply Pass.atomic_onRegistry
    intro r after failure refused
    cases refused
  unfold declareOption
  cases !knownOptionKeys.contains (Text.lowercase key) with
  | false => exact set
  | true => exact Pass.atomic_bind _ _ (fun r => Pass.keeps_warn _) fun _ => set

/-- A point is stored before it is written, but one read from brief numerals can be written. -/
theorem declareText_atomic (name : String) (cs : List Char) (brief : HasBriefNumerals cs) :
    (declareText name (String.ofList (Text.trim cs))).Atomic := by
  unfold declareText
  rw [String.toList_ofList]
  cases (Text.trim cs).isEmpty with
  | true => exact Pass.atomic_throw _
  | false =>
    simp only [Bool.false_eq_true,if_false]
    by_cases foreign : Reading.PairsForeign (Text.trim cs)
    · obtain ⟨shown,failed⟩ := Reading.ofText_foreign _ foreign
      rw [failed]
      exact Pass.atomic_throw _
    rcases Reading.ofText_native _ foreign with query | ⟨fault,malformed⟩ | ⟨kind,value,unit,point,-,word,member,read⟩
    · rw [query,Pass.ofExcept_ok,pure_bind]
      apply Pass.atomic_discard
      apply Pass.atomic_onRegistry
      intro r after failure refused
      exact r.addQuery_failed after name _ failure refused
    · rw [malformed,Pass.ofExcept_ok,pure_bind]
      exact Pass.atomic_throw _
    · have inside := (Text.word_infix _ word member).trans (Text.trim_infix cs)
      obtain ⟨text,written⟩ := pointText_brief cs word value unit brief inside read
      rw [point,Pass.ofExcept_ok,pure_bind]
      apply Pass.atomic_discard
      apply Pass.atomic_onRegistry
      intro r after failure refused
      rcases r.addPoint_failed after name kind value unit failure refused with ⟨-,same⟩ | ⟨-,-,unwritten⟩
      · exact same
      · rw [written] at unwritten
        cases unwritten

theorem trimmedValue_brief (value : Value) (s : String) (trimmed : trimmedValue value = .ok (.text s))
    (brief : ∀ t, value = .text t → HasBriefNumerals t.toList) :
    ∃ cs, HasBriefNumerals cs ∧ s = String.ofList (Text.trim cs) := by
  have nothing : s = "" → ∃ cs, HasBriefNumerals cs ∧ s = String.ofList (Text.trim cs) := by
    rintro rfl
    exact ⟨[],.of_length (by decide),rfl⟩
  unfold trimmedValue at trimmed
  split at trimmed
  next t =>
    cases trimmed
    exact ⟨t.toList,brief t rfl,rfl⟩
  next bs =>
    split at trimmed
    · cases trimmed
      exact nothing rfl
    · cases trimmed
  next =>
    split at trimmed
    · cases trimmed
      exact nothing rfl
    · cases trimmed

theorem declare_atomic (property value : Value) (brief : ∀ s, value = .text s → HasBriefNumerals s.toList) :
    (declare property value).Atomic := by
  unfold declare
  apply Pass.atomic_bind _ _ fun r => Pass.keeps_ofExcept _
  intro meant
  cases meant with
  | other => exact Pass.atomic_pure _
  | option key => exact Pass.atomic_then _ _ (declareOption_atomic key value)
  | breakpoint name =>
    cases trimmed : trimmedValue value with
    | error failure => exact Pass.atomic_throw failure
    | ok raw =>
      apply Pass.atomic_then
      cases raw with
      | text s =>
        obtain ⟨cs,few,rfl⟩ := trimmedValue_brief value s trimmed brief
        exact declareText_atomic name cs few
      | bytes bs =>
        rw [declareBreakpoint]
        split
        · exact Pass.atomic_throw _
        · exact Pass.atomic_throw _

/-- A row fails at one of its declarations, after all before it have been registered. -/
theorem declareAll_failed (ds : List Declaration) (l after : Ledger) (failure : Failure)
    (failed : declareAll ds l = .error failure after) :
    ∃ before d rest middle, ds = before ++ d :: rest ∧ declareAll before l = .ok () middle ∧
      declare d.property d.value middle = .error failure after := by
  induction ds generalizing l with
  | nil => cases failed
  | cons d ds ih =>
    rw [declareAll_cons,Pass.bind_run] at failed
    cases first : declare d.property d.value l with
    | error reason left =>
      rw [first] at failed
      cases failed
      exact ⟨[],d,ds,l,rfl,rfl,first⟩
    | ok taken next =>
      rw [first] at failed
      obtain ⟨before,e,rest,middle,rfl,passed,stopped⟩ := ih next failed
      refine ⟨d :: before,e,rest,middle,rfl,?_,stopped⟩
      rw [declareAll_cons,Pass.bind_run,first]
      exact passed

theorem sift_ok_iff (ds left : List Declaration) (l after : Ledger) (count : Nat) :
    sift (l, ds) = .ok count (after, left) ↔
      declareAll ds l = .ok () after ∧ left = ds.filter (·.isOther) ∧ count = (ds.filter (!·.isOther)).length := by
  have parts : ds.length - (ds.filter (·.isOther)).length = (ds.filter (!·.isOther)).length := by
    have whole := ds.length_eq_length_filter_add (·.isOther)
    omega
  simp only [sift,consume_eq,Pass.bind_run]
  cases declareAll ds l with
  | error failure middle => simp
  | ok _ middle =>
    simp only [Pass.pure_run,parts,EStateM.Result.ok.injEq,Prod.mk.injEq]
    grind

theorem sift_error_iff (ds left : List Declaration) (l after : Ledger) (failure : Failure) :
    sift (l, ds) = .error failure (after, left) ↔ declareAll ds l = .error failure after ∧ left = ds := by
  simp only [sift,consume_eq,Pass.bind_run]
  cases declareAll ds l with
  | error reason middle =>
    simp only [EStateM.Result.error.injEq,Prod.mk.injEq]
    grind
  | ok _ middle => simp

/-- Sifting is all or nothing for the list. For the registry it is exact up to the declaration that fails. -/
theorem sift_outcome (l : Ledger) (ds : List Declaration)
    (brief : ∀ d ∈ ds, ∀ s, d.value = .text s → HasBriefNumerals s.toList) :
    match sift (l, ds) with
    | .ok count (after, left) =>
      left = ds.filter (·.isOther) ∧ count = (ds.filter (!·.isOther)).length ∧
        declareAll (ds.filter (!·.isOther)) l = .ok () after
    | .error failure (after, left) =>
      left = ds ∧ ∃ before d rest count middle, ds = before ++ d :: rest ∧
        sift (l, before) = .ok count (middle, before.filter (·.isOther)) ∧
        declare d.property d.value middle = .error failure after ∧ after.registry = middle.registry := by
  split
  next count after left run =>
    obtain ⟨passed,rest,number⟩ := (sift_ok_iff ds left l after count).mp run
    exact ⟨rest,number,(declareAll_declaring ds).symm ▸ passed⟩
  next failure after left run =>
    obtain ⟨failed,whole⟩ := (sift_error_iff ds left l after failure).mp run
    obtain ⟨before,d,rest,middle,split,passed,stopped⟩ := declareAll_failed ds l after failure failed
    have member : d ∈ ds := by simp [split]
    refine ⟨whole,before,d,rest,_,middle,split,(sift_ok_iff _ _ _ _ _).mpr ⟨passed,rfl,rfl⟩,stopped,?_⟩
    exact declare_atomic d.property d.value (brief d member) middle failure after stopped

/-- A second point at the place of the first one. -/
theorem sift_outcome_palm :
    let l : Ledger := ⟨.empty defaultDelta, []⟩
    let ds := [declaration "breakpoint-palm" "max 340px", declaration "color" "red",
      declaration "breakpoint-phone" "340.0px max"]
    let failure : Failure := .duplicatePoint "phone" "max" "340px" "palm"
    ∃ after, sift (l, ds) = .error failure (after, ds) ∧
      ∃ before d rest count middle, ds = before ++ d :: rest ∧
        sift (l, before) = .ok count (middle, before.filter (·.isOther)) ∧
        declare d.property d.value middle = .error failure after ∧ after.registry = middle.registry := by
  intro l ds failure
  let palm : Breakpoint := .ofPoint "palm" .max (.finite false 340 0) .px defaultDelta
  let after : Ledger := ⟨.holding defaultDelta [palm] [], []⟩
  have brief : ∀ d ∈ ds, ∀ s, d.value = .text s → HasBriefNumerals s.toList := by
    simp [ds,declaration,HasBriefNumerals.of_length]
  have first : declare (.text "breakpoint-palm") (.text "max 340px") l = .ok true after := by
    rw [declare_point _ _ "palm" "max 340px" .max (.finite false 340 0) .px (by cbv) (by cbv) (by cbv)]
    have stored : l.registry.addPoint "palm" .max (.finite false 340 0) .px = (after.registry, .ok palm) := by cbv
    simp only [Pass.bind_run,Pass.onRegistry,stored]
    rfl
  have second : declare (.text "color") (.text "red") after = .ok false after := by cbv
  have third : declare (.text "breakpoint-phone") (.text "340.0px max") after = .error failure after := by
    rw [declare_point _ _ "phone" "340.0px max" .max (.finite false 3400 (-1)) .px (by cbv) (by cbv) (by cbv)]
    have refused : after.registry.addPoint "phone" .max (.finite false 3400 (-1)) .px =
      (after.registry, .error failure) := by cbv
    simp only [Pass.bind_run,Pass.onRegistry,refused]
  have failed : sift (l, ds) = .error failure (after, ds) := by
    refine (sift_error_iff ds ds l after failure).mpr ⟨?_,rfl⟩
    simp only [ds,declaration,declareAll_cons,Pass.bind_run,first,second,third]
  -- From here on the list itself is of no concern.
  clear_value l ds failure after
  have outcome := sift_outcome l ds brief
  rw [failed] at outcome
  exact ⟨after,failed,outcome.2⟩

end MediaTiers
