import MediaTiers.Registry

/-! Registering a row of declarations. What a pass keeps of the row is known from the row alone: it keeps the
declarations that declare neither an option nor a breakpoint. -/
namespace MediaTiers

namespace Pass

variable {α β : Type}

@[simp]
theorem ofExcept_ok (a : α) : Pass.ofExcept (.ok a) = pure a := rfl

@[simp]
theorem ofExcept_error (failure : Failure) : (Pass.ofExcept (.error failure) : Pass α) = throw failure := rfl

@[simp]
theorem pure_run (a : α) (l : Ledger) : (pure a : Pass α) l = .ok a l := rfl

@[simp]
theorem throw_run (failure : Failure) (l : Ledger) :
    (throw failure : Pass α) l = .error failure l := rfl

theorem bind_run (x : Pass α) (f : α → Pass β) (l : Ledger) :
    (x >>= f) l = match x l with
      | .ok a after => f a after
      | .error failure after => .error failure after := by
  change EStateM.bind x f l = _
  unfold EStateM.bind
  cases x l <;> rfl

theorem bind_success (x : Pass α) (f : α → Pass β) (before after : Ledger) (b : β)
    (ok : (x >>= f) before = .ok b after) :
    ∃ a middle, x before = .ok a middle ∧ f a middle = .ok b after := by
  rw [bind_run] at ok
  cases first : x before with
  | ok a middle => exact ⟨a,middle,rfl,by simpa only [first] using ok⟩
  | error failure middle => simp [first] at ok

end Pass

/-- Whether a declaration declares neither an option nor a breakpoint. -/
def Declaration.isOther (d : Declaration) : Bool :=
  match Property.ofValue d.property with
  | .ok .other => true
  | _ => false

theorem Declaration.isOther_iff (d : Declaration) :
    d.isOther = true ↔ Property.ofValue d.property = .ok .other := by
  unfold isOther
  split <;> simp_all

def declareAll (ds : List Declaration) : Pass Unit :=
  ds.forM fun d => do let _ ← declare d.property d.value

theorem declareAll_nil : declareAll [] = pure () := rfl

theorem declareAll_cons (d : Declaration) (ds : List Declaration) :
    declareAll (d :: ds) = declare d.property d.value >>= fun _ => declareAll ds := by
  simp [declareAll]

theorem declareAll_append (ds es : List Declaration) :
    declareAll (ds ++ es) = declareAll ds >>= fun _ => declareAll es := by
  simp [declareAll,List.forM_append]

theorem declare_taken (d : Declaration) (before after : Ledger) (taken : Bool)
    (ok : declare d.property d.value before = .ok taken after) : taken = !d.isOther := by
  unfold declare at ok
  unfold Declaration.isOther
  cases read : Property.ofValue d.property with
  | error failure => simp [read,Pass.bind_run] at ok
  | ok property =>
    simp only [read,Pass.ofExcept_ok,pure_bind] at ok
    cases property with
    | other =>
      simp only [Pass.pure_run,EStateM.Result.ok.injEq] at ok
      simpa using ok.1.symm
    | option key =>
      obtain ⟨_,_,_,rest⟩ := Pass.bind_success _ _ _ _ _ ok
      simp only [Pass.pure_run,EStateM.Result.ok.injEq] at rest
      simpa using rest.1.symm
    | breakpoint name =>
      obtain ⟨_,_,_,rest⟩ := Pass.bind_success _ _ _ _ _ ok
      obtain ⟨_,_,_,rest⟩ := Pass.bind_success _ _ _ _ _ rest
      simp only [Pass.pure_run,EStateM.Result.ok.injEq] at rest
      simpa using rest.1.symm

theorem declare_other (d : Declaration) (other : d.isOther = true) :
    declare d.property d.value = pure false := by
  unfold declare
  rw [d.isOther_iff.mp other]
  rfl

theorem consume_eq (ds : List Declaration) :
    consume ds = declareAll ds >>= fun _ => pure (ds.filter (·.isOther)) := by
  induction ds with
  | nil => rfl
  | cons d ds ih =>
    rw [consume,declareAll_cons,ih]
    funext l
    simp only [bind_assoc,pure_bind,Pass.bind_run]
    cases first : declare d.property d.value l with
    | error failure after => rfl
    | ok taken after =>
      have known := declare_taken d l after taken first
      subst known
      cases other : d.isOther <;> simp [other]

theorem declareAll_declaring (ds : List Declaration) : declareAll (ds.filter (!·.isOther)) = declareAll ds := by
  induction ds with
  | nil => rfl
  | cons d ds ih =>
    cases other : d.isOther with
    | true =>
      rw [List.filter_cons_of_neg (by simp [other]),declareAll_cons,declare_other d other,pure_bind]
      exact ih
    | false =>
      rw [List.filter_cons_of_pos (by simp [other]),declareAll_cons,declareAll_cons,ih]

theorem declareAll_others (ds : List Declaration) (others : ∀ d ∈ ds, d.isOther = true) :
    declareAll ds = pure () := by
  have none : ds.filter (!·.isOther) = [] := by simpa using others
  rw [← declareAll_declaring,none,declareAll_nil]

end MediaTiers
