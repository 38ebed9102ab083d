/-! Steps that may fail, one after another: the outcome of the first decides whether the second is taken. -/
namespace MediaTiers.Attempt

variable {ε α β : Type}

@[simp]
theorem ok_bind (a : α) (next : α → Except ε β) : (Except.ok a >>= next) = next a := rfl

@[simp]
theorem error_bind (fault : ε) (next : α → Except ε β) :
    ((Except.error fault : Except ε α) >>= next) = .error fault := rfl

@[simp]
theorem pure_ok (a : α) : (pure a : Except ε α) = .ok a := rfl

@[simp]
theorem throw_error (fault : ε) : (throw fault : Except ε α) = .error fault := rfl

theorem bind_success (first : Except ε α) (next : α → Except ε β) (b : β)
    (ok : (first >>= next) = .ok b) : ∃ a, first = .ok a ∧ next a = .ok b := by
  cases first with
  | error fault => simp at ok
  | ok a => exact ⟨a,rfl,ok⟩

theorem map_success (f : α → β) (first : Except ε α) (b : β) (ok : f <$> first = .ok b) :
    ∃ a, first = .ok a ∧ f a = b := by
  cases first with
  | error fault => cases ok
  | ok a => exact ⟨a,rfl,Except.ok.inj ok⟩

theorem mapM_mem (step : α → Except ε β) (row : List α) (after : List β) (ok : row.mapM step = .ok after) :
    ∀ b ∈ after, ∃ a ∈ row, step a = .ok b := by
  induction row generalizing after with
  | nil =>
    cases ok
    simp
  | cons a row ih =>
    rw [List.mapM_cons] at ok
    obtain ⟨first,stepped,rest⟩ := bind_success _ _ _ ok
    obtain ⟨others,later,joined⟩ := bind_success _ _ _ rest
    cases joined
    rw [List.forall_mem_cons]
    refine ⟨⟨a,by simp,stepped⟩,fun b member => ?_⟩
    obtain ⟨source,inside,gives⟩ := ih others later b member
    exact ⟨source,by simp [inside],gives⟩

theorem mapM_some_success (step : α → Except ε β) (a : α) (after : Option β)
    (ok : (some a).mapM step = .ok after) : ∃ b, step a = .ok b ∧ after = some b := by
  have stepped : (some a).mapM step = (step a).map some := rfl
  rw [stepped] at ok
  cases outcome : step a with
  | error fault =>
    rw [outcome] at ok
    cases ok
  | ok b =>
    rw [outcome] at ok
    cases ok
    exact ⟨b,rfl,rfl⟩

theorem mapM_isSome (step : α → Except ε β) (before : Option α) (after : Option β)
    (ok : before.mapM step = .ok after) : after.isSome = before.isSome := by
  cases before with
  | none =>
    cases ok
    rfl
  | some a =>
    obtain ⟨b,-,rfl⟩ := mapM_some_success step a after ok
    rfl

variable {p q : Prop} {fault : ε}

/-- Succeeds if the condition holds, and fails in one way otherwise. -/
def Hinges (outcome : Except ε α) (condition : Prop) (fault : ε) : Prop :=
  (condition → ∃ a, outcome = .ok a) ∧ (¬condition → outcome = .error fault)

theorem hinges_ok (a : α) : Hinges (.ok a) True fault :=
  ⟨fun _ => ⟨a,rfl⟩,fun absurdity => absurd trivial absurdity⟩

theorem Hinges.of_iff {outcome : Except ε α} (hinges : Hinges outcome p fault) (same : p ↔ q) : Hinges outcome q fault :=
  ⟨fun given => hinges.1 (same.mpr given),fun missing => hinges.2 (mt same.mp missing)⟩

theorem Hinges.bind {first : Except ε α} {next : α → Except ε β} (hinges : Hinges first p fault)
    (later : ∀ a, first = .ok a → Hinges (next a) q fault) : Hinges (first >>= next) (p ∧ q) fault := by
  by_cases given : p
  · obtain ⟨a,ok⟩ := hinges.1 given
    rw [ok,ok_bind]
    exact (later a ok).of_iff (by simp [given])
  · rw [hinges.2 given,error_bind]
    exact ⟨fun both => absurd both.1 given,fun _ => rfl⟩

theorem Hinges.fault_eq {outcome : Except ε α} (hinges : Hinges outcome p fault) {failure : ε}
    (failed : outcome = .error failure) : failure = fault := by
  by_cases given : p
  · obtain ⟨a,ok⟩ := hinges.1 given
    rw [failed] at ok
    cases ok
  · exact Except.error.inj (failed.symm.trans (hinges.2 given))

theorem Hinges.iff {outcome : Except ε α} (hinges : Hinges outcome p fault) : (∃ a, outcome = .ok a) ↔ p := by
  refine ⟨?_,hinges.1⟩
  rintro ⟨a,ok⟩
  by_cases given : p
  · exact given
  · rw [hinges.2 given] at ok
    cases ok

theorem hinges_mapM (step : α → Except ε β) (good : α → Prop) (row : List α)
    (each : ∀ a ∈ row, Hinges (step a) (good a) fault) : Hinges (row.mapM step) (∀ a ∈ row, good a) fault := by
  induction row with
  | nil => exact (hinges_ok []).of_iff (by simp)
  | cons a row ih =>
    have first := each a (by simp)
    have rest := ih fun b member => each b (by simp [member])
    rw [List.mapM_cons]
    refine (first.bind fun b _ => rest.bind fun bs _ => hinges_ok (b :: bs)).of_iff ?_
    simp only [List.forall_mem_cons,and_true]

end MediaTiers.Attempt
