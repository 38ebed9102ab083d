import MediaTiers.Proofs.Decimal.Overflow
import MediaTiers.Proofs.Registry.Operation
import Mathlib

/-! What a failed registration leaves behind. All checks come before anything is stored, but the point is written
only after that. So a failure leaves the registry as it was, unless the point passed all checks and cannot be
written; then it stays, and its name is taken. -/
namespace MediaTiers

theorem pointText_ok_iff (value : Decimal) (unit : LengthUnit) :
    (∃ text, pointText value unit = .ok text) ↔
      value.isSignaling = false ∧ |value.rational| < Decimal.roundingLimit := by
  rw [← Decimal.plain_ok_iff,pointText]
  cases value.plain <;> simp [numeric]

namespace Registry

theorem push_ne (r : Registry) (b : Breakpoint) : r.push b ≠ r := by
  intro same
  have size := congrArg (fun s : Registry => s.breakpoints.length) same
  simp at size

theorem addPoint_failed (r after : Registry) (name : String) (kind : Kind) (value : Decimal) (unit : LengthUnit)
    (failure : Failure) (failed : r.addPoint name kind value unit = (after, .error failure)) :
    (r.admitPoint (Text.lowercase name) kind value unit = .error failure ∧ after = r) ∨
      (r.admitPoint (Text.lowercase name) kind value unit = .ok () ∧
        after = r.push (.ofPoint (Text.lowercase name) kind value unit r.delta) ∧
        pointText value unit = .error failure) := by
  simp only [addPoint] at failed
  cases admitted : r.admitPoint (Text.lowercase name) kind value unit with
  | error refusal =>
    simp only [admitted,Prod.mk.injEq,Except.error.injEq] at failed
    exact .inl ⟨congrArg Except.error failed.2,failed.1.symm⟩
  | ok _ =>
    simp only [admitted,Prod.mk.injEq] at failed
    refine .inr ⟨rfl,failed.1.symm.trans (r.store_point _ _ _ _ admitted),?_⟩
    have unwritten : ((pointText value unit).map fun _ =>
      Breakpoint.ofPoint (Text.lowercase name) kind value unit r.delta) = .error failure := failed.2
    cases written : pointText value unit with
    | ok text => simp [written,Except.map] at unwritten
    | error reason => simpa [written,Except.map] using unwritten

theorem addQuery_failed (r after : Registry) (name raw : String) (failure : Failure)
    (failed : r.addQuery name raw = (after, .error failure)) : after = r := by
  simp only [addQuery] at failed
  cases free : r.checkName (Text.lowercase name) with
  | error refusal =>
    simp only [free,Prod.mk.injEq] at failed
    exact failed.1.symm
  | ok _ => simp [free] at failed

theorem checkName_taken (r : Registry) (name : String) (taken : name ∈ r.names) :
    r.checkName name = .error (.duplicateName name) := by
  rw [checkName,if_pos (by simpa using taken)]

end Registry

/-- A registration: a point whose kind and unit are given by name, or a query. -/
inductive Registration where
  | point (name kind : String) (value : Except Failure Decimal) (unit : String)
  | query (name raw : String)

namespace Registration

def name : Registration → String
  | .point name _ _ _ => name
  | .query name _ => name

def run (r : Registry) : Registration → Registry × Except Failure Breakpoint
  | .point name kind value unit => r.addNamedPoint name kind value unit
  | .query name raw => r.addQuery name raw

/-- The words name this kind and this unit, and the value is this number. -/
def Gives (k : Kind) (x : Decimal) (u : LengthUnit) : Registration → Prop
  | .point _ kind value unit =>
    Kind.ofName (Text.lowercase kind) = .ok k ∧ LengthUnit.ofName (Text.lowercase unit) = .ok u ∧ value = .ok x
  | .query _ _ => False

/-- The value is no signaling NaN and does not round beyond the range. -/
def IsWritable (call : Registration) : Prop :=
  ∀ k x u, call.Gives k x u → x.isSignaling = false ∧ |x.rational| < Decimal.roundingLimit

def IsAdmitted (r : Registry) (call : Registration) : Prop :=
  ∃ k x u, call.Gives k x u ∧ r.admitPoint (Text.lowercase call.name) k x u = .ok ()

theorem Gives.run_eq {k : Kind} {x : Decimal} {u : LengthUnit} {call : Registration} (given : call.Gives k x u)
    (r : Registry) : call.run r = r.addPoint call.name k x u := by
  cases call with
  | query name raw => exact given.elim
  | point name kind value unit =>
    obtain ⟨kindRead,unitRead,rfl⟩ := given
    simp [run,Registry.addNamedPoint,kindRead,unitRead,Registration.name]

theorem run_taken (r : Registry) (call : Registration) (taken : Text.lowercase call.name ∈ r.names) :
    ∃ refusal, call.run r = (r, .error refusal) := by
  have refused := r.checkName_taken _ taken
  cases call with
  | query name raw =>
    simp only [Registration.name] at refused
    exact ⟨.duplicateName (Text.lowercase name),by simp only [run,Registry.addQuery,refused]⟩
  | point name kind value unit =>
    simp only [Registration.name] at refused
    rcases r.addNamedPoint_eq name kind unit value with ⟨failure,same⟩ | ⟨k,x,u,-,-,-,same⟩
    · exact ⟨failure,same⟩
    · rw [run,same]
      simp only [Registry.addPoint,Registry.admitPoint,refused]
      by_cases custom : k = .custom <;> simp [custom]

/-- A failure comes from the checks, with nothing stored, or from writing the point that has been stored. -/
theorem run_failed (r after : Registry) (call : Registration) (failure : Failure)
    (failed : call.run r = (after, .error failure)) :
    (after = r ∧ ¬call.IsAdmitted r) ∨
      (call.IsAdmitted r ∧ ∃ k x u, call.Gives k x u ∧ pointText x u = .error failure ∧
        after = r.push (.ofPoint (Text.lowercase call.name) k x u r.delta)) := by
  by_cases admitted : call.IsAdmitted r
  · obtain ⟨k,x,u,given,passed⟩ := admitted
    rw [given.run_eq] at failed
    rcases r.addPoint_failed after _ k x u failure failed with ⟨refused,-⟩ | ⟨-,stored,unwritten⟩
    · rw [passed] at refused
      cases refused
    · exact .inr ⟨⟨k,x,u,given,passed⟩,k,x,u,given,unwritten,stored⟩
  · refine .inl ⟨?_,admitted⟩
    cases call with
    | query name raw => exact r.addQuery_failed after name raw failure failed
    | point name kind value unit =>
      rcases r.addNamedPoint_eq name kind unit value with ⟨refusal,same⟩ | ⟨k,x,u,kindRead,unitRead,valueRead,same⟩
      · rw [run,same] at failed
        exact (Prod.mk.inj failed).1.symm
      · rw [run,same] at failed
        rcases r.addPoint_failed after name k x u failure failed with ⟨-,unchanged⟩ | ⟨passed,-⟩
        · exact unchanged
        · exact absurd ⟨k,x,u,⟨kindRead,unitRead,valueRead⟩,passed⟩ admitted

/-- A failed registration leaves the registry as it was exactly if its value can be written or it did not get
past the checks. Otherwise the point stays, and no registration under its name succeeds any more. -/
theorem failed_registration_iff (r after : Registry) (call : Registration) (failure : Failure)
    (failed : call.run r = (after, .error failure)) :
    (after = r ↔ call.IsWritable ∨ ¬call.IsAdmitted r) ∧
      (after ≠ r → ∀ later : Registration, Text.lowercase later.name = Text.lowercase call.name →
        ∃ refusal, later.run after = (after, .error refusal)) := by
  rcases run_failed r after call failure failed with ⟨unchanged,refused⟩ | ⟨admitted,k,x,u,given,unwritten,rfl⟩
  · exact ⟨by simp [unchanged,refused],fun changed => absurd unchanged changed⟩
  · have unwritable : ¬call.IsWritable := by
      intro writable
      obtain ⟨text,written⟩ := (pointText_ok_iff x u).mpr (writable k x u given)
      rw [written] at unwritten
      cases unwritten
    refine ⟨by simp [r.push_ne,unwritable,admitted],?_⟩
    intro _ later sameName
    refine run_taken _ later ?_
    rw [Registry.push_names,sameName]
    exact List.mem_append_right _ (List.mem_singleton_self _)

/-- A point at a place that is taken, in another spelling of the number. -/
theorem failed_registration_iff_palm :
    let r : Registry := .holding defaultDelta [.ofPoint "palm" .max (.finite false 340 0) .px defaultDelta] []
    let call : Registration := .point "phone" "MAX" (.ok (.finite false 3400 (-1))) "px"
    call.run r = (r, .error (.duplicatePoint "phone" "max" "340px" "palm")) ∧
      (call.IsWritable ∨ ¬call.IsAdmitted r) := by
  intro r call
  have failed : call.run r = (r, .error (.duplicatePoint "phone" "max" "340px" "palm")) := by cbv
  exact ⟨failed,(failed_registration_iff r r call _ failed).1.mp rfl⟩

/-- A point too large to be written is reported as a failure and stored all the same, so that its name cannot be
registered any more. -/
theorem failed_registration_stores_point :
    let r := Registry.empty defaultDelta
    let call : Registration := .point "palm" "max" (.ok (.finite false 1 1000000)) "px"
    let again : Registration := .point "palm" "max" (.ok (.finite false 340 0)) "px"
    ∃ after, call.run r = (after, .error (.number .overflow)) ∧ after ≠ r ∧
      again.run after = (after, .error (.duplicateName "palm")) := by
  intro r call again
  refine ⟨r.push (.ofPoint "palm" .max (.finite false 1 1000000) .px defaultDelta),?_,r.push_ne _,?_⟩
  · cbv
  · cbv

end Registration
end MediaTiers
