import MediaTiers.Proofs.Attempt
import MediaTiers.Proofs.Decimal.Rational
import MediaTiers.Value.Display

/-! Which values can be shown in a message: all but those that show a whole number of too many digits. -/
namespace MediaTiers

theorem Integer.text_hinges (n : Int) :
    Attempt.Hinges (Integer.text n) (n.natAbs < 10 ^ Integer.maxDigits) (.tooManyDigits none) := by
  have length := Decimal.digitCount_le_iff n.natAbs Integer.maxDigits (by decide)
  unfold Integer.text
  constructor
  · intro small
    have short : ¬(Decimal.digits n.natAbs).length > Integer.maxDigits := Nat.not_lt.mpr (length.mpr small)
    exact ⟨toString n,if_neg short⟩
  · intro large
    have long : (Decimal.digits n.natAbs).length > Integer.maxDigits := Nat.lt_of_not_le (mt length.mp large)
    exact if_pos long

namespace Value

mutual

/-- Whether a message that shows the value has to write a whole number of too many digits. `outer` holds the marks of
the collections around the value, which are not shown again. -/
def showsLong (outer : List Nat) : Value → Bool
  | .int n => 10 ^ Integer.maxDigits ≤ n.natAbs
  | .list items | .tuple items | .set items => showsLongAll outer items
  | .map entries => showsLongEntries outer entries
  | .shared mark v | .cyclic mark v => !outer.contains mark && showsLong (mark :: outer) v
  | _ => false

def showsLongAll (outer : List Nat) : List Value → Bool
  | [] => false
  | v :: vs => showsLong outer v || showsLongAll outer vs

def showsLongEntries (outer : List Nat) : List (Value × Value) → Bool
  | [] => false
  | (k, v) :: es => showsLong outer k || showsLong outer v || showsLongEntries outer es

end

theorem lookup_mark (outer : List (Nat × String)) (mark : Nat) :
    (outer.map (·.1)).contains mark = (outer.lookup mark).isSome := by
  induction outer with
  | nil => rfl
  | cons entry outer ih =>
    rw [List.map_cons,List.contains_cons,List.lookup_cons,ih]
    cases mark == entry.1 <;> rfl

mutual

theorem displayWithin_hinges (outer : List (Nat × String)) : (v : Value) →
    Attempt.Hinges (displayWithin outer v) (v.showsLong (outer.map (·.1)) = false) (.tooManyDigits none)
  | .int n => (Integer.text_hinges n).of_iff (by simp [showsLong])
  | .list items => by
    refine ((displayAll_hinges outer items).bind fun shown _ => Attempt.hinges_ok _).of_iff ?_
    simp only [showsLong,and_true]
  | .tuple items => by
    refine ((displayAll_hinges outer items).bind (q := True) fun shown _ => ?_).of_iff ?_
    · split <;> exact Attempt.hinges_ok _
    · simp only [showsLong,and_true]
  | .set items => by
    refine ((displayAll_hinges outer items).bind (q := True) fun shown _ => ?_).of_iff ?_
    · split <;> exact Attempt.hinges_ok _
    · simp only [showsLong,and_true]
  | .map entries => by
    refine ((displayEntries_hinges outer entries).bind fun shown _ => Attempt.hinges_ok _).of_iff ?_
    simp only [showsLong,and_true]
  | .shared mark v | .cyclic mark v => by
    rw [displayWithin,showsLong,lookup_mark]
    cases outer.lookup mark with
    | some short => exact (Attempt.hinges_ok short).of_iff (by simp)
    | none =>
      refine (displayWithin_hinges ((mark, v.ellipsis) :: outer) v).of_iff ?_
      simp
  | .null | .bool _ | .float _ | .text _ | .bytes _ | .day _ | .moment _ | .again _ =>
    (Attempt.hinges_ok _).of_iff (by simp [showsLong])

theorem displayAll_hinges (outer : List (Nat × String)) : (vs : List Value) →
    Attempt.Hinges (displayAll outer vs) (showsLongAll (outer.map (·.1)) vs = false) (.tooManyDigits none)
  | [] => (Attempt.hinges_ok _).of_iff (by simp [showsLongAll])
  | v :: vs => by
    refine ((displayWithin_hinges outer v).bind fun first _ =>
      (displayAll_hinges outer vs).bind fun rest _ => Attempt.hinges_ok (first :: rest)).of_iff ?_
    simp only [showsLongAll,Bool.or_eq_false_iff,and_true]

theorem displayEntries_hinges (outer : List (Nat × String)) : (es : List (Value × Value)) →
    Attempt.Hinges (displayEntries outer es) (showsLongEntries (outer.map (·.1)) es = false) (.tooManyDigits none)
  | [] => (Attempt.hinges_ok _).of_iff (by simp [showsLongEntries])
  | (k, v) :: es => by
    refine ((displayWithin_hinges outer k).bind fun key _ => (displayWithin_hinges outer v).bind fun value _ =>
      (displayEntries_hinges outer es).bind fun rest _ => Attempt.hinges_ok ((key ++ ": " ++ value) :: rest)).of_iff ?_
    simp only [showsLongEntries,Bool.or_eq_false_iff,and_true,and_assoc]

end

theorem display_hinges (v : Value) : Attempt.Hinges v.display (v.showsLong [] = false) (.tooManyDigits none) :=
  displayWithin_hinges [] v

theorem showsLong_content (v : Value) (silent : ∀ outer, v.content.showsLong outer = false) : v.showsLong [] = false := by
  cases v with
  | shared mark v | cyclic mark v =>
    have inner : v.showsLong [mark] = false := silent [mark]
    simp [showsLong,inner]
  | _ => exact silent []

theorem plain_hinges (v : Value) : Attempt.Hinges v.plain (v.showsLong [] = false) (.tooManyDigits none) := by
  -- A text, a day and a moment are written in another way, but they show no whole number.
  have silent (text : String) (bare : ∀ outer, v.content.showsLong outer = false) :
      Attempt.Hinges (.ok text) (v.showsLong [] = false) (Failure.tooManyDigits none) :=
    (Attempt.hinges_ok text).of_iff (by simp [v.showsLong_content bare])
  unfold plain
  split
  next s held => exact silent s fun outer => by simp [held,showsLong]
  next d held => exact silent d.iso fun outer => by simp [held,showsLong]
  next m held => exact silent (m.iso " ") fun outer => by simp [held,showsLong]
  next => exact v.display_hinges

end Value
end MediaTiers
