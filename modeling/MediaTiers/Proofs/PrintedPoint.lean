import MediaTiers.Proofs.Decimal.Canonical
import MediaTiers.Proofs.Registry.Invariant

/-! Printed points read back. Plain notation lies inside the grammar of points, so a point in writing, next to its type,
denotes the point it was printed for; declared once more under another name it is found to be taken. -/
namespace MediaTiers

theorem Decimal.Canonical.numeral {q : ℚ} {text : List Char} (canonical : Canonical q text) (sign : 0 ≤ q) :
    ∃ v : Decimal, Numeral text v ∧ v.isFinite = true ∧ v.rational = q := by
  obtain ⟨whole,fraction,filled,digits,-,-,value⟩ := canonical
  refine ⟨.finite false (Nat.ofDigitChars 10 (whole ++ fraction) 0) (-fraction.length),?_,rfl,?_⟩
  · have unsigned : signText (q < 0) = [] := by simp [signText,not_lt.mpr sign]
    rw [unsigned,List.nil_append]
    cases fraction with
    | nil => simpa [pointed] using Numeral.whole whole filled (by simpa using digits)
    | cons d ds => exact .pointed whole (d :: ds) filled digits
  · rw [abs_of_nonneg sign] at value
    exact value.symm

theorem Numeral.ascii {cs : List Char} {value : Decimal} (numeral : Numeral cs value) : IsAscii cs := by
  have small : ∀ c ∈ Decimal.plainChars, c.toNat < 0x80 := List.all_iff_forall_prop.mp (by decide)
  exact fun c member => small c (numeral.plain c member)

theorem Kind.typeToken (kind : Kind) (typed : kind ≠ .custom) : TypeToken kind.name.toList kind := by
  cases kind with
  | min => exact ⟨.inl rfl,by decide⟩
  | max => exact ⟨.inr rfl,by decide⟩
  | custom => exact absurd rfl typed

theorem Kind.ascii (kind : Kind) : IsAscii kind.name.toList := by
  cases kind <;> exact List.all_iff_forall_prop.mp (by decide)

theorem LengthUnit.ascii (unit : LengthUnit) : IsAscii unit.name.toList := by
  cases unit <;> exact List.all_iff_forall_prop.mp (by decide)

/-- What is printed for a point is a point token for the same place. -/
theorem pointText_token (value : Decimal) (unit : LengthUnit) (finite : value.isFinite = true)
    (sign : 0 ≤ value.rational) (fits : Decimal.Representable value.rational) :
    ∃ point again, pointText value unit = .ok point ∧ IsAscii point.toList ∧ PointToken point.toList again unit ∧
      again.isFinite = true ∧ again.rational = value.rational := by
  obtain ⟨text,written,canonical⟩ := Decimal.plain_representable value finite fits
  obtain ⟨again,numeral,againFinite,same⟩ := canonical.numeral sign
  refine ⟨text ++ unit.name,again,?_,?_,?_,againFinite,same⟩
  · rw [pointText,written]
    rfl
  · rw [String.toList_append]
    exact List.forall_mem_append.mpr ⟨numeral.ascii,unit.ascii⟩
  · refine ⟨text.toList,unit.name.toList,String.toList_append,numeral,?_⟩
    cases unit <;> decide

def inEitherOrder (type point : String) : List String :=
  [type ++ " " ++ point, point ++ " " ++ type]

theorem mem_inEitherOrder {type point text : String} (member : text ∈ inEitherOrder type point) :
    ∃ first second, text.toList = first.toList ++ ' ' :: second.toList ∧
      (first = type ∧ second = point ∨ first = point ∧ second = type) := by
  rcases List.mem_pair.mp member with rfl | rfl
  · exact ⟨type,point,by simp,.inl ⟨rfl,rfl⟩⟩
  · exact ⟨point,type,by simp,.inr ⟨rfl,rfl⟩⟩

theorem typedPoint_printed (kind : Kind) (value : Decimal) (unit : LengthUnit) (point text : String)
    (typed : kind ≠ .custom) (ascii : IsAscii point.toList) (token : PointToken point.toList value unit)
    (member : text ∈ inEitherOrder kind.name point) :
    IsAscii text.toList ∧ TypedPoint kind value unit text.toList ∧ Text.trimmed text = text := by
  obtain ⟨first,second,parts,order⟩ := mem_inEitherOrder member
  have type := kind.typeToken typed
  have solid : Text.IsSolid first.toList ∧ Text.IsSolid second.toList := by
    rcases order with ⟨rfl,rfl⟩ | ⟨rfl,rfl⟩
    · exact ⟨type.solid,token.solid⟩
    · exact ⟨token.solid,type.solid⟩
  have blank : Text.AllBlank [' '] := List.forall_mem_singleton.mpr rfl
  refine ⟨?_,?_,?_⟩
  · rw [parts]
    refine List.forall_mem_append.mpr ?_
    rcases order with ⟨rfl,rfl⟩ | ⟨rfl,rfl⟩
    · exact ⟨kind.ascii,List.forall_mem_cons.mpr ⟨by decide,ascii⟩⟩
    · exact ⟨ascii,List.forall_mem_cons.mpr ⟨by decide,kind.ascii⟩⟩
  · have pair : TypedPoint kind value unit ([] ++ first.toList ++ [' '] ++ second.toList ++ []) := by
      apply TypedPoint.intro [] first.toList [' '] second.toList [] (by simp [Text.AllBlank]) blank (by simp)
        (by simp [Text.AllBlank])
      rcases order with ⟨rfl,rfl⟩ | ⟨rfl,rfl⟩
      · exact .inl ⟨type,token⟩
      · exact .inr ⟨token,type⟩
    simpa [parts] using pair
  · have trimmed : Text.trim text.toList = text.toList := by
      rw [parts]
      apply Text.trim_of_ends
      · rw [List.head?_append_of_ne_nil _ solid.1.1]
        exact fun c head => solid.1.2 c (List.mem_of_mem_head? head)
      · rw [List.getLast?_append_of_ne_nil _ (by simp),List.getLast?_cons_of_ne_nil solid.2.1]
        exact fun c last => solid.2.2 c (List.mem_of_getLast? last)
    rw [Text.trimmed,trimmed,String.ofList_toList]

/-- A name that a property can carry: not empty, on one line, and without white space at its end. -/
structure IsSubject (name : String) : Prop where
  filled : name.toList ≠ []
  oneLine : '\n' ∉ name.toList
  ends : ∀ c ∈ name.toList.getLast?, Text.isBlank c = false

theorem IsSubject.declares {name : String} (subject : IsSubject name) :
    Property.ofValue (.text ("breakpoint-" ++ name)) = .ok (.breakpoint name) := by
  have trimmed : Text.trim ("breakpoint-" ++ name).toList = "breakpoint-".toList ++ name.toList := by
    rw [String.toList_append]
    apply Text.trim_of_ends
    · intro c head
      cases head
      decide
    · rw [List.getLast?_append_of_ne_nil _ subject.filled]
      exact subject.ends
  have unmarked : Text.after? "var-".toList ("breakpoint-".toList ++ name.toList) = none := rfl
  have plural : Text.after? "breakpoints-".toList ("breakpoint-".toList ++ name.toList) = none := rfl
  have singular : Text.after? "breakpoint-".toList ("breakpoint-".toList ++ name.toList) = some name.toList := rfl
  have taken : (!name.toList.isEmpty && !name.toList.contains '\n') = true := by
    simp [subject.filled,subject.oneLine]
  have noOption : Property.subject? "breakpoints-" ("breakpoint-".toList ++ name.toList) = none := by
    rw [Property.subject?,unmarked,Option.getD_none,plural]
    rfl
  have named : Property.subject? "breakpoint-" ("breakpoint-".toList ++ name.toList) = some name := by
    rw [Property.subject?,unmarked,Option.getD_none,singular]
    simp only [Option.bind_eq_bind,Option.bind_some,taken,guard_true,Option.pure_def,String.ofList_toList]
  rw [Property.ofValue,trimmed,Property.ofTrimmed,noOption,named]

namespace Registry

theorem checkPoint_found (name : String) (kind : Kind) (value : Decimal) (unit : LengthUnit) (others : List Breakpoint)
    (b : Breakpoint) (point : String) (member : b ∈ others) (written : pointText value unit = .ok point)
    (sits : ∀ c ∈ others, sitsAt value unit c = .ok (decide (c = b))) :
    checkPoint name kind value unit others = .error (.duplicatePoint name kind.name point b.name) := by
  induction others with
  | nil => cases member
  | cons c others ih =>
    rw [checkPoint,sits c (by simp),Attempt.ok_bind]
    by_cases here : c = b
    · simp [here,written]
    · have later : b ∈ others := (List.mem_cons.mp member).resolve_left (Ne.symm here)
      have rest := ih later fun d inside => sits d (by simp [inside])
      simpa [here] using rest

theorem WellKept.eq_of_sharesPoint {r : Registry} (kept : r.WellKept) (a b : Breakpoint) (aMember : a ∈ r.breakpoints)
    (bMember : b ∈ r.breakpoints) (shared : a.SharesPoint b) : a = b := by
  have turned (a b : Breakpoint) (shared : a.SharesPoint b) : b.SharesPoint a := by
    obtain ⟨typed,kind,unit,place,aPlace,bPlace⟩ := shared
    exact ⟨kind ▸ typed,kind.symm,unit.symm,place,bPlace,aPlace⟩
  have symmetric : Std.Symm fun a b : Breakpoint => ¬a.SharesPoint b := ⟨fun a b apart shared => apart (turned b a shared)⟩
  by_contra different
  exact kept.apart.forall aMember bMember different shared

/-- Among finite points of one kind, no other one sits where a registered one does. -/
theorem WellKept.sitsAt_eq {r : Registry} (kept : r.WellKept)
    (finite : ∀ c ∈ r.breakpoints, ∀ v ∈ c.value, v.isFinite = true) (b : Breakpoint) (value again : Decimal)
    (unit : LengthUnit) (typed : b.kind ≠ .custom) (member : b ∈ r.breakpoints) (held : b.value = some value)
    (measured : b.unit = some unit) (againFinite : again.isFinite = true) (same : again.rational = value.rational) :
    ∀ c ∈ r.ofKind b.kind, sitsAt again unit c = .ok (decide (c = b)) := by
  intro c among
  have inside := List.mem_of_mem_filter among
  have sameKind := r.kind_of_mem b.kind c among
  obtain ⟨hasValue,hasUnit,-⟩ := (kept.parts c inside).1 (sameKind ▸ typed)
  obtain ⟨w,cHeld⟩ := Option.isSome_iff_exists.mp hasValue
  obtain ⟨u,cMeasured⟩ := Option.isSome_iff_exists.mp hasUnit
  have wFinite := finite c inside w cHeld
  have valueFinite := finite b member value held
  have level := Decimal.equal_finite w again wFinite againFinite
  have itself : (u = unit ∧ w.rational = again.rational) ↔ c = b := by
    constructor
    · rintro ⟨rfl,level⟩
      apply kept.eq_of_sharesPoint c b inside member
      refine ⟨sameKind ▸ typed,sameKind,cMeasured.trans measured.symm,((w.rational : WithTop ℚ) : WithBot (WithTop ℚ)),?_,?_⟩
      · rw [cHeld,Option.bind_some,w.place_finite wFinite]
      · rw [held,Option.bind_some,value.place_finite valueFinite,← same,← level]
    · rintro rfl
      rw [cHeld] at held
      rw [cMeasured] at measured
      cases held
      cases measured
      exact ⟨rfl,same.symm⟩
  simp only [sitsAt,cHeld,cMeasured,level,numeric,← itself]
  by_cases units : u = unit <;> simp [units]

/-- A point that is taken is refused, and the report names the breakpoint that sits there. -/
theorem WellKept.addPoint_taken {r : Registry} (kept : r.WellKept)
    (finite : ∀ c ∈ r.breakpoints, ∀ v ∈ c.value, v.isFinite = true) (b : Breakpoint) (value again : Decimal)
    (unit : LengthUnit) (point name : String) (typed : b.kind ≠ .custom) (member : b ∈ r.breakpoints)
    (held : b.value = some value) (measured : b.unit = some unit) (againFinite : again.isFinite = true)
    (same : again.rational = value.rational) (written : pointText again unit = .ok point)
    (fresh : r.contains name = false) :
    r.addPoint name b.kind again unit =
      (r, .error (.duplicatePoint (Text.lowercase name) b.kind.name point b.name)) := by
  have free : r.checkName (Text.lowercase name) = .ok () :=
    (r.checkName_iff _).mpr ((r.contains_false_iff name).mp fresh)
  have among : b ∈ r.ofKind b.kind := List.mem_filter.mpr ⟨member,beq_self_eq_true _⟩
  have found := checkPoint_found (Text.lowercase name) b.kind again unit _ b point among written
    (kept.sitsAt_eq finite b value again unit typed member held measured againFinite same)
  simp [addPoint,admitPoint,typed,free,found]

end Registry

/-- A point in writing, next to its type in either order, reads as the same point; where it is registered, declaring it
once more under a fresh name is refused, and the registered breakpoint is named. -/
theorem Breakpoint.point_reads_back (b : Breakpoint) (value : Decimal) (unit : LengthUnit) (typed : b.isTyped = true)
    (held : b.value = some value) (measured : b.unit = some unit) (finite : value.isFinite = true)
    (sign : 0 ≤ value.rational) (moderate : Decimal.Moderate value.rational) :
    ∃ point, b.point = .ok point ∧ ∀ text ∈ inEitherOrder b.kind.name point,
      (∃ again, Reading.ofValue (.text text) = .ok (.point b.kind again unit) ∧ again.equal value = .ok true) ∧
      ∀ delta operations warnings name, b ∈ (Registry.afterAll delta operations).breakpoints →
        (∀ c ∈ (Registry.afterAll delta operations).breakpoints, ∀ v ∈ c.value, v.isFinite = true) →
        (Registry.afterAll delta operations).contains name = false → IsSubject name →
        declare (.text ("breakpoint-" ++ name)) (.text text) ⟨.afterAll delta operations, warnings⟩ =
          .error (.duplicatePoint (Text.lowercase name) b.kind.name point b.name)
            ⟨.afterAll delta operations, warnings⟩ := by
  have kind : b.kind ≠ .custom := by simpa [isTyped] using typed
  have fits := moderate.representable
  obtain ⟨point,again,written,ascii,token,againFinite,same⟩ := pointText_token value unit finite sign fits
  have rewritten : pointText again unit = .ok point := by
    rw [← written,pointText,pointText,Decimal.plain_congr again value againFinite finite _ same]
    exact same ▸ fits.lt_roundingLimit
  refine ⟨point,by rw [Breakpoint.point,held,measured]; exact written,?_⟩
  intro text member
  obtain ⟨textAscii,pair,trimmed⟩ := typedPoint_printed b.kind again unit point text kind ascii token member
  have read := pair.read textAscii
  refine ⟨⟨again,read,?_⟩,?_⟩
  · rw [Decimal.equal_finite again value againFinite finite,same]
    simp
  · intro delta operations warnings name registered allFinite fresh subject
    have stripped : trimmedValue (.text text) = .ok (.text text) := by rw [trimmedValue,trimmed]
    have taken := (Registry.afterAll_wellKept delta operations).addPoint_taken allFinite b value again unit point name kind
      registered held measured againFinite same rewritten fresh
    rw [declare_point _ _ name text b.kind again unit subject.declares stripped read,Pass.bind_run]
    simp only [Pass.onRegistry,taken]

/-- A point whose number is written with an exponent, declared again with the type behind it. -/
theorem Breakpoint.point_reads_back_palm :
    let b : Breakpoint := .ofPoint "palm" .max (.finite false 34 1) .px defaultDelta
    let operations : List Operation :=
      [.point "palm" .max (.finite false 34 1) .px, .query "tall" "(orientation: portrait)"]
    (b ∈ (Registry.afterAll defaultDelta operations).breakpoints ∧ b.point = .ok "340px") ∧
      declare (.text "breakpoint-phone") (.text "340px max") ⟨.afterAll defaultDelta operations, []⟩ =
        .error (.duplicatePoint "phone" "max" "340px" "palm") ⟨.afterAll defaultDelta operations, []⟩ := by
  intro b operations
  have held : Registry.afterAll defaultDelta operations =
      .holding defaultDelta [b, .ofQuery "tall" "(orientation: portrait)"] [] := by decide +kernel
  have sign : 0 ≤ (Decimal.finite false 34 1).rational := (Decimal.rational_pos 34 1 (by decide)).le
  have moderate := Decimal.moderate_finite false 34 1 (by decide) (by decide) (by decide)
  have written : b.point = .ok "340px" := by decide +kernel
  obtain ⟨point,printed,again⟩ := point_reads_back b (.finite false 34 1) .px rfl rfl rfl rfl sign moderate
  obtain rfl := Except.ok.inj (written.symm.trans printed)
  have registered : b ∈ (Registry.afterAll defaultDelta operations).breakpoints := by
    rw [held]
    exact List.mem_cons_self
  obtain ⟨-,refused⟩ := again "340px max" (List.mem_cons_of_mem _ (List.mem_singleton.mpr rfl))
  refine ⟨⟨registered,written⟩,refused defaultDelta operations [] "phone" registered ?_ ?_ ?_⟩
  · rw [held]
    intro c listed v given
    rcases List.mem_pair.mp listed with rfl | rfl
    · cases given
      rfl
    · cases given
  · rw [held]
    decide +kernel
  · refine ⟨by simp,by simp,?_⟩
    intro c last
    cases last
    decide

end MediaTiers
