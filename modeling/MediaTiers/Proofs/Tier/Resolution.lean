import MediaTiers.Proofs.Stylesheet.Declared
import MediaTiers.Proofs.Tier.Separation
import Mathlib

/-! When a media map can be resolved. Points of brief numerals are far below the range of arithmetic and can always be
written. A step that rounding refuses is met as soon as a tier has a neighbour in a fractional unit, and
nothing else stands in the way. -/
namespace MediaTiers

namespace Decimal

/-- Below the limit there is room for a point beside the largest step. -/
theorem thousand_add_largest : (10 : ℚ) ^ 1000 + largest ≤ roundingLimit := by
  have far : (10 : ℚ) ^ 1000 * 10 ≤ 10 ^ (maxAdjusted + 1 - precision) := by
    rw [← pow_succ,← zpow_natCast]
    exact zpow_le_zpow_right₀ (by norm_num) (by decide)
  have positive : (0 : ℚ) < 10 ^ 1000 := by positivity
  unfold largest roundingLimit
  generalize (10 : ℚ) ^ 1000 = small at far positive ⊢
  linarith

end Decimal

namespace Breakpoint.Measured

variable {b : Breakpoint} {unit : LengthUnit}

theorem point_ok (measured : b.Measured unit) (small : |b.position| < 10 ^ 1000) : ∃ text, b.point = .ok text := by
  obtain ⟨value,held,finite⟩ := measured.placed
  have place := b.position_eq value held
  have above : 0 < Decimal.largest := lt_of_lt_of_le (by positivity) Decimal.largest_bounds.1
  have inside := (lt_add_of_pos_right ((10 : ℚ) ^ 1000) above).trans_le Decimal.thousand_add_largest
  rw [place] at small
  obtain ⟨text,written⟩ := (pointText_ok_iff value unit).mpr
    ⟨Decimal.isSignaling_of_finite value finite,small.trans inside⟩
  exact ⟨text,by simpa [point,held,measured.inUnit] using written⟩

/-- Moving a point fails only where the step itself cannot be rounded. -/
theorem shifted_hinges (measured : b.Measured unit) (small : |b.position| < 10 ^ 1000) (direction : Decimal.Direction) :
    Attempt.Hinges (b.shifted direction) (|(unit.separation b.delta).rational| < Decimal.roundingLimit)
      (.number .overflow) := by
  obtain ⟨value,held,finite⟩ := measured.placed
  have place := b.position_eq value held
  obtain ⟨s,sFinite,turned,same⟩ := Decimal.directed_eq_fit _ direction measured.step
  have size : |s.rational| = |(unit.separation b.delta).rational| := by
    rw [same]
    cases direction <;> simp [Decimal.Direction.sign]
  constructor
  · intro below
    obtain ⟨step,stepped⟩ := (Decimal.fit_ok_iff s).mpr ⟨Decimal.isSignaling_of_finite s sFinite,size ▸ below⟩
    obtain ⟨stepFinite,-,stepValue⟩ := Decimal.fit_success s step sFinite stepped
    have reach : |step.rational| ≤ Decimal.largest := by
      rw [stepValue,Decimal.abs_nearest]
      exact Decimal.nearest_le_largest _ (size ▸ below)
    have total : |value.rational + step.rational| < Decimal.roundingLimit := by
      rw [place] at small
      calc
        |value.rational + step.rational| ≤ |value.rational| + |step.rational| := abs_add_le _ _
        _ < 10 ^ 1000 + Decimal.largest := add_lt_add_of_lt_of_le small reach
        _ ≤ Decimal.roundingLimit := Decimal.thousand_add_largest
    obtain ⟨sum,added⟩ := Decimal.add_ok value step finite stepFinite total
    obtain ⟨sumFinite,fits,-⟩ := Decimal.add_success value step sum finite stepFinite added
    obtain ⟨text,written,-⟩ := Query.pointText_writes sum unit sumFinite fits
    exact ⟨text,b.shifted_of_sum value step sum unit direction text held measured.inUnit (turned.trans stepped) added
      written⟩
  · intro beyond
    cases fitted : Decimal.fit s with
    | ok step =>
      have inside := ((Decimal.fit_ok_iff s).mp ⟨step,fitted⟩).2
      exact absurd (size ▸ inside) beyond
    | error signal =>
      obtain ⟨rfl,-⟩ := Decimal.fit_error s signal sFinite fitted
      rw [shifted,b.tieBreak_eq unit measured.inUnit,Attempt.ok_bind,turned,fitted]
      rfl

end Breakpoint.Measured

section Along

variable {P : Breakpoint → Prop} {fault : Failure}

theorem maxTier_hinges (below : Option Breakpoint) (b : Breakpoint) (point : ∃ text, b.point = .ok text)
    (shift : ∀ a ∈ below, Attempt.Hinges (a.shifted .up) (P a) fault) :
    Attempt.Hinges (maxTier below b) (∀ a ∈ below, P a) fault := by
  obtain ⟨text,written⟩ := point
  unfold maxTier
  rw [written,Attempt.ok_bind]
  cases below with
  | none => exact (Attempt.hinges_ok _).of_iff (by simp)
  | some a => exact ((shift a rfl).bind fun _ _ => Attempt.hinges_ok _).of_iff (by simp)

theorem minTier_hinges (above : Option Breakpoint) (b : Breakpoint) (point : ∃ text, b.point = .ok text)
    (shift : ∀ a ∈ above, Attempt.Hinges (a.shifted .down) (P a) fault) :
    Attempt.Hinges (minTier above b) (∀ a ∈ above, P a) fault := by
  obtain ⟨text,written⟩ := point
  unfold minTier
  rw [written,Attempt.ok_bind]
  cases above with
  | none => exact (Attempt.hinges_ok _).of_iff (by simp)
  | some a => exact ((shift a rfl).bind fun _ _ => Attempt.hinges_ok _).of_iff (by simp)

theorem tiersAlong_hinges (tier : Option Breakpoint → Breakpoint → Except Failure Tier) (before : Option Breakpoint)
    (row : List Breakpoint)
    (each : ∀ e ∈ beside before row, Attempt.Hinges (tier e.1 e.2) (∀ a ∈ e.1, P a) fault) :
    Attempt.Hinges (tiersAlong tier before row) (∀ e ∈ beside before row, ∀ a ∈ e.1, P a) fault := by
  induction row generalizing before with
  | nil => exact (Attempt.hinges_ok _).of_iff (by simp [beside])
  | cons b row ih =>
    have first := each (before, b) (by simp [beside])
    have rest := ih (some b) fun e member => each e (by simp [beside,member])
    refine (first.bind fun t _ => rest.bind fun ts _ => Attempt.hinges_ok (t :: ts)).of_iff ?_
    simp only [beside,List.forall_mem_cons,and_true]

theorem forall_beside_iff (row : List Breakpoint) :
    (∀ e ∈ beside none row, ∀ a ∈ e.1, P a) ↔ ∀ a ∈ row.dropLast, P a := by
  have followed (before : Option Breakpoint) (b : Breakpoint) (bs : List Breakpoint) :
      (∀ e ∈ beside before (b :: bs), ∀ a ∈ e.1, P a) ↔ (∀ a ∈ before, P a) ∧ ∀ a ∈ (b :: bs).dropLast, P a := by
    induction bs generalizing before b with
    | nil => simp [beside]
    | cons c cs ih =>
      rw [beside,List.forall_mem_cons,ih (some b) c,List.dropLast_cons_cons,List.forall_mem_cons]
      simp
  cases row with
  | nil => simp [beside]
  | cons b bs => simpa using followed none b bs

theorem row_hinges (tier : Option Breakpoint → Breakpoint → Except Failure Tier) (row : List Breakpoint)
    (each : ∀ before, ∀ b ∈ row, (∀ a ∈ before, a ∈ row) →
      Attempt.Hinges (tier before b) (∀ a ∈ before, P a) fault) :
    Attempt.Hinges (tiersAlong tier none row) (∀ a ∈ row.dropLast, P a) fault := by
  refine (tiersAlong_hinges tier none row ?_).of_iff (forall_beside_iff row)
  intro e member
  obtain ⟨inside,earlier⟩ := mem_beside none row e member
  exact each e.1 e.2 inside fun a given => by simpa using earlier a given

variable (bs row : List Breakpoint) (sorted : ascending bs = .ok row) (points : ∀ b ∈ bs, ∃ text, b.point = .ok text)
include sorted points

theorem maxTiers_hinges (shifts : ∀ b ∈ bs, Attempt.Hinges (b.shifted .up) (P b) fault) :
    Attempt.Hinges (maxTiers bs) (∀ a ∈ row.dropLast, P a) fault := by
  have same := ascending_success bs row sorted
  rw [maxTiers,sorted,Attempt.ok_bind]
  apply row_hinges
  intro below b member inside
  exact maxTier_hinges below b (points b (same.subset member)) fun a given => shifts a (same.subset (inside a given))

theorem minTiers_hinges (shifts : ∀ b ∈ bs, Attempt.Hinges (b.shifted .down) (P b) fault) :
    Attempt.Hinges (minTiers bs) (∀ a ∈ row.tail, P a) fault := by
  have same := (List.reverse_perm row).trans (ascending_success bs row sorted)
  rw [minTiers,sorted,Attempt.ok_bind]
  have line : row.reverse.dropLast = row.tail.reverse := List.dropLast_reverse
  have hinges : Attempt.Hinges (tiersAlong minTier none row.reverse) (∀ a ∈ row.reverse.dropLast, P a) fault := by
    apply row_hinges
    intro above b member inside
    exact minTier_hinges above b (points b (same.subset member)) fun a given => shifts a (same.subset (inside a given))
  simpa only [line,List.mem_reverse] using hinges

end Along

theorem Reading.ofText_lt (cs : List Char) (brief : HasBriefNumerals cs) (kind : Kind) (value : Decimal)
    (unit : LengthUnit) (read : ofText (Text.trim cs) = .ok (.point kind value unit)) : |value.rational| < 10 ^ 1000 := by
  rcases ofText_cases (Text.trim cs) with ⟨type,x,u,pair⟩ | query | ⟨fault,malformed⟩
  · rw [ofText_pair _ type x u pair] at read
    obtain rfl := ofPair_finite type x u kind value unit read
    obtain ⟨-,word,point,order⟩ := pair
    have member : word ∈ Text.words (Text.trim cs) := by
      rcases order with parts | parts <;> simp [parts]
    exact brief.point_lt ((Text.word_infix _ word member).trans (Text.trim_infix cs)) _ u point
  · rw [query] at read
    cases read
  · rw [malformed] at read
    cases read

theorem Meaning.ofText_position_lt (delta : Decimal) (name : String) (cs : List Char) (brief : HasBriefNumerals cs)
    (b : Breakpoint) (said : ofText? delta name (String.ofList (Text.trim cs)) = some (.breakpoint b)) :
    |b.position| < 10 ^ 1000 := by
  unfold ofText? at said
  split at said
  next =>
    obtain rfl : Breakpoint.ofQuery name _ = b := by simpa using said
    have place : (Breakpoint.ofQuery name (String.ofList (Text.trim cs))).position = 0 := by
      simp [Breakpoint.position,Breakpoint.ofQuery,Decimal.ofNat,Decimal.rational_zero]
    rw [place,abs_zero]
    positivity
  next kind value unit _ read =>
    obtain ⟨-,-,same⟩ := (ofPoint_iff _ _).mp said
    obtain rfl := Meaning.breakpoint.inj same
    rw [String.toList_ofList] at read
    exact Reading.ofText_lt cs brief kind value unit read
  next => simp at said

theorem Meaning.position_lt (delta : Decimal) (property value : Value) (b : Breakpoint)
    (brief : ∀ s, value = .text s → HasBriefNumerals s.toList) (said : of? delta property value = some (.breakpoint b)) :
    |b.position| < 10 ^ 1000 := by
  unfold of? at said
  split at said
  next => simp at said
  next => simp at said
  next name _ =>
    split at said
    next text trimmed =>
      -- What is no text at all is trimmed to an empty one, which says nothing.
      have blank : ofText? delta (Text.lowercase name) "" = none := rfl
      unfold trimmedValue at trimmed
      split at trimmed
      next s =>
        cases trimmed
        exact ofText_position_lt delta _ s.toList (brief s rfl) b said
      next =>
        split at trimmed
        · cases trimmed
          rw [blank] at said
          cases said
        · cases trimmed
      next =>
        split at trimmed
        · cases trimmed
          rw [blank] at said
          cases said
        · cases trimmed
    next => simp at said
  next => simp at said

theorem declareAll_two (delta : Decimal) (first second : Declaration) (a b : Breakpoint)
    (firstSaid : Meaning.of? delta first.property first.value = some (.breakpoint a))
    (secondSaid : Meaning.of? delta second.property second.value = some (.breakpoint b)) (free : ¬a.Clashes b) :
    (declareAll [first, second]).Leaves ⟨.empty delta, []⟩ (.holding delta [a, b] []) := by
  have said : breakpointsSaid delta [first.pair, second.pair] = [a, b] := by
    simp [breakpointsSaid,Declaration.pair,firstSaid,secondSaid,Meaning.breakpoint?]
  have flags : flagsSaid delta [first.pair, second.pair] = [] := by
    simp [flagsSaid,Declaration.pair,firstSaid,secondSaid,Meaning.flag?]
  have readable : ∀ d ∈ [first, second], (Meaning.of? delta d.property d.value).isSome := by
    simp [firstSaid,secondSaid]
  have apart : ((Registry.empty delta).breakpoints ++ [a, b]).Pairwise fun a b => ¬a.Clashes b := by simpa using free
  refine (declareAll_iff _ _ _ (Registry.empty_sound delta)).mpr ⟨readable,said ▸ apart,?_⟩
  simp only [List.map_cons,List.map_nil,Registry.empty,said,flags]
  rfl

/-- What declarations with brief numerals leave: points far below the range of arithmetic. -/
theorem declareAll_brief (ds : List Declaration) (delta : Decimal) (r : Registry)
    (brief : ∀ d ∈ ds, ∀ s, d.value = .text s → HasBriefNumerals s.toList)
    (filled : (declareAll ds).Leaves ⟨.empty delta, []⟩ r) :
    r.Sound ∧ r.delta = delta ∧ ∀ b ∈ r.breakpoints, |b.position| < 10 ^ 1000 := by
  obtain ⟨registrable,rfl⟩ := (declareAll_leaves ds delta r).mp filled
  refine ⟨registrable.sound,rfl,?_⟩
  rw [registryOf_breakpoints]
  intro b member
  obtain ⟨p,inside,found⟩ := List.mem_filterMap.mp member
  obtain ⟨d,listed,rfl⟩ := List.mem_map.mp inside
  obtain ⟨m,said,kept⟩ := Option.bind_eq_some_iff.mp found
  obtain rfl : m = .breakpoint b := by
    cases m <;> simp_all [Meaning.breakpoint?]
  exact Meaning.position_lt delta d.property d.value b (brief d (List.mem_of_mem_filter listed)) said

/-- A step can be rounded if it is a pixel, or else if the delta can be. -/
theorem LengthUnit.separation_lt_iff (unit : LengthUnit) (delta : Decimal) (positive : delta.isPositive = true) :
    |(unit.separation delta).rational| < Decimal.roundingLimit ↔
      unit = .px ∨ delta.rational < Decimal.roundingLimit := by
  rw [abs_of_pos (unit.separation_finite delta positive).2]
  cases unit with
  | px =>
    have unity : (1 : ℚ) < Decimal.roundingLimit :=
      (one_le_zpow₀ (by norm_num) (by decide)).trans_lt Decimal.roundingLimit_decade.1
    simp [separation_px,unity]
  | em => simp [separation,isFractional]
  | rem => simp [separation,isFractional]

namespace Registry

variable {r : Registry}

theorem Sound.points_hinge (sound : r.Sound) (positive : r.delta.isPositive = true)
    (small : ∀ b ∈ r.breakpoints, |b.position| < 10 ^ 1000) (kind : Kind) (typed : kind ≠ .custom) (b : Breakpoint)
    (member : b ∈ r.ofKind kind) :
    b.Placed ∧ (∃ text, b.point = .ok text) ∧ ∀ direction, Attempt.Hinges (b.shifted direction)
      (b.unit = some .px ∨ r.delta.rational < Decimal.roundingLimit) (.number .overflow) := by
  obtain ⟨same,unit,measured⟩ := sound.measured positive kind typed b member
  have inside := small b (List.mem_of_mem_filter member)
  refine ⟨measured.placed,measured.point_ok inside,?_⟩
  intro direction
  apply (measured.shifted_hinges inside direction).of_iff
  rw [same,measured.inUnit,Option.some.injEq]
  exact unit.separation_lt_iff r.delta positive

/-- Resolution moves every max point but the highest and every min point but the lowest, and nothing else in it
can fail. -/
theorem Sound.mediaMap_hinges (sound : r.Sound) (positive : r.delta.isPositive = true)
    (small : ∀ b ∈ r.breakpoints, |b.position| < 10 ^ 1000) (o : MediaOptions) :
    ∃ maxs mins, ascending (r.ofKind .max) = .ok maxs ∧ ascending (r.ofKind .min) = .ok mins ∧
      Attempt.Hinges (r.mediaMap o) (∀ b ∈ maxs.dropLast ++ mins.tail,
        b.unit = some .px ∨ r.delta.rational < Decimal.roundingLimit) (.number .overflow) := by
  have maxPoints := sound.points_hinge positive small .max (by decide)
  have minPoints := sound.points_hinge positive small .min (by decide)
  obtain ⟨maxs,maxSorted,-⟩ := ascending_placed (r.ofKind .max) fun b member => (maxPoints b member).1
  obtain ⟨mins,minSorted,-⟩ := ascending_placed (r.ofKind .min) fun b member => (minPoints b member).1
  have maxHinges := maxTiers_hinges _ maxs maxSorted (fun b member => (maxPoints b member).2.1)
    fun b member => (maxPoints b member).2.2 .up
  have minHinges := minTiers_hinges _ mins minSorted (fun b member => (minPoints b member).2.1)
    fun b member => (minPoints b member).2.2 .down
  refine ⟨maxs,mins,maxSorted,minSorted,?_⟩
  refine (maxHinges.bind fun _ _ => minHinges.bind fun _ _ => Attempt.hinges_ok _).of_iff ?_
  rw [and_true,List.forall_mem_append]

end Registry

/-- Registries of brief numerals are resolved under any options if the delta can be rounded, or else if only pixels
are moved. Otherwise the delta overflows. -/
theorem resolution_iff (v : Value) (config : Config) (accepted : Config.ofValue v = .ok config)
    (ds : List Declaration) (brief : ∀ d ∈ ds, ∀ s, d.value = .text s → HasBriefNumerals s.toList) (r : Registry)
    (filled : (declareAll ds).Leaves ⟨.empty config.delta, []⟩ r) (o : MediaOptions) :
    ∃ maxs mins, ascending (r.ofKind .max) = .ok maxs ∧ ascending (r.ofKind .min) = .ok mins ∧
      ((∃ m, r.mediaMap o = .ok m) ↔ config.delta.rational < Decimal.roundingLimit ∨
        ∀ b ∈ maxs.dropLast ++ mins.tail, b.unit = some .px) ∧
      ∀ failure, r.mediaMap o = .error failure → failure = .number .overflow := by
  obtain ⟨sound,same,small⟩ := declareAll_brief ds config.delta r brief filled
  have positive := Config.delta_positive v config accepted
  obtain ⟨maxs,mins,maxSorted,minSorted,hinges⟩ := sound.mediaMap_hinges (same ▸ positive) small o
  refine ⟨maxs,mins,maxSorted,minSorted,?_,fun failure => hinges.fault_eq⟩
  rw [hinges.iff,same,or_comm]
  by_cases rounds : config.delta.rational < Decimal.roundingLimit <;> simp [rounds]

/-- A delta beyond the range of arithmetic, where only a pixel is moved. -/
theorem resolution_iff_pixel :
    let v : Value := .map [(.text "fractional_delta", .text "1e1000000")]
    let ds := [declaration "breakpoint-tab" "max 2em", declaration "breakpoint-palm" "max 1px"]
    ∃ config r m, Config.ofValue v = .ok config ∧ (∀ d ∈ ds, ∀ s, d.value = .text s → HasBriefNumerals s.toList) ∧
      (declareAll ds).Leaves ⟨.empty config.delta, []⟩ r ∧ r.mediaMap ⟨false, false⟩ = .ok m := by
  intro v ds
  let delta : Decimal := .finite false 1 1000000
  let palm : Breakpoint := .ofPoint "palm" .max (.finite false 1 0) .px delta
  let tab : Breakpoint := .ofPoint "tab" .max (.finite false 2 0) .em delta
  let r : Registry := .holding delta [tab, palm] []
  have read : Config.ofValue v = .ok ⟨false, false, true, delta, .word⟩ := by decide +kernel
  have brief : ∀ d ∈ ds, ∀ s, d.value = .text s → HasBriefNumerals s.toList := by
    simp [ds,declaration,HasBriefNumerals.of_length]
  have filled : (declareAll ds).Leaves ⟨.empty delta, []⟩ r := by
    apply declareAll_two
    · cbv
    · cbv
    · simp [Breakpoint.Clashes,Breakpoint.Coincides,tab,palm,Breakpoint.ofPoint]
  have maxSorted : ascending (r.ofKind .max) = .ok [palm, tab] := by cbv
  have minSorted : ascending (r.ofKind .min) = .ok [] := by cbv
  obtain ⟨maxs,mins,maxRow,minRow,resolves,-⟩ := resolution_iff v _ read ds brief r filled ⟨false, false⟩
  obtain rfl := Except.ok.inj (maxSorted.symm.trans maxRow)
  obtain rfl := Except.ok.inj (minSorted.symm.trans minRow)
  obtain ⟨m,resolved⟩ := resolves.mpr (.inr (by simp [palm,Breakpoint.ofPoint]))
  exact ⟨_,r,m,read,brief,filled,resolved⟩

/-- The same delta, where a point in a fractional unit is moved. -/
theorem resolution_overflows :
    let v : Value := .map [(.text "fractional_delta", .text "1e1000000")]
    let ds := [declaration "breakpoint-palm" "max 1em", declaration "breakpoint-tab" "max 2em"]
    ∃ config r, Config.ofValue v = .ok config ∧ (∀ d ∈ ds, ∀ s, d.value = .text s → HasBriefNumerals s.toList) ∧
      (declareAll ds).Leaves ⟨.empty config.delta, []⟩ r ∧ r.mediaMap ⟨false, false⟩ = .error (.number .overflow) := by
  intro v ds
  let delta : Decimal := .finite false 1 1000000
  let palm : Breakpoint := .ofPoint "palm" .max (.finite false 1 0) .em delta
  let tab : Breakpoint := .ofPoint "tab" .max (.finite false 2 0) .em delta
  let r : Registry := .holding delta [palm, tab] []
  have read : Config.ofValue v = .ok ⟨false, false, true, delta, .word⟩ := by decide +kernel
  have brief : ∀ d ∈ ds, ∀ s, d.value = .text s → HasBriefNumerals s.toList := by
    simp [ds,declaration,HasBriefNumerals.of_length]
  have filled : (declareAll ds).Leaves ⟨.empty delta, []⟩ r := by
    apply declareAll_two
    · cbv
    · cbv
    · simp [Breakpoint.Clashes,Breakpoint.Coincides,Breakpoint.position,tab,palm,Breakpoint.ofPoint,
        Decimal.rational,Decimal.magnitude]
  have sorted : ascending (r.ofKind .max) = .ok [palm, tab] := by cbv
  have low : palm.point = .ok "1em" := by cbv
  have high : tab.point = .ok "2em" := by cbv
  have overflow : delta.directed .up = .error .overflow := by decide +kernel
  have moved : palm.shifted .up = .error (.number .overflow) := by
    have tie : palm.tieBreak = .ok delta := rfl
    rw [Breakpoint.shifted,tie,Attempt.ok_bind,overflow]
    rfl
  have failed : maxTiers (r.ofKind .max) = .error (.number .overflow) := by
    simp [maxTiers,sorted,tiersAlong,maxTier,low,high,moved]
  refine ⟨_,r,read,brief,filled,?_⟩
  rw [Registry.mediaMap,failed,Attempt.error_bind]

end MediaTiers
