import MediaTiers.Proofs.Decimal.Sum
import MediaTiers.Proofs.OrderedMap
import MediaTiers.Proofs.Tier.Order
import MediaTiers.Proofs.Tier.Query
import Mathlib

/-! Tiers partition the line. Read back from its query, the tier of a max point reaches from one tie-break
delta above the nearest point below it up to the point itself; a min point has the mirror image of this.
So a width falls to one tier at most, and to none only in a gap or beyond the points. -/
namespace MediaTiers

def LengthUnit.separation (unit : LengthUnit) (delta : Decimal) : Decimal :=
  if unit.isFractional then delta else .ofNat 1

theorem LengthUnit.separation_finite (unit : LengthUnit) (delta : Decimal) (positive : delta.isPositive = true) :
    (unit.separation delta).isFinite = true ∧ 0 < (unit.separation delta).rational := by
  unfold separation
  split
  next => exact delta.rational_of_isPositive positive
  next => exact ⟨rfl,Decimal.rational_pos 1 0 (by decide)⟩

theorem LengthUnit.separation_px (delta : Decimal) : (LengthUnit.px.separation delta).rational = 1 := by
  norm_num [LengthUnit.separation,LengthUnit.isFractional,Decimal.ofNat,Decimal.rational,Decimal.magnitude]

/-- The names of a map whose queries admit a width. -/
def Covers (queries : OrderedMap String) (unit : LengthUnit) (w : ℚ) (name : String) : Prop :=
  ∃ query, queries.lookup name = some query ∧ Query.admits query unit w = true

/-- The width lies less than `gap` above the largest point below it. -/
def GapAbove (points : List Breakpoint) (gap w : ℚ) : Prop :=
  ∃ b ∈ points, b.position < w ∧ (∀ c ∈ points, c.position < w → c.position ≤ b.position) ∧ w < b.position + gap

/-- The width lies less than `gap` below the smallest point above it. -/
def GapBelow (points : List Breakpoint) (gap w : ℚ) : Prop :=
  ∃ b ∈ points, w < b.position ∧ (∀ c ∈ points, w < c.position → b.position ≤ c.position) ∧ b.position - gap < w

/-- Every width is covered by exactly one name, except those beyond the points and those in a gap, which no
name covers. -/
structure Tiling (covers : ℚ → String → Prop) (beyond inGap : ℚ → Prop) : Prop where
  bareBeyond : ∀ w, beyond w → ∀ name, ¬covers w name
  bareGap : ∀ w, ¬beyond w → inGap w → ∀ name, ¬covers w name
  single : ∀ w, ¬beyond w → ¬inGap w → ∃! name, covers w name

/-- The width falls to a member of a row that stands beside the one before it. -/
def Falls (place : Breakpoint → ℚ) (gap w : ℚ) (e : Option Breakpoint × Breakpoint) : Prop :=
  (∀ a ∈ e.1, place a + gap ≤ w) ∧ w ≤ place e.2

section Row

variable (place : Breakpoint → ℚ) (row : List Breakpoint) (gap w : ℚ)

theorem falls_gap (rising : row.Pairwise fun a b => place a < place b) (b : Breakpoint) (inside : b ∈ row)
    (below : place b < w) (near : w < place b + gap) : ∀ e ∈ beside none row, ¬Falls place gap w e := by
  rintro e member ⟨lower,upper⟩
  obtain ⟨-,nearest⟩ := beside_nearest place none row rising (by simp) e member
  obtain ⟨a,before,order⟩ := nearest b (.inr inside) (below.trans_le upper)
  have reached := lower a before
  linarith

/-- A width that falls to two members would lie above the first and below what stands before the second. -/
theorem falls_unique (rising : row.Pairwise fun a b => place a < place b) (positive : 0 < gap)
    (e f : Option Breakpoint × Breakpoint) (eMember : e ∈ beside none row) (fMember : f ∈ beside none row)
    (eFalls : Falls place gap w e) (fFalls : Falls place gap w f) : ¬place e.2 < place f.2 := by
  intro order
  obtain ⟨-,nearest⟩ := beside_nearest place none row rising (by simp) f fMember
  obtain ⟨a,before,above⟩ := nearest e.2 (.inr (mem_beside none row e eMember).1) order
  have reached := fFalls.1 a before
  have upper := eFalls.2
  linarith

theorem falls_exists (rising : row.Pairwise fun a b => place a < place b)
    (reached : ∃ b ∈ row, w ≤ place b)
    (clear : ∀ b ∈ row, place b < w → (∀ c ∈ row, place c < w → place c ≤ place b) → place b + gap ≤ w) :
    ∃ e ∈ beside none row, Falls place gap w e := by
  obtain ⟨b,inside,above⟩ := reached
  have candidate : (row.toFinset.filter fun b => w ≤ place b).Nonempty := ⟨b,by simp [inside,above]⟩
  obtain ⟨least,chosen,lowest⟩ := Finset.exists_min_image _ place candidate
  obtain ⟨leastInside,leastAbove⟩ : least ∈ row ∧ w ≤ place least := by simpa using chosen
  have listed : least ∈ (beside none row).map (·.2) := by rwa [beside_map_snd]
  obtain ⟨e,member,rfl⟩ := List.mem_map.mp listed
  refine ⟨e,member,?_,leastAbove⟩
  obtain ⟨lower,nearest⟩ := beside_nearest place none row rising (by simp) e member
  intro a before
  have aRow : a ∈ row := by simpa using (mem_beside none row e member).2 a before
  have aBelow : place a < w := by
    by_contra exceeds
    have order := lowest a (by simp [aRow,not_lt.mp exceeds])
    exact absurd (lower a before) (not_lt.mpr order)
  refine clear a aRow aBelow ?_
  intro c cInside cBelow
  obtain ⟨d,found,order⟩ := nearest c (.inr cInside) (cBelow.trans_le leastAbove)
  rwa [Option.mem_unique before found]

end Row

namespace Breakpoint

theorem point_writes (b : Breakpoint) (value : Decimal) (unit : LengthUnit) (held : b.value = some value)
    (measured : b.unit = some unit) (finite : value.isFinite = true) (fits : Decimal.Representable b.position) :
    ∃ text, b.point = .ok text ∧ Query.Writes text b.position unit := by
  have place := b.position_eq value held
  rw [place] at fits ⊢
  obtain ⟨text,written,writes⟩ := Query.pointText_writes value unit finite fits
  exact ⟨text,by simpa [point,held,measured] using written,writes⟩

theorem tieBreak_eq (b : Breakpoint) (unit : LengthUnit) (measured : b.unit = some unit) :
    b.tieBreak = .ok (unit.separation b.delta) := by
  simp [tieBreak,measured,LengthUnit.separation]

theorem shifted_of_sum (b : Breakpoint) (value step sum : Decimal) (unit : LengthUnit) (direction : Decimal.Direction)
    (text : String) (held : b.value = some value) (measured : b.unit = some unit)
    (stepped : (unit.separation b.delta).directed direction = .ok step) (added : value.add step = .ok sum)
    (written : pointText sum unit = .ok text) : b.shifted direction = .ok text := by
  rw [shifted,b.tieBreak_eq unit measured,Attempt.ok_bind,stepped,held,measured]
  simpa [numeric,added] using written

theorem shifted_writes (b : Breakpoint) (value : Decimal) (unit : LengthUnit) (direction : Decimal.Direction)
    (held : b.value = some value) (measured : b.unit = some unit) (finite : value.isFinite = true)
    (stepFinite : (unit.separation b.delta).isFinite = true)
    (stepFits : Decimal.Representable (unit.separation b.delta).rational)
    (fits : Decimal.Representable (b.position + direction.sign * (unit.separation b.delta).rational)) :
    ∃ text, b.shifted direction = .ok text ∧
      Query.Writes text (b.position + direction.sign * (unit.separation b.delta).rational) unit := by
  have place := b.position_eq value held
  obtain ⟨step,directed,directedFinite,size⟩ := Decimal.directed_exact _ direction stepFinite stepFits
  rw [place,← size] at fits ⊢
  obtain ⟨sum,added,sumFinite,total⟩ := Decimal.add_exact value step finite directedFinite fits
  rw [← total] at fits ⊢
  obtain ⟨text,written,writes⟩ := Query.pointText_writes sum unit sumFinite fits
  exact ⟨text,b.shifted_of_sum value step sum unit direction text held measured directed added written,writes⟩

end Breakpoint

theorem maxTier_falls (o : MediaOptions) (unit : LengthUnit) (gap : ℚ) (below : Option Breakpoint)
    (b : Breakpoint) (point : ∃ text, b.point = .ok text ∧ Query.Writes text b.position unit)
    (shift : ∀ a ∈ below, ∃ text, a.shifted .up = .ok text ∧ Query.Writes text (a.position + gap) unit) :
    ∃ t, maxTier below b = .ok t ∧ t.name = b.name ∧
      ∀ w, Query.admits (t.range.query o) unit w = true ↔ Falls Breakpoint.position gap w (below, b) := by
  obtain ⟨upper,written,writes⟩ := point
  cases below with
  | none =>
    have made : maxTier none b = .ok ⟨b.name, ⟨none, some upper⟩, [(andDown b.name, ⟨none, some upper⟩)]⟩ := by
      simp [maxTier,written]
    refine ⟨_,made,rfl,?_⟩
    intro w
    have read := Query.admits_query o ⟨none, some upper⟩ unit none (some b.position) w .none (.some writes)
    simpa [Falls] using read
  | some a =>
    obtain ⟨lower,shifted,lowerWrites⟩ := shift a rfl
    have made : maxTier (some a) b = .ok ⟨b.name, ⟨some lower, some upper⟩,
        [(andDown b.name, ⟨none, some upper⟩), (andUp b.name, ⟨some lower, none⟩)]⟩ := by
      simp [maxTier,written,shifted]
    refine ⟨_,made,rfl,?_⟩
    intro w
    have read := Query.admits_query o ⟨some lower, some upper⟩ unit (some (a.position + gap)) (some b.position) w
      (.some lowerWrites) (.some writes)
    simpa [Falls] using read

/-- On the turned line the tier of a min point is that of a max point. -/
theorem minTier_falls (o : MediaOptions) (unit : LengthUnit) (gap : ℚ) (above : Option Breakpoint)
    (b : Breakpoint) (point : ∃ text, b.point = .ok text ∧ Query.Writes text b.position unit)
    (shift : ∀ a ∈ above, ∃ text, a.shifted .down = .ok text ∧ Query.Writes text (a.position - gap) unit) :
    ∃ t, minTier above b = .ok t ∧ t.name = b.name ∧
      ∀ w, Query.admits (t.range.query o) unit w = true ↔ Falls (fun c => -c.position) gap (-w) (above, b) := by
  obtain ⟨lower,written,writes⟩ := point
  cases above with
  | none =>
    have made : minTier none b = .ok ⟨b.name, ⟨some lower, none⟩, [(andUp b.name, ⟨some lower, none⟩)]⟩ := by
      simp [minTier,written]
    refine ⟨_,made,rfl,?_⟩
    intro w
    have read := Query.admits_query o ⟨some lower, none⟩ unit (some b.position) none w (.some writes) .none
    simpa [Falls] using read
  | some a =>
    obtain ⟨upper,shifted,upperWrites⟩ := shift a rfl
    have made : minTier (some a) b = .ok ⟨b.name, ⟨some lower, some upper⟩,
        [(andUp b.name, ⟨some lower, none⟩), (andDown b.name, ⟨none, some upper⟩)]⟩ := by
      simp [minTier,written,shifted]
    refine ⟨_,made,rfl,?_⟩
    intro w
    have read := Query.admits_query o ⟨some lower, some upper⟩ unit (some b.position) (some (a.position - gap)) w
      (.some writes) (.some upperWrites)
    have turned : w ≤ a.position - gap ↔ -a.position + gap ≤ -w := by
      constructor <;> intro order <;> linarith
    rw [read]
    simp [Falls,turned,and_comm]

theorem covers_along (o : MediaOptions) (unit : LengthUnit) (row : List Breakpoint) (tiers : List Tier)
    (falls : ℚ → Option Breakpoint × Breakpoint → Prop) (named : (row.map (·.name)).Nodup)
    (made : List.Forall₂ (fun e t => t.name = e.2.name ∧
      ∀ w, Query.admits (t.range.query o) unit w = true ↔ falls w e) (beside none row) tiers)
    (w : ℚ) (name : String) :
    Covers (namedQueries o tiers) unit w name ↔ ∃ e ∈ beside none row, e.2.name = name ∧ falls w e := by
  have names : (tiers.map fun t => (t.name, t.range.query o)).map (·.1) = row.map (·.name) := by
    have listed : (beside none row).map (·.2.name) = tiers.map (·.name) := by
      apply List.forall₂_eq_eq_eq ▸ List.forall₂_map_left_iff.mpr (List.forall₂_map_right_iff.mpr _)
      exact made.imp fun e t both => both.1.symm
    rw [← beside_map_snd none row]
    simpa [Function.comp_def] using listed.symm
  have functional := OrderedMap.functional_of_nodup (tiers.map fun t => (t.name, t.range.query o)) (by rwa [names])
  rw [exists_mem_forall₂ _ _ (fun t => t.name = name ∧ Query.admits (t.range.query o) unit w = true) _ _ made
    fun e t both => by rw [both.1,both.2 w]]
  simp only [Covers,namedQueries,OrderedMap.lookup_ofList _ functional,OrderedMap.lookup_eq_some_iff _ functional,
    List.mem_map,Prod.mk.injEq]
  constructor
  · rintro ⟨_,⟨t,member,called,rfl⟩,met⟩
    exact ⟨t,member,called,met⟩
  · rintro ⟨t,member,called,met⟩
    exact ⟨_,⟨t,member,called,rfl⟩,met⟩

/-- Tiers made along a rising row tile the line. Widths are seen along the row after `turn`. -/
theorem tiling_along (o : MediaOptions) (unit : LengthUnit) (place : Breakpoint → ℚ) (turn : ℚ → ℚ) (gap : ℚ)
    (points row : List Breakpoint) (tiers : List Tier) (positive : 0 < gap) (same : row.Perm points)
    (rising : row.Pairwise fun a b => place a < place b) (named : (row.map (·.name)).Nodup)
    (made : List.Forall₂ (fun e t => t.name = e.2.name ∧
      ∀ w, Query.admits (t.range.query o) unit w = true ↔ Falls place gap (turn w) e) (beside none row) tiers) :
    Tiling (Covers (namedQueries o tiers) unit) (fun w => ∀ b ∈ points, place b < turn w)
      (fun w => ∃ b ∈ points, place b < turn w ∧ (∀ c ∈ points, place c < turn w → place c ≤ place b) ∧
        turn w < place b + gap) := by
  have covered := covers_along o unit row tiers (fun w e => Falls place gap (turn w) e) named made
  have inside : ∀ e ∈ beside none row, e.2 ∈ row := fun e member => (mem_beside none row e member).1
  simp only [← same.mem_iff]
  constructor
  · rintro w beyond name covers
    obtain ⟨e,member,-,-,upper⟩ := (covered w name).mp covers
    exact absurd upper (not_le.mpr (beyond e.2 (inside e member)))
  · rintro w - ⟨b,member,below,-,near⟩ name covers
    obtain ⟨e,listed,-,falls⟩ := (covered w name).mp covers
    exact falls_gap place row gap (turn w) rising b member below near e listed falls
  · intro w within clear
    simp only [not_forall,not_lt,exists_prop] at within
    simp only [not_exists,not_and,not_lt] at clear
    obtain ⟨e,member,falls⟩ := falls_exists place row gap (turn w) rising within clear
    refine ⟨e.2.name,(covered w _).mpr ⟨e,member,rfl,falls⟩,?_⟩
    intro name covers
    obtain ⟨f,listed,rfl,fFalls⟩ := (covered w name).mp covers
    have level : place f.2 = place e.2 := le_antisymm
      (not_lt.mp (falls_unique place row gap (turn w) rising positive e f member listed falls fFalls))
      (not_lt.mp (falls_unique place row gap (turn w) rising positive f e listed member fFalls falls))
    have distinct : (row.map place).Nodup := List.pairwise_map.mpr (rising.imp ne_of_lt)
    rw [List.inj_on_of_nodup_map distinct (inside f listed) (inside e member) level]

namespace Registry

/-- All points of a kind are in one unit, and they and the places one tie-break delta away are moderate. -/
structure Moderate (r : Registry) (kind : Kind) (unit : LengthUnit) : Prop where
  units : ∀ b ∈ r.ofKind kind, b.unit = some unit
  points : ∀ b ∈ r.ofKind kind, Decimal.Moderate b.position
  raised : ∀ b ∈ r.ofKind kind, Decimal.Moderate (b.position + (unit.separation r.delta).rational)
  lowered : ∀ b ∈ r.ofKind kind, Decimal.Moderate (b.position - (unit.separation r.delta).rational)

theorem ascending_rises (r : Registry) (kind : Kind) (unit : LengthUnit) (sound : r.Sound) (typed : kind ≠ .custom)
    (units : ∀ b ∈ r.ofKind kind, b.unit = some unit) :
    ∃ row, ascending (r.ofKind kind) = .ok row ∧ row.Perm (r.ofKind kind) ∧
      (row.Pairwise fun a b => a.position < b.position) ∧ (row.map (·.name)).Nodup := by
  have placed : ∀ b ∈ r.ofKind kind, b.Placed := by
    intro b member
    obtain ⟨value,held,finite,-⟩ := r.ofKind_point kind sound typed b member
    exact ⟨value,held,finite⟩
  obtain ⟨row,sorted,same,order⟩ := ascending_placed (r.ofKind kind) placed
  have apart : row.Pairwise fun a b => ¬a.Clashes b := by
    refine (same.pairwise_iff ?_).mpr (sound.apart.sublist List.filter_sublist)
    intro a b free clash
    exact free clash.symm
  refine ⟨row,sorted,same,?_,?_⟩
  · refine (order.and apart).imp_of_mem ?_
    rintro a b aMember bMember ⟨below,free⟩
    refine lt_of_le_of_ne below fun level => free (.inr ?_)
    have aKind := r.kind_of_mem kind a (same.mem_iff.mp aMember)
    have bKind := r.kind_of_mem kind b (same.mem_iff.mp bMember)
    have aUnit := units a (same.mem_iff.mp aMember)
    have bUnit := units b (same.mem_iff.mp bMember)
    exact ⟨aKind.trans bKind.symm,aKind ▸ typed,aUnit.trans bUnit.symm,level⟩
  · exact List.pairwise_map.mpr (apart.imp fun free called => free (.inl called))

theorem Moderate.point_writes {r : Registry} {kind : Kind} {unit : LengthUnit} (moderate : r.Moderate kind unit)
    (sound : r.Sound) (typed : kind ≠ .custom) (b : Breakpoint) (member : b ∈ r.ofKind kind) :
    ∃ text, b.point = .ok text ∧ Query.Writes text b.position unit := by
  obtain ⟨value,held,finite,-⟩ := r.ofKind_point kind sound typed b member
  exact b.point_writes value unit held (moderate.units b member) finite (moderate.points b member).representable

/-- The tie-break delta is the distance of a point from where it is moved to, so it is no number out of range. -/
theorem Moderate.step_representable {r : Registry} {kind : Kind} {unit : LengthUnit} (moderate : r.Moderate kind unit)
    (few : Decimal.FewDigits (unit.separation r.delta).rational) (b : Breakpoint) (member : b ∈ r.ofKind kind) :
    Decimal.Representable (unit.separation r.delta).rational := by
  have apart := (moderate.points b member).difference (moderate.raised b member)
  rw [add_sub_cancel_left] at apart
  exact apart few

theorem Moderate.shifted_writes {r : Registry} {kind : Kind} {unit : LengthUnit} (moderate : r.Moderate kind unit)
    (sound : r.Sound) (typed : kind ≠ .custom) (finite : (unit.separation r.delta).isFinite = true)
    (few : Decimal.FewDigits (unit.separation r.delta).rational)
    (direction : Decimal.Direction) (b : Breakpoint) (member : b ∈ r.ofKind kind) :
    ∃ text, b.shifted direction = .ok text ∧
      Query.Writes text (b.position + direction.sign * (unit.separation r.delta).rational) unit := by
  obtain ⟨value,held,valueFinite,sameDelta⟩ := r.ofKind_point kind sound typed b member
  have fits : Decimal.Representable (b.position + direction.sign * (unit.separation r.delta).rational) := by
    cases direction with
    | up => simpa [Decimal.Direction.sign] using (moderate.raised b member).representable
    | down => simpa [Decimal.Direction.sign,sub_eq_add_neg] using (moderate.lowered b member).representable
  have moved := b.shifted_writes value unit direction held (moderate.units b member) valueFinite
  rw [sameDelta] at moved
  exact moved finite (moderate.step_representable few b member) fits

theorem Moderate.max_tiling {r : Registry} {unit : LengthUnit} (o : MediaOptions) (moderate : r.Moderate .max unit)
    (sound : r.Sound) (positive : r.delta.isPositive = true)
    (few : Decimal.FewDigits (unit.separation r.delta).rational) :
    ∃ tiers, maxTiers (r.ofKind .max) = .ok tiers ∧
      Tiling (Covers (namedQueries o tiers) unit) (fun w => ∀ b ∈ r.ofKind .max, b.position < w)
        (GapAbove (r.ofKind .max) (unit.separation r.delta).rational) := by
  obtain ⟨finite,step⟩ := unit.separation_finite r.delta positive
  obtain ⟨row,sorted,same,rising,named⟩ := r.ascending_rises .max unit sound (by decide) moderate.units
  have each : ∀ e ∈ beside none row, ∃ t, maxTier e.1 e.2 = .ok t ∧ t.name = e.2.name ∧
      ∀ w, Query.admits (t.range.query o) unit w = true ↔
        Falls Breakpoint.position (unit.separation r.delta).rational w e := by
    intro e member
    obtain ⟨inside,earlier⟩ := mem_beside none row e member
    apply maxTier_falls o unit _ e.1 e.2 (moderate.point_writes sound (by decide) e.2 (same.mem_iff.mp inside))
    intro a before
    have listed : a ∈ row := by simpa using earlier a before
    simpa [Decimal.Direction.sign] using
      moderate.shifted_writes sound (by decide) finite few .up a (same.mem_iff.mp listed)
  obtain ⟨tiers,resolved,made⟩ := tiersAlong_beside maxTier _ none row each
  refine ⟨tiers,?_,tiling_along o unit Breakpoint.position id _ _ row tiers step same rising named made⟩
  rw [maxTiers,sorted,Attempt.ok_bind,resolved]

theorem Moderate.min_tiling {r : Registry} {unit : LengthUnit} (o : MediaOptions) (moderate : r.Moderate .min unit)
    (sound : r.Sound) (positive : r.delta.isPositive = true)
    (few : Decimal.FewDigits (unit.separation r.delta).rational) :
    ∃ tiers, minTiers (r.ofKind .min) = .ok tiers ∧
      Tiling (Covers (namedQueries o tiers) unit) (fun w => ∀ b ∈ r.ofKind .min, w < b.position)
        (GapBelow (r.ofKind .min) (unit.separation r.delta).rational) := by
  obtain ⟨finite,step⟩ := unit.separation_finite r.delta positive
  obtain ⟨row,sorted,same,rising,named⟩ := r.ascending_rises .min unit sound (by decide) moderate.units
  have turnedSame := (List.reverse_perm row).trans same
  have turnedRising : row.reverse.Pairwise fun a b => -a.position < -b.position :=
    List.pairwise_reverse.mpr (rising.imp neg_lt_neg)
  have turnedNamed : (row.reverse.map (·.name)).Nodup := by
    rw [List.map_reverse]
    exact List.nodup_reverse.mpr named
  have each : ∀ e ∈ beside none row.reverse, ∃ t, minTier e.1 e.2 = .ok t ∧ t.name = e.2.name ∧
      ∀ w, Query.admits (t.range.query o) unit w = true ↔
        Falls (fun b => -b.position) (unit.separation r.delta).rational (-w) e := by
    intro e member
    obtain ⟨inside,earlier⟩ := mem_beside none row.reverse e member
    apply minTier_falls o unit _ e.1 e.2 (moderate.point_writes sound (by decide) e.2 (turnedSame.mem_iff.mp inside))
    intro a before
    have listed : a ∈ row.reverse := by simpa using earlier a before
    simpa [Decimal.Direction.sign,sub_eq_add_neg] using
      moderate.shifted_writes sound (by decide) finite few .down a (turnedSame.mem_iff.mp listed)
  obtain ⟨tiers,resolved,made⟩ := tiersAlong_beside minTier _ none row.reverse each
  have tiling := tiling_along o unit (fun b => -b.position) (fun w => -w) _ _ row.reverse tiers step turnedSame
    turnedRising turnedNamed made
  -- Seen from below, a point is beyond a width, or near it, exactly as the turned line says.
  have near : ∀ (b : Breakpoint) (w : ℚ), -w < -b.position + (unit.separation r.delta).rational ↔
      b.position - (unit.separation r.delta).rational < w := by
    intro b w
    constructor <;> intro order <;> linarith
  simp only [neg_lt_neg_iff,neg_le_neg_iff,near] at tiling
  refine ⟨tiers,?_,tiling⟩
  rw [minTiers,sorted,Attempt.ok_bind,resolved]

/-- Points at whole pixels of up to 27 digits are moderate. -/
theorem moderate_pixels (r : Registry) (kind : Kind)
    (whole : ∀ b ∈ r.ofKind kind, ∃ n : Nat, 0 < n ∧ n < 10 ^ 27 ∧ b.value = some (.ofNat n) ∧ b.unit = some .px) :
    r.Moderate kind .px := by
  have natural : ∀ n : Nat, n < 10 ^ Decimal.precision → Decimal.Moderate n := by
    intro n short
    simpa [Decimal.rational,Decimal.magnitude] using
      Decimal.moderate_finite false n 0 short (by norm_num) (by norm_num)
  have place : ∀ b ∈ r.ofKind kind, ∃ n : Nat, 0 < n ∧ n < 10 ^ 27 ∧ b.position = n := by
    intro b member
    obtain ⟨n,positive,short,held,-⟩ := whole b member
    exact ⟨n,positive,short,by simp [Breakpoint.position,held,Decimal.ofNat,Decimal.rational,Decimal.magnitude]⟩
  have size : 10 ^ Decimal.precision = 10 * 10 ^ 27 := rfl
  constructor
  · intro b member
    obtain ⟨n,-,-,-,measured⟩ := whole b member
    exact measured
  · intro b member
    obtain ⟨n,-,short,placed⟩ := place b member
    rw [placed]
    exact natural n (by omega)
  · intro b member
    obtain ⟨n,-,short,placed⟩ := place b member
    rw [placed,LengthUnit.separation_px]
    exact_mod_cast natural (n + 1) (by omega)
  · intro b member
    obtain ⟨n,positive,short,placed⟩ := place b member
    rw [placed,LengthUnit.separation_px]
    have lowered := natural (n - 1) (by omega)
    rwa [Nat.cast_pred positive] at lowered

end Registry

/-- The tiers of registered points partition the line: the max tiers up to the largest point and the min tiers
from the smallest one on, but for the gaps of less than one tie-break delta between neighbours. -/
theorem tiers_partition (delta : Decimal) (r : Registry) (o : MediaOptions) (unit : LengthUnit)
    (positive : delta.isPositive = true) (reached : Registry.Reached delta r)
    (few : Decimal.FewDigits (unit.separation delta).rational) :
    (r.Moderate .max unit → ∃ tiers, maxTiers (r.ofKind .max) = .ok tiers ∧
      Tiling (Covers (namedQueries o tiers) unit) (fun w => ∀ b ∈ r.ofKind .max, b.position < w)
        (GapAbove (r.ofKind .max) (unit.separation delta).rational)) ∧
    (r.Moderate .min unit → ∃ tiers, minTiers (r.ofKind .min) = .ok tiers ∧
      Tiling (Covers (namedQueries o tiers) unit) (fun w => ∀ b ∈ r.ofKind .min, w < b.position)
        (GapBelow (r.ofKind .min) (unit.separation delta).rational)) := by
  obtain ⟨sound,rfl⟩ := reached.sound
  constructor
  · intro moderate
    exact moderate.max_tiling o sound positive few
  · intro moderate
    exact moderate.min_tiling o sound positive few

/-- Two max tiers and two min tiers, in pixels. -/
theorem tiers_partition_devices : ∃ r : Registry,
    r.names = ["palm", "tab", "desk", "wide"] ∧ Registry.Reached defaultDelta r ∧
    r.Moderate .max .px ∧ r.Moderate .min .px ∧
    (∃ tiers, maxTiers (r.ofKind .max) = .ok tiers ∧
      Tiling (Covers (namedQueries ⟨false, false⟩ tiers) .px) (fun w => ∀ b ∈ r.ofKind .max, b.position < w)
        (GapAbove (r.ofKind .max) 1)) ∧
    ∃ tiers, minTiers (r.ofKind .min) = .ok tiers ∧
      Tiling (Covers (namedQueries ⟨false, false⟩ tiers) .px) (fun w => ∀ b ∈ r.ofKind .min, w < b.position)
        (GapBelow (r.ofKind .min) 1) := by
  let palm : Breakpoint := .ofPoint "palm" .max (.ofNat 340) .px defaultDelta
  let tab : Breakpoint := .ofPoint "tab" .max (.ofNat 768) .px defaultDelta
  let desk : Breakpoint := .ofPoint "desk" .min (.ofNat 1024) .px defaultDelta
  let wide : Breakpoint := .ofPoint "wide" .min (.ofNat 1280) .px defaultDelta
  have first : Registry.Reached defaultDelta (.holding defaultDelta [palm] []) :=
    .point _ _ "palm" .max (.ofNat 340) .px palm .empty rfl (by cbv)
  have second : Registry.Reached defaultDelta (.holding defaultDelta [palm, tab] []) :=
    .point _ _ "tab" .max (.ofNat 768) .px tab first rfl (by cbv)
  have third : Registry.Reached defaultDelta (.holding defaultDelta [palm, tab, desk] []) :=
    .point _ _ "desk" .min (.ofNat 1024) .px desk second rfl (by cbv)
  have reached : Registry.Reached defaultDelta (.holding defaultDelta [palm, tab, desk, wide] []) :=
    .point _ _ "wide" .min (.ofNat 1280) .px wide third rfl (by cbv)
  have unit := LengthUnit.separation_px defaultDelta
  have maxs : Registry.Moderate (.holding defaultDelta [palm, tab, desk, wide] []) .max .px := by
    apply Registry.moderate_pixels
    change ∀ b ∈ [palm, tab], _
    intro b member
    obtain rfl | rfl : b = palm ∨ b = tab := by simpa using member
    · exact ⟨340,by decide,by decide,rfl,rfl⟩
    · exact ⟨768,by decide,by decide,rfl,rfl⟩
  have mins : Registry.Moderate (.holding defaultDelta [palm, tab, desk, wide] []) .min .px := by
    apply Registry.moderate_pixels
    change ∀ b ∈ [desk, wide], _
    intro b member
    obtain rfl | rfl : b = desk ∨ b = wide := by simpa using member
    · exact ⟨1024,by decide,by decide,rfl,rfl⟩
    · exact ⟨1280,by decide,by decide,rfl,rfl⟩
  have few : Decimal.FewDigits (LengthUnit.px.separation defaultDelta).rational :=
    Decimal.fewDigits_finite false 1 0 (by decide)
  obtain ⟨up,down⟩ := tiers_partition defaultDelta _ ⟨false, false⟩ .px rfl reached few
  rw [unit] at up down
  exact ⟨_,rfl,reached,maxs,mins,up maxs,down mins⟩

/-! A delta of 29 digits, with points that it moves to places of 28 digits at most. -/

def longDelta : Decimal :=
  .finite false 10000000000000000000000000005 (-1)

def lowPoint : Breakpoint :=
  .ofPoint "low" .max (.finite true 9000000000000000000000000005 (-1)) .em longDelta

def highPoint : Breakpoint :=
  .ofPoint "high" .max (.finite false 9000000000000000000000000005 (-1)) .em longDelta

theorem separation_longDelta :
    (LengthUnit.em.separation longDelta).rational = 10000000000000000000000000005 / 10 := by
  change longDelta.rational = _
  norm_num [longDelta,Decimal.rational,Decimal.magnitude]

theorem lowPoint_position : lowPoint.position = -9000000000000000000000000005 / 10 := by
  norm_num [lowPoint,Breakpoint.position,Breakpoint.ofPoint,Decimal.rational,Decimal.magnitude]

theorem highPoint_position : highPoint.position = 9000000000000000000000000005 / 10 := by
  norm_num [highPoint,Breakpoint.position,Breakpoint.ofPoint,Decimal.rational,Decimal.magnitude]

theorem longDelta_reached : Registry.Reached longDelta (.holding longDelta [lowPoint, highPoint] []) := by
  have first : Registry.Reached longDelta (.holding longDelta [lowPoint] []) :=
    .point _ _ "low" .max (.finite true 9000000000000000000000000005 (-1)) .em lowPoint .empty rfl (by cbv)
  exact .point _ _ "high" .max (.finite false 9000000000000000000000000005 (-1)) .em highPoint first rfl (by cbv)

theorem moderate_half (negative : Bool) (a : Nat) (short : a < 10 ^ Decimal.precision) :
    Decimal.Moderate (Decimal.rational (.finite negative a (-1))) :=
  Decimal.moderate_finite negative a (-1) short (by norm_num) (by norm_num)

theorem longDelta_moderate : Registry.Moderate (.holding longDelta [lowPoint, highPoint] []) .max .em := by
  have whole : ∀ (q : ℚ) (negative : Bool) (a : Nat), a < 10 ^ Decimal.precision →
      q = Decimal.rational (.finite negative a 0) → Decimal.Moderate q := by
    rintro q negative a short rfl
    exact Decimal.moderate_finite negative a 0 short (by norm_num) (by norm_num)
  constructor
  all_goals
    change ∀ b ∈ [lowPoint, highPoint], _
    intro b member
    obtain rfl | rfl : b = lowPoint ∨ b = highPoint := by simpa using member
  · rfl
  · rfl
  · exact moderate_half true 9000000000000000000000000005 (by decide)
  · exact moderate_half false 9000000000000000000000000005 (by decide)
  · refine whole _ false 100000000000000000000000000 (by decide) ?_
    rw [lowPoint_position,Registry.holding_delta,separation_longDelta]
    norm_num [Decimal.rational,Decimal.magnitude]
  · refine whole _ false 1900000000000000000000000001 (by decide) ?_
    rw [highPoint_position,Registry.holding_delta,separation_longDelta]
    norm_num [Decimal.rational,Decimal.magnitude]
  · refine whole _ true 1900000000000000000000000001 (by decide) ?_
    rw [lowPoint_position,Registry.holding_delta,separation_longDelta]
    norm_num [Decimal.rational,Decimal.magnitude]
  · refine whole _ true 100000000000000000000000000 (by decide) ?_
    rw [highPoint_position,Registry.holding_delta,separation_longDelta]
    norm_num [Decimal.rational,Decimal.magnitude]

theorem longDelta_query (tiers : List Tier) (resolved : maxTiers [lowPoint, highPoint] = .ok tiers) :
    (namedQueries ⟨false, false⟩ tiers).lookup "high" = some (Range.query ⟨false, false⟩
      ⟨some "99999999999999999999999999.5em", some "900000000000000000000000000.5em"⟩) := by
  have made : (maxTiers [lowPoint, highPoint]).map
      (fun tiers => (namedQueries ⟨false, false⟩ tiers).lookup "high") =
    .ok (some (Range.query ⟨false, false⟩
      ⟨some "99999999999999999999999999.5em", some "900000000000000000000000000.5em"⟩)) := by cbv
  rw [resolved] at made
  exact Except.ok.inj made

/-- A delta of 29 digits is rounded before it is added, so that the upper of two tiers reaches into the gap below
it. -/
theorem tiers_overlap_gap_of_long_delta : ∃ (delta : Decimal) (r : Registry),
    delta.isPositive = true ∧ Registry.Reached delta r ∧ r.Moderate .max .em ∧
    ¬∃ tiers, maxTiers (r.ofKind .max) = .ok tiers ∧
      Tiling (Covers (namedQueries ⟨false, false⟩ tiers) .em) (fun w => ∀ b ∈ r.ofKind .max, b.position < w)
        (GapAbove (r.ofKind .max) (LengthUnit.em.separation delta).rational) := by
  refine ⟨longDelta,_,rfl,longDelta_reached,longDelta_moderate,?_⟩
  change ¬∃ tiers, maxTiers [lowPoint, highPoint] = .ok tiers ∧
    Tiling (Covers (namedQueries ⟨false, false⟩ tiers) .em) (fun w => ∀ b ∈ [lowPoint, highPoint], b.position < w)
      (GapAbove [lowPoint, highPoint] (LengthUnit.em.separation longDelta).rational)
  rintro ⟨tiers,resolved,tiling⟩
  have lower := Query.writes_of_pointText (.finite false 999999999999999999999999995 (-1)) .em
    "99999999999999999999999999.5em" (by cbv) rfl (moderate_half false 999999999999999999999999995 (by decide)).representable
  have upper := Query.writes_of_pointText (.finite false 9000000000000000000000000005 (-1)) .em
    "900000000000000000000000000.5em" (by cbv) rfl (moderate_half false 9000000000000000000000000005 (by decide)).representable
  -- A quarter below the place where the upper tier should begin.
  apply tiling.bareGap (399999999999999999999999999 / 4) _ _ "high"
  · have admitted := Query.admits_query ⟨false, false⟩
      ⟨some "99999999999999999999999999.5em", some "900000000000000000000000000.5em"⟩ .em (some _) (some _)
      (399999999999999999999999999 / 4) (.some lower) (.some upper)
    refine ⟨_,longDelta_query tiers resolved,admitted.mpr ?_⟩
    norm_num [Decimal.rational,Decimal.magnitude]
  · intro beyond
    have above := beyond highPoint (by simp)
    rw [highPoint_position] at above
    norm_num at above
  · refine ⟨lowPoint,by simp,?_,?_,?_⟩
    · rw [lowPoint_position]
      norm_num
    · intro c member below
      obtain rfl | rfl : c = lowPoint ∨ c = highPoint := by simpa using member
      · exact le_rfl
      · rw [highPoint_position] at below
        norm_num at below
    · rw [lowPoint_position,separation_longDelta]
      norm_num

end MediaTiers
