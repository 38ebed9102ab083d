import MediaTiers.Proofs.Tier.MediaMap
import MediaTiers.Proofs.Tier.Partition
import Mathlib

/-! Cumulative ranges. The names made from a point stand for the widths on either side of a boundary: one range
gathers all tiers up to the point, the other starts where the range gathered at the neighbour ends, and the tier
is what both have in common. -/
namespace MediaTiers

namespace Decimal

theorem FewDigits.whole_lt {z : ℤ} (few : FewDigits z) (last : ¬(10 : ℤ) ∣ z) : |(z : ℚ)| < 10 ^ (28 : Int) := by
  obtain ⟨k,⟨y,same⟩,digits⟩ := few
  have size : precision = 28 := rfl
  rcases le_or_gt k 0 with fine | coarse
  · exact digits.trans_le (zpow_le_zpow_right₀ (by norm_num) (by omega))
  · exfalso
    apply last
    obtain ⟨n,rfl⟩ := Int.eq_ofNat_of_zero_le coarse.le
    rw [zpow_natCast] at same
    have product : z = y * 10 ^ n := by exact_mod_cast same
    rw [product]
    exact Dvd.dvd.mul_left (dvd_pow_self 10 (by omega)) y

/-- Of two neighbouring whole numbers one does not end in zero, so that few digits keep both small. -/
theorem FewDigits.neighbours {z : ℤ} (few : FewDigits z) (next : FewDigits ((z : ℚ) + 1)) :
    Representable z ∧ Representable ((z : ℚ) + 1) := by
  have succ : ((z + 1 : ℤ) : ℚ) = z + 1 := by push_cast; rfl
  have wide : (10 : ℚ) ^ (28 : Int) + 2 < 10 ^ (1001 : Int) := by
    calc
      (10 : ℚ) ^ (28 : Int) + 2 < 10 ^ (29 : Int) := by norm_num
      _ ≤ 10 ^ (1001 : Int) := zpow_le_zpow_right₀ (by norm_num) (by norm_num)
  have step := abs_add_le (z : ℚ) 1
  have back := abs_sub ((z : ℚ) + 1) 1
  rw [add_sub_cancel_right] at back
  rw [abs_one] at step back
  have small : |(z : ℚ)| < 10 ^ (28 : Int) ∨ |(z : ℚ) + 1| < 10 ^ (28 : Int) := by
    by_cases zero : (10 : ℤ) ∣ z
    · right
      rw [← succ] at next ⊢
      apply next.whole_lt
      omega
    · exact .inl (few.whole_lt zero)
  have bounds : |(z : ℚ)| < 10 ^ (1001 : Int) ∧ |(z : ℚ) + 1| < 10 ^ (1001 : Int) := by
    generalize (10 : ℚ) ^ (1001 : Int) = limit at wide ⊢
    generalize (10 : ℚ) ^ (28 : Int) = short at wide small
    rcases small with first | second
    · exact ⟨by linarith,by linarith⟩
    · exact ⟨by linarith,by linarith⟩
  have whole (y : ℤ) : OnGrid (-1026) y := OnGrid.finer ⟨y,by simp⟩ (by norm_num : (-1026 : Int) ≤ 0)
  refine ⟨few.representable (whole z) bounds.1,next.representable ?_ bounds.2⟩
  rw [← succ]
  exact whole (z + 1)

end Decimal

/-- The ranges of a member of a row, its neighbour being the member before it: the widths that fall to it, all
widths up to it, and all past the neighbour. Widths are seen along the row after `turn`. -/
structure Tier.Ranges (o : MediaOptions) (unit : LengthUnit) (place : Breakpoint → ℚ) (turn : ℚ → ℚ) (gap : ℚ)
    (own near : String → String) (e : Option Breakpoint × Breakpoint) (t : Tier) : Prop where
  named : t.name = e.2.name
  falls : ∀ w, Query.admits (t.range.query o) unit w = true ↔ Falls place gap (turn w) e
  upTo : ∃ range, (own e.2.name, range) ∈ t.synthesized ∧
    ∀ w, Query.admits (range.query o) unit w = true ↔ turn w ≤ place e.2
  past : ∀ a ∈ e.1, ∃ range, (near e.2.name, range) ∈ t.synthesized ∧
    ∀ w, Query.admits (range.query o) unit w = true ↔ place a + gap ≤ turn w

theorem maxTier_ranges (o : MediaOptions) (unit : LengthUnit) (gap : ℚ) (below : Option Breakpoint)
    (b : Breakpoint) (point : ∃ text, b.point = .ok text ∧ Query.Writes text b.position unit)
    (shift : ∀ a ∈ below, ∃ text, a.shifted .up = .ok text ∧ Query.Writes text (a.position + gap) unit) :
    ∃ t, maxTier below b = .ok t ∧ t.Ranges o unit Breakpoint.position id gap andDown andUp (below, b) := by
  obtain ⟨t,made,named,falls⟩ := maxTier_falls o unit gap below b point shift
  refine ⟨t,made,named,falls,?_,?_⟩
  · obtain ⟨text,lower,written,-,rfl⟩ := maxTier_success below b t made
    obtain ⟨other,same,writes⟩ := point
    obtain rfl := Except.ok.inj (written.symm.trans same)
    refine ⟨⟨none, some text⟩,by simp,?_⟩
    intro w
    simpa using Query.admits_query o ⟨none, some text⟩ unit none (some b.position) w .none (.some writes)
  · intro a before
    obtain ⟨text,lower,-,moved,rfl⟩ := maxTier_success below b t made
    obtain ⟨other,same,writes⟩ := shift a before
    obtain rfl : below = some a := before
    obtain ⟨shown,again,rfl⟩ := Attempt.mapM_some_success _ a lower moved
    obtain rfl := Except.ok.inj (again.symm.trans same)
    refine ⟨⟨some shown, none⟩,by simp,?_⟩
    intro w
    simpa using Query.admits_query o ⟨some shown, none⟩ unit (some (a.position + gap)) none w (.some writes) .none

theorem minTier_ranges (o : MediaOptions) (unit : LengthUnit) (gap : ℚ) (above : Option Breakpoint)
    (b : Breakpoint) (point : ∃ text, b.point = .ok text ∧ Query.Writes text b.position unit)
    (shift : ∀ a ∈ above, ∃ text, a.shifted .down = .ok text ∧ Query.Writes text (a.position - gap) unit) :
    ∃ t, minTier above b = .ok t ∧
      t.Ranges o unit (fun c => -c.position) (fun w => -w) gap andUp andDown (above, b) := by
  obtain ⟨t,made,named,falls⟩ := minTier_falls o unit gap above b point shift
  refine ⟨t,made,named,falls,?_,?_⟩
  · obtain ⟨text,upper,written,-,rfl⟩ := minTier_success above b t made
    obtain ⟨other,same,writes⟩ := point
    obtain rfl := Except.ok.inj (written.symm.trans same)
    refine ⟨⟨some text, none⟩,by simp,?_⟩
    intro w
    simpa using Query.admits_query o ⟨some text, none⟩ unit (some b.position) none w (.some writes) .none
  · intro a before
    obtain ⟨text,upper,-,moved,rfl⟩ := minTier_success above b t made
    obtain ⟨other,same,writes⟩ := shift a before
    obtain rfl : above = some a := before
    obtain ⟨shown,again,rfl⟩ := Attempt.mapM_some_success _ a upper moved
    obtain rfl := Except.ok.inj (again.symm.trans same)
    refine ⟨⟨none, some shown⟩,by simp,?_⟩
    intro w
    have turned : w ≤ a.position - gap ↔ -a.position + gap ≤ -w := by
      constructor <;> intro order <;> linarith
    rw [← turned]
    simpa using Query.admits_query o ⟨none, some shown⟩ unit none (some (a.position - gap)) w .none (.some writes)

theorem covers_made (o : MediaOptions) (unit : LengthUnit) (tiers : List Tier) (t : Tier) (key : String)
    (range : Range) (w : ℚ) (functional : OrderedMap.Functional (madeEntries o tiers)) (member : t ∈ tiers)
    (listed : (key, range) ∈ t.synthesized) :
    Covers (synthesizedQueries o tiers) unit w key ↔ Query.admits (range.query o) unit w = true := by
  have present : (key, range.query o) ∈ madeEntries o tiers :=
    List.mem_flatMap.mpr ⟨t,member,List.mem_map_of_mem (f := fun e => (e.1, e.2.query o)) listed⟩
  have found : (synthesizedQueries o tiers).lookup key = some (range.query o) :=
    (OrderedMap.lookup_ofList _ functional key).trans ((OrderedMap.lookup_eq_some_iff _ functional _ _).mpr present)
  simp [Covers,found]

theorem covers_named (o : MediaOptions) (unit : LengthUnit) (tiers : List Tier) (t : Tier) (w : ℚ)
    (distinct : (tiers.map (·.name)).Nodup) (member : t ∈ tiers) :
    Covers (namedQueries o tiers) unit w t.name ↔ Query.admits (t.range.query o) unit w = true := by
  have functional : OrderedMap.Functional (namedEntries o tiers) := by
    apply OrderedMap.functional_of_nodup
    simpa only [namedEntries,List.map_map,Function.comp_def] using distinct
  have present : (t.name, t.range.query o) ∈ namedEntries o tiers :=
    List.mem_map_of_mem (f := fun t => (t.name, t.range.query o)) member
  have found : (namedQueries o tiers).lookup t.name = some (t.range.query o) :=
    (OrderedMap.lookup_ofList _ functional _).trans ((OrderedMap.lookup_eq_some_iff _ functional _ _).mpr present)
  simp [Covers,found]

/-- The ranges of a point behind others: one gathers the tiers up to it, the other begins where the range gathered
at the last of the others ends, and its tier is what the two have in common. -/
structure Nested (named made : String → Prop) (own near : String → String) (before : List Breakpoint)
    (b : Breakpoint) : Prop where
  gathered : made (own b.name) ↔ ∃ a ∈ before ++ [b], named a.name
  complement : ∀ a ∈ before.getLast?, made (near b.name) ↔ ¬made (own a.name)
  common : ∀ a ∈ before.getLast?, named b.name ↔ made (near b.name) ∧ made (own b.name)

section Ranged

variable {o : MediaOptions} {unit : LengthUnit} {place : Breakpoint → ℚ} {turn : ℚ → ℚ} {gap : ℚ}
  {own near : String → String} {row : List Breakpoint} {tiers : List Tier}

theorem covers_falls (distinct : (tiers.map (·.name)).Nodup)
    (made : List.Forall₂ (Tier.Ranges o unit place turn gap own near) (beside none row) tiers) (w : ℚ)
    (e : Option Breakpoint × Breakpoint) (member : e ∈ beside none row) :
    Covers (namedQueries o tiers) unit w e.2.name ↔ Falls place gap (turn w) e := by
  obtain ⟨t,inside,ranges⟩ := exists_mem_of_forall₂ made e member
  rw [← ranges.named,covers_named o unit tiers t w distinct inside,ranges.falls]

theorem covers_upTo (functional : OrderedMap.Functional (madeEntries o tiers))
    (made : List.Forall₂ (Tier.Ranges o unit place turn gap own near) (beside none row) tiers) (w : ℚ)
    (e : Option Breakpoint × Breakpoint) (member : e ∈ beside none row) :
    Covers (synthesizedQueries o tiers) unit w (own e.2.name) ↔ turn w ≤ place e.2 := by
  obtain ⟨t,inside,ranges⟩ := exists_mem_of_forall₂ made e member
  obtain ⟨range,listed,admits⟩ := ranges.upTo
  rw [covers_made o unit tiers t _ range w functional inside listed,admits]

theorem covers_past (functional : OrderedMap.Functional (madeEntries o tiers))
    (made : List.Forall₂ (Tier.Ranges o unit place turn gap own near) (beside none row) tiers) (w : ℚ)
    (a b : Breakpoint) (member : (some a, b) ∈ beside none row) :
    Covers (synthesizedQueries o tiers) unit w (near b.name) ↔ place a + gap ≤ turn w := by
  obtain ⟨t,inside,ranges⟩ := exists_mem_of_forall₂ made _ member
  obtain ⟨range,listed,admits⟩ := ranges.past a rfl
  rw [covers_made o unit tiers t _ range w functional inside listed,admits]

/-- A width reaches up to a point exactly if it falls to one of the points up to there. -/
theorem upTo_iff_falls (rising : row.Pairwise fun a b => place a < place b) (before after : List Breakpoint)
    (b : Breakpoint) (split : row = before ++ b :: after) (w : ℚ) (clear : ∀ c ∈ row, place c < w → place c + gap ≤ w) :
    w ≤ place b ↔ ∃ e ∈ beside none (before ++ [b]), Falls place gap w e := by
  have stretch : before ++ [b] <+: row := ⟨after,by simp [split]⟩
  have order := rising.sublist stretch.sublist
  constructor
  · intro reached
    apply falls_exists place (before ++ [b]) gap w order ⟨b,by simp,reached⟩
    intro c inside below _
    exact clear c (stretch.subset inside) below
  · intro fallen
    obtain ⟨e,member,-,upper⟩ := fallen
    apply upper.trans
    rw [List.pairwise_append] at order
    rcases List.mem_append.mp (mem_beside none _ e member).1 with earlier | last
    · exact (order.2.2 e.2 earlier b (by simp)).le
    · rw [List.mem_singleton.mp last]

/-- Ranges made along a rising row are nested at all widths that lie in no gap. -/
theorem nested_along (positive : 0 < gap) (rising : row.Pairwise fun a b => place a < place b)
    (distinct : (tiers.map (·.name)).Nodup) (proper : ∀ t ∈ tiers, t.Proper)
    (made : List.Forall₂ (Tier.Ranges o unit place turn gap own near) (beside none row) tiers)
    (before after : List Breakpoint) (b : Breakpoint) (split : row = before ++ b :: after) (w : ℚ)
    (clear : ∀ c ∈ row, place c < turn w → place c + gap ≤ turn w) :
    (Covers (synthesizedQueries o tiers) unit w (own b.name) ↔ turn w ≤ place b) ∧
      Nested (Covers (namedQueries o tiers) unit w) (Covers (synthesizedQueries o tiers) unit w) own near before b := by
  have functional := madeEntries_functional o tiers distinct proper
  have here : (before.getLast?, b) ∈ beside none row := by
    rw [split]
    simpa using mem_beside_split none before after b
  have reach := covers_upTo functional made w _ here
  refine ⟨reach,?_,?_,?_⟩
  · have within : beside none (before ++ [b]) ⊆ beside none row := by
      have joined : row = (before ++ [b]) ++ after := by simp [split]
      rw [joined]
      exact beside_append none _ _
    rw [reach,upTo_iff_falls rising before after b split (turn w) clear]
    constructor
    · intro fallen
      obtain ⟨e,member,falls⟩ := fallen
      exact ⟨e.2,(mem_beside none _ e member).1,(covers_falls distinct made w e (within member)).mpr falls⟩
    · intro covered
      obtain ⟨a,member,covers⟩ := covered
      rw [← beside_map_snd none (before ++ [b])] at member
      obtain ⟨e,inside,rfl⟩ := List.mem_map.mp member
      exact ⟨e,inside,(covers_falls distinct made w e (within inside)).mp covers⟩
  · intro a last
    obtain ⟨front,rfl⟩ := List.getLast?_eq_some_iff.mp last
    have there : (front.getLast?, a) ∈ beside none row := by
      rw [split,List.append_assoc]
      simpa using mem_beside_split none front (b :: after) a
    rw [last] at here
    rw [covers_past functional made w a b here,covers_upTo functional made w _ there,not_le]
    constructor
    · intro past
      linarith
    · exact clear a (by simp [split])
  · intro a last
    have falls := covers_falls distinct made w _ here
    rw [last] at here
    rw [covers_past functional made w a b here,reach,falls]
    simp [Falls,Option.mem_def.mp last]

end Ranged

/-- A point at a whole number of pixels. -/
structure Breakpoint.AtPixel (b : Breakpoint) : Prop where
  placed : b.Placed
  measured : b.unit = some .px
  whole : ∃ z : ℤ, b.position = z

namespace Breakpoint.AtPixel

variable {b : Breakpoint}

theorem representable (pixel : b.AtPixel) (direction : Decimal.Direction) (few : Decimal.FewDigits b.position)
    (moved : Decimal.FewDigits (b.position + direction.sign)) :
    Decimal.Representable b.position ∧ Decimal.Representable (b.position + direction.sign) := by
  obtain ⟨z,place⟩ := pixel.whole
  rw [place] at few moved ⊢
  cases direction with
  | up => exact few.neighbours moved
  | down =>
    have below : (z : ℚ) + Decimal.Direction.down.sign = ((z - 1 : ℤ) : ℚ) := by
      push_cast [Decimal.Direction.sign]
      ring
    have above : (z : ℚ) = ((z - 1 : ℤ) : ℚ) + 1 := by
      push_cast
      ring
    rw [below] at moved ⊢
    rw [above] at few ⊢
    exact (moved.neighbours few).symm

theorem point_writes (pixel : b.AtPixel) (fits : Decimal.Representable b.position) :
    ∃ text, b.point = .ok text ∧ Query.Writes text b.position .px := by
  obtain ⟨value,held,finite⟩ := pixel.placed
  exact Breakpoint.point_writes b value .px held pixel.measured finite fits

theorem shifted_writes (pixel : b.AtPixel) (direction : Decimal.Direction)
    (fits : Decimal.Representable (b.position + direction.sign)) :
    ∃ text, b.shifted direction = .ok text ∧ Query.Writes text (b.position + direction.sign) .px := by
  obtain ⟨value,held,finite⟩ := pixel.placed
  have one : Decimal.Representable 1 := by
    simpa [Decimal.rational,Decimal.magnitude] using
      (Decimal.moderate_finite false 1 0 (by norm_num [Decimal.precision]) (by norm_num) (by norm_num)).representable
  have moved := Breakpoint.shifted_writes b value .px direction held pixel.measured finite rfl
  rw [LengthUnit.separation_px,mul_one] at moved
  exact moved one fits

/-- A whole number of pixels lies no closer than one pixel to a point, unless it is there. -/
theorem clear (pixel : b.AtPixel) (w : ℤ) :
    (b.position < w → b.position + 1 ≤ w) ∧ (-b.position < -w → -b.position + 1 ≤ -w) := by
  obtain ⟨z,place⟩ := pixel.whole
  rw [place]
  constructor
  · intro below
    exact_mod_cast below
  · intro above
    exact_mod_cast above

end Breakpoint.AtPixel

theorem ascending_distinct (bs : List Breakpoint) (placed : ∀ b ∈ bs, b.Placed) (apart : (bs.map (·.position)).Nodup) :
    ∃ row, ascending bs = .ok row ∧ row.Perm bs ∧ row.Pairwise fun a b => a.position < b.position := by
  obtain ⟨row,sorted,same,order⟩ := ascending_placed bs placed
  have distinct : row.Pairwise fun a b => a.position ≠ b.position :=
    List.pairwise_map.mp ((same.map _).nodup_iff.mpr apart)
  exact ⟨row,sorted,same,(order.and distinct).imp fun both => lt_of_le_of_ne both.1 both.2⟩

theorem maxTiers_nested (bs row : List Breakpoint) (o : MediaOptions) (sorted : ascending bs = .ok row)
    (same : row.Perm bs) (rising : row.Pairwise fun a b => a.position < b.position) (pixels : ∀ b ∈ bs, b.AtPixel)
    (named : (bs.map (·.name)).Nodup) (few : ∀ b ∈ bs, Decimal.FewDigits b.position)
    (raised : ∀ b ∈ bs, Decimal.FewDigits (b.position + 1)) :
    ∃ tiers, maxTiers bs = .ok tiers ∧ ∀ lower b upper, row = lower ++ b :: upper → ∀ w : ℤ,
      (Covers (synthesizedQueries o tiers) .px w (andDown b.name) ↔ (w : ℚ) ≤ b.position) ∧
      Nested (Covers (namedQueries o tiers) .px w) (Covers (synthesizedQueries o tiers) .px w) andDown andUp lower b := by
  have each : ∀ e ∈ beside none row, ∃ t, maxTier e.1 e.2 = .ok t ∧
      t.Ranges o .px Breakpoint.position id 1 andDown andUp e := by
    intro e member
    obtain ⟨inside,earlier⟩ := mem_beside none row e member
    have listed := same.mem_iff.mp inside
    apply maxTier_ranges o .px 1 e.1 e.2
    · exact (pixels e.2 listed).point_writes ((pixels e.2 listed).representable .up (few _ listed) (raised _ listed)).1
    · intro a before
      have listed : a ∈ bs := same.mem_iff.mp (by simpa using earlier a before)
      exact (pixels a listed).shifted_writes .up ((pixels a listed).representable .up (few a listed) (raised a listed)).2
  obtain ⟨tiers,resolved,made⟩ := tiersAlong_beside maxTier _ none row each
  have ok : maxTiers bs = .ok tiers := by rw [maxTiers,sorted,Attempt.ok_bind,resolved]
  obtain ⟨-,-,-,names,proper⟩ := maxTiers_success bs tiers ok
  refine ⟨tiers,ok,?_⟩
  intro lower b upper split w
  apply nested_along one_pos rising (names.nodup_iff.mpr named) proper made lower upper b split w
  intro c inside
  exact ((pixels c (same.mem_iff.mp inside)).clear w).1

theorem minTiers_nested (bs row : List Breakpoint) (o : MediaOptions) (sorted : ascending bs = .ok row)
    (same : row.Perm bs) (rising : row.Pairwise fun a b => a.position < b.position) (pixels : ∀ b ∈ bs, b.AtPixel)
    (named : (bs.map (·.name)).Nodup) (few : ∀ b ∈ bs, Decimal.FewDigits b.position)
    (lowered : ∀ b ∈ bs, Decimal.FewDigits (b.position - 1)) :
    ∃ tiers, minTiers bs = .ok tiers ∧ ∀ lower b upper, row = lower ++ b :: upper → ∀ w : ℤ,
      (Covers (synthesizedQueries o tiers) .px w (andUp b.name) ↔ b.position ≤ (w : ℚ)) ∧
      Nested (Covers (namedQueries o tiers) .px w) (Covers (synthesizedQueries o tiers) .px w) andUp andDown
        upper.reverse b := by
  have turned := (List.reverse_perm row).trans same
  have down (b : Breakpoint) : b.position + Decimal.Direction.down.sign = b.position - 1 := by
    simp only [Decimal.Direction.sign]
    ring
  simp only [← down] at lowered
  have falling : row.reverse.Pairwise fun a b => -a.position < -b.position :=
    List.pairwise_reverse.mpr (rising.imp neg_lt_neg)
  have each : ∀ e ∈ beside none row.reverse, ∃ t, minTier e.1 e.2 = .ok t ∧
      t.Ranges o .px (fun c => -c.position) (fun w => -w) 1 andUp andDown e := by
    intro e member
    obtain ⟨inside,earlier⟩ := mem_beside none row.reverse e member
    have listed := turned.mem_iff.mp inside
    apply minTier_ranges o .px 1 e.1 e.2
    · exact (pixels e.2 listed).point_writes ((pixels e.2 listed).representable .down (few _ listed) (lowered _ listed)).1
    · intro a before
      have listed : a ∈ bs := turned.mem_iff.mp (by simpa using earlier a before)
      rw [← down]
      exact (pixels a listed).shifted_writes .down
        ((pixels a listed).representable .down (few a listed) (lowered a listed)).2
  obtain ⟨tiers,resolved,made⟩ := tiersAlong_beside minTier _ none row.reverse each
  have ok : minTiers bs = .ok tiers := by rw [minTiers,sorted,Attempt.ok_bind,resolved]
  obtain ⟨-,-,-,names,proper⟩ := minTiers_success bs tiers ok
  refine ⟨tiers,ok,?_⟩
  intro lower b upper split w
  have turnedSplit : row.reverse = upper.reverse ++ b :: lower.reverse := by simp [split]
  rw [← neg_le_neg_iff]
  apply nested_along one_pos falling (names.nodup_iff.mpr named) proper made upper.reverse lower.reverse b turnedSplit w
  intro c inside
  exact ((pixels c (turned.mem_iff.mp inside)).clear w).2

/-- At whole pixels the ranges made along the max points are nested upwards, and those made along the min points
downwards. -/
theorem cumulative_ranges (bs : List Breakpoint) (o : MediaOptions) (pixels : ∀ b ∈ bs, b.AtPixel)
    (named : (bs.map (·.name)).Nodup) (apart : (bs.map (·.position)).Nodup)
    (few : ∀ b ∈ bs, Decimal.FewDigits b.position) :
    ∃ row, ascending bs = .ok row ∧ row.Perm bs ∧ (row.Pairwise fun a b => a.position < b.position) ∧
    ((∀ b ∈ bs, Decimal.FewDigits (b.position + 1)) → ∃ tiers, maxTiers bs = .ok tiers ∧
      ∀ lower b upper, row = lower ++ b :: upper → ∀ w : ℤ,
        (Covers (synthesizedQueries o tiers) .px w (andDown b.name) ↔ (w : ℚ) ≤ b.position) ∧
        Nested (Covers (namedQueries o tiers) .px w) (Covers (synthesizedQueries o tiers) .px w) andDown andUp
          lower b) ∧
    ((∀ b ∈ bs, Decimal.FewDigits (b.position - 1)) → ∃ tiers, minTiers bs = .ok tiers ∧
      ∀ lower b upper, row = lower ++ b :: upper → ∀ w : ℤ,
        (Covers (synthesizedQueries o tiers) .px w (andUp b.name) ↔ b.position ≤ (w : ℚ)) ∧
        Nested (Covers (namedQueries o tiers) .px w) (Covers (synthesizedQueries o tiers) .px w) andUp andDown
          upper.reverse b) := by
  obtain ⟨row,sorted,same,rising⟩ := ascending_distinct bs (fun b member => (pixels b member).placed) apart
  refine ⟨row,sorted,same,rising,?_,?_⟩
  · exact maxTiers_nested bs row o sorted same rising pixels named few
  · exact minTiers_nested bs row o sorted same rising pixels named few

/-- Two devices, declared in falling order, with the ranges of the larger one. -/
theorem cumulative_ranges_devices : ∃ palm tab : Breakpoint,
    palm.name = "palm" ∧ tab.name = "tab" ∧ palm.position = 340 ∧ tab.position = 700 ∧
    ∃ tiers, maxTiers [tab, palm] = .ok tiers ∧ ∀ w : ℤ,
      (Covers (synthesizedQueries ⟨false, false⟩ tiers) .px w "tab-and-down" ↔ (w : ℚ) ≤ 700) ∧
      Nested (Covers (namedQueries ⟨false, false⟩ tiers) .px w)
        (Covers (synthesizedQueries ⟨false, false⟩ tiers) .px w) andDown andUp [palm] tab := by
  let palm : Breakpoint := .ofPoint "palm" .max (.ofNat 340) .px defaultDelta
  let tab : Breakpoint := .ofPoint "tab" .max (.ofNat 700) .px defaultDelta
  have low : palm.position = 340 := by
    norm_num [palm,Breakpoint.position,Breakpoint.ofPoint,Decimal.ofNat,Decimal.rational,Decimal.magnitude]
  have high : tab.position = 700 := by
    norm_num [tab,Breakpoint.position,Breakpoint.ofPoint,Decimal.ofNat,Decimal.rational,Decimal.magnitude]
  have few (n : Nat) (short : n < 10 ^ Decimal.precision) : Decimal.FewDigits (n : ℚ) := by
    simpa [Decimal.rational,Decimal.magnitude] using Decimal.fewDigits_finite false n 0 short
  have pixels : ∀ b ∈ [tab, palm], b.AtPixel := by
    intro b member
    obtain rfl | rfl : b = tab ∨ b = palm := by simpa using member
    · exact ⟨⟨_,rfl,rfl⟩,rfl,700,by simp [high]⟩
    · exact ⟨⟨_,rfl,rfl⟩,rfl,340,by simp [low]⟩
  obtain ⟨row,sorted,-,-,up,-⟩ := cumulative_ranges [tab, palm] ⟨false, false⟩ pixels (by decide)
    (by norm_num [low,high])
    (by
      intro b member
      obtain rfl | rfl : b = tab ∨ b = palm := by simpa using member
      · rw [high]
        exact_mod_cast few 700 (by decide)
      · rw [low]
        exact_mod_cast few 340 (by decide))
  obtain ⟨tiers,resolved,nested⟩ := up (by
    intro b member
    obtain rfl | rfl : b = tab ∨ b = palm := by simpa using member
    · rw [high]
      exact_mod_cast few 701 (by decide)
    · rw [low]
      exact_mod_cast few 341 (by decide))
  have order : ascending [tab, palm] = .ok [palm, tab] := by cbv
  obtain rfl : row = [palm, tab] := Except.ok.inj (sorted.symm.trans order)
  refine ⟨palm,tab,rfl,rfl,low,high,tiers,resolved,?_⟩
  intro w
  rw [← high]
  exact nested [palm] tab [] rfl w

end MediaTiers
