import MediaTiers.Proofs.Config
import MediaTiers.Proofs.Registry.Refusal
import MediaTiers.Proofs.Tier.MediaMap
import MediaTiers.Proofs.Tier.Partition
import Mathlib

/-! Whether neighbouring tiers meet. The bounds of a tier are printed after rounding, a point as the nearest number of
few digits and the neighbour's point after the step away from it has been rounded and added. Such bounds are
never in the wrong order, and they coincide exactly if rounding absorbs the step. -/
namespace MediaTiers

namespace Query

/-- The point that a query gives for an end of its range, with its unit. -/
def limit? (bound : Bound) (query : String) : Option (ℚ × LengthUnit) :=
  ((limits? query).bind fun limits => limits.find? (·.bound == bound)).map fun limit => (limit.value, limit.unit)

theorem limit_query (o : MediaOptions) (r : Range) (lower upper : Option (ℚ × LengthUnit))
    (low : Option.Rel (fun text limit => Writes text limit.1 limit.2) r.lower lower)
    (high : Option.Rel (fun text limit => Writes text limit.1 limit.2) r.upper upper) :
    limit? .min (r.query o) = lower ∧ limit? .max (r.query o) = upper := by
  obtain ⟨lowerText,upperText⟩ := r
  have limits : limits? (Range.query o ⟨lowerText, upperText⟩) =
      some ((lower.map fun l => ⟨.min, l.1, l.2⟩).toList ++ (upper.map fun l => ⟨.max, l.1, l.2⟩).toList) := by
    apply limits_query
    cases low with
    | none => cases high with
      | none => exact .nil
      | some writes => exact .cons ⟨rfl,writes⟩ .nil
    | some lowWrites => cases high with
      | none => exact .cons ⟨rfl,lowWrites⟩ .nil
      | some writes => exact .cons ⟨rfl,lowWrites⟩ (.cons ⟨rfl,writes⟩ .nil)
  rw [limit?,limit?,limits]
  cases lower <;> cases upper <;> simp

theorem pointText_nearest (x : Decimal) (unit : LengthUnit) (text : String) (finite : x.isFinite = true)
    (ok : pointText x unit = .ok text) : Writes text (Decimal.nearest x.rational) unit := by
  obtain ⟨number,printed,joined⟩ := Attempt.bind_success _ _ _ ok
  cases joined
  obtain ⟨n,a,e,rfl⟩ := x.exists_finite finite
  obtain ⟨y,fitted⟩ : ∃ y, Decimal.fit (.finite n a e) = .ok y := by
    rw [Decimal.fit_ok_iff,← Decimal.plain_ok_iff]
    exact ⟨number,numeric_success _ _ printed⟩
  obtain ⟨b,f,rfl,same,low,-,high⟩ := Decimal.fit_nearest n a e y fitted
  obtain ⟨text,written,plain,z,found,zFinite,value⟩ := Decimal.plain_fitted _ n b f fitted low high
  obtain rfl := Except.ok.inj (written.symm.trans (numeric_success _ _ printed))
  rw [← Decimal.nearest_rational n a e b f same,← value]
  exact writes_of_plain text unit z plain found zFinite

end Query

/-- A point with its unit, and a finite distance to keep from it. -/
structure Breakpoint.Measured (b : Breakpoint) (unit : LengthUnit) : Prop where
  placed : b.Placed
  inUnit : b.unit = some unit
  step : (unit.separation b.delta).isFinite = true

namespace Breakpoint.Measured

variable {b : Breakpoint} {unit : LengthUnit} {text : String}

theorem point_prints (measured : b.Measured unit) (ok : b.point = .ok text) :
    Query.Writes text (Decimal.nearest b.position) unit := by
  obtain ⟨value,held,finite⟩ := measured.placed
  have place := b.position_eq value held
  rw [place]
  exact Query.pointText_nearest value unit text finite (by simpa [point,held,measured.inUnit] using ok)

theorem shifted_prints (measured : b.Measured unit) (direction : Decimal.Direction) (ok : b.shifted direction = .ok text) :
    Query.Writes text
      (Decimal.nearest (b.position + Decimal.nearest (direction.sign * (unit.separation b.delta).rational))) unit := by
  obtain ⟨value,held,finite⟩ := measured.placed
  have place := b.position_eq value held
  rw [shifted,b.tieBreak_eq unit measured.inUnit,Attempt.ok_bind,held,measured.inUnit] at ok
  obtain ⟨step,stepped,rest⟩ := Attempt.bind_success _ _ _ ok
  obtain ⟨sum,added,written⟩ := Attempt.bind_success _ _ _ rest
  obtain ⟨stepFinite,size⟩ := Decimal.directed_success _ step direction measured.step (numeric_success _ _ stepped)
  obtain ⟨sumFinite,fits,total⟩ := Decimal.add_success value step sum finite stepFinite (numeric_success _ _ added)
  have printed := Query.pointText_nearest sum unit text sumFinite written
  rwa [Decimal.nearest_of_representable fits,total,size,← Decimal.nearest_sign,← place] at printed

end Breakpoint.Measured

/-- The bounds that the query of a tier prints: one for its own point, and one for the neighbour's, moved by the
rounded step. -/
structure Tier.Prints (o : MediaOptions) (own near : Bound) (direction : Decimal.Direction)
    (e : Option Breakpoint × Breakpoint) (t : Tier) : Prop where
  ownLimit : ∀ u, e.2.unit = some u → Query.limit? own (t.range.query o) = some (Decimal.nearest e.2.position, u)
  nearLimit : ∀ a ∈ e.1, ∀ u, a.unit = some u → Query.limit? near (t.range.query o) =
    some (Decimal.nearest (a.position + Decimal.nearest (direction.sign * (u.separation a.delta).rational)), u)

theorem maxTier_prints (o : MediaOptions) (below : Option Breakpoint) (b : Breakpoint) (t : Tier)
    (ok : maxTier below b = .ok t) (measured : ∃ u, b.Measured u) (others : ∀ a ∈ below, ∃ u, a.Measured u) :
    t.Prints o .max .min .up (below, b) := by
  obtain ⟨unit,measured⟩ := measured
  obtain ⟨point,lower,written,moved,rfl⟩ := maxTier_success below b t ok
  have upper := measured.point_prints written
  cases below with
  | none =>
    cases moved
    have limits := Query.limit_query o ⟨none, some point⟩ none (some (_, unit)) .none (.some upper)
    exact ⟨fun u inUnit => Option.some.inj (measured.inUnit.symm.trans inUnit) ▸ limits.2,by simp⟩
  | some a =>
    obtain ⟨u,neighbour⟩ := others a rfl
    obtain ⟨text,shifted,rfl⟩ := Attempt.mapM_some_success _ _ _ moved
    have limits := Query.limit_query o ⟨some text, some point⟩ (some (_, u)) (some (_, unit))
      (.some (neighbour.shifted_prints .up shifted)) (.some upper)
    refine ⟨fun u inUnit => Option.some.inj (measured.inUnit.symm.trans inUnit) ▸ limits.2,?_⟩
    intro c same w inUnit
    obtain rfl : a = c := Option.some.inj same
    exact Option.some.inj (neighbour.inUnit.symm.trans inUnit) ▸ limits.1

theorem minTier_prints (o : MediaOptions) (above : Option Breakpoint) (b : Breakpoint) (t : Tier)
    (ok : minTier above b = .ok t) (measured : ∃ u, b.Measured u) (others : ∀ a ∈ above, ∃ u, a.Measured u) :
    t.Prints o .min .max .down (above, b) := by
  obtain ⟨unit,measured⟩ := measured
  obtain ⟨point,upper,written,moved,rfl⟩ := minTier_success above b t ok
  have lower := measured.point_prints written
  cases above with
  | none =>
    cases moved
    have limits := Query.limit_query o ⟨some point, none⟩ (some (_, unit)) none (.some lower) .none
    exact ⟨fun u inUnit => Option.some.inj (measured.inUnit.symm.trans inUnit) ▸ limits.1,by simp⟩
  | some a =>
    obtain ⟨u,neighbour⟩ := others a rfl
    obtain ⟨text,shifted,rfl⟩ := Attempt.mapM_some_success _ _ _ moved
    have limits := Query.limit_query o ⟨some point, some text⟩ (some (_, unit)) (some (_, u)) (.some lower)
      (.some (neighbour.shifted_prints .down shifted))
    refine ⟨fun u inUnit => Option.some.inj (measured.inUnit.symm.trans inUnit) ▸ limits.1,?_⟩
    intro c same w inUnit
    obtain rfl : a = c := Option.some.inj same
    exact Option.some.inj (neighbour.inUnit.symm.trans inUnit) ▸ limits.2

/-- Two neighbours of a row, by the bounds that face each other in their queries. -/
theorem prints_along (tier : Option Breakpoint → Breakpoint → Except Failure Tier) (o : MediaOptions) (own near : Bound)
    (direction : Decimal.Direction) (m : OrderedMap String) (front back : List Breakpoint) (a b : Breakpoint)
    (unit : LengthUnit) (inUnit : a.unit = some unit)
    (measured : ∀ c ∈ front ++ a :: b :: back, ∃ u, c.Measured u)
    (prints : ∀ before c t, tier before c = .ok t → (∃ u, c.Measured u) → (∀ d ∈ before, ∃ u, d.Measured u) →
      t.Prints o own near direction (before, c))
    (queries : ∀ e ∈ beside none (front ++ a :: b :: back),
      ∃ t, tier e.1 e.2 = .ok t ∧ m.lookup e.2.name = some (t.range.query o)) :
    ∃ first second, m.lookup a.name = some first ∧ m.lookup b.name = some second ∧
      Query.limit? own first = some (Decimal.nearest a.position, unit) ∧
      Query.limit? near second = some (Decimal.nearest (a.position +
        Decimal.nearest (direction.sign * (unit.separation a.delta).rational)), unit) := by
  have here : (front.getLast?, a) ∈ beside none (front ++ a :: b :: back) := by
    simpa using mem_beside_split none front (b :: back) a
  have there : (some a, b) ∈ beside none (front ++ a :: b :: back) := by
    simpa using mem_beside_split none (front ++ [a]) back b
  have printed (e : Option Breakpoint × Breakpoint) (member : e ∈ beside none (front ++ a :: b :: back)) :
      ∃ t : Tier, m.lookup e.2.name = some (t.range.query o) ∧ t.Prints o own near direction e := by
    obtain ⟨t,made,query⟩ := queries e member
    obtain ⟨inside,earlier⟩ := mem_beside none _ e member
    refine ⟨t,query,prints e.1 e.2 t made (measured e.2 inside) ?_⟩
    intro d before
    exact measured d (by simpa using earlier d before)
  obtain ⟨t,tQuery,tPrints⟩ := printed _ here
  obtain ⟨s,sQuery,sPrints⟩ := printed _ there
  exact ⟨_,_,tQuery,sQuery,tPrints.ownLimit unit inUnit,sPrints.nearLimit a rfl unit inUnit⟩

/-- A step that rounding does not see beside a number. -/
def Absorbs (q step : ℚ) : Prop :=
  Decimal.nearest (q + Decimal.nearest step) = Decimal.nearest q

theorem absorbs_iff_of_pos {q step : ℚ} (positive : 0 < step) :
    Decimal.nearest q ≤ Decimal.nearest (q + Decimal.nearest step) ∧
      (Decimal.nearest q < Decimal.nearest (q + Decimal.nearest step) ↔ ¬Absorbs q step) := by
  have order : Decimal.nearest q ≤ Decimal.nearest (q + Decimal.nearest step) := by
    apply Decimal.nearest_mono
    linarith [Decimal.nearest_nonneg positive.le]
  exact ⟨order,order.lt_iff_ne.trans ne_comm⟩

theorem absorbs_iff_of_neg {q step : ℚ} (negative : step < 0) :
    Decimal.nearest (q + Decimal.nearest step) ≤ Decimal.nearest q ∧
      (Decimal.nearest (q + Decimal.nearest step) < Decimal.nearest q ↔ ¬Absorbs q step) := by
  have order : Decimal.nearest (q + Decimal.nearest step) ≤ Decimal.nearest q := by
    have sign := Decimal.nearest_nonneg (neg_nonneg.mpr negative.le)
    rw [Decimal.nearest_neg] at sign
    apply Decimal.nearest_mono
    linarith
  exact ⟨order,order.lt_iff_ne⟩

/-- A step is seen where it leads from a number of few digits to another. -/
theorem not_absorbs_of_representable {q step : ℚ} (nonzero : step ≠ 0) (fits : Decimal.Representable q)
    (stepFits : Decimal.Representable step) (sumFits : Decimal.Representable (q + step)) : ¬Absorbs q step := by
  rw [Absorbs,Decimal.nearest_of_representable stepFits,Decimal.nearest_of_representable fits,
    Decimal.nearest_of_representable sumFits]
  simpa using nonzero

namespace Registry

theorem delta_stable (delta : Decimal) : Stable fun r => r.delta = delta where
  flag _ _ _ same := same
  point r name kind value unit _ same := by
    rcases r.addPoint_left name kind value unit with unchanged | ⟨-,pushed⟩
    · rwa [unchanged]
    · rwa [pushed]
  query r name raw same := by
    rcases r.addQuery_left name raw with unchanged | ⟨-,pushed⟩
    · rwa [unchanged]
    · rwa [pushed]

theorem declared_delta (delta : Decimal) (earlier : List (Value × Value)) : (declared delta earlier).delta = delta := by
  refine List.foldlRecOn (motive := fun r : Registry => r.delta = delta) _ _ rfl ?_
  intro r same operation member
  obtain ⟨entry,-,rfl⟩ := List.mem_map.mp member
  exact (delta_stable delta).declare entry.1 entry.2 ⟨r, []⟩ same

theorem Sound.measured {r : Registry} (sound : r.Sound) (positive : r.delta.isPositive = true) (kind : Kind)
    (typed : kind ≠ .custom) (b : Breakpoint) (member : b ∈ r.ofKind kind) :
    b.delta = r.delta ∧ ∃ unit, b.Measured unit := by
  have sameKind := r.kind_of_mem kind b member
  cases sound.formed b (List.mem_of_mem_filter member) with
  | query name raw => exact absurd sameKind.symm typed
  | point name k value u _ finite =>
    exact ⟨rfl,u,⟨value,rfl,finite⟩,rfl,(u.separation_finite r.delta positive).1⟩

theorem WellKept.tier_queries {r : Registry} (kept : r.WellKept) (o : MediaOptions) (m : OrderedMap String)
    (ok : r.mediaMap o = .ok m) :
    (∀ row, ascending (r.ofKind .max) = .ok row → ∀ e ∈ beside none row,
      ∃ t, maxTier e.1 e.2 = .ok t ∧ m.lookup e.2.name = some (t.range.query o)) ∧
    ∀ row, ascending (r.ofKind .min) = .ok row → ∀ e ∈ beside none row.reverse,
      ∃ t, minTier e.1 e.2 = .ok t ∧ m.lookup e.2.name = some (t.range.query o) := by
  obtain ⟨maxs,mins,maxOk,minOk,rfl⟩ := r.mediaMap_success o m ok
  obtain ⟨maxRow,maxOrder,maxMade,maxNames,maxProper⟩ := maxTiers_success _ _ maxOk
  obtain ⟨minRow,minOrder,minMade,minNames,minProper⟩ := minTiers_success _ _ minOk
  have declared := r.declared_keys o maxs mins kept.keyed maxNames minNames
  have distinct : ((mins ++ maxs).map (·.name)).Nodup := by
    have named := declared.nodup_iff.mpr kept.distinct
    rw [List.map_append] at named
    simpa only [namedEntries,List.map_map,Function.comp_def] using named.of_append_right
  have made := madeEntries_functional o _ distinct (List.forall_mem_append.mpr ⟨minProper,maxProper⟩)
  have tiers := (r.overlay_reads o maxs mins kept declared made).2
  constructor
  · intro row sorted e member
    obtain rfl := Except.ok.inj (maxOrder.symm.trans sorted)
    obtain ⟨t,inside,ok⟩ := exists_mem_of_forall₂ (tiersAlong_success _ _ _ _ maxMade) e member
    refine ⟨t,ok,?_⟩
    rw [← (maxTier_proper _ _ _ ok).1]
    exact (tiers t (List.mem_append_right _ inside)).1
  · intro row sorted e member
    obtain rfl := Except.ok.inj (minOrder.symm.trans sorted)
    obtain ⟨t,inside,ok⟩ := exists_mem_of_forall₂ (tiersAlong_success _ _ _ _ minMade) e member
    refine ⟨t,ok,?_⟩
    rw [← (minTier_proper _ _ _ ok).1]
    exact (tiers t (List.mem_append_left _ inside)).1

end Registry

/-- The bounds printed on either side of the border between neighbouring tiers are in order, and coincide exactly if
rounding absorbs the step between them. -/
theorem adjacent_tiers_apart_iff (v : Value) (config : Config) (accepted : Config.ofValue v = .ok config)
    (earlier : List (Value × Value)) (o : MediaOptions) (m : OrderedMap String)
    (resolved : (Registry.declared config.delta earlier).mediaMap o = .ok m) (lower upper : List Breakpoint)
    (p q : Breakpoint) (unit : LengthUnit) (pUnit : p.unit = some unit) (qUnit : q.unit = some unit) :
    let r := Registry.declared config.delta earlier
    let step := (unit.separation config.delta).rational
    (ascending (r.ofKind .max) = .ok (lower ++ p :: q :: upper) →
      ∃ below above high low, m.lookup p.name = some below ∧ m.lookup q.name = some above ∧
        Query.limit? .max below = some (high, unit) ∧ Query.limit? .min above = some (low, unit) ∧
        high ≤ low ∧ (high < low ↔ ¬Absorbs p.position step)) ∧
    (ascending (r.ofKind .min) = .ok (lower ++ p :: q :: upper) →
      ∃ below above high low, m.lookup p.name = some below ∧ m.lookup q.name = some above ∧
        Query.limit? .max below = some (high, unit) ∧ Query.limit? .min above = some (low, unit) ∧
        high ≤ low ∧ (high < low ↔ ¬Absorbs q.position (-step))) := by
  intro r step
  have kept : r.WellKept := Registry.afterAll_wellKept config.delta _
  have sound : r.Sound := Registry.declared_sound config.delta earlier
  have same : r.delta = config.delta := Registry.declared_delta config.delta earlier
  have accepted := Config.delta_positive v config accepted
  have positive : 0 < step := (unit.separation_finite config.delta accepted).2
  have measured (kind : Kind) (typed : kind ≠ .custom) (sorted : ascending (r.ofKind kind) = .ok (lower ++ p :: q :: upper))
      (c : Breakpoint) (member : c ∈ lower ++ p :: q :: upper) :=
    sound.measured (same ▸ accepted) kind typed c ((ascending_success _ _ sorted).subset member)
  obtain ⟨maxQueries,minQueries⟩ := kept.tier_queries o m resolved
  constructor
  · intro sorted
    have points := measured .max (by decide) sorted
    obtain ⟨below,above,first,second,high,low⟩ := prints_along maxTier o .max .min .up m lower upper p q unit pUnit
      (fun c member => (points c member).2) (maxTier_prints o) (maxQueries _ sorted)
    rw [(points p (by simp)).1,same,Decimal.Direction.sign,one_mul] at low
    exact ⟨below,above,_,_,first,second,high,low,absorbs_iff_of_pos positive⟩
  · intro sorted
    have points := measured .min (by decide) sorted
    have turned : (lower ++ p :: q :: upper).reverse = upper.reverse ++ q :: p :: lower.reverse := by simp
    obtain ⟨above,below,second,first,low,high⟩ := prints_along minTier o .min .max .down m upper.reverse lower.reverse q p
      unit qUnit (fun c member => (points c (List.mem_reverse.mp (turned ▸ member))).2) (minTier_prints o)
      (turned ▸ minQueries _ sorted)
    rw [(points q (by simp)).1,same,Decimal.Direction.sign,neg_one_mul] at high
    exact ⟨below,above,_,_,first,second,high,low,absorbs_iff_of_neg (neg_neg_iff_pos.mpr positive)⟩

/-- Two devices, one pixel apart. -/
theorem adjacent_tiers_apart_iff_devices :
    let earlier : List (Value × Value) := [(.text "breakpoint-tab", .text "max 700px"),
      (.text "breakpoint-palm", .text "340px max")]
    ∃ m below above high low, Config.ofValue (.map []) = .ok .default ∧
      (Registry.declared Config.default.delta earlier).mediaMap ⟨false, false⟩ = .ok m ∧
      m.lookup "palm" = some below ∧ m.lookup "tab" = some above ∧
      Query.limit? .max below = some (high, .px) ∧ Query.limit? .min above = some (low, .px) ∧ high < low := by
  intro earlier
  let palm : Breakpoint := .ofPoint "palm" .max (.finite false 340 0) .px defaultDelta
  let tab : Breakpoint := .ofPoint "tab" .max (.finite false 700 0) .px defaultDelta
  have held : Registry.declared Config.default.delta earlier = .holding defaultDelta [tab, palm] [] := by decide +kernel
  obtain ⟨m,resolved⟩ : ∃ m, (Registry.declared Config.default.delta earlier).mediaMap ⟨false, false⟩ = .ok m :=
    ⟨_,by rw [held]; cbv⟩
  have sorted : ascending ((Registry.declared Config.default.delta earlier).ofKind .max) = .ok ([] ++ palm :: tab :: []) := by
    rw [held]
    cbv
  have natural (n : Nat) (short : n < 10 ^ Decimal.precision) : Decimal.Representable (n : ℚ) := by
    simpa [Decimal.rational,Decimal.magnitude] using
      (Decimal.moderate_finite false n 0 short (by decide) (by decide)).representable
  have place : palm.position = 340 := by
    norm_num [palm,Breakpoint.position,Breakpoint.ofPoint,Decimal.rational,Decimal.magnitude]
  have seen : ¬Absorbs palm.position (LengthUnit.px.separation Config.default.delta).rational := by
    rw [place,LengthUnit.separation_px]
    apply not_absorbs_of_representable one_ne_zero
    · exact_mod_cast natural 340 (by decide)
    · exact_mod_cast natural 1 (by decide)
    · norm_num
      exact_mod_cast natural 341 (by decide)
  obtain ⟨below,above,high,low,first,second,upTo,past,-,apart⟩ := (adjacent_tiers_apart_iff (.map []) .default rfl earlier
    ⟨false, false⟩ m resolved [] [] palm tab .px rfl rfl).1 sorted
  exact ⟨m,below,above,high,low,rfl,resolved,first,second,upTo,past,apart.mpr seen⟩

/-- A step far below the precision: the upper tier begins at the very point where the lower one ends. -/
theorem adjacent_tiers_meet :
    let v : Value := .map [(.text "fractional_delta", .text "1e-40")]
    let earlier : List (Value × Value) := [(.text "breakpoint-palm", .text "max 1em"),
      (.text "breakpoint-tab", .text "max 2em")]
    ∃ config m p q below above high low, Config.ofValue v = .ok config ∧
      (Registry.declared config.delta earlier).mediaMap ⟨false, false⟩ = .ok m ∧
      ascending ((Registry.declared config.delta earlier).ofKind .max) = .ok [p, q] ∧
      p.unit = some .em ∧ q.unit = some .em ∧ m.lookup p.name = some below ∧ m.lookup q.name = some above ∧
      Query.limit? .max below = some (high, .em) ∧ Query.limit? .min above = some (low, .em) ∧ ¬high < low := by
  intro v earlier
  let delta : Decimal := .finite false 1 (-40)
  let palm : Breakpoint := .ofPoint "palm" .max (.finite false 1 0) .em delta
  let tab : Breakpoint := .ofPoint "tab" .max (.finite false 2 0) .em delta
  have read : Config.ofValue v = .ok ⟨false, false, true, delta, .word⟩ := by decide +kernel
  have held : Registry.declared delta earlier = .holding delta [palm, tab] [] := by decide +kernel
  have sorted : ascending (Registry.ofKind (.holding delta [palm, tab] []) .max) = .ok [palm, tab] := by cbv
  have one : pointText (.finite false 1 0) .em = .ok "1em" := by cbv
  have two : pointText (.finite false 2 0) .em = .ok "2em" := by cbv
  have moved : palm.shifted .up = .ok "1em" :=
    palm.shifted_of_sum (.finite false 1 0) delta (.finite false (10 ^ 27) (-27)) .em .up "1em" rfl rfl
      (by decide +kernel) (by decide +kernel) (by cbv)
  have resolved : Registry.mediaMap (.holding delta [palm, tab] []) ⟨false, false⟩ = .ok
      [("palm-and-down", "screen and (max-width: 1em)"), ("tab-and-down", "screen and (max-width: 2em)"),
        ("tab-and-up", "screen and (min-width: 1em)"), ("palm", "screen and (max-width: 1em)"),
        ("tab", "screen and (min-width: 1em) and (max-width: 2em)")] := by
    have none : minTiers (Registry.ofKind (.holding delta [palm, tab] []) .min) = .ok [] := by cbv
    have low : palm.point = .ok "1em" := one
    have high : tab.point = .ok "2em" := two
    rw [Registry.mediaMap,none,maxTiers,sorted]
    simp only [Attempt.ok_bind,tiersAlong,maxTier,low,high,moved]
    cbv
  have lower := Query.pointText_nearest _ _ _ rfl one
  have upper := Query.pointText_nearest _ _ _ rfl two
  have upTo := (Query.limit_query ⟨false, false⟩ ⟨none, some "1em"⟩ none (some (_, .em)) .none (.some lower)).2
  have past := (Query.limit_query ⟨false, false⟩ ⟨some "1em", some "2em"⟩ (some (_, .em)) (some (_, .em))
    (.some lower) (.some upper)).1
  rw [← held] at resolved sorted
  exact ⟨_,_,palm,tab,_,_,_,_,read,resolved,sorted,rfl,rfl,rfl,rfl,upTo,past,lt_irrefl _⟩

end MediaTiers
