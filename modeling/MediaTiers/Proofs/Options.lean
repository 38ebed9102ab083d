import MediaTiers.Proofs.Referable
import MediaTiers.Proofs.Tier.Query

/-! The options of a run. A flag is decided by the last declaration that sets it, wherever it stands in the sheet, and by
the configuration if none does. The queries are written after the whole sheet has been read, so all of them are in
the style of the options that are left in the end. -/
namespace MediaTiers

def Declaration.sets (key : String) (d : Declaration) : Bool :=
  match Property.ofValue d.property with
  | .ok (.option written) => Text.lowercase written == key
  | _ => false

/-- The flag that declarations leave: the last of those that set it decides. -/
def flagAfter (preset : Bool) (key : String) (ds : List Declaration) : Except Failure Bool :=
  match (ds.filter (·.sets key)).getLast? with
  | none => .ok preset
  | some d => flagOf d.value

theorem Meaning.lookup_flag (delta : Decimal) (d : Declaration) (m : Meaning) (key : String)
    (said : of? delta d.property d.value = some m) :
    if d.sets key then ∃ flag, flagOf d.value = .ok flag ∧ m.flag?.toList.lookup key = some flag
    else m.flag?.toList.lookup key = none := by
  cases meant : Property.ofValue d.property with
  | error failure => simp [of?,meant] at said
  | ok property => cases property with
    | other =>
      obtain rfl : nothing = m := by simpa [of?,meant] using said
      simp [Declaration.sets,meant,flag?]
    | option written =>
      simp only [of?,meant] at said
      obtain ⟨flag,read,rfl⟩ := Option.map_eq_some_iff.mp said
      cases outcome : flagOf d.value with
      | error failure => simp [outcome,Except.toOption] at read
      | ok held =>
        obtain rfl : held = flag := by simpa [outcome,Except.toOption] using read
        by_cases same : Text.lowercase written = key
        · simp [Declaration.sets,meant,flag?,same]
        · simp [Declaration.sets,meant,flag?,same,OrderedMap.lookup_cons,Ne.symm same]
    | breakpoint name =>
      have named := of_name delta d.property d.value m said
      rw [(breakpointName_iff _ name).mpr meant] at named
      cases m with
      | breakpoint b => simp [Declaration.sets,meant,flag?]
      | _ => cases named

theorem flagAfter_concat (preset : Bool) (key : String) (ds : List Declaration) (d : Declaration) :
    flagAfter preset key (ds ++ [d]) = if d.sets key then flagOf d.value else flagAfter preset key ds := by
  cases decides : d.sets key <;> simp [flagAfter,List.filter_append,decides]

/-- Writing down one flag after another leaves what the last declaration of a key says. -/
theorem flagAfter_said (delta : Decimal) (preset : Bool) (key : String) (ds : List Declaration)
    (readable : ∀ d ∈ ds, (Meaning.of? delta d.property d.value).isSome) :
    flagAfter preset key ds =
      .ok (((OrderedMap.ofList (flagsSaid delta (ds.map (·.pair)))).lookup key).getD preset) := by
  have looked (entries : List (String × Bool)) :
      (OrderedMap.ofList entries).lookup key = entries.reverse.lookup key := by
    simp [OrderedMap.ofList,OrderedMap.lookup_putAll]
  rw [looked]
  induction ds using List.reverseRecOn with
  | nil => rfl
  | append_singleton ds d ih =>
    obtain ⟨m,said⟩ := Option.isSome_iff_exists.mp (readable d (by simp))
    have flags : flagsSaid delta ((ds ++ [d]).map (·.pair)) = flagsSaid delta (ds.map (·.pair)) ++ m.flag?.toList := by
      have single := flagsSaid_cons delta d.pair [] m said
      rw [List.map_append,flagsSaid,List.filterMap_append]
      simpa [flagsSaid] using single
    have before := ih fun e member => readable e (by simp [member])
    have last := Meaning.lookup_flag delta d m key said
    have turned : m.flag?.toList.reverse = m.flag?.toList := by cases m.flag? <;> rfl
    rw [flagAfter_concat,before,flags,List.reverse_append,List.lookup_append,turned]
    cases decides : d.sets key with
    | true =>
      rw [decides] at last
      obtain ⟨flag,read,found⟩ := last
      rw [found]
      exact read
    | false =>
      rw [decides] at last
      rw [last]
      rfl

def IsPointText (text : String) : Prop :=
  ∃ value unit, pointText value unit = .ok text

theorem Breakpoint.point_isPointText (b : Breakpoint) (text : String) (ok : b.point = .ok text) : IsPointText text := by
  unfold point at ok
  split at ok
  next value unit _ _ => exact ⟨value,unit,ok⟩
  next => cases ok

theorem Breakpoint.shifted_isPointText (b : Breakpoint) (direction : Decimal.Direction) (text : String)
    (ok : b.shifted direction = .ok text) : IsPointText text := by
  obtain ⟨tie,-,rest⟩ := Attempt.bind_success _ _ _ ok
  obtain ⟨step,-,written⟩ := Attempt.bind_success _ _ _ rest
  split at written
  next value unit _ _ =>
    obtain ⟨sum,-,text⟩ := Attempt.bind_success _ _ _ written
    exact ⟨sum,unit,text⟩
  next => cases written

structure Range.Pointed (r : Range) : Prop where
  bounded : r.ends ≠ []
  points : ∀ e ∈ r.ends, IsPointText e.2

theorem Range.pointed_iff (lower upper : Option String) : Range.Pointed ⟨lower, upper⟩ ↔
    (lower.isSome = true ∨ upper.isSome = true) ∧ (∀ text ∈ lower, IsPointText text) ∧
      ∀ text ∈ upper, IsPointText text := by
  constructor
  · rintro ⟨bounded,points⟩
    cases lower <;> cases upper <;> simp_all [ends]
  · rintro ⟨bounded,low,high⟩
    constructor <;> cases lower <;> cases upper <;> simp_all [ends]

theorem Range.Pointed.styled_iff {r : Range} (pointed : r.Pointed) (o p : MediaOptions) :
    Query.Styled p (r.query o) ↔ p = o := by
  apply Query.styled_query_iff o p r pointed.bounded
  intro e member
  obtain ⟨value,unit,written⟩ := pointed.points e member
  exact Query.pointText_free value unit e.2 written

theorem maxTier_pointed (below : Option Breakpoint) (b : Breakpoint) (t : Tier) (ok : maxTier below b = .ok t) :
    ∀ range ∈ t.ranges, range.Pointed := by
  obtain ⟨point,lower,written,moved,rfl⟩ := maxTier_success below b t ok
  have own := b.point_isPointText point written
  cases below with
  | none =>
    cases moved
    simp [Tier.ranges,Range.pointed_iff,own]
  | some neighbour =>
    obtain ⟨text,shifted,rfl⟩ := Attempt.mapM_some_success _ _ _ moved
    simp [Tier.ranges,Range.pointed_iff,own,neighbour.shifted_isPointText .up text shifted]

theorem minTier_pointed (above : Option Breakpoint) (b : Breakpoint) (t : Tier) (ok : minTier above b = .ok t) :
    ∀ range ∈ t.ranges, range.Pointed := by
  obtain ⟨point,upper,written,moved,rfl⟩ := minTier_success above b t ok
  have own := b.point_isPointText point written
  cases above with
  | none =>
    cases moved
    simp [Tier.ranges,Range.pointed_iff,own]
  | some neighbour =>
    obtain ⟨text,shifted,rfl⟩ := Attempt.mapM_some_success _ _ _ moved
    simp [Tier.ranges,Range.pointed_iff,own,neighbour.shifted_isPointText .down text shifted]

theorem tiersAlong_pointed (tier : Option Breakpoint → Breakpoint → Except Failure Tier) (row : List Breakpoint)
    (tiers : List Tier) (each : ∀ near b t, tier near b = .ok t → ∀ range ∈ t.ranges, range.Pointed)
    (ok : tiersAlong tier none row = .ok tiers) : ∀ t ∈ tiers, ∀ range ∈ t.ranges, range.Pointed := by
  intro t member
  obtain ⟨e,-,made⟩ := exists_mem_of_forall₂ (tiersAlong_success tier none row tiers ok).flip t member
  exact each e.1 e.2 t made

/-- A query that no custom breakpoint gives is in the style of the options of the map, and of no others. -/
theorem Registry.mediaMap_styled (r : Registry) (o : MediaOptions) (m : OrderedMap String) (ok : r.mediaMap o = .ok m)
    (e : String × String) (member : e ∈ m) (typed : ∀ b ∈ r.breakpoints, b.kind = .custom → b.name ≠ e.1) :
    ∀ p, Query.Styled p e.2 ↔ p = o := by
  obtain ⟨maxs,mins,maxOk,minOk,rfl⟩ := r.mediaMap_success o m ok
  obtain ⟨_,-,maxMade,-⟩ := maxTiers_success _ _ maxOk
  obtain ⟨_,-,minMade,-⟩ := minTiers_success _ _ minOk
  rcases r.mem_overlay o maxs mins e member with custom | ⟨t,listed,range,inside,written⟩
  · obtain ⟨b,kept,rfl⟩ := List.mem_map.mp custom
    exact absurd rfl (typed b (List.mem_of_mem_filter kept) (r.kind_of_mem .custom b kept))
  · have pointed : range.Pointed := by
      rcases List.mem_append.mp listed with ofMins | ofMaxs
      · exact tiersAlong_pointed minTier _ mins minTier_pointed minMade t ofMins range inside
      · exact tiersAlong_pointed maxTier _ maxs maxTier_pointed maxMade t ofMaxs range inside
    rw [written]
    exact pointed.styled_iff o

namespace Stylesheet

theorem flagAfter_walk (sheet : Stylesheet) (delta : Decimal) (preset : Bool) (key : String)
    (registrable : Registrable delta (declaredPairs (walkOrder sheet))) :
    flagAfter preset key (walkOrder sheet) =
      .ok (((registryOf delta (declaredPairs (walkOrder sheet))).options.lookup key).getD preset) := by
  rw [flagAfter_said delta preset key _ ((readable_declared delta _).mpr registrable.readable),flagsSaid_declared]
  rfl

/-- The flags of a run are those of the last declarations that set them, or of the configuration. All queries that are
made from points are in the style of these flags, and every breakpoint with a point has one. -/
theorem options_last_declared (sheet after : Stylesheet) (config : Config) (warnings : List String) (report : Report)
    (ok : sheet.transform config = (warnings, .ok (after, report))) :
    flagAfter config.deviceWidth "device" (walkOrder sheet) = .ok report.options.deviceWidth ∧
    flagAfter config.useOnly "use-only" (walkOrder sheet) = .ok report.options.useOnly ∧
    (∀ e ∈ report.mediaMap, (∀ b ∈ report.breakpoints, b.kind = .custom → b.name ≠ e.1) →
      ∀ o, Query.Styled o e.2 ↔ o = report.options) ∧
    ∀ b ∈ report.breakpoints, b.kind ≠ .custom → ∃ query, report.mediaMap.lookup b.name = some query ∧
      ∀ o, Query.Styled o query ↔ o = report.options := by
  obtain ⟨registrable,resolved⟩ := transform_resolved sheet after config warnings report ok
  obtain ⟨found,-,-,-,breakpoints,options⟩ := resolve_success _ _ _ _ _ resolved
  have styled := Registry.mediaMap_styled _ _ _ found
  have sound := registrable.sound
  rw [breakpoints]
  refine ⟨?_,?_,styled,?_⟩
  · rw [flagAfter_walk sheet config.delta _ _ registrable,options]
    rfl
  · rw [flagAfter_walk sheet config.delta _ _ registrable,options]
    rfl
  · intro b member typed
    have named : b.name ∈ (registryOf config.delta (declaredPairs (walkOrder sheet))).names := by
      rw [sound.keyed.names_eq]
      exact List.mem_map_of_mem member
    obtain ⟨query,stands⟩ := OrderedMap.lookup_of_mem _ _
      ((Registry.mediaMap_keys _ _ _ sound.keyed found).1 b.name named)
    refine ⟨query,stands,styled _ (OrderedMap.mem_of_lookup _ _ _ stands) ?_⟩
    -- A name is declared once, so no custom breakpoint has that of a point.
    intro c listed custom same
    obtain rfl := sound.eq_of_clashes c b listed member (.inl same)
    exact typed custom

/-- The breakpoint is declared before the option, and the rule around another has the last word. -/
theorem options_last_declared_nested :
    let outer : Rule := ⟨.text "media", [], some [declaration "breakpoints-DEVICE" "Yes"],
      some [rule ".a" [declaration "var-breakpoints-device" "no"]], .text "palm"⟩
    let sheet : Stylesheet := [rule ":root" [declaration "breakpoint-palm" "max 340px"], outer]
    let config : Config := ⟨true, false, false, defaultDelta, .word⟩
    ∃ warnings after report, sheet.transform config = (warnings, .ok (after, report)) ∧
      flagAfter false "device" (walkOrder sheet) = .ok true ∧ flagAfter true "use-only" (walkOrder sheet) = .ok true ∧
      report.mediaMap.lookup "palm" = some "only screen and (max-device-width: 340px)" ∧
      ∀ o, Query.Styled o "only screen and (max-device-width: 340px)" ↔ o = ⟨true, true⟩ := by
  intro outer sheet config
  let pairs : List (Value × Value) := [(.text "breakpoint-palm", .text "max 340px"),
    (.text "var-breakpoints-device", .text "no"), (.text "breakpoints-DEVICE", .text "Yes")]
  let palm : Breakpoint := .ofPoint "palm" .max (.finite false 340 0) .px defaultDelta
  let around (media : String) : Rule := ⟨.text "media", [], some [], some [rule ".a" []], .text media⟩
  let query := "only screen and (max-device-width: 340px)"
  let after : Stylesheet := [rule ":root" [], around query]
  let report : Report := ⟨[palm], [("palm-and-down", query), ("palm", query)], [around query], 1, ⟨true, true⟩⟩
  have order : declaredPairs (walkOrder sheet) = pairs := by cbv
  have held : registryOf defaultDelta pairs = .holding defaultDelta [palm] [("device", true)] := by cbv
  have said : (pairs.all fun p => (Meaning.of? defaultDelta p.1 p.2).isSome) = true := by cbv
  have points : breakpointsSaid defaultDelta pairs = [palm] := by
    rw [← registryOf_breakpoints,held,Registry.holding_breakpoints]
  have registrable : Registrable defaultDelta pairs := ⟨List.all_eq_true.mp said,by simp [points]⟩
  have taken : (declaration "breakpoint-palm" "max 340px").isOther = false ∧
      (declaration "var-breakpoints-device" "no").isOther = false ∧
      (declaration "breakpoints-DEVICE" "Yes").isOther = false := by
    refine ⟨?_,?_,?_⟩ <;> cbv
  have leaves : ⟨left false sheet, collected false sheet⟩ =
      (⟨[rule ":root" [], around "palm"], [around "palm"]⟩ : Walked (List Rule)) := by
    simp [sheet,outer,around,left,collected_cons,collected_nil,rule,Rule.around,Rule.children,Value.isEmpty,taken]
  have resolved : resolve config (registryOf defaultDelta pairs) ⟨[rule ":root" [], around "palm"], [around "palm"]⟩ =
      .ok (after, report) := by
    rw [held]
    cbv
  obtain ⟨warnings,ok⟩ := transform_success sheet after config report pairs _ order leaves registrable resolved
  obtain ⟨device,only,-,styled⟩ := options_last_declared sheet after config warnings report ok
  have typed : palm.kind ≠ .custom := by decide
  obtain ⟨given,stands,tells⟩ := styled palm (by simp [report]) typed
  have found : report.mediaMap.lookup palm.name = some query := by cbv
  obtain rfl := Option.some.inj (stands.symm.trans found)
  exact ⟨warnings,after,report,ok,device,only,found,tells⟩

end Stylesheet
end MediaTiers
