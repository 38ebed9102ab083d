import MediaTiers.Proofs.OrderedMap
import MediaTiers.Proofs.Stylesheet.Declared
import MediaTiers.Proofs.Tier.MediaMap
import MediaTiers.Transform
import Mathlib

/-! Where breakpoints and options are declared does not matter. Clashes have no order, sorting forgets the order
of registration, and where no name has two values neither does a map keep the order it was written in. -/
namespace MediaTiers

/-- No two points of one kind have the same number in different units. -/
def UnitsAgree (bs : List Breakpoint) : Prop :=
  ∀ a ∈ bs, ∀ b ∈ bs, a.kind = b.kind → a.kind ≠ .custom → a.position = b.position → a.unit = b.unit

/-- No option is declared with two flags, and no number with two units. -/
structure Consistent (delta : Decimal) (pairs : List (Value × Value)) : Prop where
  flags : OrderedMap.Functional (flagsSaid delta pairs)
  units : UnitsAgree (breakpointsSaid delta pairs)

theorem Consistent.perm {delta : Decimal} {pairs others : List (Value × Value)} (same : pairs.Perm others)
    (consistent : Consistent delta pairs) : Consistent delta others := by
  have breakpoints : (breakpointsSaid delta pairs).Perm (breakpointsSaid delta others) := same.filterMap _
  constructor
  · exact consistent.flags.perm (same.filterMap _)
  · intro a aMember b bMember
    exact consistent.units a (breakpoints.mem_iff.mpr aMember) b (breakpoints.mem_iff.mpr bMember)

namespace Registry

variable (r s : Registry) (o : MediaOptions)

theorem ascending_ofKind_perm (kind : Kind) (same : r.breakpoints.Perm s.breakpoints) (sound : r.Sound)
    (typed : kind ≠ .custom) (units : UnitsAgree r.breakpoints) :
    ascending (r.ofKind kind) = ascending (s.ofKind kind) := by
  apply ascending_perm
  · intro b member
    obtain ⟨value,held,finite,-⟩ := r.ofKind_point kind sound typed b member
    exact ⟨value,held,finite⟩
  · exact same.filter _
  · intro a aMember b bMember level
    have aKind := r.kind_of_mem kind a aMember
    have sameKind := aKind.trans (r.kind_of_mem kind b bMember).symm
    have aInside := List.mem_of_mem_filter aMember
    have bInside := List.mem_of_mem_filter bMember
    have sameUnit := units a aInside b bInside sameKind (aKind ▸ typed) level
    exact sound.eq_of_clashes a b aInside bInside (.inr ⟨sameKind,aKind ▸ typed,sameUnit,level⟩)

theorem customQueries_perm (same : r.breakpoints.Perm s.breakpoints) (sound : r.Sound) (name : String) :
    (customQueries (r.ofKind .custom)).lookup name = (customQueries (s.ofKind .custom)).lookup name := by
  have moved : ((r.ofKind .custom).map fun b => (b.name, b.raw.getD "")).Perm
      ((s.ofKind .custom).map fun b => (b.name, b.raw.getD "")) := (same.filter _).map _
  have functional : OrderedMap.Functional ((r.ofKind .custom).map fun b => (b.name, b.raw.getD "")) := by
    apply OrderedMap.functional_of_nodup
    rw [List.map_map]
    have distinct := sound.names_nodup
    rw [sound.keyed.names_eq] at distinct
    exact distinct.sublist (List.filter_sublist.map _)
  exact OrderedMap.lookup_ofList_perm _ _ functional moved name

theorem mediaMap_perm (m n : OrderedMap String) (same : r.breakpoints.Perm s.breakpoints) (sound : r.Sound)
    (units : UnitsAgree r.breakpoints) (first : r.mediaMap o = .ok m) (second : s.mediaMap o = .ok n) (name : String) :
    m.lookup name = n.lookup name := by
  obtain ⟨maxs,mins,maxOk,minOk,rfl⟩ := r.mediaMap_success o m first
  obtain ⟨maxs',mins',maxOk',minOk',rfl⟩ := s.mediaMap_success o n second
  have sameMaxs : maxs = maxs' := by
    rw [maxTiers,ascending_ofKind_perm r s .max same sound (by decide) units] at maxOk
    exact Except.ok.inj (maxOk.symm.trans maxOk')
  have sameMins : mins = mins' := by
    rw [minTiers,ascending_ofKind_perm r s .min same sound (by decide) units] at minOk
    exact Except.ok.inj (minOk.symm.trans minOk')
  rw [overlay_lookup,overlay_lookup,sameMaxs,sameMins,customQueries_perm r s same sound name]

end Registry

theorem Selector.substitute_congr (m n : OrderedMap String) (same : ∀ name, m.lookup name = n.lookup name)
    (mode : MatchMode) (text : String) : substitute m mode text = substitute n mode text := by
  have replaced : replace m = replace n := by
    funext token
    rw [replace,replace,same]
  cases mode with
  | word => rw [substitute,substitute,replaced]
  | exact => rw [substitute,substitute,same]

theorem withFlags_perm (o : MediaOptions) (delta : Decimal) (pairs others : List (Value × Value))
    (same : pairs.Perm others) (consistent : Consistent delta pairs) :
    o.withFlags (registryOf delta pairs).options = o.withFlags (registryOf delta others).options := by
  have looked := OrderedMap.lookup_ofList_perm _ _ consistent.flags (same.filterMap _)
  simp only [MediaOptions.withFlags,registryOf,Registry.holding_options]
  rw [looked "device",looked "use-only"]
  rfl

namespace Stylesheet

/-- Two sheets that declare the same breakpoints and options, wherever and in whatever order, fail together, and
otherwise give every name the same query, so that every selector text is replaced alike. -/
theorem placement_irrelevant (one other : Stylesheet) (config : Config)
    (same : (declared one).Perm (declared other)) (consistent : Consistent config.delta (declared one)) :
    ((∃ failure l, walk config.pruneEmpty one ⟨.empty config.delta, []⟩ = .error failure l) ↔
      ∃ failure l, walk config.pruneEmpty other ⟨.empty config.delta, []⟩ = .error failure l) ∧
    ∀ walked walked' l l' m m',
      walk config.pruneEmpty one ⟨.empty config.delta, []⟩ = .ok walked l →
      walk config.pruneEmpty other ⟨.empty config.delta, []⟩ = .ok walked' l' →
      l.registry.mediaMap (config.mediaOptions.withFlags l.registry.options) = .ok m →
      l'.registry.mediaMap (config.mediaOptions.withFlags l'.registry.options) = .ok m' →
      (∀ name, m.lookup name = m'.lookup name) ∧
      ∀ mode text, Selector.substitute m mode text = Selector.substitute m' mode text := by
  have moved : (declaredPairs (walkOrder one)).Perm (declaredPairs (walkOrder other)) :=
    (walkOrder_declared one).trans (same.trans (walkOrder_declared other).symm)
  constructor
  · rw [Pass.fails_iff,Pass.fails_iff]
    simp only [walk_leaves,exists_and_left,exists_eq,and_true]
    exact not_congr ⟨Registrable.perm moved,Registrable.perm moved.symm⟩
  · intro walked walked' l l' m m' first second resolved resolved'
    obtain ⟨registrable,held⟩ := (walk_leaves config.pruneEmpty one config.delta l.registry).mp ⟨walked,l,first,rfl⟩
    obtain ⟨-,held'⟩ := (walk_leaves config.pruneEmpty other config.delta l'.registry).mp ⟨walked',l',second,rfl⟩
    have agreed := consistent.perm (walkOrder_declared one).symm
    rw [held] at resolved
    rw [held',← withFlags_perm config.mediaOptions config.delta _ _ moved agreed] at resolved'
    have points : (registryOf config.delta (declaredPairs (walkOrder one))).breakpoints.Perm
        (registryOf config.delta (declaredPairs (walkOrder other))).breakpoints := by
      rw [registryOf_breakpoints,registryOf_breakpoints]
      exact moved.filterMap _
    have units := agreed.units
    rw [← registryOf_breakpoints] at units
    have lookups := Registry.mediaMap_perm _ _ _ m m' points registrable.sound units resolved resolved'
    exact ⟨lookups,Selector.substitute_congr m m' lookups⟩

/-- The same breakpoint and option in one rule, and apart from each other in the other order. -/
theorem placement_irrelevant_palm :
    let one : Stylesheet :=
      [rule ".a" [declaration "breakpoint-palm" "max 340px", declaration "breakpoints-device" "yes"]]
    let other : Stylesheet := [media "palm" [rule ".a" [declaration "breakpoints-device" "yes"]],
      rule ".b" [declaration "breakpoint-palm" "max 340px"]]
    (declared one).Perm (declared other) ∧ Consistent defaultDelta (declared one) ∧
    ∃ walked walked' l l' m m', walk true one ⟨.empty defaultDelta, []⟩ = .ok walked l ∧
      walk true other ⟨.empty defaultDelta, []⟩ = .ok walked' l' ∧
      l.registry.mediaMap (Config.default.mediaOptions.withFlags l.registry.options) = .ok m ∧
      l'.registry.mediaMap (Config.default.mediaOptions.withFlags l'.registry.options) = .ok m' ∧
      m.lookup "palm" = some "screen and (max-device-width: 340px)" ∧ ∀ name, m.lookup name = m'.lookup name := by
  intro one other
  let palm : Value × Value := (.text "breakpoint-palm", .text "max 340px")
  let device : Value × Value := (.text "breakpoints-device", .text "yes")
  let r : Registry := .holding defaultDelta [.ofPoint "palm" .max (.finite false 340 0) .px defaultDelta] [("device", true)]
  let m : OrderedMap String := [("palm-and-down", "screen and (max-device-width: 340px)"),
    ("palm", "screen and (max-device-width: 340px)")]
  have held : registryOf defaultDelta [palm, device] = r := by cbv
  have turned : registryOf defaultDelta [device, palm] = r := by cbv
  have flags : flagsSaid defaultDelta [palm, device] = [("device", true)] := by cbv
  have points : breakpointsSaid defaultDelta [palm, device] = r.breakpoints :=
    (registryOf_breakpoints _ _).symm.trans (congrArg Registry.breakpoints held)
  have said : (Meaning.of? defaultDelta palm.1 palm.2).isSome ∧ (Meaning.of? defaultDelta device.1 device.2).isSome := by
    constructor <;> cbv
  have registrable : Registrable defaultDelta [palm, device] := ⟨by simp [said],by simp [points,r]⟩
  have consistent : Consistent defaultDelta [palm, device] :=
    ⟨by simp [OrderedMap.Functional,flags],by simp [UnitsAgree,points,r]⟩
  have here : declared one = [palm, device] ∧ declaredPairs (walkOrder one) = [palm, device] := by
    constructor <;> cbv
  have there : declared other = [device, palm] ∧ declaredPairs (walkOrder other) = [device, palm] := by
    constructor <;> cbv
  have same : (declared one).Perm (declared other) := by
    rw [here.1,there.1]
    exact .swap ..
  rw [← here.1] at consistent
  obtain ⟨walked,l,ok,left⟩ := (walk_leaves true one defaultDelta r).mpr (by rw [here.2,held]; exact ⟨registrable,rfl⟩)
  obtain ⟨walked',l',ok',left'⟩ := (walk_leaves true other defaultDelta r).mpr (by
    rw [there.2,turned]
    exact ⟨registrable.perm (.swap ..),rfl⟩)
  have resolved : r.mediaMap (Config.default.mediaOptions.withFlags r.options) = .ok m := by cbv
  have resolvedHere : l.registry.mediaMap (Config.default.mediaOptions.withFlags l.registry.options) = .ok m := by
    rw [left,resolved]
  have resolvedThere : l'.registry.mediaMap (Config.default.mediaOptions.withFlags l'.registry.options) = .ok m := by
    rw [left',resolved]
  obtain ⟨lookups,-⟩ := (placement_irrelevant one other .default same consistent).2 walked walked' l l' m m ok ok'
    resolvedHere resolvedThere
  exact ⟨same,consistent,walked,walked',l,l',m,m,ok,ok',resolvedHere,resolvedThere,by cbv,lookups⟩

end Stylesheet
end MediaTiers
