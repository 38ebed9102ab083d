import MediaTiers.Proofs.OrderedMap
import MediaTiers.Proofs.Registry.Invariant
import MediaTiers.Proofs.Tier.Order

/-! The names of a media map: those declared, and those made from the points among them. A declared name keeps
its own query whatever it is spelled like. No two points make one name, for names are distinct and so are
the endings put after them. -/
namespace MediaTiers

theorem ending_inj (a b ending : String) (same : a ++ ending = b ++ ending) : a = b := by
  have letters := congrArg String.toList same
  simp only [String.toList_append,List.append_cancel_right_eq] at letters
  exact String.toList_inj.mp letters

theorem andUp_ne_andDown (a b : String) : andUp a ≠ andDown b := by
  intro same
  have last := congrArg (fun s : String => s.toList.getLast?) same
  simp [andUp,andDown] at last

theorem maxTier_success (below : Option Breakpoint) (b : Breakpoint) (t : Tier) (ok : maxTier below b = .ok t) :
    ∃ point lower, b.point = .ok point ∧ below.mapM (·.shifted .up) = .ok lower ∧
      t = ⟨b.name, ⟨lower, some point⟩,
        (andDown b.name, ⟨none, some point⟩) :: lower.toList.map fun text => (andUp b.name, ⟨some text, none⟩)⟩ := by
  obtain ⟨point,written,rest⟩ := Attempt.bind_success _ _ _ ok
  cases below with
  | none =>
    cases rest
    exact ⟨point,none,written,rfl,rfl⟩
  | some neighbour =>
    obtain ⟨lower,moved,made⟩ := Attempt.bind_success _ _ _ rest
    cases made
    refine ⟨point,some lower,written,?_,rfl⟩
    simp [Option.mapM,moved,Functor.map,Except.map]

theorem minTier_success (above : Option Breakpoint) (b : Breakpoint) (t : Tier) (ok : minTier above b = .ok t) :
    ∃ point upper, b.point = .ok point ∧ above.mapM (·.shifted .down) = .ok upper ∧
      t = ⟨b.name, ⟨some point, upper⟩,
        (andUp b.name, ⟨some point, none⟩) :: upper.toList.map fun text => (andDown b.name, ⟨none, some text⟩)⟩ := by
  obtain ⟨point,written,rest⟩ := Attempt.bind_success _ _ _ ok
  cases above with
  | none =>
    cases rest
    exact ⟨point,none,written,rfl,rfl⟩
  | some neighbour =>
    obtain ⟨upper,moved,made⟩ := Attempt.bind_success _ _ _ rest
    cases made
    refine ⟨point,some upper,written,?_,rfl⟩
    simp [Option.mapM,moved,Functor.map,Except.map]

def Tier.ranges (t : Tier) : List Range :=
  t.range :: t.synthesized.map (·.2)

/-- The names made from a tier are its own name with the two endings, each once at most. -/
structure Tier.Proper (t : Tier) : Prop where
  endings : ∀ e ∈ t.synthesized, e.1 = andUp t.name ∨ e.1 = andDown t.name
  distinct : (t.synthesized.map (·.1)).Nodup

theorem maxTier_proper (below : Option Breakpoint) (b : Breakpoint) (t : Tier) (ok : maxTier below b = .ok t) :
    t.name = b.name ∧ t.Proper := by
  obtain ⟨point,lower,-,-,rfl⟩ := maxTier_success below b t ok
  refine ⟨rfl,?_,?_⟩
  · cases lower <;> simp
  · cases lower <;> simp [(andUp_ne_andDown _ _).symm]

theorem minTier_proper (above : Option Breakpoint) (b : Breakpoint) (t : Tier) (ok : minTier above b = .ok t) :
    t.name = b.name ∧ t.Proper := by
  obtain ⟨point,upper,-,-,rfl⟩ := minTier_success above b t ok
  refine ⟨rfl,?_,?_⟩
  · cases upper <;> simp
  · cases upper <;> simp [andUp_ne_andDown]

theorem tiersAlong_proper (tier : Option Breakpoint → Breakpoint → Except Failure Tier) (row : List Breakpoint)
    (tiers : List Tier) (proper : ∀ near b t, tier near b = .ok t → t.name = b.name ∧ t.Proper)
    (ok : tiersAlong tier none row = .ok tiers) :
    tiers.map (·.name) = row.map (·.name) ∧ ∀ t ∈ tiers, t.Proper := by
  have made : List.Forall₂ (fun e t => t.name = e.2.name ∧ t.Proper) (beside none row) tiers :=
    (tiersAlong_success tier none row tiers ok).imp fun (e : Option Breakpoint × Breakpoint) t => proper e.1 e.2 t
  rw [← beside_map_snd none row,List.map_map]
  generalize beside none row = pairs at made
  clear ok
  induction made with
  | nil => simp
  | cons first _ rest => exact ⟨by simp [first.1,rest.1],List.forall_mem_cons.mpr ⟨first.2,rest.2⟩⟩

def namedEntries (o : MediaOptions) (tiers : List Tier) : List (String × String) :=
  tiers.map fun t => (t.name, t.range.query o)

def madeEntries (o : MediaOptions) (tiers : List Tier) : List (String × String) :=
  tiers.flatMap fun t => t.synthesized.map fun e => (e.1, e.2.query o)

def customEntries (bs : List Breakpoint) : List (String × String) :=
  bs.map fun b => (b.name, b.raw.getD "")

/-- No made name has two queries: it tells the tier it was made from, and there the ending. -/
theorem madeEntries_functional (o : MediaOptions) (tiers : List Tier) (distinct : (tiers.map (·.name)).Nodup)
    (proper : ∀ t ∈ tiers, t.Proper) : OrderedMap.Functional (madeEntries o tiers) := by
  intro key v w first second
  obtain ⟨t,tMember,first⟩ := List.mem_flatMap.mp first
  obtain ⟨u,uMember,second⟩ := List.mem_flatMap.mp second
  obtain ⟨d,dMember,dEntry⟩ := List.mem_map.mp first
  obtain ⟨e,eMember,eEntry⟩ := List.mem_map.mp second
  obtain ⟨rfl,rfl⟩ := Prod.mk.inj dEntry
  obtain ⟨sameKey,rfl⟩ := Prod.mk.inj eEntry
  have sameName : t.name = u.name := by
    have dEnding := (proper t tMember).endings d dMember
    rw [← sameKey] at dEnding
    rcases dEnding with up | down
    · rcases (proper u uMember).endings e eMember with up' | down'
      · exact ending_inj _ _ _ (up.symm.trans up')
      · exact absurd (up.symm.trans down') (andUp_ne_andDown _ _)
    · rcases (proper u uMember).endings e eMember with up' | down'
      · exact absurd (up'.symm.trans down) (andUp_ne_andDown _ _)
      · exact ending_inj _ _ _ (down.symm.trans down')
  obtain rfl := List.inj_on_of_nodup_map distinct tMember uMember sameName
  rw [List.inj_on_of_nodup_map (proper t tMember).distinct dMember eMember sameKey.symm]

theorem maxTiers_success (bs : List Breakpoint) (tiers : List Tier) (ok : maxTiers bs = .ok tiers) :
    ∃ row, ascending bs = .ok row ∧ tiersAlong maxTier none row = .ok tiers ∧
      (tiers.map (·.name)).Perm (bs.map (·.name)) ∧ ∀ t ∈ tiers, t.Proper := by
  obtain ⟨row,order,made⟩ := Attempt.bind_success _ _ _ ok
  obtain ⟨names,proper⟩ := tiersAlong_proper maxTier row tiers maxTier_proper made
  rw [names]
  exact ⟨row,order,made,(ascending_success bs row order).map _,proper⟩

theorem minTiers_success (bs : List Breakpoint) (tiers : List Tier) (ok : minTiers bs = .ok tiers) :
    ∃ row, ascending bs = .ok row ∧ tiersAlong minTier none row.reverse = .ok tiers ∧
      (tiers.map (·.name)).Perm (bs.map (·.name)) ∧ ∀ t ∈ tiers, t.Proper := by
  obtain ⟨row,order,made⟩ := Attempt.bind_success _ _ _ ok
  obtain ⟨names,proper⟩ := tiersAlong_proper minTier row.reverse tiers minTier_proper made
  rw [names]
  exact ⟨row,order,made,((List.reverse_perm row).trans (ascending_success bs row order)).map _,proper⟩

/-- The names made along a row: every point makes one, and all but the first make another. -/
theorem mem_made (tier : Option Breakpoint → Breakpoint → Except Failure Tier) (own near : String → String)
    (row : List Breakpoint) (tiers : List Tier) (key : String)
    (keys : ∀ neighbour b t, tier neighbour b = .ok t →
      (key ∈ t.synthesized.map (·.1) ↔ key = own b.name ∨ neighbour.isSome = true ∧ key = near b.name))
    (made : tiersAlong tier none row = .ok tiers) :
    (∃ t ∈ tiers, key ∈ t.synthesized.map (·.1)) ↔
      (∃ b ∈ row, key = own b.name) ∨ ∃ b ∈ row.tail, key = near b.name := by
  have listed := exists_mem_forall₂ _ (fun e => key = own e.2.name ∨ e.1.isSome = true ∧ key = near e.2.name)
    (fun t : Tier => key ∈ t.synthesized.map (·.1)) _ _ (tiersAlong_success tier none row tiers made)
    fun e t ok => (keys e.1 e.2 t ok).symm
  rw [← listed]
  constructor
  · rintro ⟨⟨neighbour,b⟩,member,first | ⟨some,second⟩⟩
    · exact .inl ⟨b,(mem_beside none row _ member).1,first⟩
    · obtain ⟨a,rfl⟩ := Option.isSome_iff_exists.mp some
      exact .inr ⟨b,(mem_tail_iff_beside row b).mpr ⟨a,member⟩,second⟩
  · rintro (⟨b,member,first⟩ | ⟨b,member,second⟩)
    · rw [← beside_map_snd none row] at member
      obtain ⟨e,inside,rfl⟩ := List.mem_map.mp member
      exact ⟨e,inside,.inl first⟩
    · obtain ⟨a,inside⟩ := (mem_tail_iff_beside row b).mp member
      exact ⟨_,inside,.inr ⟨rfl,second⟩⟩

theorem mem_made_max (row : List Breakpoint) (tiers : List Tier) (made : tiersAlong maxTier none row = .ok tiers)
    (key : String) :
    (∃ t ∈ tiers, key ∈ t.synthesized.map (·.1)) ↔
      (∃ b ∈ row, key = andDown b.name) ∨ ∃ b ∈ row.tail, key = andUp b.name := by
  apply mem_made maxTier andDown andUp row tiers key _ made
  intro below b t ok
  obtain ⟨point,lower,-,moved,rfl⟩ := maxTier_success below b t ok
  rw [← Attempt.mapM_isSome _ _ _ moved]
  cases lower <;> simp

theorem mem_made_min (row : List Breakpoint) (tiers : List Tier)
    (made : tiersAlong minTier none row.reverse = .ok tiers) (key : String) :
    (∃ t ∈ tiers, key ∈ t.synthesized.map (·.1)) ↔
      (∃ b ∈ row, key = andUp b.name) ∨ ∃ b ∈ row.dropLast, key = andDown b.name := by
  rw [mem_made minTier andUp andDown row.reverse tiers key _ made,List.tail_reverse]
  · simp only [List.mem_reverse]
  · intro above b t ok
    obtain ⟨point,upper,-,moved,rfl⟩ := minTier_success above b t ok
    rw [← Attempt.mapM_isSome _ _ _ moved]
    cases upper <;> simp

namespace Registry

/-- The queries of all names, those written later taking the place of earlier ones. -/
def overlay (r : Registry) (o : MediaOptions) (maxs mins : List Tier) : OrderedMap String :=
  synthesizedQueries o maxs
    |>.putAll (synthesizedQueries o mins)
    |>.putAll (namedQueries o maxs)
    |>.putAll (namedQueries o mins)
    |>.putAll (customQueries (r.ofKind .custom))

theorem mediaMap_success (r : Registry) (o : MediaOptions) (m : OrderedMap String) (ok : r.mediaMap o = .ok m) :
    ∃ maxs mins, maxTiers (r.ofKind .max) = .ok maxs ∧ minTiers (r.ofKind .min) = .ok mins ∧
      m = r.overlay o maxs mins := by
  obtain ⟨maxs,maxOk,rest⟩ := Attempt.bind_success _ _ _ ok
  obtain ⟨mins,minOk,written⟩ := Attempt.bind_success _ _ _ rest
  exact ⟨maxs,mins,maxOk,minOk,(Except.ok.inj written).symm⟩

/-- Later writes go first: custom queries, then the named tiers, then the names made from them. -/
theorem overlay_lookup (r : Registry) (o : MediaOptions) (maxs mins : List Tier) (name : String) :
    (r.overlay o maxs mins).lookup name =
      ((customQueries (r.ofKind .custom)).lookup name).or (((namedQueries o mins).lookup name).or
        (((namedQueries o maxs).lookup name).or (((synthesizedQueries o mins).lookup name).or
          ((synthesizedQueries o maxs).lookup name)))) := by
  rw [overlay,customQueries,OrderedMap.lookup_putAll_ofList,namedQueries,OrderedMap.lookup_putAll_ofList,namedQueries,
    OrderedMap.lookup_putAll_ofList,synthesizedQueries,OrderedMap.lookup_putAll_ofList]

theorem overlay_keys_nodup (r : Registry) (o : MediaOptions) (maxs mins : List Tier) :
    ((r.overlay o maxs mins).map (·.1)).Nodup := by
  unfold overlay
  iterate 4 apply OrderedMap.keys_putAll_nodup
  exact OrderedMap.keys_ofList_nodup _

-- The maps are written one over the other, so an entry is traced from the last one back.
theorem mem_overlay (r : Registry) (o : MediaOptions) (maxs mins : List Tier) (e : String × String)
    (member : e ∈ r.overlay o maxs mins) :
    e ∈ customEntries (r.ofKind .custom) ∨ ∃ t ∈ mins ++ maxs, ∃ range ∈ t.ranges, e.2 = range.query o := by
  have named (tiers : List Tier) (within : tiers ⊆ mins ++ maxs) (inside : e ∈ namedQueries o tiers) :
      ∃ t ∈ mins ++ maxs, ∃ range ∈ t.ranges, e.2 = range.query o := by
    obtain ⟨t,listed,rfl⟩ := List.mem_map.mp (OrderedMap.mem_ofList _ e inside)
    exact ⟨t,within listed,t.range,List.mem_cons_self,rfl⟩
  have made (tiers : List Tier) (within : tiers ⊆ mins ++ maxs) (inside : e ∈ synthesizedQueries o tiers) :
      ∃ t ∈ mins ++ maxs, ∃ range ∈ t.ranges, e.2 = range.query o := by
    obtain ⟨t,listed,among⟩ := List.mem_flatMap.mp (OrderedMap.mem_ofList _ e inside)
    obtain ⟨entry,here,rfl⟩ := List.mem_map.mp among
    exact ⟨t,within listed,entry.2,List.mem_cons_of_mem _ (List.mem_map_of_mem here),rfl⟩
  have left := List.subset_append_left mins maxs
  have right := List.subset_append_right mins maxs
  rcases OrderedMap.mem_putAll _ _ e member with custom | member
  · exact .inl (OrderedMap.mem_ofList _ e custom)
  rcases OrderedMap.mem_putAll _ _ e member with ofMins | member
  · exact .inr (named mins left ofMins)
  rcases OrderedMap.mem_putAll _ _ e member with ofMaxs | member
  · exact .inr (named maxs right ofMaxs)
  rcases OrderedMap.mem_putAll _ _ e member with fromMins | fromMaxs
  · exact .inr (made mins left fromMins)
  · exact .inr (made maxs right fromMaxs)

theorem kinds_perm (r : Registry) :
    (r.ofKind .custom ++ (r.ofKind .min ++ r.ofKind .max)).Perm r.breakpoints := by
  unfold ofKind
  induction r.breakpoints with
  | nil => simp
  | cons b bs ih =>
    cases kind : b.kind with
    | custom => simpa [List.filter_cons,kind] using ih
    | min =>
      simp only [List.filter_cons,kind]
      exact List.perm_middle.trans (ih.cons b)
    | max =>
      simp only [List.filter_cons,kind]
      rw [← List.append_assoc] at ih ⊢
      exact List.perm_middle.trans (ih.cons b)

theorem declared_keys (r : Registry) (o : MediaOptions) (maxs mins : List Tier) (keyed : r.Keyed)
    (maxNames : (maxs.map (·.name)).Perm ((r.ofKind .max).map (·.name)))
    (minNames : (mins.map (·.name)).Perm ((r.ofKind .min).map (·.name))) :
    ((customEntries (r.ofKind .custom) ++ namedEntries o (mins ++ maxs)).map (·.1)).Perm r.names := by
  have sorted := r.kinds_perm.map (·.name)
  rw [← keyed.names_eq,List.map_append,List.map_append] at sorted
  refine List.Perm.trans ?_ sorted
  simp only [customEntries,namedEntries,List.map_append,List.map_map,Function.comp_def]
  exact (minNames.append maxNames).append_left _

theorem overlay_lookup_entries (r : Registry) (o : MediaOptions) (maxs mins : List Tier)
    (declared : OrderedMap.Functional (customEntries (r.ofKind .custom) ++ namedEntries o (mins ++ maxs)))
    (made : OrderedMap.Functional (madeEntries o (mins ++ maxs))) (name : String) :
    (r.overlay o maxs mins).lookup name =
      ((customEntries (r.ofKind .custom) ++ namedEntries o (mins ++ maxs)).lookup name).or
        ((madeEntries o (mins ++ maxs)).lookup name) := by
  have split : madeEntries o (mins ++ maxs) = madeEntries o mins ++ madeEntries o maxs := by
    simp [madeEntries]
  have named : namedEntries o (mins ++ maxs) = namedEntries o mins ++ namedEntries o maxs := by
    simp [namedEntries]
  rw [named] at declared ⊢
  rw [split] at made ⊢
  have customs : (customQueries (r.ofKind .custom)).lookup name = (customEntries (r.ofKind .custom)).lookup name :=
    OrderedMap.lookup_ofList (customEntries (r.ofKind .custom)) (declared.subset (by simp)) name
  have minNamed : (namedQueries o mins).lookup name = (namedEntries o mins).lookup name :=
    OrderedMap.lookup_ofList (namedEntries o mins) (declared.subset (by simp)) name
  have maxNamed : (namedQueries o maxs).lookup name = (namedEntries o maxs).lookup name :=
    OrderedMap.lookup_ofList (namedEntries o maxs) (declared.subset (by simp)) name
  have minMade : (synthesizedQueries o mins).lookup name = (madeEntries o mins).lookup name :=
    OrderedMap.lookup_ofList (madeEntries o mins) (made.subset (by simp)) name
  have maxMade : (synthesizedQueries o maxs).lookup name = (madeEntries o maxs).lookup name :=
    OrderedMap.lookup_ofList (madeEntries o maxs) (made.subset (by simp)) name
  rw [overlay_lookup,customs,minNamed,maxNamed,minMade,maxMade]
  simp only [List.lookup_append,Option.or_assoc]

theorem mem_overlay_keys (r : Registry) (o : MediaOptions) (maxs mins : List Tier) (key : String)
    (declared : ((customEntries (r.ofKind .custom) ++ namedEntries o (mins ++ maxs)).map (·.1)).Perm r.names) :
    key ∈ (r.overlay o maxs mins).map (·.1) ↔
      key ∈ r.names ∨ (∃ t ∈ mins, key ∈ t.synthesized.map (·.1)) ∨ ∃ t ∈ maxs, key ∈ t.synthesized.map (·.1) := by
  have made (tiers : List Tier) :
      key ∈ (synthesizedQueries o tiers).map (·.1) ↔ ∃ t ∈ tiers, key ∈ t.synthesized.map (·.1) := by
    rw [synthesizedQueries,OrderedMap.mem_keys_ofList]
    simp only [List.map_flatMap,List.map_map,List.mem_flatMap]
    rfl
  have named (tiers : List Tier) : key ∈ (namedQueries o tiers).map (·.1) ↔ key ∈ (namedEntries o tiers).map (·.1) :=
    OrderedMap.mem_keys_ofList _ key
  have custom : key ∈ (customQueries (r.ofKind .custom)).map (·.1) ↔
      key ∈ (customEntries (r.ofKind .custom)).map (·.1) := OrderedMap.mem_keys_ofList _ key
  rw [← declared.mem_iff]
  simp only [overlay,OrderedMap.mem_keys_putAll,custom,named,made,namedEntries,List.map_append,List.mem_append,or_assoc]

theorem overlay_reads (r : Registry) (o : MediaOptions) (maxs mins : List Tier) (kept : r.WellKept)
    (declared : ((customEntries (r.ofKind .custom) ++ namedEntries o (mins ++ maxs)).map (·.1)).Perm r.names)
    (made : OrderedMap.Functional (madeEntries o (mins ++ maxs))) :
    (∀ b ∈ r.ofKind .custom, (r.overlay o maxs mins).lookup b.name = b.raw) ∧ ∀ t ∈ mins ++ maxs,
      (r.overlay o maxs mins).lookup t.name = some (t.range.query o) ∧
      ∀ e ∈ t.synthesized, e.1 ∉ r.names → (r.overlay o maxs mins).lookup e.1 = some (e.2.query o) := by
  have functional := OrderedMap.functional_of_nodup _ (declared.nodup_iff.mpr kept.distinct)
  have found := r.overlay_lookup_entries o maxs mins functional made
  have first (name query : String)
      (member : (name, query) ∈ customEntries (r.ofKind .custom) ++ namedEntries o (mins ++ maxs)) :
      (r.overlay o maxs mins).lookup name = some query := by
    rw [found,(OrderedMap.lookup_eq_some_iff _ functional name query).mpr member]
    rfl
  refine ⟨?_,?_⟩
  · intro b member
    have custom := r.kind_of_mem .custom b member
    obtain ⟨raw,held⟩ := Option.isSome_iff_exists.mp ((kept.parts b (List.mem_of_mem_filter member)).2 custom).2.2
    rw [held]
    apply first
    exact List.mem_append_left _ (List.mem_map.mpr ⟨b,member,by rw [held]; rfl⟩)
  · intro t member
    refine ⟨first _ _ (List.mem_append_right _ (List.mem_map_of_mem member)),?_⟩
    intro e listed undeclared
    have absent : (customEntries (r.ofKind .custom) ++ namedEntries o (mins ++ maxs)).lookup e.1 = none := by
      rw [List.lookup_eq_none_iff]
      intro entry inside
      have other : entry.1 ∈ r.names := declared.mem_iff.mp (List.mem_map_of_mem inside)
      simpa using fun same : e.1 = entry.1 => undeclared (same ▸ other)
    have present : (e.1, e.2.query o) ∈ madeEntries o (mins ++ maxs) :=
      List.mem_flatMap.mpr ⟨t,member,List.mem_map_of_mem listed⟩
    rw [found,absent,(OrderedMap.lookup_eq_some_iff _ made _ _).mpr present]
    rfl

/-- A max point beside the one below it: its name stands for the range between them, the name made for what is
below for all widths up to it, and the name made for what is above for all widths past its neighbour. -/
def ReadsMax (r : Registry) (o : MediaOptions) (m : OrderedMap String) (below : Option Breakpoint) (b : Breakpoint) :
    Prop :=
  ∃ point lower, b.point = .ok point ∧ below.mapM (·.shifted .up) = .ok lower ∧
    m.lookup b.name = some (Range.query o ⟨lower, some point⟩) ∧
    (andDown b.name ∉ r.names → m.lookup (andDown b.name) = some (Range.query o ⟨none, some point⟩)) ∧
    ∀ text ∈ lower, andUp b.name ∉ r.names → m.lookup (andUp b.name) = some (Range.query o ⟨some text, none⟩)

/-- The mirror image for a min point beside the one above it. -/
def ReadsMin (r : Registry) (o : MediaOptions) (m : OrderedMap String) (above : Option Breakpoint) (b : Breakpoint) :
    Prop :=
  ∃ point upper, b.point = .ok point ∧ above.mapM (·.shifted .down) = .ok upper ∧
    m.lookup b.name = some (Range.query o ⟨some point, upper⟩) ∧
    (andUp b.name ∉ r.names → m.lookup (andUp b.name) = some (Range.query o ⟨some point, none⟩)) ∧
    ∀ text ∈ upper, andDown b.name ∉ r.names → m.lookup (andDown b.name) = some (Range.query o ⟨none, some text⟩)

theorem readsMax_of_tier (r : Registry) (o : MediaOptions) (m : OrderedMap String) (below : Option Breakpoint)
    (b : Breakpoint) (t : Tier) (ok : maxTier below b = .ok t) (named : m.lookup t.name = some (t.range.query o))
    (made : ∀ e ∈ t.synthesized, e.1 ∉ r.names → m.lookup e.1 = some (e.2.query o)) : r.ReadsMax o m below b := by
  obtain ⟨point,lower,written,moved,rfl⟩ := maxTier_success below b t ok
  refine ⟨point,lower,written,moved,named,made _ (List.mem_cons_self ..),?_⟩
  rintro text ⟨⟩
  exact made (andUp b.name, ⟨some text, none⟩) (by simp)

theorem readsMin_of_tier (r : Registry) (o : MediaOptions) (m : OrderedMap String) (above : Option Breakpoint)
    (b : Breakpoint) (t : Tier) (ok : minTier above b = .ok t) (named : m.lookup t.name = some (t.range.query o))
    (made : ∀ e ∈ t.synthesized, e.1 ∉ r.names → m.lookup e.1 = some (e.2.query o)) : r.ReadsMin o m above b := by
  obtain ⟨point,upper,written,moved,rfl⟩ := minTier_success above b t ok
  refine ⟨point,upper,written,moved,named,made _ (List.mem_cons_self ..),?_⟩
  rintro text ⟨⟩
  exact made (andDown b.name, ⟨none, some text⟩) (by simp)

/-- A made name tells the breakpoint it was made from, and its ending. -/
theorem WellKept.made_names {r : Registry} (kept : r.WellKept) (a b : Breakpoint) (aMember : a ∈ r.breakpoints)
    (bMember : b ∈ r.breakpoints) :
    andUp a.name ≠ andDown b.name ∧ (andUp a.name = andUp b.name ∨ andDown a.name = andDown b.name → a = b) := by
  refine ⟨andUp_ne_andDown _ _,?_⟩
  rintro (up | down)
  · exact kept.eq_of_name a b aMember bMember (ending_inj _ _ _ up)
  · exact kept.eq_of_name a b aMember bMember (ending_inj _ _ _ down)

/-- A media map has the declared names and those made from the points, each once. A declared name stands for its own
query, and any other name for a range of the one point that it is made from. -/
theorem mediaMap_names (delta : Decimal) (operations : List Operation) (o : MediaOptions) (m : OrderedMap String)
    (ok : (afterAll delta operations).mediaMap o = .ok m) :
    let r := afterAll delta operations
    ∃ maxs mins, ascending (r.ofKind .max) = .ok maxs ∧ ascending (r.ofKind .min) = .ok mins ∧
      (m.map (·.1)).Nodup ∧
      (∀ key, key ∈ m.map (·.1) ↔ key ∈ r.names ∨
        ((∃ b ∈ mins, key = andUp b.name) ∨ ∃ b ∈ mins.dropLast, key = andDown b.name) ∨
        (∃ b ∈ maxs, key = andDown b.name) ∨ ∃ b ∈ maxs.tail, key = andUp b.name) ∧
      (∀ b ∈ r.ofKind .custom, m.lookup b.name = b.raw) ∧
      (∀ e ∈ beside none maxs, r.ReadsMax o m e.1 e.2) ∧
      (∀ e ∈ beside none mins.reverse, r.ReadsMin o m e.1 e.2) ∧
      ∀ a ∈ r.breakpoints, ∀ b ∈ r.breakpoints, andUp a.name ≠ andDown b.name ∧
        (andUp a.name = andUp b.name ∨ andDown a.name = andDown b.name → a = b) := by
  intro r
  have kept := afterAll_wellKept delta operations
  obtain ⟨maxTiers,minTiers,maxOk,minOk,rfl⟩ := r.mediaMap_success o m ok
  obtain ⟨maxs,maxOrder,maxMade,maxNames,maxProper⟩ := maxTiers_success _ _ maxOk
  obtain ⟨mins,minOrder,minMade,minNames,minProper⟩ := minTiers_success _ _ minOk
  have declared := r.declared_keys o maxTiers minTiers kept.keyed maxNames minNames
  have distinct : ((minTiers ++ maxTiers).map (·.name)).Nodup := by
    have named := declared.nodup_iff.mpr kept.distinct
    rw [List.map_append] at named
    simpa only [namedEntries,List.map_map,Function.comp_def] using named.of_append_right
  have made := madeEntries_functional o _ distinct (List.forall_mem_append.mpr ⟨minProper,maxProper⟩)
  obtain ⟨customs,tiers⟩ := r.overlay_reads o maxTiers minTiers kept declared made
  refine ⟨maxs,mins,maxOrder,minOrder,r.overlay_keys_nodup o _ _,?_,customs,?_,?_,?_⟩
  · intro key
    rw [mem_overlay_keys r o _ _ key declared,mem_made_max maxs _ maxMade,mem_made_min mins _ minMade]
  · intro e member
    obtain ⟨t,inside,ok⟩ := exists_mem_of_forall₂ (tiersAlong_success _ _ _ _ maxMade) e member
    obtain ⟨named,rest⟩ := tiers t (List.mem_append_right _ inside)
    exact r.readsMax_of_tier o _ e.1 e.2 t ok named rest
  · intro e member
    obtain ⟨t,inside,ok⟩ := exists_mem_of_forall₂ (tiersAlong_success _ _ _ _ minMade) e member
    obtain ⟨named,rest⟩ := tiers t (List.mem_append_left _ inside)
    exact r.readsMin_of_tier o _ e.1 e.2 t ok named rest
  · intro a aMember b bMember
    exact kept.made_names a b aMember bMember

/-- A query declared under the name that `tab` would make stays as declared, and the points above and below keep
their own names. -/
theorem mediaMap_names_tab :
    let operations : List Operation := [.point "Palm" .max (.finite false 340 0) .px,
      .point "tab" .max (.finite false 700 0) .px, .query "tab-and-up" "print",
      .point "desk" .min (.finite false 1000 0) .px]
    ∃ m, (afterAll defaultDelta operations).mediaMap ⟨false, false⟩ = .ok m ∧
      "palm-and-down" ∈ m.map (·.1) ∧ "palm-and-up" ∉ m.map (·.1) ∧ m.lookup "tab-and-up" = some "print" := by
  intro operations
  let r : Registry := .holding defaultDelta [.ofPoint "palm" .max (.finite false 340 0) .px defaultDelta,
    .ofPoint "tab" .max (.finite false 700 0) .px defaultDelta, .ofQuery "tab-and-up" "print",
    .ofPoint "desk" .min (.finite false 1000 0) .px defaultDelta] []
  have held : afterAll defaultDelta operations = r := by cbv
  obtain ⟨m,ok⟩ : ∃ m, r.mediaMap ⟨false, false⟩ = .ok m := ⟨_,by cbv⟩
  obtain ⟨maxs,mins,maxOrder,minOrder,_,keys,customs,_⟩ :=
    mediaMap_names defaultDelta operations ⟨false, false⟩ m (by rw [held]; exact ok)
  simp only [held] at maxOrder minOrder keys customs ⊢
  have upward : ascending (r.ofKind .max) = .ok (r.breakpoints.take 2) := by cbv
  have single : ascending (r.ofKind .min) = .ok (r.breakpoints.drop 3) := by cbv
  rw [upward,Except.ok.injEq] at maxOrder
  rw [single,Except.ok.injEq] at minOrder
  subst maxOrder minOrder
  have query : Breakpoint.ofQuery "tab-and-up" "print" ∈ r.ofKind .custom := by decide
  refine ⟨m,ok,(keys _).mpr ?_,mt (keys _).mp ?_,customs _ query⟩
  · decide
  · decide

end Registry
end MediaTiers
