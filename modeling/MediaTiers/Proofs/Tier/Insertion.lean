import MediaTiers.Proofs.Tier.MediaMap
import Mathlib

/-! A further point. Sorting sets it into the row of its kind and moves no other point, so that it becomes the
neighbour of one point only; all names but its own and that point's keep their queries. -/
namespace MediaTiers

section Stable

variable {α : Type} {le : α → α → Bool}

theorem zipIdxLE_antisymm (xs : List α) (a b : α × Nat) (aMember : a ∈ xs.zipIdx) (bMember : b ∈ xs.zipIdx)
    (below : List.zipIdxLE le a b = true) (above : List.zipIdxLE le b a = true) : a = b := by
  have index : a.2 = b.2 := by grind [List.zipIdxLE]
  have first := List.mem_zipIdx_iff_getElem?.mp aMember
  have second := List.mem_zipIdx_iff_getElem?.mp bMember
  rw [index,second] at first
  exact Prod.ext (Option.some.inj first).symm index

/-- A stable sort puts a last element into its place and leaves the others as they were. -/
theorem mergeSort_concat (trans : ∀ a b c, le a b = true → le b c = true → le a c = true)
    (total : ∀ a b, (le a b || le b a) = true) (xs : List α) (x : α) :
    ∃ lower upper, xs.mergeSort le = lower ++ upper ∧ (xs ++ [x]).mergeSort le = lower ++ x :: upper := by
  have joined : (xs ++ [x]).zipIdx = xs.zipIdx ++ [(x, xs.length)] := by simp [List.zipIdx_append]
  have sorted := List.pairwise_mergeSort (List.zipIdxLE_trans trans) (List.zipIdxLE_total total) (xs ++ [x]).zipIdx
  have same := List.mergeSort_perm (xs ++ [x]).zipIdx (List.zipIdxLE le)
  obtain ⟨lower,upper,split⟩ := List.append_of_mem (same.mem_iff.mpr (by simp [joined] : (x, xs.length) ∈ _))
  rw [split] at sorted same
  have others : (lower ++ upper).Perm xs.zipIdx := by
    rw [joined] at same
    exact (List.perm_middle.symm.trans (same.trans List.perm_append_comm)).cons_inv
  -- By their indices no two elements are level, so that the sorted row is the only one.
  have unmoved : xs.zipIdx.mergeSort (List.zipIdxLE le) = lower ++ upper := by
    have again := List.pairwise_mergeSort (List.zipIdxLE_trans trans) (List.zipIdxLE_total total) xs.zipIdx
    have rest := sorted.sublist ((List.sublist_cons_self _ upper).append_left lower)
    apply List.Perm.eq_of_pairwise _ again rest ((List.mergeSort_perm _ _).trans others.symm)
    intro a b aMember bMember
    exact zipIdxLE_antisymm xs a b ((List.mergeSort_perm _ _).mem_iff.mp aMember) (others.mem_iff.mp bMember)
  refine ⟨lower.map (·.1),upper.map (·.1),?_,?_⟩
  · rw [← List.mergeSort_zipIdx,unmoved,List.map_append]
  · rw [← List.mergeSort_zipIdx,split,List.map_append,List.map_cons]

end Stable

theorem ascending_concat (bs : List Breakpoint) (b : Breakpoint) (placed : ∀ a ∈ bs ++ [b], a.Placed) :
    ∃ lower upper, ascending bs = .ok (lower ++ upper) ∧ ascending (bs ++ [b]) = .ok (lower ++ b :: upper) := by
  obtain ⟨lower,upper,before,after⟩ := mergeSort_concat placedOrder_trans placedOrder_total bs b
  refine ⟨lower,upper,?_,?_⟩
  · rw [ascending_eq bs fun a member => placed a (List.mem_append_left _ member),before]
  · rw [ascending_eq _ placed,after]

theorem OrderedMap.lookup_filter {β : Type} (entries : List (String × β)) (key : String) :
    (entries.filter (·.1 == key)).lookup key = entries.lookup key := by
  induction entries with
  | nil => rfl
  | cons entry entries ih =>
    obtain ⟨name,value⟩ := entry
    by_cases here : name = key
    · simp [here]
    · simp [here,Ne.symm here,OrderedMap.lookup_cons,ih]

theorem OrderedMap.lookup_ofList_congr {β : Type} (entries others : List (String × β)) (key : String)
    (same : entries.filter (·.1 == key) = others.filter (·.1 == key)) :
    (ofList entries).lookup key = (ofList others).lookup key := by
  have last (es : List (String × β)) : (ofList es).lookup key = (es.filter (·.1 == key)).reverse.lookup key := by
    rw [ofList,lookup_putAll,← List.filter_reverse,lookup_filter]
    simp
  rw [last,last,same]

theorem tiersAlong_append (tier : Option Breakpoint → Breakpoint → Except Failure Tier) (before : Option Breakpoint)
    (front back : List Breakpoint) (tiers : List Tier) (ok : tiersAlong tier before (front ++ back) = .ok tiers) :
    ∃ first second, tiersAlong tier before front = .ok first ∧
      tiersAlong tier (front.getLast?.or before) back = .ok second ∧ tiers = first ++ second := by
  induction front generalizing before tiers with
  | nil => exact ⟨[],tiers,rfl,by simpa using ok,rfl⟩
  | cons b front ih =>
    obtain ⟨t,made,rest⟩ := Attempt.bind_success _ _ _ ok
    obtain ⟨others,later,joined⟩ := Attempt.bind_success _ _ _ rest
    obtain ⟨first,second,firstOk,secondOk,rfl⟩ := ih (some b) others later
    cases joined
    refine ⟨t :: first,second,?_,?_,rfl⟩
    · rw [tiersAlong,made,Attempt.ok_bind,firstOk]
      rfl
    · cases front with
      | nil => simpa using secondOk
      | cons c front => simpa [List.getLast?_cons] using secondOk

def AgreeAt (o : MediaOptions) (key : String) (tiers others : List Tier) : Prop :=
  (namedEntries o tiers).filter (·.1 == key) = (namedEntries o others).filter (·.1 == key) ∧
    (madeEntries o tiers).filter (·.1 == key) = (madeEntries o others).filter (·.1 == key)

namespace AgreeAt

variable {o : MediaOptions} {key : String} {tiers others : List Tier}

theorem refl (tiers : List Tier) : AgreeAt o key tiers tiers :=
  ⟨rfl,rfl⟩

theorem append {more further : List Tier} (first : AgreeAt o key tiers others) (second : AgreeAt o key more further) :
    AgreeAt o key (tiers ++ more) (others ++ further) := by
  have named (xs ys : List Tier) : namedEntries o (xs ++ ys) = namedEntries o xs ++ namedEntries o ys :=
    List.map_append
  have made (xs ys : List Tier) : madeEntries o (xs ++ ys) = madeEntries o xs ++ madeEntries o ys :=
    List.flatMap_append
  constructor
  · rw [named,named,List.filter_append,List.filter_append,first.1,second.1]
  · rw [made,made,List.filter_append,List.filter_append,first.2,second.2]

theorem absent (t : Tier) (named : t.name ≠ key) (made : ∀ e ∈ t.synthesized, e.1 ≠ key) : AgreeAt o key [t] [] := by
  constructor
  · simpa [namedEntries] using named
  · rw [List.filter_eq_nil_iff.mpr]
    · rfl
    · intro entry member
      obtain ⟨u,listed,written⟩ := List.mem_flatMap.mp member
      obtain ⟨e,inside,rfl⟩ := List.mem_map.mp written
      rw [List.mem_singleton.mp listed] at inside
      simpa using made e inside

theorem lookup (agree : AgreeAt o key tiers others) :
    (namedQueries o tiers).lookup key = (namedQueries o others).lookup key ∧
      (synthesizedQueries o tiers).lookup key = (synthesizedQueries o others).lookup key :=
  ⟨OrderedMap.lookup_ofList_congr _ _ key agree.1,OrderedMap.lookup_ofList_congr _ _ key agree.2⟩

end AgreeAt

theorem maxTier_agree (o : MediaOptions) (key : String) (below near : Option Breakpoint) (b : Breakpoint) (t u : Tier)
    (first : maxTier below b = .ok t) (second : maxTier near b = .ok u) (named : key ≠ b.name)
    (upward : key ≠ andUp b.name) : AgreeAt o key [t] [u] := by
  obtain ⟨point,lower,written,-,rfl⟩ := maxTier_success below b t first
  obtain ⟨text,other,rewritten,-,rfl⟩ := maxTier_success near b u second
  obtain rfl := Except.ok.inj (written.symm.trans rewritten)
  constructor
  · simp [namedEntries,named.symm]
  · cases lower <;> cases other <;> simp [madeEntries,List.filter_cons,upward.symm]

theorem minTier_agree (o : MediaOptions) (key : String) (above near : Option Breakpoint) (b : Breakpoint) (t u : Tier)
    (first : minTier above b = .ok t) (second : minTier near b = .ok u) (named : key ≠ b.name)
    (downward : key ≠ andDown b.name) : AgreeAt o key [t] [u] := by
  obtain ⟨point,upper,written,-,rfl⟩ := minTier_success above b t first
  obtain ⟨text,other,rewritten,-,rfl⟩ := minTier_success near b u second
  obtain rfl := Except.ok.inj (written.symm.trans rewritten)
  constructor
  · simp [namedEntries,named.symm]
  · cases upper <;> cases other <;> simp [madeEntries,List.filter_cons,downward.symm]

/-- A point set into a row has its own tier, and replaces the neighbour of the point behind it. -/
theorem tiersAlong_insert (tier : Option Breakpoint → Breakpoint → Except Failure Tier) (o : MediaOptions) (key : String)
    (proper : ∀ near b t, tier near b = .ok t → t.name = b.name ∧ t.Proper) (front back : List Breakpoint)
    (b : Breakpoint) (tiers others : List Tier) (before : tiersAlong tier none (front ++ back) = .ok tiers)
    (after : tiersAlong tier none (front ++ b :: back) = .ok others)
    (own : key ≠ b.name ∧ key ≠ andUp b.name ∧ key ≠ andDown b.name)
    (behind : ∀ s ∈ back.head?, ∀ near t u, tier near s = .ok t → tier (some b) s = .ok u → AgreeAt o key [u] [t]) :
    AgreeAt o key others tiers := by
  obtain ⟨first,second,firstOk,secondOk,rfl⟩ := tiersAlong_append tier none front back tiers before
  obtain ⟨again,rest,againOk,restOk,rfl⟩ := tiersAlong_append tier none front (b :: back) others after
  obtain rfl := Except.ok.inj (firstOk.symm.trans againOk)
  apply (AgreeAt.refl first).append
  obtain ⟨t,made,rest⟩ := Attempt.bind_success _ _ _ restOk
  obtain ⟨further,furtherOk,joined⟩ := Attempt.bind_success _ _ _ rest
  cases joined
  have alone : AgreeAt o key [t] [] := by
    obtain ⟨named,proper⟩ := proper _ b t made
    apply AgreeAt.absent t (named ▸ own.1.symm)
    intro e member same
    rw [← same] at own
    rcases proper.endings e member with up | down
    · exact own.2.1 (named ▸ up)
    · exact own.2.2 (named ▸ down)
  suffices later : AgreeAt o key further second from alone.append later
  cases back with
  | nil =>
    cases secondOk
    cases furtherOk
    exact .refl []
  | cons s back =>
    obtain ⟨u,uMade,rest⟩ := Attempt.bind_success _ _ _ secondOk
    obtain ⟨tail,tailOk,joined⟩ := Attempt.bind_success _ _ _ rest
    cases joined
    obtain ⟨v,vMade,rest⟩ := Attempt.bind_success _ _ _ furtherOk
    obtain ⟨same,sameOk,joined⟩ := Attempt.bind_success _ _ _ rest
    cases joined
    obtain rfl := Except.ok.inj (tailOk.symm.trans sameOk)
    exact (behind s rfl _ u v uMade vMade).append (.refl tail)

/-- The names that a point between two stretches of its row has to do with: its own, and those that the point
beside it has for the range towards it. -/
def namesAround (lower : List Breakpoint) (b : Breakpoint) (upper : List Breakpoint) : List String :=
  b.name :: andUp b.name :: andDown b.name :: match b.kind with
    | .max => upper.head?.toList.flatMap fun s => [s.name, andUp s.name]
    | .min => lower.getLast?.toList.flatMap fun p => [p.name, andDown p.name]
    | .custom => []

namespace Registry

theorem ofKind_push (r : Registry) (b : Breakpoint) (kind : Kind) :
    (r.push b).ofKind kind = r.ofKind kind ++ if b.kind = kind then [b] else [] := by
  by_cases same : b.kind = kind <;> simp [ofKind,same]

/-- A point is registered, its kind and unit given as such or by name. -/
inductive Gains (r after : Registry) (b : Breakpoint) : Prop where
  | point (name : String) (kind : Kind) (value : Decimal) (unit : LengthUnit) :
      r.addPoint name kind value unit = (after, .ok b) → Gains r after b
  | named (name kind unit : String) (value : Except Failure Decimal) :
      r.addNamedPoint name kind value unit = (after, .ok b) → Gains r after b

theorem addPoint_gives (r after : Registry) (name : String) (kind : Kind) (value : Decimal) (unit : LengthUnit)
    (b : Breakpoint) (ok : r.addPoint name kind value unit = (after, .ok b)) :
    after = r.push b ∧ b.kind ≠ .custom ∧ b.value = some value := by
  obtain ⟨admitted,stored⟩ := addPoint_success r after name kind value unit b ok
  obtain ⟨typed,-⟩ := admitPoint_apart _ _ _ _ _ admitted
  have given : (pointText value unit).map (fun _ => Breakpoint.ofPoint (Text.lowercase name) kind value unit r.delta) =
      .ok b := by
    simp only [addPoint,admitted] at ok
    exact (Prod.mk.inj ok).2
  cases written : pointText value unit with
  | error failure => simp [written,Except.map] at given
  | ok text =>
    obtain rfl : .ofPoint (Text.lowercase name) kind value unit r.delta = b := by
      simpa [written,Except.map] using given
    exact ⟨stored,typed,rfl⟩

theorem Gains.pushed {r after : Registry} {b : Breakpoint} (gains : r.Gains after b) :
    after = r.push b ∧ b.kind ≠ .custom ∧ ∃ value, b.value = some value := by
  cases gains with
  | point name kind value unit ok =>
    obtain ⟨stored,typed,held⟩ := r.addPoint_gives after name kind value unit b ok
    exact ⟨stored,typed,value,held⟩
  | named name kind unit value ok =>
    rcases r.addNamedPoint_eq name kind unit value with ⟨failure,same⟩ | ⟨k,x,u,-,-,-,same⟩
    · rw [same] at ok
      cases (Prod.mk.inj ok).2
    · obtain ⟨stored,typed,held⟩ := r.addPoint_gives after name k x u b (same.symm.trans ok)
      exact ⟨stored,typed,x,held⟩

theorem WellKept.placed {r : Registry} (kept : r.WellKept) (finite : ∀ a ∈ r.breakpoints, ∀ v ∈ a.value, v.isFinite = true)
    (kind : Kind) (typed : kind ≠ .custom) : ∀ a ∈ r.ofKind kind, a.Placed := by
  intro a member
  have listed := List.mem_of_mem_filter member
  obtain ⟨value,held⟩ := Option.isSome_iff_exists.mp
    ((kept.parts a listed).1 (r.kind_of_mem kind a member ▸ typed)).1
  exact ⟨value,held,finite a listed value held⟩

theorem overlay_agree (r after : Registry) (o : MediaOptions) (key : String) (maxs mins maxs' mins' : List Tier)
    (customs : after.ofKind .custom = r.ofKind .custom) (upward : AgreeAt o key maxs' maxs)
    (downward : AgreeAt o key mins' mins) :
    (after.overlay o maxs' mins').lookup key = (r.overlay o maxs mins).lookup key := by
  rw [overlay_lookup,overlay_lookup,customs,upward.lookup.1,upward.lookup.2,downward.lookup.1,downward.lookup.2]

theorem maxTiers_insert (bs : List Breakpoint) (b : Breakpoint) (o : MediaOptions) (lower upper : List Breakpoint)
    (tiers others : List Tier) (before : maxTiers bs = .ok tiers) (after : maxTiers (bs ++ [b]) = .ok others)
    (sorted : ascending bs = .ok (lower ++ upper)) (resorted : ascending (bs ++ [b]) = .ok (lower ++ b :: upper))
    (kind : b.kind = .max) (key : String) (other : key ∉ namesAround lower b upper) : AgreeAt o key others tiers := by
  rw [maxTiers,sorted,Attempt.ok_bind] at before
  rw [maxTiers,resorted,Attempt.ok_bind] at after
  simp only [namesAround,kind,List.mem_cons,not_or] at other
  apply tiersAlong_insert maxTier o key maxTier_proper lower upper b tiers others before after
    ⟨other.1,other.2.1,other.2.2.1⟩
  intro s first near t u made remade
  have apart : key ≠ s.name ∧ key ≠ andUp s.name := by simpa [Option.mem_def.mp first] using other.2.2.2
  exact maxTier_agree o key _ _ s u t remade made apart.1 apart.2

theorem minTiers_insert (bs : List Breakpoint) (b : Breakpoint) (o : MediaOptions) (lower upper : List Breakpoint)
    (tiers others : List Tier) (before : minTiers bs = .ok tiers) (after : minTiers (bs ++ [b]) = .ok others)
    (sorted : ascending bs = .ok (lower ++ upper)) (resorted : ascending (bs ++ [b]) = .ok (lower ++ b :: upper))
    (kind : b.kind = .min) (key : String) (other : key ∉ namesAround lower b upper) : AgreeAt o key others tiers := by
  rw [minTiers,sorted,Attempt.ok_bind,List.reverse_append] at before
  rw [minTiers,resorted,Attempt.ok_bind,List.reverse_append,List.reverse_cons,List.append_assoc] at after
  simp only [namesAround,kind,List.mem_cons,not_or] at other
  apply tiersAlong_insert minTier o key minTier_proper upper.reverse lower.reverse b tiers others before after
    ⟨other.1,other.2.1,other.2.2.1⟩
  intro p last near t u made remade
  rw [List.head?_reverse] at last
  have apart : key ≠ p.name ∧ key ≠ andDown p.name := by simpa [Option.mem_def.mp last] using other.2.2.2
  exact minTier_agree o key _ _ p u t remade made apart.1 apart.2

/-- A further point changes no query but those of its own names, and of the point beside it towards which it
closes the range. -/
theorem further_point_local (delta : Decimal) (operations : List Operation) (o : MediaOptions) (after : Registry)
    (b : Breakpoint) (m m' : OrderedMap String)
    (finite : ∀ a ∈ (afterAll delta operations).breakpoints, ∀ v ∈ a.value, v.isFinite = true)
    (gains : (afterAll delta operations).Gains after b) (bounded : ∀ v ∈ b.value, v.isFinite = true)
    (before : (afterAll delta operations).mediaMap o = .ok m) (resolved : after.mediaMap o = .ok m') :
    ∃ lower upper, ascending ((afterAll delta operations).ofKind b.kind) = .ok (lower ++ upper) ∧
      ascending (after.ofKind b.kind) = .ok (lower ++ b :: upper) ∧
      ∀ key ∉ namesAround lower b upper, m'.lookup key = m.lookup key := by
  have kept := afterAll_wellKept delta operations
  generalize afterAll delta operations = r at *
  obtain ⟨rfl,typed,value,held⟩ := gains.pushed
  have placed : ∀ a ∈ r.ofKind b.kind ++ [b], a.Placed := by
    intro a member
    rcases List.mem_append.mp member with old | new
    · exact kept.placed finite b.kind typed a old
    · rw [List.mem_singleton.mp new]
      exact ⟨value,held,bounded value held⟩
  obtain ⟨lower,upper,sorted,resorted⟩ := ascending_concat _ b placed
  have pushed := r.ofKind_push b
  obtain ⟨maxs,mins,maxOk,minOk,rfl⟩ := r.mediaMap_success o m before
  obtain ⟨maxs',mins',maxOk',minOk',rfl⟩ := (r.push b).mediaMap_success o m' resolved
  refine ⟨lower,upper,sorted,by simpa [pushed] using resorted,?_⟩
  intro key other
  cases kind : b.kind with
  | custom => exact absurd kind typed
  | max =>
    simp only [pushed,kind,reduceCtorEq,if_true,if_false,List.append_nil] at sorted resorted maxOk' minOk'
    obtain rfl := Except.ok.inj (minOk.symm.trans minOk')
    have agree := maxTiers_insert _ b o lower upper maxs maxs' maxOk maxOk' sorted resorted kind key other
    exact r.overlay_agree (r.push b) o key _ _ _ _ (by simp [pushed,kind]) agree (.refl mins)
  | min =>
    simp only [pushed,kind,reduceCtorEq,if_true,if_false,List.append_nil] at sorted resorted maxOk' minOk'
    obtain rfl := Except.ok.inj (maxOk.symm.trans maxOk')
    have agree := minTiers_insert _ b o lower upper mins mins' minOk minOk' sorted resorted kind key other
    exact r.overlay_agree (r.push b) o key _ _ _ _ (by simp [pushed,kind]) (.refl maxs) agree

/-- A tablet between two devices: only the range of the larger one is cut. -/
theorem further_point_local_tab :
    let operations : List Operation := [.point "desk" .max (.finite false 1000 0) .px,
      .point "palm" .max (.finite false 340 0) .px, .query "palm-and-up" "print"]
    ∃ after b m m', (afterAll defaultDelta operations).Gains after b ∧ b.name = "tab" ∧
      (afterAll defaultDelta operations).mediaMap ⟨false, false⟩ = .ok m ∧ after.mediaMap ⟨false, false⟩ = .ok m' ∧
      m'.lookup "desk" ≠ m.lookup "desk" ∧
      ∀ key ∉ ["tab", "tab-and-up", "tab-and-down", "desk", "desk-and-up"], m'.lookup key = m.lookup key := by
  intro operations
  let desk : Breakpoint := .ofPoint "desk" .max (.finite false 1000 0) .px defaultDelta
  let palm : Breakpoint := .ofPoint "palm" .max (.finite false 340 0) .px defaultDelta
  let tab : Breakpoint := .ofPoint "tab" .max (.finite false 7000 (-1)) .px defaultDelta
  let print : Breakpoint := .ofQuery "palm-and-up" "print"
  have held : afterAll defaultDelta operations = .holding defaultDelta [desk, palm, print] [] := by cbv
  have gains : (afterAll defaultDelta operations).Gains (.holding defaultDelta [desk, palm, print, tab] []) tab :=
    .named "Tab" "MAX" "px" (.ok (.finite false 7000 (-1))) (by rw [held]; cbv)
  obtain ⟨m,before⟩ : ∃ m, (afterAll defaultDelta operations).mediaMap ⟨false, false⟩ = .ok m :=
    ⟨_,by rw [held]; cbv⟩
  obtain ⟨m',after⟩ : ∃ m', Registry.mediaMap (.holding defaultDelta [desk, palm, print, tab] []) ⟨false, false⟩ = .ok m' :=
    ⟨_,by cbv⟩
  obtain ⟨lower,upper,sorted,resorted,same⟩ := further_point_local defaultDelta operations ⟨false, false⟩ _ tab m m'
    (by rw [held]; decide) gains (by decide) before after
  have row : ascending [desk, palm, tab] = .ok ([palm] ++ tab :: [desk]) := by cbv
  obtain ⟨rfl,-,rfl⟩ := (List.append_cons_inj_of_notMem (by decide : tab ∉ [palm]) (by decide : tab ∉ [desk])).mp
    (Except.ok.inj (row.symm.trans resorted))
  refine ⟨_,tab,m,m',gains,rfl,before,after,?_,same⟩
  have wide : (Registry.mediaMap (.holding defaultDelta [desk, palm, print] []) ⟨false, false⟩).map (·.lookup "desk") =
      .ok (some "screen and (min-width: 341px) and (max-width: 1000px)") := by cbv
  have narrow : (Registry.mediaMap (.holding defaultDelta [desk, palm, print, tab] []) ⟨false, false⟩).map
      (·.lookup "desk") = .ok (some "screen and (min-width: 701px) and (max-width: 1000px)") := by cbv
  rw [held] at before
  rw [before] at wide
  rw [after] at narrow
  simp only [Except.map,Except.ok.injEq] at wide narrow
  rw [wide,narrow]
  decide

end Registry
end MediaTiers
