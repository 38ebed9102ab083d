import MediaTiers.Proofs.Registry.Sound
import MediaTiers.Tier

/-! Points in a row. Sorting puts them by their places on the line, whatever order they came in, and each tier
is then made beside the nearest point on one side. -/
namespace MediaTiers

def Breakpoint.Placed (b : Breakpoint) : Prop :=
  ∃ value, b.value = some value ∧ value.isFinite = true

theorem sortFault_none (values : List (Option Decimal)) (ordered : ∀ v ∈ values, orderFault? v = none) :
    sortFault? values = none := by
  match values with
  | [] | [_] => rfl
  | x :: y :: rest =>
    have first := ordered x (by simp)
    have second := ordered y (by simp)
    have others : rest.findSome? orderFault? = none :=
      List.findSome?_eq_none_iff.mpr fun v member => ordered v (by simp [member])
    simp [sortFault?,comparisonFault?,first,second,others]

theorem atMost_placed (a b : Breakpoint) (aPlaced : a.Placed) (bPlaced : b.Placed) :
    atMost a b = decide (a.position ≤ b.position) := by
  obtain ⟨x,xValue,xFinite⟩ := aPlaced
  obtain ⟨y,yValue,yFinite⟩ := bPlaced
  have order := Decimal.compareValue_eq x y xFinite yFinite
  have places : a.position = x.rational ∧ b.position = y.rational := by
    simp [Breakpoint.position,xValue,yValue]
  rw [places.1,places.2]
  by_cases below : x.rational ≤ y.rational
  · have notAbove : compare x.rational y.rational ≠ .gt := by
      rw [ne_eq,compare_gt_iff_gt]
      exact not_lt.mpr below
    simp [atMost,xValue,yValue,order,below,notAbove]
  · have above : compare x.rational y.rational = .gt := compare_gt_iff_gt.mpr (not_le.mp below)
    simp [atMost,xValue,yValue,order,below,above]

theorem mergeSort_placed (bs : List Breakpoint) (placed : ∀ b ∈ bs, b.Placed) :
    bs.mergeSort atMost = bs.mergeSort fun a b => decide (a.position ≤ b.position) := by
  have mapped := List.map_mergeSort (r := atMost) (s := fun a b => decide (a.position ≤ b.position))
    (f := id) (l := bs) fun a aInside b bInside => atMost_placed a b (placed a aInside) (placed b bInside)
  simpa using mapped

theorem ascending_eq (bs : List Breakpoint) (placed : ∀ b ∈ bs, b.Placed) :
    ascending bs = .ok (bs.mergeSort fun a b => decide (a.position ≤ b.position)) := by
  have ordered : ∀ v ∈ bs.map (·.value), orderFault? v = none := by
    intro v member
    obtain ⟨b,inside,rfl⟩ := List.mem_map.mp member
    obtain ⟨value,held,finite⟩ := placed b inside
    rw [held]
    cases value <;> simp_all [orderFault?,Decimal.isFinite,Decimal.isNaN]
  rw [ascending,sortFault_none _ ordered,mergeSort_placed bs placed]

theorem placedOrder_trans (a b c : Breakpoint) (first : decide (a.position ≤ b.position) = true)
    (second : decide (b.position ≤ c.position) = true) : decide (a.position ≤ c.position) = true :=
  decide_eq_true ((of_decide_eq_true first).trans (of_decide_eq_true second))

theorem placedOrder_total (a b : Breakpoint) :
    (decide (a.position ≤ b.position) || decide (b.position ≤ a.position)) = true := by
  simpa using le_total a.position b.position

/-- Placed points can be sorted, and then stand by their places on the line. -/
theorem ascending_placed (bs : List Breakpoint) (placed : ∀ b ∈ bs, b.Placed) :
    ∃ row, ascending bs = .ok row ∧ row.Perm bs ∧ row.Pairwise fun a b => a.position ≤ b.position := by
  refine ⟨_,ascending_eq bs placed,List.mergeSort_perm bs _,?_⟩
  exact (List.pairwise_mergeSort placedOrder_trans placedOrder_total bs).imp of_decide_eq_true

/-- Where no two points share a place, sorting forgets the order they came in. -/
theorem ascending_perm (bs cs : List Breakpoint) (placed : ∀ b ∈ bs, b.Placed) (same : bs.Perm cs)
    (distinct : ∀ a ∈ bs, ∀ b ∈ bs, a.position = b.position → a = b) : ascending bs = ascending cs := by
  obtain ⟨row,rowSorted,rowPerm,rowOrder⟩ := ascending_placed bs placed
  obtain ⟨line,lineSorted,linePerm,lineOrder⟩ :=
    ascending_placed cs fun c member => placed c (same.mem_iff.mpr member)
  have equal : row = line := by
    apply List.Perm.eq_of_pairwise _ rowOrder lineOrder (rowPerm.trans (same.trans linePerm.symm))
    intro a b aInside bInside below above
    have bPlace : b ∈ bs := same.mem_iff.mpr (linePerm.mem_iff.mp bInside)
    exact distinct a (rowPerm.mem_iff.mp aInside) b bPlace (le_antisymm below above)
  rw [rowSorted,lineSorted,equal]

theorem ascending_success (bs row : List Breakpoint) (ok : ascending bs = .ok row) : row.Perm bs := by
  unfold ascending at ok
  split at ok
  · cases ok
  · cases ok
    exact List.mergeSort_perm bs atMost

def beside {α : Type} : Option α → List α → List (Option α × α)
  | _, [] => []
  | before, b :: bs => (before, b) :: beside (some b) bs

theorem tiersAlong_beside (tier : Option Breakpoint → Breakpoint → Except Failure Tier)
    (Good : Option Breakpoint × Breakpoint → Tier → Prop) (before : Option Breakpoint) (row : List Breakpoint)
    (made : ∀ e ∈ beside before row, ∃ t, tier e.1 e.2 = .ok t ∧ Good e t) :
    ∃ tiers, tiersAlong tier before row = .ok tiers ∧ List.Forall₂ Good (beside before row) tiers := by
  induction row generalizing before with
  | nil => exact ⟨[],rfl,.nil⟩
  | cons b bs ih =>
    obtain ⟨t,first,good⟩ := made (before, b) (by simp [beside])
    obtain ⟨tiers,rest,goods⟩ := ih (some b) fun e member => made e (by simp [beside,member])
    refine ⟨t :: tiers,?_,.cons good goods⟩
    rw [tiersAlong,first,Attempt.ok_bind,rest]
    rfl

theorem tiersAlong_success (tier : Option Breakpoint → Breakpoint → Except Failure Tier)
    (before : Option Breakpoint) (row : List Breakpoint) (tiers : List Tier)
    (ok : tiersAlong tier before row = .ok tiers) :
    List.Forall₂ (fun e t => tier e.1 e.2 = .ok t) (beside before row) tiers := by
  induction row generalizing before tiers with
  | nil =>
    cases ok
    exact .nil
  | cons b bs ih =>
    obtain ⟨t,first,rest⟩ := Attempt.bind_success _ _ _ ok
    obtain ⟨others,later,joined⟩ := Attempt.bind_success _ _ _ rest
    cases joined
    exact .cons first (ih (some b) others later)

theorem exists_mem_forall₂ {α β : Type} (R : α → β → Prop) (p : α → Prop) (q : β → Prop) (xs : List α) (ys : List β)
    (related : List.Forall₂ R xs ys) (same : ∀ x y, R x y → (p x ↔ q y)) :
    (∃ x ∈ xs, p x) ↔ ∃ y ∈ ys, q y := by
  induction related with
  | nil => simp
  | cons head _ ih => simp only [List.exists_mem_cons_iff,ih,same _ _ head]

theorem exists_mem_of_forall₂ {α β : Type} {R : α → β → Prop} {xs : List α} {ys : List β}
    (related : List.Forall₂ R xs ys) (x : α) (member : x ∈ xs) : ∃ y ∈ ys, R x y := by
  induction related with
  | nil => simp at member
  | cons head _ ih =>
    rcases List.mem_cons.mp member with rfl | later
    · exact ⟨_,List.mem_cons_self ..,head⟩
    · obtain ⟨y,inside,paired⟩ := ih later
      exact ⟨y,List.mem_cons_of_mem _ inside,paired⟩

theorem beside_map_snd {α : Type} (before : Option α) (row : List α) : (beside before row).map (·.2) = row := by
  induction row generalizing before with
  | nil => rfl
  | cons b bs ih => rw [beside,List.map_cons,ih]

theorem mem_beside {α : Type} (before : Option α) (row : List α) (e : Option α × α) (member : e ∈ beside before row) :
    e.2 ∈ row ∧ ∀ a ∈ e.1, a ∈ before ∨ a ∈ row := by
  induction row generalizing before with
  | nil => simp [beside] at member
  | cons b bs ih =>
    rcases List.mem_cons.mp member with rfl | later
    · exact ⟨by simp,fun a given => .inl given⟩
    · obtain ⟨inside,earlier⟩ := ih (some b) later
      refine ⟨List.mem_cons_of_mem b inside,?_⟩
      intro a given
      rcases earlier a given with first | listed
      · simp [Option.mem_some.mp first]
      · exact .inr (List.mem_cons_of_mem b listed)

theorem mem_beside_split {α : Type} (before : Option α) (lower upper : List α) (b : α) :
    (lower.getLast?.or before, b) ∈ beside before (lower ++ b :: upper) := by
  induction lower generalizing before with
  | nil => simp [beside]
  | cons c lower ih =>
    have later := ih (some c)
    rw [List.cons_append,beside]
    apply List.mem_cons_of_mem
    cases lower with
    | nil => simpa using later
    | cons d lower => simpa [List.getLast?_cons] using later

theorem beside_append {α : Type} (before : Option α) (lower upper : List α) :
    beside before lower ⊆ beside before (lower ++ upper) := by
  induction lower generalizing before with
  | nil => simp [beside]
  | cons c lower ih =>
    rw [List.cons_append,beside,beside]
    exact List.cons_subset_cons _ (ih (some c))

theorem mem_tail_iff_beside {α : Type} (row : List α) (b : α) :
    b ∈ row.tail ↔ ∃ a, (some a, b) ∈ beside none row := by
  have preceded (c : α) (cs : List α) : b ∈ cs ↔ ∃ a, (some a, b) ∈ beside (some c) cs := by
    induction cs generalizing c with
    | nil => simp [beside]
    | cons d ds ih =>
      simp only [beside,List.mem_cons,Prod.mk.injEq,Option.some.injEq,exists_or,ih d]
      simp
  cases row with
  | nil => simp [beside]
  | cons c cs => simpa [beside] using preceded c cs

/-- In a rising row the member before another is the nearest one below it. -/
theorem beside_nearest {α : Type} (place : α → ℚ) (before : Option α) (row : List α)
    (rising : row.Pairwise fun a b => place a < place b)
    (above : ∀ a ∈ before, ∀ b ∈ row, place a < place b) :
    ∀ e ∈ beside before row, (∀ a ∈ e.1, place a < place e.2) ∧
      ∀ c, c ∈ before ∨ c ∈ row → place c < place e.2 → ∃ a ∈ e.1, place c ≤ place a := by
  induction row generalizing before with
  | nil => simp [beside]
  | cons b bs ih =>
    obtain ⟨least,rest⟩ := List.pairwise_cons.mp rising
    intro e member
    rcases List.mem_cons.mp member with rfl | later
    · refine ⟨fun a given => above a given b (by simp),?_⟩
      rintro c (given | inside) lower
      · exact ⟨c,given,le_rfl⟩
      · rcases List.mem_cons.mp inside with rfl | beyond
        · exact absurd lower (lt_irrefl _)
        · exact absurd lower (least c beyond).not_gt
    · obtain ⟨lowers,nearest⟩ := ih (some b) rest (by simpa using least) e later
      refine ⟨lowers,?_⟩
      rintro c (given | inside) lower
      · -- What stands before the whole row is below its first member.
        obtain ⟨a,member,order⟩ := nearest b (.inl rfl) (least e.2 (mem_beside _ _ e later).1)
        exact ⟨a,member,(above c given b (by simp)).le.trans order⟩
      · rcases List.mem_cons.mp inside with rfl | inside
        · exact nearest c (.inl rfl) lower
        · exact nearest c (.inr inside) lower

end MediaTiers
