import MediaTiers.Proofs.Stylesheet.Traversal
import MediaTiers.Proofs.Value.Plain

/-! The order of a traversal. The rules still to be met wait on a stack, and every step takes one of them off and puts
those below it on. What has been met and what the stack holds make up the same listing at every step, so the
traversal ends when each rule has been met once, and it has then listed the tree recursively. -/
namespace MediaTiers

mutual

def Rule.preorder : Rule → List Rule
  | ⟨type, selectors, declarations, none, media⟩ => [⟨type, selectors, declarations, none, media⟩]
  | ⟨type, selectors, declarations, some rs, media⟩ =>
    ⟨type, selectors, declarations, some rs, media⟩ :: Stylesheet.preorder rs

def Stylesheet.preorder : List Rule → List Rule
  | [] => []
  | r :: rs => r.preorder ++ Stylesheet.preorder rs

end

theorem Rule.preorder_eq (r : Rule) : r.preorder = r :: Stylesheet.preorder r.children := by
  obtain ⟨type,selectors,declarations,rules,media⟩ := r
  cases rules <;> simp [Rule.preorder,Rule.children,Stylesheet.preorder]

/-- One of the selectors of the rule equals this one. -/
def Rule.Includes (r : Rule) (selector : Value) : Prop :=
  ∃ v ∈ r.selectors, v.same selector = true

theorem Rule.includes_iff (r : Rule) (selector : Value) :
    r.Includes selector ↔ (r.selectors.any (·.same selector)) = true := by
  rw [List.any_eq_true]
  rfl

theorem Rule.includes_text (r : Rule) (text : String) (texts : ∀ v ∈ r.selectors, v.isText = true) :
    r.Includes (.text text) ↔ .text text ∈ r.selectors := by
  constructor
  · rintro ⟨v,member,same⟩
    cases v with
    | text s =>
      rw [Value.same_text,beq_iff_eq] at same
      rwa [← same]
    | _ => cases texts _ member
  · intro member
    exact ⟨.text text,member,by simp [Value.same_text]⟩

namespace Stylesheet

theorem rules_preorder (sheet : Stylesheet) : rules sheet = preorder sheet := by
  induction sheet using induction with
  | nil => rw [rules_nil,preorder]
  | cons r rs inner rest => rw [rules_cons,preorder,r.preorder_eq,inner,rest,List.cons_append]

/-- A traversal under way: the rules met so far, and those waiting on the stack, the next one at its end. -/
structure Traversal where
  met : List Rule
  stack : List Rule

namespace Traversal

def start (sheet : Stylesheet) : Traversal :=
  ⟨[], sheet.reverse⟩

/-- Meets the rule at the end of the stack and leaves those below it there instead, the first of them at the end. -/
def step (t : Traversal) : Option Traversal :=
  t.stack.getLast?.map fun r => ⟨t.met ++ [r], t.stack.dropLast ++ r.children.reverse⟩

/-- The traversal stops after a number of steps and has then met these rules. -/
inductive Stops : Traversal → Nat → List Rule → Prop
  | done (t : Traversal) (ended : t.step = none) : Stops t 0 t.met
  | more (t next : Traversal) (n : Nat) (met : List Rule) (stepped : t.step = some next) (later : Stops next n met) :
    Stops t (n + 1) met

theorem step_cons (met : List Rule) (r : Rule) (waiting : List Rule) :
    step ⟨met, (r :: waiting).reverse⟩ = some ⟨met ++ [r], (r.children ++ waiting).reverse⟩ := by
  simp [step]

-- The rules on the stack are met in the order of `visit`, after those met already.
theorem stops_visit (met waiting : List Rule) :
    Stops ⟨met, waiting.reverse⟩ (count waiting) (met ++ visit waiting) := by
  induction waiting using visit.induct generalizing met with
  | case1 =>
    rw [count,visit,List.append_nil]
    exact .done ⟨met, []⟩ rfl
  | case2 r waiting later =>
    have steps : count (r :: waiting) = count (r.children ++ waiting) + 1 := by
      have below := count_children r
      rw [count,count_append]
      omega
    have listed : met ++ visit (r :: waiting) = (met ++ [r]) ++ visit (r.children ++ waiting) := by
      rw [visit,List.append_assoc,List.singleton_append]
    rw [steps,listed]
    exact .more _ _ _ _ (step_cons met r waiting) (later (met ++ [r]))

theorem Stops.unique {t : Traversal} {n k : Nat} {met others : List Rule} (stops : t.Stops n met)
    (again : t.Stops k others) : n = k ∧ met = others := by
  induction stops generalizing k others with
  | done t ended =>
    cases again with
    | done _ _ => exact ⟨rfl,rfl⟩
    | more _ next _ _ stepped _ => simp [ended] at stepped
  | more t next n met stepped _ ih =>
    cases again with
    | done _ ended => simp [ended] at stepped
    | more _ other k _ stepped' later =>
      obtain rfl := Option.some.inj (stepped.symm.trans stepped')
      obtain ⟨rfl,rfl⟩ := ih later
      exact ⟨rfl,rfl⟩

theorem stops_iff (sheet : Stylesheet) (n : Nat) (met : List Rule) :
    (start sheet).Stops n met ↔ n = count sheet ∧ met = rules sheet := by
  have whole : (start sheet).Stops (count sheet) (rules sheet) := stops_visit [] sheet
  constructor
  · intro stops
    exact stops.unique whole
  · rintro ⟨rfl,rfl⟩
    exact whole

end Traversal

/-- The rule at a place, which tells its number in the row, then its number in the row below that one, and so on. -/
def at? : List Rule → List Nat → Option Rule
  | _, [] => none
  | rs, i :: p => rs[i]?.bind fun r => if p.isEmpty then some r else at? r.children p

def places : List Rule → List (List Nat)
  | [] => []
  | r :: rs => [0] :: ((places r.children).map (0 :: ·) ++ (places rs).map (·.modifyHead (· + 1)))
termination_by sheet => count sheet
decreasing_by
  all_goals
    have := count_children r
    simp only [count]
    omega

theorem at_first (r : Rule) (rs : List Rule) (p : List Nat) :
    at? (r :: rs) (0 :: p) = if p.isEmpty then some r else at? r.children p := by
  simp [at?]

theorem at_later (r : Rule) (rs : List Rule) (p : List Nat) : at? (r :: rs) (p.modifyHead (· + 1)) = at? rs p := by
  cases p <;> simp [at?]

theorem shifted_eq_cons (q p : List Nat) (i : Nat) :
    q.modifyHead (· + 1) = i :: p ↔ ∃ k, q = k :: p ∧ i = k + 1 := by
  cases q with
  | nil => simp
  | cons k q =>
    simp only [List.modifyHead_cons,List.cons.injEq]
    constructor
    · rintro ⟨rfl,rfl⟩
      exact ⟨k,⟨rfl,rfl⟩,rfl⟩
    · rintro ⟨_,⟨rfl,rfl⟩,rfl⟩
      exact ⟨rfl,rfl⟩

theorem mem_places (sheet : List Rule) (p : List Nat) : p ∈ places sheet ↔ (at? sheet p).isSome = true := by
  induction sheet using induction generalizing p with
  | nil => cases p <;> simp [places,at?]
  | cons r rs inner rest =>
    rw [places,List.mem_cons,List.mem_append,List.mem_map,List.mem_map]
    simp only [inner,rest]
    match p with
    | [] => simp [at?]
    | 0 :: p =>
      rw [at_first]
      cases p <;> simp [shifted_eq_cons,at?]
    | (i + 1) :: p =>
      have moved : (i + 1) :: p = (i :: p).modifyHead (· + 1) := rfl
      rw [moved,at_later]
      simp [shifted_eq_cons]

theorem place_filled (sheet : List Rule) (p : List Nat) (member : p ∈ places sheet) : ∃ i q, p = i :: q := by
  cases p with
  | nil => simp [mem_places,at?] at member
  | cons i q => exact ⟨i,q,rfl⟩

theorem places_at (sheet : List Rule) : (places sheet).map (at? sheet) = (rules sheet).map some := by
  induction sheet using induction with
  | nil => simp [places,rules_nil]
  | cons r rs inner rest =>
    have below : (places r.children).map (fun p => at? (r :: rs) (0 :: p)) = (rules r.children).map some := by
      rw [← inner]
      apply List.map_congr_left
      intro p member
      obtain ⟨i,q,rfl⟩ := place_filled r.children p member
      rw [at_first]
      rfl
    have beside : (places rs).map (fun p => at? (r :: rs) (p.modifyHead (· + 1))) = (rules rs).map some := by
      simp only [at_later,rest]
    have first : at? (r :: rs) [0] = some r := rfl
    rw [places,rules_cons]
    simp only [List.map_cons,List.map_append,List.map_map,Function.comp_def,first,below,beside]

/-- A rule comes before those below it, and those go before the rules beside it. -/
theorem places_sorted (sheet : List Rule) : (places sheet).Pairwise (· < ·) := by
  induction sheet using induction with
  | nil => simp [places]
  | cons r rs inner rest =>
    rw [places,List.pairwise_cons,List.pairwise_append,List.pairwise_map,List.pairwise_map,List.forall_mem_append,
      List.forall_mem_map,List.forall_mem_map]
    refine ⟨⟨?_,?_⟩,?_,?_,?_⟩
    · intro p member
      obtain ⟨i,q,rfl⟩ := place_filled r.children p member
      exact List.cons_lt_cons_self.mpr (List.nil_lt_cons i q)
    · intro p member
      obtain ⟨i,q,rfl⟩ := place_filled rs p member
      exact List.cons_lt_cons_iff.mpr (.inl (Nat.succ_pos i))
    · exact inner.imp fun before => List.cons_lt_cons_self.mpr before
    · refine rest.imp_of_mem ?_
      intro p q first second before
      obtain ⟨i,p,rfl⟩ := place_filled rs p first
      obtain ⟨j,q,rfl⟩ := place_filled rs q second
      rw [List.cons_lt_cons_iff] at before
      simpa only [List.modifyHead_cons,List.cons_lt_cons_iff,Nat.add_lt_add_iff_right,
        Nat.add_right_cancel_iff] using before
    · rw [List.forall_mem_map]
      intro p member
      rw [List.forall_mem_map]
      intro q other
      obtain ⟨i,q,rfl⟩ := place_filled rs q other
      exact List.cons_lt_cons_iff.mpr (.inl (Nat.succ_pos i))

theorem find_some_iff (sheet : Stylesheet) (selector : Value) (r : Rule) :
    find? sheet selector = some r ↔ ∃ earlier later, preorder sheet = earlier ++ r :: later ∧ r.Includes selector ∧
      ∀ s ∈ earlier, ¬s.Includes selector := by
  simp only [find?,rules_preorder,List.find?_eq_some_iff_append,Rule.includes_iff,Bool.not_eq_true',Bool.not_eq_true]
  constructor
  · rintro ⟨here,earlier,later,parts,before⟩
    exact ⟨earlier,later,parts,here,before⟩
  · rintro ⟨earlier,later,parts,here,before⟩
    exact ⟨here,earlier,later,parts,before⟩

theorem find_none_iff (sheet : Stylesheet) (selector : Value) :
    find? sheet selector = none ↔ ∀ r ∈ preorder sheet, ¬r.Includes selector := by
  simp only [find?,rules_preorder,List.find?_eq_none,Rule.includes_iff]

/-- A traversal takes one step for each rule and ends with the recursive listing of the tree, in which every place comes
once, a rule before those below it and the rules of a row in order. The rules with a media selector and the first rule
with a given selector are those of this listing. -/
theorem traversal_preorder (sheet : Stylesheet) :
    (∀ n met, (Traversal.start sheet).Stops n met ↔ n = count sheet ∧ met = rules sheet) ∧
    rules sheet = preorder sheet ∧
    ((places sheet).Pairwise (· < ·) ∧ (∀ p, p ∈ places sheet ↔ (at? sheet p).isSome = true) ∧
      (places sheet).map (at? sheet) = (preorder sheet).map some) ∧
    mediaRules sheet = (preorder sheet).filter (fun r => !r.media.isEmpty) ∧
    mediaSelectors sheet = ((preorder sheet).map (·.media)).filter (fun v => !v.isEmpty) ∧
    (∀ selector r, find? sheet selector = some r ↔ ∃ earlier later, preorder sheet = earlier ++ r :: later ∧
      r.Includes selector ∧ ∀ s ∈ earlier, ¬s.Includes selector) ∧
    (∀ selector, find? sheet selector = none ↔ ∀ r ∈ preorder sheet, ¬r.Includes selector) ∧
    ∀ r ∈ preorder sheet, (∀ v ∈ r.selectors, v.isText = true) →
      ∀ text, r.Includes (.text text) ↔ .text text ∈ r.selectors := by
  refine ⟨Traversal.stops_iff sheet,rules_preorder sheet,⟨places_sorted sheet,mem_places sheet,?_⟩,?_,?_,
    find_some_iff sheet,find_none_iff sheet,fun r _ texts text => r.includes_text text texts⟩
  · rw [← rules_preorder,places_at]
  · rw [mediaRules,rules_preorder]
  · rw [mediaSelectors,mediaRules,rules_preorder,List.filter_map]
    rfl

/-- Rules with a child list that is empty, and without one; the selector that two of them have is found at the first. -/
theorem traversal_preorder_nested :
    let inner := rule ".b" [declaration "color" "red"]
    let hollow := media "tv" []
    let outer := media "print" [inner, hollow]
    let last := rule ".b" []
    let sheet : Stylesheet := [outer, last]
    (Traversal.start sheet).Stops 4 [outer, inner, hollow, last] ∧ mediaRules sheet = [outer, hollow] ∧
      find? sheet (.text ".b") = some inner ∧ (inner.Includes (.text ".b") ↔ .text ".b" ∈ inner.selectors) := by
  intro inner hollow outer last sheet
  obtain ⟨stops,listed,-,media,-,found,-,text⟩ := traversal_preorder sheet
  have order : preorder sheet = [outer, inner, hollow, last] := by
    simp [sheet,outer,inner,hollow,last,rule,MediaTiers.media,preorder,Rule.preorder]
  have steps : count sheet = 4 := by
    simp [sheet,outer,inner,hollow,last,rule,MediaTiers.media,count,Rule.count]
  have texts : ∀ v ∈ inner.selectors, v.isText = true := by simp [inner,rule,Value.isText]
  have includes := text inner (by simp [order]) texts ".b"
  rw [order] at listed media found
  refine ⟨(stops _ _).mpr ⟨steps.symm,listed.symm⟩,?_,?_,includes⟩
  · rw [media]
    simp [outer,inner,hollow,last,rule,MediaTiers.media,Value.isEmpty]
  · refine (found _ _).mpr ⟨[outer],[hollow, last],rfl,includes.mpr (by simp [inner,rule]),?_⟩
    simp [outer,MediaTiers.media,Rule.Includes]

end Stylesheet
end MediaTiers
