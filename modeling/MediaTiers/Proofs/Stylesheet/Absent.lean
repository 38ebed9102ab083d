import MediaTiers.Proofs.Stylesheet.RoundTrip
import Mathlib

/-! Where null gets into a document. A rule leaves out what it does not carry, but a declaration is written with all
fields of its kind. A document without null, read and written again, is therefore without null exactly if every
declaration in it has those fields. -/
namespace MediaTiers

namespace Value

mutual

def isNullFree : Value → Bool
  | .null => false
  | .list items | .tuple items | .set items => areNullFree items
  | .map entries => areNullFreeEntries entries
  | .shared _ v | .cyclic _ v => v.isNullFree
  | _ => true

def areNullFree : List Value → Bool
  | [] => true
  | v :: vs => v.isNullFree && areNullFree vs

def areNullFreeEntries : List (Value × Value) → Bool
  | [] => true
  | (k, v) :: es => k.isNullFree && v.isNullFree && areNullFreeEntries es

end

theorem areNullFree_iff (vs : List Value) : areNullFree vs = true ↔ ∀ v ∈ vs, v.isNullFree = true := by
  induction vs with
  | nil => simp [areNullFree]
  | cons v vs ih => rw [areNullFree,Bool.and_eq_true,ih,List.forall_mem_cons]

theorem areNullFreeEntries_iff (es : List (Value × Value)) :
    areNullFreeEntries es = true ↔ ∀ e ∈ es, e.1.isNullFree = true ∧ e.2.isNullFree = true := by
  induction es with
  | nil => simp [areNullFreeEntries]
  | cons e es ih => rw [areNullFreeEntries,Bool.and_eq_true,Bool.and_eq_true,ih,List.forall_mem_cons]

theorem record_isNullFree (fields : List (String × Value)) :
    (record fields).isNullFree = true ↔ ∀ f ∈ fields, f.2.isNullFree = true := by
  rw [record,isNullFree,areNullFreeEntries_iff,List.forall_mem_map]
  simp [isNullFree]

mutual

theorem unfold_isNullFree (mark : Nat) (self : Value) (free : self.isNullFree = true) :
    (v : Value) → v.isNullFree = true → (unfold mark self v).isNullFree = true
  | .again m, _ => by
    rw [unfold]
    split
    · exact free
    · rfl
  | .cyclic m v, clear => by
    rw [unfold]
    split
    · exact clear
    · exact unfold_isNullFree mark self free v clear
  | .list items, clear | .tuple items, clear | .set items, clear => unfoldAll_isNullFree mark self free items clear
  | .map entries, clear => unfoldEntries_isNullFree mark self free entries clear
  | .bool _, _ | .int _, _ | .float _, _ | .text _, _ | .bytes _, _ | .day _, _ | .moment _, _ => rfl
  | .shared _ _, clear => clear

theorem unfoldAll_isNullFree (mark : Nat) (self : Value) (free : self.isNullFree = true) :
    (vs : List Value) → areNullFree vs = true → areNullFree (unfoldAll mark self vs) = true
  | [], _ => rfl
  | v :: vs, clear => by
    rw [areNullFree,Bool.and_eq_true] at clear
    rw [unfoldAll,areNullFree,unfold_isNullFree mark self free v clear.1,unfoldAll_isNullFree mark self free vs clear.2]
    rfl

theorem unfoldEntries_isNullFree (mark : Nat) (self : Value) (free : self.isNullFree = true) :
    (es : List (Value × Value)) → areNullFreeEntries es = true →
      areNullFreeEntries (unfoldEntries mark self es) = true
  | [], _ => rfl
  | (k, v) :: es, clear => by
    rw [areNullFreeEntries,Bool.and_eq_true,Bool.and_eq_true] at clear
    rw [unfoldEntries,areNullFreeEntries,unfold_isNullFree mark self free k clear.1.1,
      unfold_isNullFree mark self free v clear.1.2,unfoldEntries_isNullFree mark self free es clear.2]
    rfl

end

theorem bare_isNullFree (v : Value) (free : v.isNullFree = true) : v.bare.isNullFree = true := by
  cases v with
  | shared _ inner => exact free
  | cyclic mark inner => exact unfold_isNullFree mark _ free inner free
  | _ => exact free

theorem mem_of_lookup (key : String) (entries : List (Value × Value)) (w : Value)
    (found : lookup? key entries = some w) : (text key, w) ∈ entries := by
  fun_induction lookup? key entries with
  | case1 => cases found
  | case2 v entries =>
    cases found
    exact List.mem_cons_self
  | case3 k v entries _ ih => exact List.mem_cons_of_mem _ (ih found)
  | case4 e entries _ ih => exact List.mem_cons_of_mem _ (ih found)

section Field

variable (v : Value) (key : String) (default w : Value) (free : v.isNullFree = true)
  (read : v.fieldD key default = .ok w)

include free read

theorem fieldD_isNullFree : w = default ∨ w.isNullFree = true := by
  have clear := v.bare_isNullFree free
  obtain ⟨found,looked,filled⟩ := Attempt.bind_success _ _ _ read
  cases filled
  rw [field?] at looked
  split at looked
  next entries shape =>
    cases looked
    rw [shape] at clear
    cases held : lookup? key entries with
    | none => exact .inl rfl
    | some w => exact .inr ((areNullFreeEntries_iff entries).mp clear _ (mem_of_lookup key entries w held)).2
  next => cases looked

theorem fieldD_filled (clear : default.isNullFree = true) : w.isNullFree = true := by
  rcases v.fieldD_isNullFree key default w free read with rfl | held
  · exact clear
  · exact held

end Field

theorem elements_isNullFree (v : Value) (items : List Value) (free : v.isNullFree = true)
    (read : v.elements = .ok items) : ∀ w ∈ items, w.isNullFree = true := by
  have clear := v.bare_isNullFree free
  unfold elements at read
  generalize v.bare = w at clear read
  cases w with
  | list row | tuple row | set row =>
    cases read
    exact (areNullFree_iff _).mp clear
  | map entries =>
    cases read
    rw [List.forall_mem_map]
    exact fun e inside => ((areNullFreeEntries_iff entries).mp clear e inside).1
  | text s | bytes bs =>
    cases read
    simp [isNullFree]
  | _ => cases read

def readList {α : Type} (v : Value) (step : Value → Except Failure α) : Except Failure (Option (List α)) :=
  if v.isNull then .ok none else do some <$> (← v.elements).mapM step

theorem readList_isNullFree {α : Type} (v : Value) (step : Value → Except Failure α) (row : Option (List α))
    (filled : v ≠ .null → v.isNullFree = true) (read : v.readList step = .ok row) :
    ∀ a ∈ row.getD [], ∃ w, w.isNullFree = true ∧ step w = .ok a := by
  rw [readList] at read
  split at read
  next =>
    cases read
    simp
  next present =>
    have free := filled (mt v.isNull_iff.mpr present)
    obtain ⟨items,listed,rest⟩ := Attempt.bind_success _ _ _ read
    obtain ⟨as,each,rfl⟩ := Attempt.map_success _ _ _ rest
    intro a inside
    obtain ⟨w,member,made⟩ := Attempt.mapM_mem _ _ _ each a inside
    exact ⟨w,v.elements_isNullFree items free listed w member,made⟩

end Value

namespace Declaration

/-- The fields are null or have no null in them, and the type is not null. -/
structure Clear (d : Declaration) : Prop where
  type : d.type.isNullFree = true
  property : d.property ≠ .null → d.property.isNullFree = true
  value : d.value ≠ .null → d.value.isNullFree = true
  comment : d.comment ≠ .null → d.comment.isNullFree = true

/-- Has the fields that a document writes of it: a comment its text, anything else its property and its value. -/
def IsWhole (d : Declaration) : Prop :=
  if d.type.same (.text "comment") then d.comment ≠ .null else d.property ≠ .null ∧ d.value ≠ .null

theorem ofValue_clear (v : Value) (d : Declaration) (free : v.isNullFree = true) (read : ofValue v = .ok d) :
    d.Clear := by
  have field (key : String) (default w : Value) := v.fieldD_isNullFree key default w free
  obtain ⟨property,propertyRead,rest⟩ := Attempt.bind_success _ _ _ read
  obtain ⟨value,valueRead,rest⟩ := Attempt.bind_success _ _ _ rest
  obtain ⟨type,typeRead,rest⟩ := Attempt.bind_success _ _ _ rest
  obtain ⟨comment,commentRead,made⟩ := Attempt.bind_success _ _ _ rest
  cases made
  exact ⟨v.fieldD_filled _ _ _ free typeRead rfl,(field _ _ _ propertyRead).resolve_left,
    (field _ _ _ valueRead).resolve_left,(field _ _ _ commentRead).resolve_left⟩

theorem Clear.toValue_isNullFree {d : Declaration} (clear : d.Clear) : d.toValue.isNullFree = true ↔ d.IsWhole := by
  have present (w : Value) (filled : w ≠ .null → w.isNullFree = true) : w.isNullFree = true ↔ w ≠ .null := by
    refine ⟨?_,filled⟩
    rintro free rfl
    cases free
  unfold toValue IsWhole
  split
  · simp [Value.record_isNullFree,Value.isNullFree,present _ clear.comment]
  · simp [Value.record_isNullFree,clear.type,present _ clear.property,present _ clear.value]

end Declaration

namespace Rule

/-- The type and the selectors have no null in them, and what else the rule has is null or has none in it. -/
structure Clear (r : Rule) : Prop where
  type : r.type.isNullFree = true
  selectors : ∀ v ∈ r.selectors, v.isNullFree = true
  declarations : ∀ d ∈ r.entries, d.Clear
  media : r.media ≠ .null → r.media.isNullFree = true

/-- What reading a rule comes to: one field after another, the declarations and the nested rules each as a list that may
be missing. -/
theorem ofValueWithin_success (depth : Nat) (v : Value) (r : Rule) (read : ofValueWithin (depth + 1) v = .ok r) :
    ∃ row list nested, v.fieldD "type" (.text "rule") = .ok r.type ∧
      v.fieldD "selectors" (.list []) = .ok row ∧ row.elements = .ok r.selectors ∧
      v.fieldD "declarations" .null = .ok list ∧ list.readList Declaration.ofValue = .ok r.declarations ∧
      v.fieldD "rules" .null = .ok nested ∧ nested.readList (ofValueWithin depth) = .ok r.rules ∧
      v.fieldD "media" .null = .ok r.media := by
  obtain ⟨type,typeRead,rest⟩ := Attempt.bind_success _ _ _ read
  obtain ⟨row,rowRead,rest⟩ := Attempt.bind_success _ _ _ rest
  obtain ⟨selectors,selectorsRead,rest⟩ := Attempt.bind_success _ _ _ rest
  obtain ⟨list,listRead,rest⟩ := Attempt.bind_success _ _ _ rest
  obtain ⟨declarations,declarationsRead,rest⟩ := Attempt.bind_success _ _ _ rest
  obtain ⟨nested,nestedRead,rest⟩ := Attempt.bind_success _ _ _ rest
  -- What follows the nested rules stands in both branches, so it is peeled off in each of them.
  obtain ⟨rules,rulesRead,rest⟩ : ∃ rules, nested.readList (ofValueWithin depth) = .ok rules ∧
      (v.fieldD "media" .null >>= fun media => .ok ⟨type,selectors,declarations,rules,media⟩) = .ok r := by
    rw [Value.readList]
    split at rest
    next null => exact ⟨none,if_pos null,rest⟩
    next present =>
      obtain ⟨items,listed,rest⟩ := Attempt.bind_success _ _ _ rest
      obtain ⟨rules,each,rest⟩ := Attempt.bind_success _ _ _ rest
      exact ⟨rules,by rw [if_neg present,listed,Attempt.ok_bind,each],rest⟩
  obtain ⟨media,mediaRead,made⟩ := Attempt.bind_success _ _ _ rest
  cases made
  exact ⟨row,list,nested,typeRead,rowRead,selectorsRead,listRead,declarationsRead,nestedRead,rulesRead,mediaRead⟩

theorem ofValueWithin_clear (depth : Nat) (v : Value) (r : Rule) (free : v.isNullFree = true)
    (read : ofValueWithin depth v = .ok r) : r.Clear ∧ ∀ s ∈ Stylesheet.rules r.children, s.Clear := by
  induction depth generalizing v r with
  | zero => cases read
  | succ depth below =>
    have absent (key : String) (w : Value) (read : v.fieldD key .null = .ok w) : w ≠ .null → w.isNullFree = true :=
      (v.fieldD_isNullFree key .null w free read).resolve_left
    obtain ⟨row,list,nested,type,rowRead,selectors,listRead,declarations,nestedRead,rules,media⟩ :=
      ofValueWithin_success depth v r read
    have rowFree := v.fieldD_filled _ _ _ free rowRead rfl
    refine ⟨⟨v.fieldD_filled _ _ _ free type rfl,row.elements_isNullFree _ rowFree selectors,?_,absent _ _ media⟩,?_⟩
    · intro d inside
      obtain ⟨w,clear,made⟩ := list.readList_isNullFree _ _ (absent _ _ listRead) declarations d inside
      exact Declaration.ofValue_clear w d clear made
    · rw [Stylesheet.forall_rules_iff]
      intro s inside
      obtain ⟨w,clear,made⟩ := nested.readList_isNullFree _ _ (absent _ _ nestedRead) rules s inside
      exact below w s clear made

theorem Clear.toValue_isNullFree {r : Rule} (clear : r.Clear) :
    r.toValue.isNullFree = true ↔
      (∀ d ∈ r.entries, d.IsWhole) ∧ Value.areNullFree (Stylesheet.toValues r.children) = true := by
  have declared : (∀ ds ∈ r.declarations, Value.areNullFree (ds.map (·.toValue)) = true) ↔
      ∀ d ∈ r.entries, d.IsWhole := by
    cases held : r.declarations with
    | none => simp [entries,held]
    | some ds =>
      have each := clear.declarations
      rw [entries,held] at each
      simp only [Option.mem_def,Option.some.injEq,forall_eq',Value.areNullFree_iff,List.forall_mem_map,entries,held]
      exact forall₂_congr fun d inside => (each d inside).toValue_isNullFree
  have nested : (∀ rs ∈ r.rules, Value.areNullFree (Stylesheet.toValues rs) = true) ↔
      Value.areNullFree (Stylesheet.toValues r.children) = true := by
    cases held : r.rules with
    | none => simp [children,held,Stylesheet.toValues,Value.areNullFree]
    | some rs => simp [children,held]
  have selectors := (Value.areNullFree_iff r.selectors).mpr clear.selectors
  rw [toValue_eq,Value.record_isNullFree,r.forall_fields fun v => v.isNullFree = true]
  simp only [Value.isNullFree,declared,nested,selectors,clear.type,implies_true,true_and]
  exact and_iff_right clear.media

end Rule

namespace Stylesheet

theorem ofValueWithin_clear (depth : Nat) (v : Value) (sheet : Stylesheet) (free : v.isNullFree = true)
    (read : ofValueWithin depth v = .ok sheet) : ∀ r ∈ rules sheet, r.Clear := by
  obtain ⟨body,bodyRead,rest⟩ := Attempt.bind_success _ _ _ read
  obtain ⟨row,rowRead,rest⟩ := Attempt.bind_success _ _ _ rest
  obtain ⟨items,listed,each⟩ := Attempt.bind_success _ _ _ rest
  have bodyFree := v.fieldD_filled _ _ _ free bodyRead free
  have rowFree := body.fieldD_filled _ _ _ bodyFree rowRead rfl
  rw [forall_rules_iff]
  intro r inside
  obtain ⟨w,member,made⟩ := Attempt.mapM_mem _ _ _ each r inside
  exact Rule.ofValueWithin_clear depth w r (row.elements_isNullFree items rowFree listed w member) made

theorem toValues_isNullFree (sheet : List Rule) (clear : ∀ r ∈ rules sheet, r.Clear) :
    Value.areNullFree (toValues sheet) = true ↔ ∀ r ∈ rules sheet, ∀ d ∈ r.entries, d.IsWhole := by
  induction sheet using induction with
  | nil => simp [toValues,Value.areNullFree,rules_nil]
  | cons r rs inner rest =>
    obtain ⟨first,below,beside⟩ := (forall_rules_cons Rule.Clear r rs).mp clear
    rw [toValues,Value.areNullFree,Bool.and_eq_true,first.toValue_isNullFree,inner below,rest beside,
      forall_rules_cons,and_assoc]

/-- A sheet read from a document without null is written without null exactly if its declarations have all fields that
are written of them. -/
theorem absent_stay_absent_iff (v : Value) (sheet : Stylesheet) (free : v.isNullFree = true)
    (accepted : ofValue v = .ok sheet) :
    (toValue sheet).isNullFree = true ↔ ∀ r ∈ rules sheet, ∀ d ∈ r.entries, d.IsWhole := by
  have clear := ofValueWithin_clear _ v sheet free accepted
  rw [← toValues_isNullFree sheet clear]
  simp [toValue,Value.record_isNullFree,Value.isNullFree]

/-- A comment below a media rule is whole without property and value, and leaves no null behind. -/
theorem absent_stay_absent_iff_comment :
    let entry : Value := .record [("type", .text "comment"), ("comment", .text "x")]
    let inner : Value := .record [("declarations", .list [entry])]
    let document : Value := .record [("rules", .list [.record [("media", .text "palm"), ("rules", .list [inner])]])]
    ∃ sheet, ofValue document = .ok sheet ∧ (toValue sheet).isNullFree = true := by
  intro entry inner document
  let note : Declaration := ⟨.null, .null, .text "comment", .text "x"⟩
  let below : Rule := ⟨.text "rule", [], some [note], none, .null⟩
  let top : Rule := ⟨.text "rule", [], none, some [below], .text "palm"⟩
  have accepted : ofValue document = .ok [top] := rfl
  have listed : rules [top] = [top, below] := by simp [top,below,rules_cons,rules_nil,Rule.children]
  refine ⟨[top],accepted,(absent_stay_absent_iff document [top] (by decide) accepted).mpr ?_⟩
  simp [listed,top,below,note,Rule.entries,Declaration.IsWhole,Value.same_text]

/-- A declaration without a value is read, and written with null for its value. -/
theorem absent_value_written :
    let entry : Value := .record [("type", .text "declaration"), ("property", .text "color")]
    let only : Value := .record [("type", .text "rule"), ("selectors", .list [.text ".a"]), ("declarations", .list [entry])]
    let document : Value := .record [("rules", .list [only])]
    document.isNullFree = true ∧ ∃ sheet, ofValue document = .ok sheet ∧ (toValue sheet).isNullFree = false := by
  intro entry only document
  let sheet : Stylesheet := [rule ".a" [⟨.text "color", .null, .text "declaration", .null⟩]]
  exact ⟨by decide,sheet,rfl,by decide +kernel⟩

end Stylesheet
end MediaTiers
