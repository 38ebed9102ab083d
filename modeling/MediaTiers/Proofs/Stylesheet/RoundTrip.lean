import MediaTiers.Proofs.Stylesheet.Walk
import MediaTiers.Proofs.Yaml.Plain
import MediaTiers.Stylesheet.Exchange
import Mathlib

/-! Sheets as documents and back. Reading a document gives the sheet it was made of, except that a comment comes back
without property and value, and any other declaration without a comment. The document of what comes back is the same
document again. -/
namespace MediaTiers

namespace Declaration

/-- The fields are texts, and those that may be missing are texts or null. -/
structure Textual (d : Declaration) : Prop where
  type : d.type.isText = true
  property : d.property.isTextOrNull = true
  value : d.value.isTextOrNull = true
  comment : d.comment.isTextOrNull = true

/-- What a document keeps of a declaration. -/
def restored (d : Declaration) : Declaration :=
  if d.type.same (.text "comment") then ⟨.null, .null, .text "comment", d.comment⟩
  else ⟨d.property, d.value, d.type, .null⟩

theorem ofValue_toValue (d : Declaration) : ofValue d.toValue = .ok d.restored := by
  unfold toValue restored
  split
  · simp [ofValue,Value.record_fieldD,List.lookup_cons]
  · simp [ofValue,Value.record_fieldD,List.lookup_cons]

theorem toValue_restored (d : Declaration) : d.restored.toValue = d.toValue := by
  unfold restored
  split
  next comment => simp [toValue,comment,Value.same_text]
  next other => simp [toValue,other]

theorem restored_eq_iff (d : Declaration) (textual : d.Textual) :
    d.restored = d ↔ (d.type = .text "comment" → d.property = .null ∧ d.value = .null) ∧
      (d.type ≠ .text "comment" → d.comment = .null) := by
  obtain ⟨property,value,type,comment⟩ := d
  have text := textual.type
  cases type with
  | text name =>
    rw [restored,Value.same_text]
    by_cases same : name = "comment"
    · simp [same,eq_comm (a := Value.null)]
    · simp [same,eq_comm (a := Value.null)]
  | _ => cases text

theorem Textual.isPlain {d : Declaration} (textual : d.Textual) : d.toValue.isPlain = true := by
  have type : d.type.isTextOrNull = true := by simp [Value.isTextOrNull,textual.type]
  have plain := Value.isTextOrNull_isPlain
  unfold toValue
  split
  · simp [Value.record_isPlain,plain _ textual.comment,Value.isPlain]
  · simp [Value.record_isPlain,plain _ type,plain _ textual.property,plain _ textual.value]

end Declaration

namespace Rule

def fields (r : Rule) : List (String × Value) :=
  ("type", r.type)
    :: (Value.optional "selectors" (if r.selectors.isEmpty then none else some (.list r.selectors))
    ++ Value.optional "media" (if r.media.isNull then none else some r.media)
    ++ Value.optional "declarations" (r.declarations.map fun ds => .list (ds.map (·.toValue)))
    ++ Value.optional "rules" (r.rules.map fun rs => .list (Stylesheet.toValues rs)))

theorem toValue_eq (r : Rule) : r.toValue = .record r.fields := by
  obtain ⟨type,selectors,declarations,rules,media⟩ := r
  rw [Rule.toValue.eq_def]
  simp only [fields,Value.optional]
  cases selectors.isEmpty <;> cases media.isNull <;> cases declarations <;> cases rules <;> rfl

theorem fields_lookup (r : Rule) :
    r.fields.lookup "type" = some r.type ∧
      r.fields.lookup "selectors" = (if r.selectors.isEmpty then none else some (.list r.selectors)) ∧
      r.fields.lookup "media" = (if r.media.isNull then none else some r.media) ∧
      r.fields.lookup "declarations" = r.declarations.map (fun ds => .list (ds.map (·.toValue))) ∧
      r.fields.lookup "rules" = r.rules.map fun rs => .list (Stylesheet.toValues rs) := by
  simp [fields,List.lookup_cons,List.lookup_append,Value.lookup_optional]

/-- What holds of all fields of a document holds of what the rule carries. -/
theorem forall_fields (r : Rule) (holds : Value → Prop) :
    (∀ f ∈ r.fields, holds f.2) ↔
      holds r.type ∧ (r.selectors ≠ [] → holds (.list r.selectors)) ∧ (r.media ≠ .null → holds r.media) ∧
        (∀ ds ∈ r.declarations, holds (.list (ds.map (·.toValue)))) ∧
          ∀ rs ∈ r.rules, holds (.list (Stylesheet.toValues rs)) := by
  simp only [fields,List.forall_mem_cons,List.forall_mem_append,Value.forall_optional,and_assoc]
  simp [Value.isNull_iff]

def restoredAround (r : Rule) (inner : List Rule) : Rule :=
  ⟨r.type, r.selectors, r.declarations.map (·.map (·.restored)), r.rules.map fun _ => inner, r.media⟩

theorem listOf_toValue (declarations : Option (List Declaration)) :
    Declaration.listOf ((declarations.map fun ds => Value.list (ds.map (·.toValue))).getD .null) =
      .ok (declarations.map (·.map (·.restored))) := by
  cases declarations with
  | none => rfl
  | some ds =>
    have read : (ds.map (·.toValue)).mapM Declaration.ofValue = .ok (ds.map (·.restored)) := by
      induction ds with
      | nil => rfl
      | cons d ds ih => simp [Declaration.ofValue_toValue,ih]
    simp only [Option.map_some,Option.getD_some,Declaration.listOf,Value.isNull,Value.elements_list,Attempt.ok_bind,
      read]
    rfl

theorem ofValueWithin_toValue (depth : Nat) (r : Rule) (inner : List Rule)
    (below : (Stylesheet.toValues r.children).mapM (ofValueWithin depth) = .ok inner) :
    ofValueWithin (depth + 1) r.toValue = .ok (r.restoredAround inner) := by
  obtain ⟨type,selectors,media,declarations,rules⟩ := r.fields_lookup
  have row : ((if r.selectors.isEmpty then none else some (Value.list r.selectors)).getD (.list [])).elements =
      .ok r.selectors := by
    split
    next empty => rw [List.isEmpty_iff.mp empty]; rfl
    next => rfl
  have query : (if r.media.isNull then none else some r.media).getD .null = r.media := by
    split
    next null => exact (r.media.eq_null null).symm
    next => rfl
  simp only [ofValueWithin,toValue_eq,Value.record_fieldD,type,selectors,media,declarations,rules,Attempt.ok_bind,row,
    query,listOf_toValue]
  cases nested : r.rules with
  | none =>
    simp only [restoredAround,nested]
    rfl
  | some rs =>
    have read : (Stylesheet.toValues rs).mapM (ofValueWithin depth) = .ok inner := by
      simpa only [children,nested,Option.getD_some] using below
    simp only [Option.map_some,Option.getD_some,Value.isNull,Value.elements_list,Attempt.ok_bind,read,restoredAround,
      nested]
    rfl

/-- The fields are texts, and those that may be missing are texts or null. -/
structure Textual (r : Rule) : Prop where
  type : r.type.isText = true
  selectors : ∀ v ∈ r.selectors, v.isText = true
  declarations : ∀ d ∈ r.entries, d.Textual
  media : r.media.isTextOrNull = true

theorem Textual.isPlain {r : Rule} (textual : r.Textual)
    (below : Value.arePlain (Stylesheet.toValues r.children) = true) : r.toValue.isPlain = true := by
  have text (v : Value) (held : v.isText = true) : v.isPlain = true :=
    v.isTextOrNull_isPlain (by simp [Value.isTextOrNull,held])
  rw [toValue_eq,Value.record_isPlain,List.all_eq_true,r.forall_fields fun v => v.isPlain = true]
  simp only [Value.isPlain,Value.arePlain_iff]
  refine ⟨text _ textual.type,?_,?_,?_,?_⟩
  · exact fun _ v inside => text v (textual.selectors v inside)
  · exact fun _ => r.media.isTextOrNull_isPlain textual.media
  · intro ds held
    rw [List.forall_mem_map]
    intro d inside
    exact (textual.declarations d (by simpa [entries,Option.mem_def.mp held] using inside)).isPlain
  · intro rs held
    simpa [children,Option.mem_def.mp held,Value.arePlain_iff] using below

theorem fields_restoredAround (r : Rule) (inner : List Rule)
    (same : Stylesheet.toValues inner = Stylesheet.toValues r.children) : (r.restoredAround inner).fields = r.fields := by
  have declared : (r.declarations.map (·.map (·.restored))).map (fun ds => Value.list (ds.map (·.toValue))) =
      r.declarations.map fun ds => .list (ds.map (·.toValue)) := by
    simp [Function.comp_def,Declaration.toValue_restored]
  have nested : (r.rules.map fun _ => inner).map (fun rs => Value.list (Stylesheet.toValues rs)) =
      r.rules.map fun rs => .list (Stylesheet.toValues rs) := by
    cases below : r.rules with
    | none => rfl
    | some rs => simpa [children,below] using same
  dsimp only [fields,restoredAround]
  rw [declared,nested]

/-- A rule has its type besides what is below it. -/
theorem entryCount_children (r : Rule) :
    Value.entryCountAll (Stylesheet.toValues r.children) + 1 ≤ r.toValue.entryCount := by
  have nested : Value.entryCountAll (Stylesheet.toValues r.children) ≤
      ((Value.optional "rules" (r.rules.map fun rs => .list (Stylesheet.toValues rs))).map
        fun f => 1 + f.2.entryCount).sum := by
    cases held : r.rules with
    | none => simp [children,held,Stylesheet.toValues,Value.entryCountAll]
    | some rs => simp [children,held,Value.optional,Value.entryCount]
  rw [toValue_eq,Value.record_entryCount,fields]
  simp only [List.map_cons,List.map_append,List.sum_cons,List.sum_append]
  omega

theorem restoredAround_eq_iff (r : Rule) (inner : List Rule) (leaf : r.children = [] → inner = []) :
    r.restoredAround inner = r ↔ (∀ d ∈ r.entries, d.restored = d) ∧ inner = r.children := by
  obtain ⟨type,selectors,declarations,rules,media⟩ := r
  have declared : declarations.map (·.map (·.restored)) = declarations ↔
      ∀ d ∈ declarations.getD [], d.restored = d := by
    cases declarations with
    | none => simp
    | some ds => simpa using List.map_inj_left (f := Declaration.restored) (g := id) (l := ds)
  have nested : (rules.map fun _ => inner) = rules ↔ inner = rules.getD [] := by
    cases rules with
    | none => simpa using leaf rfl
    | some rs => simp
  simp only [restoredAround,Rule.mk.injEq,true_and,and_true,declared,nested,entries,children]

end Rule

namespace Stylesheet

def restored : List Rule → List Rule
  | [] => []
  | r :: rs => r.restoredAround (restored r.children) :: restored rs
termination_by sheet => count sheet
decreasing_by
  all_goals
    have := count_children r
    simp only [count]
    omega

theorem mapM_toValues (sheet : List Rule) (depth : Nat) (deep : count sheet ≤ depth) :
    (toValues sheet).mapM (Rule.ofValueWithin depth) = .ok (restored sheet) := by
  induction sheet using induction generalizing depth with
  | nil => rw [restored]; rfl
  | cons r rs inner rest =>
    have below := count_children r
    rw [count] at deep
    -- Only what is below the first rule is read with less depth; what is beside it has all of it.
    obtain ⟨smaller,rfl⟩ : ∃ smaller, depth = smaller + 1 := ⟨depth - 1,by omega⟩
    rw [toValues,List.mapM_cons,r.ofValueWithin_toValue smaller _ (inner smaller (by omega)),
      rest (smaller + 1) (by omega),restored]
    rfl

theorem toValues_restored (sheet : List Rule) : toValues (restored sheet) = toValues sheet := by
  induction sheet using induction with
  | nil => rw [restored]
  | cons r rs inner rest =>
    rw [restored,toValues,toValues,rest,Rule.toValue_eq,r.fields_restoredAround _ inner,Rule.toValue_eq]

theorem restored_eq_iff (sheet : List Rule) :
    restored sheet = sheet ↔ ∀ r ∈ rules sheet, ∀ d ∈ r.entries, d.restored = d := by
  induction sheet using induction with
  | nil => simp [restored,rules_nil]
  | cons r rs inner rest =>
    rw [restored,List.cons.injEq,r.restoredAround_eq_iff _ fun leaf => by rw [leaf,restored],forall_rules_cons,inner,
      rest,and_assoc]

def body (sheet : Stylesheet) : Value :=
  .record [("rules", .list (toValues sheet))]

theorem ofValueWithin_toValue (sheet : Stylesheet) (depth : Nat) (deep : count sheet ≤ depth) :
    ofValueWithin depth (toValue sheet) = .ok (restored sheet) := by
  simp [ofValueWithin,toValue,Value.record_fieldD,List.lookup_cons,Value.elements_list,
    mapM_toValues sheet depth deep]

theorem ofValueWithin_body (sheet : Stylesheet) (depth : Nat) (deep : count sheet ≤ depth) :
    ofValueWithin depth (body sheet) = .ok (restored sheet) := by
  simp [ofValueWithin,body,Value.record_fieldD,List.lookup_cons,Value.elements_list,
    mapM_toValues sheet depth deep]

theorem count_le_entryCount (sheet : List Rule) : count sheet ≤ Value.entryCountAll (toValues sheet) := by
  induction sheet using induction with
  | nil => exact Nat.le_refl _
  | cons r rs inner rest =>
    have below := count_children r
    have held := r.entryCount_children
    rw [count,toValues,Value.entryCountAll]
    omega

/-- All fields are texts, at any depth. -/
def Textual (sheet : Stylesheet) : Prop :=
  ∀ r ∈ rules sheet, r.Textual

theorem Textual.isPlain {sheet : Stylesheet} (textual : Textual sheet) : (toValue sheet).isPlain = true := by
  have plain : Value.arePlain (toValues sheet) = true := by
    induction sheet using induction with
    | nil => rfl
    | cons r rs inner rest =>
      obtain ⟨first,below,beside⟩ := (forall_rules_cons Rule.Textual r rs).mp textual
      rw [toValues,Value.arePlain,first.isPlain (inner below),rest beside]
      rfl
  simp [toValue,Value.record_isPlain,Value.isPlain,plain]

theorem count_le_document (sheet : Stylesheet) :
    count sheet ≤ (body sheet).entryCount ∧ (body sheet).entryCount ≤ (toValue sheet).entryCount := by
  have held := count_le_entryCount sheet
  simp only [body,toValue,Value.record_entryCount,Value.entryCount,List.map_cons,List.map_nil,List.sum_cons,
    List.sum_nil]
  omega

/-- A sheet comes back from its document with the same document, and as the same sheet exactly if no comment of it has
a property or a value and nothing else a comment. It does so through a text in any format that reads what it wrote
there, and a sheet of texts can always be written. -/
theorem document_round_trip (sheet : Stylesheet) (textual : Textual sheet) :
    ∃ back, ofValue (toValue sheet) = .ok back ∧ ofValue (body sheet) = .ok back ∧
      toValue back = toValue sheet ∧ body back = body sheet ∧
      (back = sheet ↔ ∀ r ∈ rules sheet, ∀ d ∈ r.entries,
        (d.type = .text "comment" → d.property = .null ∧ d.value = .null) ∧
          (d.type ≠ .text "comment" → d.comment = .null)) ∧
      (∀ (format : DocumentFormat) (text : String), write format sheet = .ok text →
        format.read text = .ok (toValue sheet) → read format text = .ok back) ∧
      ∃ text, toYaml sheet = .ok text ∧ (Yaml.read text = .ok (toValue sheet) → ofYaml text = .ok back) := by
  obtain ⟨inBody,inFrame⟩ := count_le_document sheet
  have bodySize := (body sheet).entryCount_lt_size
  have frameSize := (toValue sheet).entryCount_lt_size
  obtain ⟨text,written⟩ := Yaml.write_plain (toValue sheet) textual.isPlain
  have again := toValues_restored sheet
  have read_back : ofValue (toValue sheet) = .ok (restored sheet) := ofValueWithin_toValue sheet _ (by omega)
  have through (format : DocumentFormat) (text : String) (undone : format.read text = .ok (toValue sheet)) :
      read format text = .ok (restored sheet) := by
    rw [read,undone,Attempt.ok_bind,read_back]
  refine ⟨restored sheet,read_back,?_,?_,?_,?_,fun format text _ => through format text,text,written,
    through Yaml.format text⟩
  · exact ofValueWithin_body sheet _ (by omega)
  · rw [toValue,again,toValue]
  · rw [body,again,body]
  · rw [restored_eq_iff]
    refine forall₂_congr fun r member => forall₂_congr fun d inside => ?_
    exact d.restored_eq_iff ((textual r member).declarations d inside)

/-- A comment that has a property comes back without it, through a written document too. -/
theorem document_round_trip_comment :
    let sheet : Stylesheet :=
      [⟨.text "rule", [], some [⟨.text "color", .null, .text "comment", .text "x"⟩], none, .null⟩]
    let text := "type: stylesheet\nstylesheet:\n  rules:\n  - type: rule\n    declarations:\n" ++
      "    - type: comment\n      comment: x\n"
    ∃ back, ofValue (toValue sheet) = .ok back ∧ toValue back = toValue sheet ∧ back ≠ sheet ∧
      toYaml sheet = .ok text ∧ ofYaml text = .ok back := by
  intro sheet text
  let mixed : Declaration := ⟨.text "color", .null, .text "comment", .text "x"⟩
  let only : Rule := ⟨.text "rule", [], some [mixed], none, .null⟩
  have listed : rules sheet = [only] := by simp [sheet,only,mixed,rules_cons,rules_nil,Rule.children]
  have textual : Textual sheet := by
    have typed : mixed.Textual := ⟨rfl,rfl,rfl,rfl⟩
    rw [Textual,listed,List.forall_mem_singleton]
    exact ⟨rfl,by simp [only],by simpa [only,Rule.entries] using typed,rfl⟩
  obtain ⟨back,read,-,again,-,same,-,written,shown,undone⟩ := document_round_trip sheet textual
  have writes : toYaml sheet = .ok text := by decide +kernel
  obtain rfl : written = text := Except.ok.inj (shown.symm.trans writes)
  -- Values have no decidable equality, but plain ones can be compared as trees.
  have parsed : (Yaml.read text).toOption.any (·.sameTree (toValue sheet)) = true := by decide +kernel
  have reads : Yaml.read text = .ok (toValue sheet) := by
    cases outcome : Yaml.read text with
    | ok v =>
      rw [outcome] at parsed
      exact congrArg _ (v.eq_of_sameTree _ parsed)
    | error _ =>
      rw [outcome] at parsed
      cases parsed
  refine ⟨back,read,again,?_,writes,undone reads⟩
  rw [ne_eq,same,listed]
  intro bare
  have kept := (bare only (by simp) mixed (by simp [only,Rule.entries])).1 rfl
  cases kept.1

end Stylesheet
end MediaTiers
