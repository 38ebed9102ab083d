import MediaTiers.Proofs.Stylesheet.Walk
import MediaTiers.Proofs.Text.Folding
import MediaTiers.Transform
import Mathlib

/-! How a breakpoint or an option is spelled does not matter: white space around the property, the word `var-` before
it and the case of its ASCII letters. Its meaning stays the same up to letter case, and everything that the name in it
reaches is in lower case, but for the warning of an unknown option. -/
namespace MediaTiers

namespace Text

theorem trim_eq (cs : List Char) : trim cs = (cs.dropWhile isBlank).rdropWhile isBlank := rfl

theorem trim_trim (cs : List Char) : trim (trim cs) = trim cs := by
  have front : (trim cs).dropWhile isBlank = trim cs := by
    rw [List.dropWhile_eq_self_iff]
    intro filled
    have start : trim cs <+: cs.dropWhile isBlank := List.rdropWhile_prefix isBlank _
    rw [start.getElem filled]
    exact List.dropWhile_get_zero_not isBlank cs _
  rw [trim_eq (trim cs),front,trim_eq cs,List.rdropWhile_idempotent]

theorem trim_marked (cs : List Char) (trimmed : trim cs = cs) :
    trim ("var-".toList ++ cs) = "var-".toList ++ cs := by
  have back : cs.rdropWhile isBlank = cs := by
    rw [← trimmed,trim_eq,List.rdropWhile_idempotent]
  have front : ("var-".toList ++ cs).dropWhile isBlank = "var-".toList ++ cs := rfl
  rw [trim_eq,front,List.rdropWhile_eq_self_iff]
  intro filled
  by_cases empty : cs = []
  · subst empty
    exact (by decide : ¬isBlank '-' = true)
  · rw [List.getLast_append_of_ne_nil filled empty]
    exact List.rdropWhile_eq_self_iff.mp back empty

end Text

namespace Property

def folded : Property → Property
  | .option key => .option (String.ofList (Text.fold key.toList))
  | .breakpoint name => .breakpoint (String.ofList (Text.fold name.toList))
  | .other => .other

inductive Alike : Property → Property → Prop
  | option (key other : String) (same : Text.fold key.toList = Text.fold other.toList) :
    Alike (.option key) (.option other)
  | breakpoint (name other : String) (same : Text.fold name.toList = Text.fold other.toList) :
    Alike (.breakpoint name) (.breakpoint other)
  | other : Alike .other .other

theorem alike_of_folded (p q : Property) (same : p.folded = q.folded) : p.Alike q := by
  have opened {cs ds : List Char} (same : String.ofList cs = String.ofList ds) : cs = ds := by
    simpa using congrArg String.toList same
  cases p with
  | option key => cases q with
    | option other => exact .option key other (opened (Property.option.inj same))
    | breakpoint _ => cases same
    | other => cases same
  | breakpoint name => cases q with
    | breakpoint other => exact .breakpoint name other (opened (Property.breakpoint.inj same))
    | option _ => cases same
    | other => cases same
  | other => cases q with
    | other => exact .other
    | option _ => cases same
    | breakpoint _ => cases same

theorem subject_fold (word : String) (cs : List Char) :
    subject? word (Text.fold cs) = (subject? word cs).map fun s => String.ofList (Text.fold s.toList) := by
  have rest : (Text.after? "var-".toList (Text.fold cs)).getD (Text.fold cs) =
      Text.fold ((Text.after? "var-".toList cs).getD cs) := by
    rw [Text.after_fold]
    cases Text.after? "var-".toList cs <;> rfl
  rw [subject?,rest,Text.after_fold,subject?]
  cases Text.after? word.toList ((Text.after? "var-".toList cs).getD cs) with
  | none => rfl
  | some subject =>
    have empty : (Text.fold subject).isEmpty = subject.isEmpty := by simp [Text.fold]
    simp only [Option.map_some,Option.bind_eq_bind,Option.bind_some,empty,Text.contains_newline_fold]
    cases !subject.isEmpty && !subject.contains '\n' with
    | false => rfl
    | true => simp

theorem ofTrimmed_fold (cs : List Char) : ofTrimmed (Text.fold cs) = (ofTrimmed cs).folded := by
  rw [ofTrimmed,subject_fold,subject_fold,ofTrimmed]
  cases subject? "breakpoints-" cs with
  | some key => rfl
  | none => cases subject? "breakpoint-" cs <;> rfl

/-- One change to the spelling of a property. -/
inductive Respelling : List Char → List Char → Prop
  | stripped (cs : List Char) : Respelling cs (Text.trim cs)
  | marked (cs : List Char) (trimmed : Text.trim cs = cs) (bare : Text.after? "var-".toList cs = none) :
    Respelling cs ("var-".toList ++ cs)
  | recased (cs ds : List Char) (same : Text.fold cs = Text.fold ds) : Respelling cs ds

/-- Two spellings that changes in either direction lead between. -/
def SpelledAlike : List Char → List Char → Prop :=
  Relation.EqvGen Respelling

theorem ofTrimmed_marked (cs : List Char) (bare : Text.after? "var-".toList cs = none) :
    ofTrimmed ("var-".toList ++ cs) = ofTrimmed cs := by
  have opened : Text.after? "var-".toList ("var-".toList ++ cs) = some cs := rfl
  simp only [ofTrimmed,subject?,opened,bare,Option.getD_some,Option.getD_none]

theorem respelling_keeps (cs ds : List Char) (change : Respelling cs ds) :
    (ofTrimmed (Text.trim cs)).folded = (ofTrimmed (Text.trim ds)).folded := by
  cases change with
  | stripped => rw [Text.trim_trim]
  | marked trimmed bare => rw [Text.trim_marked cs trimmed,ofTrimmed_marked cs bare,trimmed]
  | recased _ same => rw [← ofTrimmed_fold,← ofTrimmed_fold,← Text.trim_fold,← Text.trim_fold,same]

theorem SpelledAlike.folded_eq {cs ds : List Char} (alike : SpelledAlike cs ds) :
    (ofTrimmed (Text.trim cs)).folded = (ofTrimmed (Text.trim ds)).folded := by
  induction alike with
  | rel cs ds change => exact respelling_keeps cs ds change
  | refl cs => rfl
  | symm cs ds _ ih => exact ih.symm
  | trans cs ds es _ _ first second => exact first.trans second

end Property

/-- Two warnings of an unknown option that quote it in different letter case at most. -/
def WarnsAlike (w v : String) : Prop :=
  ∃ key other : String, Text.fold key.toList = Text.fold other.toList ∧
    w = "Unknown breakpoints option: " ++ key ∧ v = "Unknown breakpoints option: " ++ other

structure Ledger.Alike (l m : Ledger) : Prop where
  registry : l.registry = m.registry
  warnings : List.Forall₂ WarnsAlike l.warnings m.warnings

namespace Pass

variable {α β : Type}

inductive ResultAlike : EStateM.Result Failure Ledger α → EStateM.Result Failure Ledger α → Prop
  | ok (a : α) (l m : Ledger) (alike : l.Alike m) : ResultAlike (.ok a l) (.ok a m)
  | error (failure : Failure) (l m : Ledger) (alike : l.Alike m) : ResultAlike (.error failure l) (.error failure m)

/-- Two passes that take ledgers alike to one result and ledgers alike. -/
def Alike (x y : Pass α) : Prop :=
  ∀ l m, l.Alike m → ResultAlike (x l) (y m)

theorem pure_alike (a : α) : (pure a : Pass α).Alike (pure a) :=
  fun l m alike => .ok a l m alike

theorem throw_alike (failure : Failure) : (throw failure : Pass α).Alike (throw failure) :=
  fun l m alike => .error failure l m alike

theorem Alike.bind {x y : Pass α} {f g : α → Pass β} (first : x.Alike y) (next : ∀ a, (f a).Alike (g a)) :
    (x >>= f).Alike (y >>= g) := by
  intro l m alike
  rw [bind_run,bind_run]
  generalize given : x l = left
  generalize shown : y m = right
  have result : ResultAlike left right := by
    rw [← given,← shown]
    exact first l m alike
  cases result with
  | ok a l m after => exact next a l m after
  | error failure l m after => exact .error failure l m after

theorem ofExcept_alike (x : Except Failure α) : (ofExcept x).Alike (ofExcept x) := by
  cases x with
  | ok a => exact pure_alike a
  | error failure => exact throw_alike failure

theorem onRegistry_alike (step : Registry → Registry × Except Failure α) :
    (onRegistry step).Alike (onRegistry step) := by
  intro l m alike
  unfold onRegistry
  rw [alike.registry]
  rcases step m.registry with ⟨registry,a | failure⟩
  · exact .error _ _ _ ⟨rfl,alike.warnings⟩
  · exact .ok _ _ _ ⟨rfl,alike.warnings⟩

theorem warn_alike (w v : String) (same : WarnsAlike w v) : (warn w).Alike (warn v) := by
  intro l m alike
  exact .ok () _ _ ⟨alike.registry,List.rel_append alike.warnings (.cons same .nil)⟩

end Pass

theorem declareOption_alike (key other : String) (value : Value)
    (same : Text.fold key.toList = Text.fold other.toList) :
    (declareOption key value).Alike (declareOption other value) := by
  have lowered := Text.lowercase_of_fold key other same
  have set (flag : Bool) : (fun r : Registry => (r.setOption key flag, (.ok () : Except Failure Unit))) =
      fun r => (r.setOption other flag, .ok ()) := by
    simp only [Registry.setOption,lowered]
  have flagged : (Pass.ofExcept (flagOf value) >>= fun flag =>
      Pass.onRegistry fun r => (r.setOption other flag, .ok ())).Alike (Pass.ofExcept (flagOf value) >>= fun flag =>
      Pass.onRegistry fun r => (r.setOption other flag, .ok ())) :=
    (Pass.ofExcept_alike _).bind fun flag => Pass.onRegistry_alike _
  simp only [declareOption,lowered,set]
  split
  · exact (Pass.warn_alike _ _ ⟨key,other,same,rfl,rfl⟩).bind fun _ => flagged
  · exact flagged

theorem declareText_lowercase (name other text : String) (lowered : Text.lowercase name = Text.lowercase other) :
    declareText name text = declareText other text := by
  have query : (fun r : Registry => r.addQuery name text) = fun r => r.addQuery other text := by
    simp only [Registry.addQuery,lowered]
  have point (kind : Kind) (value : Decimal) (unit : LengthUnit) :
      (fun r : Registry => r.addPoint name kind value unit) = fun r => r.addPoint other kind value unit := by
    simp only [Registry.addPoint,lowered]
  simp only [declareText,lowered,query,point]

theorem declareText_alike (name text : String) : (declareText name text).Alike (declareText name text) := by
  have stored {α : Type} (step : Registry → Registry × Except Failure α) :
      (discard (Pass.onRegistry step)).Alike (discard (Pass.onRegistry step)) :=
    (Pass.onRegistry_alike step).bind fun _ => Pass.pure_alike _
  unfold declareText
  split
  · exact Pass.throw_alike _
  · refine (Pass.ofExcept_alike _).bind fun reading => ?_
    cases reading with
    | malformed fault => exact Pass.throw_alike _
    | query => exact stored _
    | point kind value unit => exact stored _

theorem declareBreakpoint_alike (name other : String) (raw : RawValue)
    (lowered : Text.lowercase name = Text.lowercase other) :
    (declareBreakpoint name raw).Alike (declareBreakpoint other raw) := by
  cases raw with
  | text s =>
    rw [declareBreakpoint,declareText_lowercase name other s lowered,declareBreakpoint]
    exact declareText_alike other s
  | bytes bs =>
    rw [declareBreakpoint,lowered,declareBreakpoint]
    split
    · exact Pass.throw_alike _
    · exact Pass.throw_alike _

theorem declare_alike (p q value : Value)
    (same : (Property.ofValue p).map Property.folded = (Property.ofValue q).map Property.folded) :
    (declare p value).Alike (declare q value) := by
  unfold declare
  cases first : Property.ofValue p with
  | error failure => cases second : Property.ofValue q with
    | error other =>
      obtain rfl : failure = other := by simpa [first,second,Except.map] using same
      exact Pass.throw_alike failure
    | ok _ => simp [first,second,Except.map] at same
  | ok meant => cases second : Property.ofValue q with
    | error _ => simp [first,second,Except.map] at same
    | ok shown =>
      have folded : meant.folded = shown.folded := by simpa [first,second,Except.map] using same
      simp only [Pass.ofExcept_ok,pure_bind]
      cases Property.alike_of_folded meant shown folded with
      | option key other same =>
        exact (declareOption_alike key other value same).bind fun _ => Pass.pure_alike true
      | breakpoint name other same =>
        refine (Pass.ofExcept_alike _).bind fun raw => ?_
        exact (declareBreakpoint_alike name other raw (Text.lowercase_of_fold name other same)).bind fun _ =>
          Pass.pure_alike true
      | other => exact Pass.pure_alike false

namespace Declaration

/-- A declaration and one that differs from it in the spelling of its property at most, if it declares an option or a
breakpoint. -/
inductive Respelled : Declaration → Declaration → Prop
  | same (d : Declaration) : Respelled d d
  | spelled (p q : String) (value type comment : Value) (taken : Property.ofTrimmed (Text.trim p.toList) ≠ .other)
    (alike : Property.SpelledAlike p.toList q.toList) :
    Respelled ⟨.text p, value, type, comment⟩ ⟨.text q, value, type, comment⟩

variable {d e : Declaration}

theorem Respelled.folded_eq (respelled : d.Respelled e) :
    (Property.ofValue d.property).map Property.folded = (Property.ofValue e.property).map Property.folded := by
  cases respelled with
  | same => rfl
  | spelled p q value type comment taken alike => exact congrArg Except.ok alike.folded_eq

theorem Respelled.value_eq (respelled : d.Respelled e) : d.value = e.value := by
  cases respelled <;> rfl

/-- Either both stay and are the same declaration, or neither stays. -/
theorem Respelled.cases_other (respelled : d.Respelled e) :
    d = e ∨ d.isOther = false ∧ e.isOther = false := by
  cases respelled with
  | same => exact .inl rfl
  | spelled p q value type comment taken alike =>
    right
    have unread (s : String) (rest : Property.ofTrimmed (Text.trim s.toList) ≠ .other) :
        isOther ⟨.text s, value, type, comment⟩ = false := by
      rw [Bool.eq_false_iff,ne_eq,isOther_iff]
      exact fun free => rest (Except.ok.inj free)
    refine ⟨unread p taken,unread q ?_⟩
    intro free
    have same := Property.alike_of_folded _ _ alike.folded_eq
    rw [free] at same
    generalize Property.ofTrimmed (Text.trim p.toList) = meant at same taken
    cases same
    exact taken rfl

end Declaration

theorem declareAll_alike (ds es : List Declaration) (respelled : List.Forall₂ Declaration.Respelled ds es) :
    (declareAll ds).Alike (declareAll es) := by
  induction respelled with
  | nil => exact Pass.pure_alike ()
  | @cons d e ds es first _ ih =>
    rw [declareAll_cons,declareAll_cons,first.value_eq]
    exact (declare_alike _ _ _ first.folded_eq).bind fun _ => ih

theorem filter_respelled (ds es : List Declaration) (respelled : List.Forall₂ Declaration.Respelled ds es) :
    ds.filter (·.isOther) = es.filter (·.isOther) := by
  induction respelled with
  | nil => rfl
  | @cons d e ds es first _ ih =>
    rcases first.cases_other with rfl | ⟨left,right⟩
    · rw [List.filter_cons,List.filter_cons,ih]
    · simp [left,right,ih]

/-- Two rules that differ, besides what is below them, in the spelling of their declarations at most. -/
structure Rule.Respelled (r s : Rule) : Prop where
  type : r.type = s.type
  selectors : r.selectors = s.selectors
  declarations : Option.Rel (List.Forall₂ Declaration.Respelled) r.declarations s.declarations
  nested : r.rules.isSome = s.rules.isSome
  media : r.media = s.media

namespace Rule.Respelled

variable {r s : Rule}

theorem entries (respelled : r.Respelled s) : List.Forall₂ Declaration.Respelled r.entries s.entries := by
  have same := respelled.declarations
  unfold Rule.entries
  generalize r.declarations = ds at same ⊢
  generalize s.declarations = es at same ⊢
  cases same with
  | some same => exact same
  | none => exact .nil

theorem kept (respelled : r.Respelled s) :
    r.declarations.map (·.filter (·.isOther)) = s.declarations.map (·.filter (·.isOther)) := by
  have same := respelled.declarations
  generalize r.declarations = ds at same ⊢
  generalize s.declarations = es at same ⊢
  cases same with
  | some same => exact congrArg some (filter_respelled _ _ same)
  | none => rfl

theorem around_eq (respelled : r.Respelled s) (inner : List Rule) : r.around inner = s.around inner := by
  have nested : (r.rules.map fun _ => inner) = s.rules.map fun _ => inner := by
    have present := respelled.nested
    cases first : r.rules <;> cases second : s.rules <;> simp_all
  rw [Rule.around,Rule.around,respelled.type,respelled.selectors,respelled.kept,nested,respelled.media]

theorem isSpent_eq (respelled : r.Respelled s) : r.isSpent = s.isSpent := by
  have same := respelled.kept
  cases first : r.declarations with
  | none => cases second : s.declarations with
    | none => rw [Rule.isSpent,first,Rule.isSpent,second]
    | some es => simp [first,second] at same
  | some ds => cases second : s.declarations with
    | none => simp [first,second] at same
    | some es =>
      rw [first,second,Option.map_some,Option.map_some,Option.some.injEq] at same
      rw [r.isSpent_some ds first,s.isSpent_some es second,same]

end Rule.Respelled

namespace Stylesheet

/-- Two sheets that differ in the spelling of options and breakpoints at most, at any depth. -/
inductive Respelled : List Rule → List Rule → Prop
  | nil : Respelled [] []
  | cons {r s : Rule} {rs ss : List Rule} (first : r.Respelled s) (inner : Respelled r.children s.children)
    (rest : Respelled rs ss) : Respelled (r :: rs) (s :: ss)

variable {sheet other : List Rule}

theorem Respelled.left_eq (respelled : Respelled sheet other) (prune : Bool) : left prune sheet = left prune other := by
  induction respelled with
  | nil => rfl
  | cons first _ _ inner rest => rw [left,left,inner,rest,first.around_eq,first.isSpent_eq]

theorem Respelled.leaving (respelled : Respelled sheet other) :
    List.Forall₂ Rule.Respelled (leaving sheet) (leaving other) := by
  induction respelled with
  | nil => simp [Stylesheet.leaving]
  | cons first _ _ inner rest =>
    rw [Stylesheet.leaving,Stylesheet.leaving]
    exact List.rel_append inner (.cons first rest)

theorem Respelled.walkOrder (respelled : Respelled sheet other) :
    List.Forall₂ Declaration.Respelled (walkOrder sheet) (walkOrder other) :=
  List.rel_flatMap respelled.leaving fun _ _ same => same.entries

theorem Respelled.collected_eq (respelled : Respelled sheet other) (prune : Bool) :
    collected prune sheet = collected prune other := by
  induction respelled with
  | nil => rfl
  | cons first below _ inner rest =>
    rw [collected_cons,collected_cons,inner,rest,first.media,below.left_eq,first.around_eq]

theorem Respelled.walk (respelled : Respelled sheet other) (prune : Bool) :
    (walk prune sheet).Alike (walk prune other) := by
  rw [walk_eq,walk_eq,respelled.left_eq,respelled.collected_eq]
  exact (declareAll_alike _ _ respelled.walkOrder).bind fun _ => Pass.pure_alike _

/-- The spelling of options and breakpoints decides nothing but the letter case in which a warning quotes them. -/
theorem transform_respelled (sheet other : Stylesheet) (config : Config) (respelled : Respelled sheet other) :
    (sheet.transform config).2 = (other.transform config).2 ∧
      List.Forall₂ WarnsAlike (sheet.transform config).1 (other.transform config).1 := by
  have walks := respelled.walk config.pruneEmpty ⟨.empty config.delta, []⟩ ⟨.empty config.delta, []⟩ ⟨rfl,.nil⟩
  unfold transform
  generalize walk config.pruneEmpty sheet _ = first at walks ⊢
  generalize walk config.pruneEmpty other _ = second at walks ⊢
  cases walks with
  | ok walked l m alike => exact ⟨congrArg (resolve config · walked) alike.registry,alike.warnings⟩
  | error failure l m alike => exact ⟨rfl,alike.warnings⟩

/-- A breakpoint in three other spellings at once, and an unknown option in other letters. -/
theorem transform_respelled_palm :
    let sheet : Stylesheet := [rule ".a" [declaration "breakpoint-Palm" "max 340px",
      declaration "breakpoints-wide" "1"], media "palm" [rule ".b" [declaration "color" "red"]]]
    let other : Stylesheet := [rule ".a" [declaration " Var-breakpoint-palm" "max 340px",
      declaration "breakpoints-Wide" "1"], media "palm" [rule ".b" [declaration "color" "red"]]]
    Respelled sheet other ∧ (sheet.transform .default).2 = (other.transform .default).2 ∧
      List.Forall₂ WarnsAlike (sheet.transform .default).1 (other.transform .default).1 := by
  intro sheet other
  have lowered : Property.SpelledAlike "breakpoint-Palm".toList "breakpoint-palm".toList :=
    .rel _ _ (.recased _ _ (by decide))
  have marked : Property.SpelledAlike "breakpoint-palm".toList "var-breakpoint-palm".toList :=
    .rel _ _ (.marked _ (by decide) (by decide))
  have raised : Property.SpelledAlike "var-breakpoint-palm".toList "Var-breakpoint-palm".toList :=
    .rel _ _ (.recased _ _ (by decide))
  have cut : Text.trim " Var-breakpoint-palm".toList = "Var-breakpoint-palm".toList := by decide
  have padded : Property.SpelledAlike "Var-breakpoint-palm".toList " Var-breakpoint-palm".toList := by
    rw [← cut]
    exact .symm _ _ (.rel _ _ (.stripped _))
  have palm := ((lowered.trans _ _ _ marked).trans _ _ _ raised).trans _ _ _ padded
  have wide : Property.SpelledAlike "breakpoints-wide".toList "breakpoints-Wide".toList :=
    .rel _ _ (.recased _ _ (by decide))
  have declared : (rule ".a" [declaration "breakpoint-Palm" "max 340px", declaration "breakpoints-wide" "1"]).Respelled
      (rule ".a" [declaration " Var-breakpoint-palm" "max 340px", declaration "breakpoints-Wide" "1"]) :=
    ⟨rfl,rfl,.some (.cons (.spelled _ _ _ _ _ (by decide) palm)
      (.cons (.spelled _ _ _ _ _ (by decide) wide) .nil)),rfl,rfl⟩
  have kept : Respelled [media "palm" [rule ".b" [declaration "color" "red"]]]
      [media "palm" [rule ".b" [declaration "color" "red"]]] :=
    .cons ⟨rfl,rfl,.none,rfl,rfl⟩ (.cons ⟨rfl,rfl,.some (.cons (.same _) .nil),rfl,rfl⟩ .nil .nil) .nil
  have respelled : Respelled sheet other := .cons declared .nil kept
  exact ⟨respelled,transform_respelled sheet other .default respelled⟩

end Stylesheet
end MediaTiers
