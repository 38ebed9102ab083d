import MediaTiers.Proofs.Referable
import MediaTiers.Proofs.Selector.Tokens
import MediaTiers.Proofs.Stylesheet.RoundTrip
import MediaTiers.Proofs.Tier.Query

/-! What a run reports and the tree that it leaves, side by side. Without pruning the tree keeps its shape, and its
rules can be compared one by one. No query is empty, so a selector that the walk meets is one of the tree afterwards
too. -/
namespace MediaTiers

open Selector

theorem Range.query_filled (o : MediaOptions) (r : Range) : r.query o ≠ "" := by
  have type : o.mediaType.toList ≠ [] := by
    rw [MediaOptions.mediaType]
    split <;> decide
  rw [ne_eq,← String.toList_inj,Query.toList_query]
  simp [type]

theorem Meaning.query_filled (delta : Decimal) (property value : Value) (b : Breakpoint)
    (said : of? delta property value = some (.breakpoint b)) (custom : b.kind = .custom) : b.raw.getD "" ≠ "" := by
  obtain ⟨name,text,read⟩ := of_breakpoint delta property value b said
  unfold ofText? at read
  split at read
  next filled _ =>
    cases read
    simpa [Breakpoint.ofQuery] using filled
  next =>
    obtain ⟨typed,-,same⟩ := (ofPoint_iff _ _).mp read
    cases same
    exact absurd custom typed
  next => cases read

/-- A range names its media type, and a custom breakpoint with an empty value is refused. -/
theorem Registry.mediaMap_filled (delta : Decimal) (pairs : List (Value × Value)) (o : MediaOptions)
    (m : OrderedMap String) (ok : (registryOf delta pairs).mediaMap o = .ok m) : ∀ e ∈ m, e.2 ≠ "" := by
  obtain ⟨maxs,mins,-,-,rfl⟩ := (registryOf delta pairs).mediaMap_success o m ok
  intro e member
  rcases (registryOf delta pairs).mem_overlay o maxs mins e member with custom | ⟨t,-,range,-,written⟩
  · obtain ⟨b,kept,rfl⟩ := List.mem_map.mp custom
    have listed := List.mem_of_mem_filter kept
    rw [registryOf_breakpoints] at listed
    obtain ⟨p,-,said⟩ := List.mem_filterMap.mp listed
    obtain ⟨meant,found,breakpoint⟩ := Option.bind_eq_some_iff.mp said
    cases meant with
    | breakpoint c =>
      cases breakpoint
      exact Meaning.query_filled delta p.1 p.2 b found ((registryOf delta pairs).kind_of_mem .custom b kept)
    | _ => cases breakpoint
  · rw [written]
    exact range.query_filled o

namespace Selector

theorem lookup_filled (m : OrderedMap String) (filled : ∀ e ∈ m, e.2 ≠ "") (name token : String) (some : token ≠ "") :
    (m.lookup name).getD token ≠ "" := by
  cases found : m.lookup name with
  | none => exact some
  | some query => exact filled _ (OrderedMap.mem_of_lookup m name query found)

theorem substitute_filled (m : OrderedMap String) (filled : ∀ e ∈ m, e.2 ≠ "") (mode : MatchMode) (s : String)
    (some : s ≠ "") : substitute m mode s ≠ "" := by
  cases mode with
  | exact => exact lookup_filled m filled _ s some
  | word =>
    -- The first token is enough: it is not empty, and neither is what it stands for.
    have letters : s.toList.splitBy joins ≠ [] := by simpa using some
    obtain ⟨run,runs,split⟩ := List.exists_cons_of_ne_nil letters
    have token : String.ofList run ≠ "" := by
      have whole : run ≠ [] := List.ne_nil_of_mem_splitBy (split ▸ List.mem_cons_self)
      simpa using whole
    have word : (replace m (String.ofList run)).toList ≠ [] := by
      simpa [replace] using lookup_filled m filled (Text.lowercase (String.ofList run)) _ token
    rw [ne_eq,← String.toList_inj,toList_substitute,replaced,split,List.flatMap_cons]
    simp [word]

end Selector

def Value.text? : Value → Option String
  | .text s => some s
  | _ => none

theorem Value.text_isEmpty (t : String) (some : t ≠ "") : (text t).isEmpty = false := by
  simpa [isEmpty] using some

theorem Value.empty_or_text (v : Value) (text : v.isTextOrNull = true) :
    v.isEmpty = true ∨ ∃ t, t ≠ "" ∧ v = .text t := by
  cases v with
  | null => exact .inl rfl
  | text t =>
    by_cases empty : t = ""
    · exact .inl (by rw [empty]; rfl)
    · exact .inr ⟨t,empty,rfl⟩
  | _ => cases text

theorem Selector.differs_iff (v w : Value) (first : v.isTextOrNull = true) (second : w.isTextOrNull = true) :
    differs v w = true ↔ v.text? ≠ w.text? := by
  cases v with
  | null | text s =>
    cases w with
    | null | text t => simp [differs,Value.same,Value.sameAtom,Value.content,Value.text?,Value.asInt?]
    | _ => cases second
  | _ => cases first

namespace Rule

variable (m : OrderedMap String) (mode : MatchMode)

theorem mediaAfter_text (text : String) (some : text ≠ "") :
    mediaAfter m mode (.text text) = .text (substitute m mode text) := by
  cases m with
  | nil => simp [mediaAfter,substitute_nothing]
  | cons e m => simp [mediaAfter,Value.text_isEmpty text some,substituteValue]

theorem mediaAfter_empty (media : Value) (empty : media.isEmpty = true) : mediaAfter m mode media = media := by
  simp [mediaAfter,empty]

theorem mediaAfter_isTextOrNull (media : Value) (text : media.isTextOrNull = true) :
    (mediaAfter m mode media).isTextOrNull = true := by
  rcases media.empty_or_text text with empty | ⟨t,some,rfl⟩
  · rwa [mediaAfter_empty m mode media empty]
  · rw [mediaAfter_text m mode t some]
    rfl

theorem mediaAfter_isEmpty (filled : ∀ e ∈ m, e.2 ≠ "") (media : Value) (text : media.isTextOrNull = true) :
    (mediaAfter m mode media).isEmpty = media.isEmpty := by
  rcases media.empty_or_text text with empty | ⟨t,some,rfl⟩
  · rw [mediaAfter_empty m mode media empty]
  · rw [mediaAfter_text m mode t some,Value.text_isEmpty t some,
      Value.text_isEmpty _ (substitute_filled m filled mode t some)]

/-- What a run makes of a rule, what is below it apart: only its other declarations stay, and names in its media
selector are replaced. -/
structure Rewritten (r s : Rule) : Prop where
  type : s.type = r.type
  selectors : s.selectors = r.selectors
  declarations : s.declarations = r.declarations.map (·.filter (·.isOther))
  nested : s.rules.isSome = r.rules.isSome
  replaced : ∀ text, text ≠ "" → r.media = .text text → s.media = .text (substitute m mode text)
  untouched : r.media.isEmpty = true → s.media = r.media

variable {m mode} {r s : Rule}

theorem Rewritten.media_eq (rewritten : r.Rewritten m mode s) (text : r.media.isTextOrNull = true) :
    s.media = mediaAfter m mode r.media := by
  rcases r.media.empty_or_text text with empty | ⟨t,some,same⟩
  · rw [rewritten.untouched empty,mediaAfter_empty m mode _ empty]
  · rw [rewritten.replaced t some same,same,mediaAfter_text m mode t some]

end Rule

theorem Rule.Textual.around {r : Rule} (textual : r.Textual) (inner : List Rule) : (r.around inner).Textual := by
  refine ⟨textual.type,textual.selectors,?_,textual.media⟩
  intro d member
  cases held : r.declarations with
  | none => simp [Rule.around,Rule.entries,held] at member
  | some ds =>
    simp only [Rule.around,Rule.entries,held,Option.map_some,Option.getD_some] at member
    exact textual.declarations d (by simpa [Rule.entries,held] using List.mem_of_mem_filter member)

namespace Stylesheet

/-- Two sheets of one shape, the second with every rule as a run leaves it. -/
inductive Rewritten (m : OrderedMap String) (mode : MatchMode) : List Rule → List Rule → Prop
  | nil : Rewritten m mode [] []
  | cons {r s : Rule} {rs ss : List Rule} (first : r.Rewritten m mode s)
    (inner : Rewritten m mode r.children s.children) (rest : Rewritten m mode rs ss) :
    Rewritten m mode (r :: rs) (s :: ss)

theorem left_rewritten (m : OrderedMap String) (mode : MatchMode) (sheet : List Rule) :
    Rewritten m mode sheet (substituteMedia m mode (left false sheet)) := by
  induction sheet using induction with
  | nil =>
    rw [left,substituteMedia]
    exact .nil
  | cons r rs inner rest =>
    rw [left_unpruned,substituteMedia_cons]
    refine .cons ⟨rfl,rfl,rfl,?_,?_,?_⟩ ?_ rest
    · simp [Rule.around]
    · intro text some held
      simp only [Rule.around,held,Rule.mediaAfter_text m mode text some]
    · exact Rule.mediaAfter_empty m mode r.media
    · cases nested : r.rules with
      | none =>
        simp only [Rule.children,Rule.around,nested,Option.map_none,Option.getD_none]
        exact .nil
      | some below => simpa [Rule.children,Rule.around,nested] using inner

variable {m : OrderedMap String} {mode : MatchMode} {sheet after : List Rule}

theorem Rewritten.rules (rewritten : Rewritten m mode sheet after) :
    List.Forall₂ (Rule.Rewritten m mode) (rules sheet) (rules after) := by
  induction rewritten with
  | nil => simp [rules_nil]
  | cons first _ _ inner rest =>
    rw [rules_cons,rules_cons]
    exact .cons first (List.rel_append inner rest)

theorem Rewritten.media (rewritten : Rewritten m mode sheet after) (textual : Textual sheet) :
    List.Forall₂ (fun r s => r.media.isTextOrNull = true ∧ s.media = Rule.mediaAfter m mode r.media)
      (Stylesheet.rules sheet) (Stylesheet.rules after) := by
  have pairs := (List.forall₂_and_left _ _).mpr ⟨textual,rewritten.rules⟩
  exact pairs.imp fun r s both => ⟨both.1.media,both.2.media_eq both.1.media⟩

theorem mediaSelectors_filter (sheet : List Rule) :
    mediaSelectors sheet = ((Stylesheet.rules sheet).map (·.media)).filter (!·.isEmpty) := by
  rw [mediaSelectors,mediaRules,List.filter_map]
  rfl

theorem selectorsMet_perm (sheet : List Rule) : (selectorsMet sheet).Perm (mediaSelectors sheet) := by
  rw [← collected_media false,collected,List.map_map]
  exact ((leaving_perm sheet).filter _).map _

/-- Nothing is dropped without pruning, so the collected rules are those that are left. -/
theorem collected_perm (sheet : List Rule) : (collected false sheet).Perm (mediaRules (left false sheet)) := by
  induction sheet using induction with
  | nil => simp [collected_nil,left,mediaRules,rules_nil]
  | cons r rs inner rest =>
    have media : (r.around (left false r.children)).media = r.media := rfl
    simp only [mediaRules] at inner rest
    rw [collected_cons,mediaRules,left_unpruned,rules_cons,around_children,List.filter_cons,List.filter_append,media]
    cases r.media.isEmpty with
    | true => simpa using inner.append rest
    | false =>
      simp only [Bool.not_false,Bool.false_eq_true,if_false,if_true,List.append_assoc,List.singleton_append]
      exact List.perm_middle.trans ((inner.append rest).cons _)

theorem left_textual (prune : Bool) (sheet : List Rule) (textual : Textual sheet) : Textual (left prune sheet) := by
  induction sheet using induction with
  | nil => simp [left,Textual,rules_nil]
  | cons r rs inner rest =>
    obtain ⟨first,below,beside⟩ := (forall_rules_cons Rule.Textual r rs).mp textual
    rw [left]
    split
    · exact rest beside
    · refine (forall_rules_cons Rule.Textual _ _).mpr ⟨first.around _,?_,rest beside⟩
      rw [around_children]
      exact inner below

theorem rules_substituteMedia (m : OrderedMap String) (mode : MatchMode) (sheet : List Rule) :
    Stylesheet.rules (substituteMedia m mode sheet) = (Stylesheet.rules sheet).map (·.substituteMedia m mode) := by
  induction sheet using induction with
  | nil => simp [substituteMedia,rules_nil]
  | cons r rs inner rest =>
    rw [substituteMedia,rules_cons,rules_cons,rest,r.substituteMedia_children,inner,List.map_cons,List.map_append]

/-- No selector of the tree vanishes and none comes up. -/
theorem mediaRules_substituteMedia (m : OrderedMap String) (mode : MatchMode) (filled : ∀ e ∈ m, e.2 ≠ "")
    (sheet : List Rule) (textual : Textual sheet) :
    mediaRules (substituteMedia m mode sheet) = substituteMedia m mode (mediaRules sheet) := by
  rw [mediaRules,mediaRules,rules_substituteMedia,List.filter_map,substituteMedia_map]
  congr 1
  apply List.filter_congr
  intro r member
  rw [Function.comp_apply,r.substituteMedia_media,
    Rule.mediaAfter_isEmpty m mode filled r.media (textual r member).media]

/-- Rules that differ are counted by their media selectors before the run. -/
theorem Rewritten.countP_eq (rewritten : Rewritten m mode sheet after) (textual : Textual sheet) :
    ((Stylesheet.rules sheet).zip (Stylesheet.rules after)).countP (fun p => p.1.media.text? ≠ p.2.media.text?) =
      (mediaSelectors sheet).countP fun v => differs v (Rule.mediaAfter m mode v) := by
  have pairs := rewritten.media textual
  rw [mediaSelectors_filter]
  generalize Stylesheet.rules sheet = befores at pairs ⊢
  generalize Stylesheet.rules after = afters at pairs ⊢
  induction pairs with
  | nil => rfl
  | @cons r s befores afters first _ ih =>
    obtain ⟨text,same⟩ := first
    have told := differs_iff r.media _ text (Rule.mediaAfter_isTextOrNull m mode r.media text)
    rw [List.zip_cons_cons,List.countP_cons,ih,List.map_cons,List.filter_cons]
    cases empty : r.media.isEmpty with
    | true =>
      -- An empty selector is no selector of the sheet, and it stays as it is.
      simp [same,Rule.mediaAfter_empty m mode r.media empty]
    | false => simp [same,List.countP_cons,told]

end Stylesheet

/-- Selectors that are texts are replaced and compared one by one, whether there are names or not. -/
theorem Selector.substituteAll_texts (m : OrderedMap String) (mode : MatchMode) (selectors : List Value)
    (texts : ∀ v ∈ selectors, ∃ t, t ≠ "" ∧ v = .text t) :
    substituteAll m mode selectors = .ok (selectors.map (Rule.mediaAfter m mode),
      selectors.countP fun v => differs v (Rule.mediaAfter m mode v)) := by
  cases m with
  | nil =>
    have kept : Rule.mediaAfter [] mode = id := by
      funext v
      simp [Rule.mediaAfter]
    have alike : ∀ v ∈ selectors, ¬differs v v = true := by
      intro v member
      obtain ⟨t,-,rfl⟩ := texts v member
      simp [differs,Value.same_text]
    simp only [substituteAll,kept,List.map_id,id,List.countP_eq_zero.mpr alike]
    rfl
  | cons e m =>
    have each : selectors.mapM (substituteValue (e :: m) mode) =
        .ok (selectors.map (Rule.mediaAfter (e :: m) mode)) := by
      induction selectors with
      | nil => rfl
      | cons v selectors ih =>
        obtain ⟨⟨t,some,rfl⟩,rest⟩ := List.forall_mem_cons.mp texts
        rw [List.mapM_cons,ih rest,substituteValue,List.map_cons,Rule.mediaAfter_text _ mode t some]
        rfl
    have pairs := List.zip_map' (f := id) (g := Rule.mediaAfter (e :: m) mode) (l := selectors)
    rw [List.map_id] at pairs
    simp only [substituteAll,List.isEmpty_cons,Bool.false_eq_true,if_false,each,Attempt.ok_bind,pairs,List.countP_map]
    rfl

namespace Stylesheet

/-- A run without pruning leaves the shape of the tree and reports what is in it. Every rule keeps its other
declarations and has the names in its media selector replaced. The media rules reported are those of the tree, and so
are their selectors. The number reported is that of the rules whose selector is another than before. -/
theorem transform_described (sheet after : Stylesheet) (config : Config) (warnings : List String) (report : Report)
    (textual : Textual sheet) (unpruned : config.pruneEmpty = false)
    (ok : sheet.transform config = (warnings, .ok (after, report))) :
    Rewritten report.mediaMap config.mode sheet after ∧
      report.mediaRules.Perm (mediaRules after) ∧ report.media.Perm (mediaSelectors after) ∧
      report.changed = ((rules sheet).zip (rules after)).countP fun p => p.1.media.text? ≠ p.2.media.text? := by
  obtain ⟨-,resolved,⟨_,replaced⟩,found,rfl⟩ := transform_parts sheet after config warnings report ok
  rw [unpruned] at found ⊢
  have filled := Registry.mediaMap_filled _ _ _ _ resolved
  have met := selectorsMet_perm sheet
  have texts : ∀ v ∈ selectorsMet sheet, ∃ t, t ≠ "" ∧ v = .text t := by
    intro v member
    obtain ⟨r,listed,rfl⟩ := List.mem_map.mp (met.mem_iff.mp member)
    obtain ⟨inside,some⟩ := List.mem_filter.mp listed
    exact (r.media.empty_or_text (textual r inside).media).resolve_left (by simpa using some)
  rw [substituteAll_texts _ _ _ texts] at replaced
  obtain ⟨-,changed⟩ := Prod.mk.inj (Except.ok.inj replaced)
  have rewritten := left_rewritten report.mediaMap config.mode sheet
  have nodes : report.mediaRules.Perm
      (mediaRules (substituteMedia report.mediaMap config.mode (left false sheet))) := by
    rw [found,mediaRules_substituteMedia _ _ filled _ (left_textual false sheet textual),substituteMedia_map,
      substituteMedia_map]
    exact (collected_perm sheet).map _
  refine ⟨rewritten,nodes,nodes.map _,?_⟩
  rw [rewritten.countP_eq textual,← changed]
  exact met.countP_eq _

/-- A media rule inside another: the inner one is met first, and the outer one is the only one that changes. -/
theorem transform_described_nested :
    let sheet : Stylesheet := [rule ":root" [declaration "breakpoint-palm" "max 340px", declaration "color" "red"],
      media "palm" [media "print" []]]
    let config : Config := ⟨false, false, false, defaultDelta, .word⟩
    let outer := media "screen and (max-width: 340px)" [media "print" []]
    let after : Stylesheet := [rule ":root" [declaration "color" "red"], outer]
    ∃ warnings report, sheet.transform config = (warnings, .ok (after, report)) ∧
      report.mediaRules = [media "print" [], outer] ∧ report.changed = 1 ∧
      Rewritten report.mediaMap .word sheet after ∧
      report.mediaRules.Perm (mediaRules after) ∧ report.media.Perm (mediaSelectors after) ∧
      1 = ((rules sheet).zip (rules after)).countP fun p => p.1.media.text? ≠ p.2.media.text? := by
  intro sheet config outer after
  let palm : Value × Value := (.text "breakpoint-palm", .text "max 340px")
  let r : Registry := .holding defaultDelta [.ofPoint "palm" .max (.finite false 340 0) .px defaultDelta] []
  let report : Report := ⟨r.breakpoints, [("palm-and-down", "screen and (max-width: 340px)"),
    ("palm", "screen and (max-width: 340px)")], [media "print" [], outer], 1, ⟨false, false⟩⟩
  let walked : Walked (List Rule) := ⟨[rule ":root" [declaration "color" "red"], media "palm" [media "print" []]],
    [media "print" [], media "palm" [media "print" []]]⟩
  have order : declaredPairs (walkOrder sheet) = [palm] := by cbv
  have held : registryOf defaultDelta [palm] = r := by cbv
  have said : (Meaning.of? defaultDelta palm.1 palm.2).isSome := by cbv
  have points : breakpointsSaid defaultDelta [palm] = r.breakpoints := by rw [← registryOf_breakpoints,held]
  have registrable : Registrable defaultDelta [palm] := ⟨by simp [said],by simp [points,r]⟩
  have taken : (declaration "breakpoint-palm" "max 340px").isOther = false := by cbv
  have stays : (declaration "color" "red").isOther = true := by cbv
  have leaves : ⟨left false sheet, collected false sheet⟩ = walked := by
    simp [sheet,walked,left,collected_cons,collected_nil,rule,media,Rule.around,Rule.children,Value.isEmpty,taken,stays]
  have resolved : resolve config (registryOf defaultDelta [palm]) walked = .ok (after, report) := by
    rw [held]
    cbv
  obtain ⟨warnings,ok⟩ := transform_success sheet after config report [palm] walked order leaves registrable resolved
  have textual : Textual sheet := by
    have declared (property value : String) : (declaration property value).Textual := ⟨rfl,rfl,rfl,rfl⟩
    have around (selector : String) (rs : List Rule) : (media selector rs).Textual :=
      ⟨rfl,by simp [media],by simp [media,Rule.entries],rfl⟩
    have root : (rule ":root" [declaration "breakpoint-palm" "max 340px", declaration "color" "red"]).Textual :=
      ⟨rfl,by simp [rule,Value.isText],by simp [rule,Rule.entries,declared],rfl⟩
    have listed : rules sheet = sheet ++ [media "print" []] := by
      simp [sheet,rule,media,rules_cons,rules_nil,Rule.children]
    simp [Textual,listed,sheet,root,around]
  exact ⟨warnings,report,ok,rfl,rfl,transform_described sheet after config warnings report textual rfl ok⟩

end Stylesheet
end MediaTiers
