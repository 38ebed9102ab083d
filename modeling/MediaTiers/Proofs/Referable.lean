import MediaTiers.Proofs.Selector
import MediaTiers.Proofs.Tier.MediaMap
import MediaTiers.Proofs.Transform

/-! Which names of a run a selector can refer to. A name is taken from its property as it stands, up to letter case,
so it may hold white space and commas. It is a word of selectors if it holds none, and a name that is just a comma
takes the commas of all selectors for itself. -/
namespace MediaTiers

open Selector

/-- The name under which a property declares a breakpoint, in the letters of the property. -/
def breakpointName? (property : Value) : Option String :=
  match Property.ofValue property with
  | .ok (.breakpoint name) => some name
  | _ => none

def Stylesheet.namesDeclared (sheet : Stylesheet) : List String :=
  ((rules sheet).flatMap Rule.entries).filterMap fun d => breakpointName? d.property

theorem Text.after_suffix (word cs rest : List Char) (found : after? word cs = some rest) : rest <:+ cs := by
  induction word generalizing cs with
  | nil =>
    cases found
    exact List.suffix_rfl
  | cons letter word ih => cases cs with
    | nil => cases found
    | cons c cs =>
      rw [after?] at found
      split at found
      · exact (ih cs found).trans (List.suffix_cons c cs)
      · cases found

theorem Property.subject_suffix (word : String) (cs : List Char) (subject : String)
    (found : subject? word cs = some subject) : subject.toList ≠ [] ∧ subject.toList <:+ cs := by
  simp only [subject?] at found
  cases after : Text.after? word.toList ((Text.after? "var-".toList cs).getD cs) with
  | none =>
    rw [after] at found
    cases found
  | some rest =>
    rw [after] at found
    simp only [Option.bind_eq_bind,Option.bind_some] at found
    cases fit : !rest.isEmpty && !rest.contains '\n' with
    | false =>
      rw [fit] at found
      cases found
    | true =>
      rw [fit] at found
      obtain rfl : String.ofList rest = subject := Option.some.inj found
      rw [String.toList_ofList]
      refine ⟨by simpa using (Bool.and_eq_true_iff.mp fit).1,(Text.after_suffix _ _ _ after).trans ?_⟩
      cases marked : Text.after? "var-".toList cs with
      | none => exact List.suffix_rfl
      | some unmarked => exact Text.after_suffix _ _ _ marked

theorem Property.breakpoint_text (property : Value) (name : String)
    (meant : ofValue property = .ok (.breakpoint name)) :
    ∃ s, property = .text s ∧ subject? "breakpoint-" (Text.trim s.toList) = some name := by
  unfold ofValue at meant
  split at meant
  next s =>
    refine ⟨s,rfl,?_⟩
    have read := Except.ok.inj meant
    unfold ofTrimmed at read
    split at read
    · cases read
    · next subject =>
      cases read
      exact subject
    · cases read
  next =>
    split at meant <;> cases meant
  next =>
    split at meant <;> cases meant

theorem breakpointName_iff (property : Value) (name : String) :
    breakpointName? property = some name ↔ Property.ofValue property = .ok (.breakpoint name) := by
  unfold breakpointName?
  split <;> simp_all

/-- A property is trimmed before it is read, so a name does not end in white space. -/
theorem breakpointName_inked (property : Value) (name : String) (named : breakpointName? property = some name) :
    ∃ c ∈ name.toList, Text.isBlank c = false := by
  obtain ⟨s,-,subject⟩ := Property.breakpoint_text property name ((breakpointName_iff property name).mp named)
  obtain ⟨filled,ends⟩ := Property.subject_suffix _ _ _ subject
  have whole : Text.trim s.toList ≠ [] := fun empty => filled (List.suffix_nil.mp (empty ▸ ends))
  refine ⟨name.toList.getLast filled,List.getLast_mem filled,?_⟩
  rw [ends.getLast filled]
  rw [← Bool.not_eq_true]
  exact List.rdropWhile_last_not Text.isBlank (s.toList.dropWhile Text.isBlank) whole

/-- What is said under a name is a breakpoint of that name in lower case, and nothing else is one. -/
theorem Meaning.of_name (delta : Decimal) (property value : Value) (m : Meaning)
    (said : of? delta property value = some m) :
    m.breakpoint?.map (·.name) = (breakpointName? property).map Text.lowercase := by
  unfold of? at said
  unfold breakpointName?
  cases meant : Property.ofValue property with
  | error failure => simp [meant] at said
  | ok property => cases property with
    | other =>
      obtain rfl : nothing = m := by simpa [meant] using said
      rfl
    | option key =>
      simp only [meant] at said
      obtain ⟨flag,-,rfl⟩ := Option.map_eq_some_iff.mp said
      rfl
    | breakpoint name =>
      simp only [meant] at said
      split at said
      · unfold ofText? at said
        split at said
        · cases said
          rfl
        · obtain ⟨-,-,rfl⟩ := (ofPoint_iff _ _).mp said
          rfl
        · cases said
      · cases said

theorem names_registryOf (delta : Decimal) (pairs : List (Value × Value)) (registrable : Registrable delta pairs) :
    (registryOf delta pairs).names = (pairs.filterMap fun p => breakpointName? p.1).map Text.lowercase := by
  have said : ∀ p ∈ pairs, ((Meaning.of? delta p.1 p.2).bind Meaning.breakpoint?).map (·.name) =
      (breakpointName? p.1).map Text.lowercase := by
    intro p member
    obtain ⟨m,meant⟩ := Option.isSome_iff_exists.mp (registrable.readable p member)
    rw [meant,Option.bind_some,Meaning.of_name delta p.1 p.2 m meant]
  rw [registryOf,Registry.holding_names,breakpointsSaid,List.map_filterMap,List.map_filterMap]
  exact List.filterMap_congr said

theorem filterMap_names (ds : List Declaration) :
    (declaredPairs ds).filterMap (fun p => breakpointName? p.1) = ds.filterMap fun d => breakpointName? d.property := by
  have silent (d : Declaration) (other : d.isOther = true) : breakpointName? d.pair.1 = none := by
    unfold breakpointName? Declaration.pair
    rw [d.isOther_iff.mp other]
  rw [← filterMap_declared _ ds silent,List.filterMap_map]
  rfl

/-- What is put after a name to make another, or nothing. -/
def nameEndings : List String := ["", "-and-up", "-and-down"]

namespace Registry

theorem mediaMap_keys (r : Registry) (o : MediaOptions) (m : OrderedMap String) (keyed : r.Keyed)
    (ok : r.mediaMap o = .ok m) :
    (∀ name ∈ r.names, name ∈ m.map (·.1)) ∧
      ∀ key ∈ m.map (·.1), ∃ name ∈ r.names, ∃ ending ∈ nameEndings, key = name ++ ending := by
  obtain ⟨maxs,mins,maxOk,minOk,rfl⟩ := r.mediaMap_success o m ok
  obtain ⟨-,-,-,maxNames,maxProper⟩ := maxTiers_success _ _ maxOk
  obtain ⟨-,-,-,minNames,minProper⟩ := minTiers_success _ _ minOk
  have keys (key : String) := r.mem_overlay_keys o maxs mins key (r.declared_keys o maxs mins keyed maxNames minNames)
  have made (kind : Kind) (tiers : List Tier) (names : (tiers.map (·.name)).Perm ((r.ofKind kind).map (·.name)))
      (proper : ∀ t ∈ tiers, t.Proper) (key : String) (listed : ∃ t ∈ tiers, key ∈ t.synthesized.map (·.1)) :
      ∃ name ∈ r.names, ∃ ending ∈ nameEndings, key = name ++ ending := by
    obtain ⟨t,member,inside⟩ := listed
    obtain ⟨entry,among,rfl⟩ := List.mem_map.mp inside
    obtain ⟨b,kept,same⟩ := List.mem_map.mp (names.mem_iff.mp (List.mem_map_of_mem member))
    have named : t.name ∈ r.names := by
      rw [keyed.names_eq,← same]
      exact List.mem_map_of_mem (List.mem_of_mem_filter kept)
    refine ⟨t.name,named,?_⟩
    rcases (proper t member).endings entry among with up | down
    · exact ⟨"-and-up",by decide,up⟩
    · exact ⟨"-and-down",by decide,down⟩
  constructor
  · intro name member
    exact (keys name).mpr (.inl member)
  · intro key member
    rcases (keys key).mp member with name | min | max
    · exact ⟨key,name,"",by decide,by simp⟩
    · exact made .min mins minNames minProper key min
    · exact made .max maxs maxNames maxProper key max

end Registry

/-- The keys of a map are names in lower case and what is made from them. -/
structure KeysFrom (names : List String) (m : OrderedMap String) : Prop where
  inked : ∀ name ∈ names, ∃ c ∈ name.toList, Text.isBlank c = false
  present : ∀ name ∈ names, Text.lowercase name ∈ m.map (·.1)
  made : ∀ key ∈ m.map (·.1), ∃ name ∈ names, ∃ ending ∈ nameEndings, key = Text.lowercase name ++ ending

theorem Stylesheet.transform_keys (sheet after : Stylesheet) (config : Config) (warnings : List String)
    (report : Report) (ok : sheet.transform config = (warnings, .ok (after, report))) :
    KeysFrom sheet.namesDeclared report.mediaMap := by
  obtain ⟨registrable,resolved,-⟩ := transform_parts sheet after config warnings report ok
  have names (name : String) : name ∈ (registryOf config.delta (declaredPairs (walkOrder sheet))).names ↔
      ∃ given ∈ sheet.namesDeclared, Text.lowercase given = name := by
    have moved := ((leaving_perm sheet).flatMap_right Rule.entries).filterMap fun d => breakpointName? d.property
    rw [names_registryOf _ _ registrable,filterMap_names,List.mem_map]
    apply exists_congr
    intro given
    exact and_congr_left fun _ => moved.mem_iff
  obtain ⟨present,made⟩ := Registry.mediaMap_keys _ _ _ registrable.sound.keyed resolved
  refine ⟨?_,?_,?_⟩
  · intro name member
    obtain ⟨d,-,named⟩ := List.mem_filterMap.mp member
    exact breakpointName_inked d.property name named
  · intro name member
    exact present _ ((names _).mpr ⟨name,member,rfl⟩)
  · intro key member
    obtain ⟨lowered,listed,ending,known,same⟩ := made key member
    obtain ⟨name,inside,rfl⟩ := (names lowered).mp listed
    exact ⟨name,inside,ending,known,same⟩

theorem ending_letters (ending : String) (known : ending ∈ nameEndings) :
    ∀ c ∈ ending.toList, isSeparator c = false ∧ Text.IsLower c := by
  intro c member
  have letters : (nameEndings.all fun ending => ending.toList.all fun c =>
      !isSeparator c && !Text.isListed c && c != 'İ') = true := by decide +kernel
  have letter := List.all_eq_true.mp (List.all_eq_true.mp letters ending known) c member
  simp only [Bool.and_eq_true,Bool.not_eq_true',bne_iff_ne] at letter
  exact ⟨letter.1.1,Text.isLower_of_unlisted c letter.1.2 letter.2⟩

theorem lowercase_key (name ending : String) (known : ending ∈ nameEndings) :
    Text.lowercase (Text.lowercase name ++ ending) = Text.lowercase name ++ ending := by
  have lower : ∀ c ∈ (Text.lowercase name ++ ending).toList, Text.IsLower c := by
    rw [String.toList_append,Text.lowercase,String.toList_ofList]
    exact List.forall_mem_append.mpr
      ⟨Text.lowerFrom_isLower [] name.toList,fun c member => (ending_letters ending known c member).2⟩
  rw [Text.lowercase,Text.lower,Text.lowerFrom_of_isLower [] _ lower,String.ofList_toList]

theorem isWord_key (name ending : String) (known : ending ∈ nameEndings) (filled : name ≠ "") :
    IsWord (Text.lowercase name ++ ending) ↔ ∀ c ∈ name.toList, isSeparator c = false := by
  have lowered : Text.lowercase name ≠ "" ∧ (∀ c ∈ (Text.lowercase name).toList, isSeparator c = false) ↔
      name ≠ "" ∧ ∀ c ∈ name.toList, isSeparator c = false := isWord_lowercase name
  have kept := (lowercase_filled name).mpr filled
  simp only [filled,kept,ne_eq,not_false_eq_true,true_and] at lowered
  have joined : Text.lowercase name ++ ending ≠ "" := by simp [kept]
  simp only [IsWord,String.toList_append,List.forall_mem_append,lowered,joined,ne_eq,not_false_eq_true,true_and]
  exact and_iff_left fun c member => (ending_letters ending known c member).1

theorem lowercase_eq_comma (name : String) (comma : Text.lowercase name = ",") : name = "," := by
  have lowered : Text.lower name.toList = [','] := by
    simpa [Text.lowercase] using congrArg String.toList comma
  have short := Text.length_le_lower name.toList
  have commas := Text.all_lower (· == ',') Text.comma_lowerAt name.toList
  have filled := (lowercase_filled name).mp (by simp [comma])
  rw [lowered] at short commas
  obtain ⟨c,cs,letters⟩ := List.exists_cons_of_ne_nil (by simpa using filled : name.toList ≠ [])
  rw [letters] at short commas
  obtain rfl : cs = [] := List.eq_nil_of_length_eq_zero (by simpa using short)
  obtain rfl : c = ',' := by simpa using commas.symm
  exact String.toList_inj.mp letters

theorem key_not_blank (name ending : String) (inked : ∃ c ∈ name.toList, Text.isBlank c = false) :
    ¬IsBlankRun (Text.lowercase name ++ ending) := by
  rintro ⟨-,blank⟩
  obtain ⟨c,member,inked⟩ := inked
  have all := Text.all_lower Text.isBlank Text.isBlank_lowerAt name.toList
  rw [String.toList_append,Text.lowercase,String.toList_ofList] at blank
  rw [List.all_eq_true.mpr (List.forall_mem_append.mp blank).1] at all
  rw [List.all_eq_true.mp all.symm c member] at inked
  exact Bool.false_ne_true inked.symm

theorem name_of_comma (name ending : String) (known : ending ∈ nameEndings)
    (comma : Text.lowercase name ++ ending = ",") : name = "," := by
  have last := congrArg (fun s : String => s.toList.getLast?) comma
  simp only [nameEndings,List.mem_cons,List.not_mem_nil,or_false] at known
  rcases known with rfl | rfl | rfl
  · exact lowercase_eq_comma name (by simpa using comma)
  · simp at last
  · simp at last

theorem Selector.substitute_empty (m : OrderedMap String) : substitute m .word "" = "" := by
  have none : tokens "" = [] := by cbv
  rw [substitute,none]
  rfl

theorem Selector.substitute_comma (m : OrderedMap String) : substitute m .word "," = replace m "," := by
  have token : tokens "," = [","] := by cbv
  rw [substitute,token]
  simp

namespace KeysFrom

variable {names : List String} {m : OrderedMap String}

theorem filled (keys : KeysFrom names m) (name : String) (member : name ∈ names) : name ≠ "" := by
  rintro rfl
  obtain ⟨c,inside,-⟩ := keys.inked "" member
  simp at inside

theorem words_iff (keys : KeysFrom names m) : (∀ key ∈ m.map (·.1), IsWord key) ↔
    ∀ name ∈ names, ∀ c ∈ name.toList, isSeparator c = false := by
  constructor
  · intro words name declared
    have word := words _ (keys.present name declared)
    rw [← String.append_empty (s := Text.lowercase name),
      isWord_key name "" (by decide) (keys.filled name declared)] at word
    exact word
  · intro plain key member
    obtain ⟨name,declared,ending,known,rfl⟩ := keys.made key member
    exact (isWord_key name ending known (keys.filled name declared)).mpr (plain name declared)

theorem comma_iff (keys : KeysFrom names m) : m.lookup "," ≠ none ↔ "," ∈ names := by
  rw [ne_eq,OrderedMap.lookup_none_iff,not_not]
  constructor
  · intro member
    obtain ⟨name,declared,ending,known,same⟩ := keys.made "," member
    rwa [name_of_comma name ending known same.symm] at declared
  · intro declared
    rw [← lowercase_comma]
    exact keys.present "," declared

theorem spares (keys : KeysFrom names m) (comma : "," ∈ names → m.lookup "," = some ",") : SparesSeparators m := by
  intro token separating
  rcases separating with rfl | blank
  · rw [replace,lowercase_comma]
    by_cases declared : "," ∈ names
    · rw [comma declared,Option.getD_some]
    · rw [not_not.mp (mt keys.comma_iff.mp declared),Option.getD_none]
  · have absent : m.lookup token = none := by
      rw [OrderedMap.lookup_none_iff]
      intro member
      obtain ⟨name,declared,ending,-,rfl⟩ := keys.made token member
      exact key_not_blank name ending (keys.inked name declared) blank
    rw [replace,lowercase_separators token fun c member => isSeparator_of_blank c (blank.2 c member),absent,
      Option.getD_none]

theorem separators_iff (keys : KeysFrom names m) :
    (∀ a gap b, IsGap gap → substitute m .word (a ++ gap ++ b) =
        substitute m .word a ++ gap ++ substitute m .word b) ↔ ("," ∈ names → m.lookup "," = some ",") := by
  constructor
  · intro kept declared
    obtain ⟨query,stands⟩ := Option.ne_none_iff_exists'.mp (keys.comma_iff.mpr declared)
    have alone := kept "" "," "" (by decide +kernel)
    rw [substitute_empty,String.empty_append,String.append_empty,substitute_comma,replace,lowercase_comma,stands,
      Option.getD_some] at alone
    rw [stands,alone]
  · intro comma a gap b between
    exact substitute_across m (keys.spares comma) a gap b between

theorem referable (keys : KeysFrom names m) (key : String) (member : key ∈ m.map (·.1)) (word : IsWord key) :
    ∃ query, m.lookup key = some query ∧ Rule.mediaAfter m .word (.text key) = .text query := by
  obtain ⟨query,stands⟩ := OrderedMap.lookup_of_mem m key member
  obtain ⟨name,-,ending,known,rfl⟩ := keys.made key member
  have filledMap : m.isEmpty = false := by
    cases m with
    | nil => simp at member
    | cons => rfl
  have filledText : (Value.text (Text.lowercase name ++ ending)).isEmpty = false := by
    have letters : (Text.lowercase name ++ ending).toList ≠ [] := by simpa using word.1
    simpa [Value.isEmpty] using letters
  refine ⟨query,stands,?_⟩
  rw [Rule.mediaAfter,filledMap,filledText]
  simp only [Bool.or_self,Bool.false_eq_true,if_false,substituteValue,substitute_word m _ word,
    lowercase_key name ending known,stands,Option.getD_some]

end KeysFrom

namespace Stylesheet

/-- The names of a run are words of selectors exactly if no breakpoint is declared with white space or a comma in its
name. Replacement keeps all separators exactly if no breakpoint is named by a comma and stands for anything
else. Every name that is a word is replaced by its query. -/
theorem keys_referable_iff (sheet after : Stylesheet) (config : Config) (warnings : List String) (report : Report)
    (ok : sheet.transform config = (warnings, .ok (after, report))) :
    ((∀ key ∈ report.mediaMap.map (·.1), IsWord key) ↔
      ∀ name ∈ sheet.namesDeclared, ∀ c ∈ name.toList, isSeparator c = false) ∧
    ((∀ a gap b, IsGap gap → substitute report.mediaMap .word (a ++ gap ++ b) =
        substitute report.mediaMap .word a ++ gap ++ substitute report.mediaMap .word b) ↔
      ("," ∈ sheet.namesDeclared → report.mediaMap.lookup "," = some ",")) ∧
    ∀ key ∈ report.mediaMap.map (·.1), IsWord key → tokens key = [key] ∧ ∃ query,
      report.mediaMap.lookup key = some query ∧ Rule.mediaAfter report.mediaMap .word (.text key) = .text query := by
  have keys := transform_keys sheet after config warnings report ok
  refine ⟨keys.words_iff,keys.separators_iff,?_⟩
  intro key member word
  exact ⟨tokens_word key word,keys.referable key member word⟩

/-- Breakpoints named by two words, by a comma and by one word. -/
def looseSheet : Stylesheet :=
  [rule ":root" [declaration "breakpoint-my tab" "max 340px", declaration "breakpoint-," "print",
    declaration "breakpoint-Tall" "(orientation: portrait)"], media "my tab" [], media "tall, tv" []]

def looseMap : OrderedMap String :=
  [("my tab-and-down", "screen and (max-width: 340px)"), ("my tab", "screen and (max-width: 340px)"), (",", "print"),
    ("tall", "(orientation: portrait)")]

theorem looseSheet_transform : ∃ warnings report, looseSheet.transform .default =
    (warnings, .ok ([media "my tab" [], media "(orientation: portrait)print tv" []], report)) ∧
      report.mediaMap = looseMap := by
  let pairs : List (Value × Value) := [(.text "breakpoint-my tab", .text "max 340px"),
    (.text "breakpoint-,", .text "print"), (.text "breakpoint-Tall", .text "(orientation: portrait)")]
  let r : Registry := .holding defaultDelta [.ofPoint "my tab" .max (.finite false 340 0) .px defaultDelta,
    .ofQuery "," "print", .ofQuery "tall" "(orientation: portrait)"] []
  let stays : List Rule := [media "my tab" [], media "tall, tv" []]
  let replaced : List Rule := [media "my tab" [], media "(orientation: portrait)print tv" []]
  let report : Report := ⟨r.breakpoints, looseMap, replaced, 1, ⟨false, false⟩⟩
  have order : declaredPairs (walkOrder looseSheet) = pairs := by cbv
  have held : registryOf defaultDelta pairs = r := by cbv
  have said : (pairs.all fun p => (Meaning.of? defaultDelta p.1 p.2).isSome) = true := by cbv
  have apart : (breakpointsSaid defaultDelta pairs).Pairwise fun a b => ¬a.Clashes b := by
    have points : breakpointsSaid defaultDelta pairs = r.breakpoints := by rw [← registryOf_breakpoints,held]
    rw [points]
    simp [r,Breakpoint.clashes_query]
    decide
  have taken : ([declaration "breakpoint-my tab" "max 340px", declaration "breakpoint-," "print",
      declaration "breakpoint-Tall" "(orientation: portrait)"].all fun d => !d.isOther) = true := by cbv
  have kept : left true looseSheet = stays := by
    simp only [looseSheet,stays,left,rule,media,Rule.isSpent,Rule.around,Rule.children,Option.any_some,taken]
    simp [left]
  have handed : collected true looseSheet = stays := by
    simp [looseSheet,stays,collected_cons,collected_nil,left,rule,media,Rule.around,Rule.children,Value.isEmpty]
  have queries : r.mediaMap ⟨false, false⟩ = .ok looseMap := by decide +kernel
  have first : substitute looseMap .word "my tab" = "my tab" := by decide +kernel
  have second : substitute looseMap .word "tall, tv" = "(orientation: portrait)print tv" := by decide +kernel
  have filled : looseMap ≠ [] := by simp [looseMap]
  have selectors : substituteAll looseMap .word [.text "my tab", .text "tall, tv"] =
      .ok ([.text "my tab", .text "(orientation: portrait)print tv"], 1) := by
    simp [substituteAll,filled,substituteValue,first,second,differs,Value.same,Value.sameAtom,Value.content]
  have tree : substituteMedia looseMap .word stays = replaced := by
    simp [stays,replaced,media,substituteMedia,Rule.substituteMedia,Rule.mediaAfter,filled,Value.isEmpty,substituteValue,first,
      second]
  have resolved : resolve .default r ⟨stays, stays⟩ = .ok (replaced, report) := by
    have options : Config.default.mediaOptions.withFlags r.options = ⟨false, false⟩ := rfl
    have given : Config.default.mode = .word ∧ Walked.media ⟨stays, stays⟩ = [.text "my tab", .text "tall, tv"] :=
      ⟨rfl,rfl⟩
    simp only [resolve,options,queries,Attempt.ok_bind,given,selectors,tree]
    rfl
  obtain ⟨warnings,ok⟩ := transform_success looseSheet _ .default report pairs ⟨stays, stays⟩ order
    (congrArg₂ Walked.mk kept handed) ⟨List.all_eq_true.mp said,apart⟩ (held ▸ resolved)
  exact ⟨warnings,report,ok,rfl⟩

/-- Of three names only the one that is a word can be referred to, and commas do not stay. -/
theorem keys_referable_iff_loose :
    ∃ warnings after report, looseSheet.transform .default = (warnings, .ok (after, report)) ∧
      IsWord "tall" ∧ Rule.mediaAfter report.mediaMap .word (.text "tall") = .text "(orientation: portrait)" ∧
      ¬∀ a gap b, IsGap gap → substitute report.mediaMap .word (a ++ gap ++ b) =
        substitute report.mediaMap .word a ++ gap ++ substitute report.mediaMap .word b := by
  obtain ⟨warnings,report,ok,queries⟩ := looseSheet_transform
  obtain ⟨-,separators,referable⟩ := keys_referable_iff looseSheet _ .default warnings report ok
  have word : IsWord "tall" := by decide +kernel
  obtain ⟨-,query,stands,replaced⟩ := referable "tall" (by rw [queries]; decide) word
  have declared : looseSheet.namesDeclared = ["my tab", ",", "Tall"] := by cbv
  refine ⟨warnings,_,report,ok,word,?_,?_⟩
  · rw [queries] at stands
    have tall : looseMap.lookup "tall" = some "(orientation: portrait)" := by decide
    rw [replaced,Option.some.inj (stands.symm.trans tall)]
  · rw [separators,queries]
    intro kept
    exact absurd (kept (by rw [declared]; decide)) (by decide)

/-- A name of two words is not replaced where it is used, and one that is a comma replaces the commas of other
selectors. -/
theorem names_not_referable :
    ∃ warnings after report, looseSheet.transform .default = (warnings, .ok (after, report)) ∧
      "my tab" ∈ report.mediaMap.map (·.1) ∧ ¬IsWord "my tab" ∧ "," ∈ report.mediaMap.map (·.1) ∧ ¬IsWord "," ∧
      after = [media "my tab" [], media "(orientation: portrait)print tv" []] := by
  obtain ⟨warnings,report,ok,queries⟩ := looseSheet_transform
  have words : ¬IsWord "my tab" ∧ ¬IsWord "," := by decide +kernel
  refine ⟨warnings,_,report,ok,?_,words.1,?_,words.2,rfl⟩
  · rw [queries]
    decide
  · rw [queries]
    decide

end Stylesheet
end MediaTiers
