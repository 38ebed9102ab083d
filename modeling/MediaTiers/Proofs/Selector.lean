import MediaTiers.Proofs.OrderedMap
import MediaTiers.Proofs.Text.Blank
import MediaTiers.Proofs.Text.Caseless
import MediaTiers.Selector

/-! Selectors are replaced word by word, and what separates the words stays. A text can therefore be cut anywhere at
a separator: the parts are replaced on their own, however white space runs across the cut. Matching a selector as a
whole gives the same as matching its only word. -/
namespace MediaTiers.Selector

/-- One word: neither white space nor a comma in it. -/
def IsWord (s : String) : Prop :=
  s ≠ "" ∧ ∀ c ∈ s.toList, isSeparator c = false

/-- White space and commas between words. -/
def IsGap (s : String) : Prop :=
  s ≠ "" ∧ ∀ c ∈ s.toList, isSeparator c = true

instance (s : String) : Decidable (IsWord s) :=
  decidable_of_iff (s ≠ "" ∧ (s.toList.all fun c => !isSeparator c) = true) (by simp [IsWord])

instance (s : String) : Decidable (IsGap s) :=
  decidable_of_iff (s ≠ "" ∧ s.toList.all isSeparator = true) (by simp [IsGap])

def leading (s : String) : String :=
  String.ofList (s.toList.takeWhile Text.isBlank)

def trailing (s : String) : String :=
  String.ofList (s.toList.rtakeWhile Text.isBlank)

def IsBlankRun (s : String) : Prop :=
  s ≠ "" ∧ ∀ c ∈ s.toList, Text.isBlank c = true

/-- No separating token means anything else than itself. -/
def SparesSeparators (m : OrderedMap String) : Prop :=
  ∀ token, token = "," ∨ IsBlankRun token → replace m token = token

theorem isBlank_of_word (c : Char) (word : isSeparator c = false) : Text.isBlank c = false :=
  (Bool.or_eq_false_iff.mp word).2

theorem isSeparator_of_blank (c : Char) (blank : Text.isBlank c = true) : isSeparator c = true := by
  simp [isSeparator,blank]

/-- Two neighbouring characters belong to one token if both are white space or both are in a word; a comma stands
alone. -/
def joins (a b : Char) : Bool :=
  Text.isBlank a && Text.isBlank b || !isSeparator a && !isSeparator b

theorem not_joins (a b : Char) (unlike : isSeparator a ≠ isSeparator b) : joins a b = false := by
  unfold joins
  cases first : isSeparator a with
  | false =>
    have second : isSeparator b = true := by simpa [first] using unlike.symm
    simp [isBlank_of_word a first,second]
  | true =>
    have second : isSeparator b = false := by simpa [first] using unlike.symm
    simp [isBlank_of_word b second]

theorem comma_joins (c : Char) : joins ',' c = false := by
  have apart : Text.isBlank ',' = false := by decide
  simp [joins,apart,isSeparator]

theorem splitBy_run (run cs : List Char) (alike : ∀ a ∈ run, ∀ b ∈ run, joins a b = true)
    (apart : ∀ x ∈ run, ∀ y ∈ cs.head?, joins x y = false) :
    (run ++ cs).splitBy joins = [run].filter (!·.isEmpty) ++ cs.splitBy joins := by
  rw [List.splitBy_append fun x last => apart x (List.mem_of_getLast? last)]
  cases run with
  | nil => rfl
  | cons c run =>
    rw [List.splitBy_of_isChain (List.cons_ne_nil c run) (List.pairwise_of_forall_mem_list alike).isChain]
    rfl

theorem splitBy_first_word (cs : List Char) :
    cs.splitBy joins = [cs.takeWhile (!isSeparator ·)].filter (!·.isEmpty) ++
      (cs.dropWhile (!isSeparator ·)).splitBy joins := by
  have letters : ∀ c ∈ cs.takeWhile (!isSeparator ·), isSeparator c = false := fun c member => by
    simpa using List.mem_takeWhile_imp member
  have cut := splitBy_run (cs.takeWhile (!isSeparator ·)) (cs.dropWhile (!isSeparator ·)) ?_ ?_
  · rwa [List.takeWhile_append_dropWhile] at cut
  · intro a first b second
    simp [joins,letters a first,letters b second]
  · intro x member y next
    have stops := List.head?_dropWhile_not (!isSeparator ·) cs
    rw [next] at stops
    exact not_joins x y (by simpa [letters x member] using stops)

theorem splitBy_first_blanks (c : Char) (cs : List Char) (blank : Text.isBlank c = true) :
    (c :: cs).splitBy joins = (c :: cs.takeWhile Text.isBlank) :: (cs.dropWhile Text.isBlank).splitBy joins := by
  have blanks : ∀ d ∈ c :: cs.takeWhile Text.isBlank, Text.isBlank d = true :=
    List.forall_mem_cons.mpr ⟨blank,fun d member => List.mem_takeWhile_imp member⟩
  have cut := splitBy_run (c :: cs.takeWhile Text.isBlank) (cs.dropWhile Text.isBlank) ?_ ?_
  · simpa using cut
  · intro a first b second
    simp [joins,blanks a first,blanks b second]
  · intro x member y next
    have stops := List.head?_dropWhile_not Text.isBlank cs
    rw [next] at stops
    simp [joins,stops,isSeparator_of_blank x (blanks x member)]

theorem splitBy_first_comma (cs : List Char) : (',' :: cs).splitBy joins = [','] :: cs.splitBy joins :=
  List.splitBy_append (l := [',']) (by simp [comma_joins])

/-- The pieces that are not empty are the runs of characters of one kind, but for commas, which stand alone. -/
theorem pieces_filled (cs : List Char) : (pieces cs).filter (!·.isEmpty) = cs.splitBy joins := by
  fun_induction pieces cs with
  | case1 cs word left => rw [splitBy_first_word cs,left,List.splitBy_nil,List.append_nil]
  | case2 cs word rest left ih =>
    rw [splitBy_first_word cs,left,splitBy_first_comma,← ih]
    exact List.filter_append [word] ([','] :: pieces rest)
  | case3 cs word c rest other left ih =>
    have stops := List.head?_dropWhile_not (!isSeparator ·) cs
    rw [left] at stops
    have blank : Text.isBlank c = true := by simpa [isSeparator,show c ≠ ',' from other] using stops
    rw [splitBy_first_word cs,left,splitBy_first_blanks c rest blank,← ih]
    exact List.filter_append [word] ((c :: rest.takeWhile Text.isBlank) :: pieces (rest.dropWhile Text.isBlank))

theorem tokens_eq (s : String) : tokens s = (s.toList.splitBy joins).map String.ofList := by
  rw [tokens,pieces_filled]

theorem lowercase_separators (s : String) (separators : ∀ c ∈ s.toList, isSeparator c = true) :
    Text.lowercase s = s := by
  have lower : ∀ c ∈ s.toList, Text.IsLower c := by
    intro c member
    rcases Bool.or_eq_true_iff.mp (separators c member) with comma | blank
    · rw [beq_iff_eq.mp comma]
      exact Text.comma_isLower
    · exact Text.isBlank_isLower c blank
  rw [Text.lowercase,Text.lower,Text.lowerFrom_of_isLower [] s.toList lower,String.ofList_toList]

theorem lowercase_comma : Text.lowercase "," = "," :=
  lowercase_separators "," (by simp [isSeparator])

theorem sparesSeparators_of_keys (m : OrderedMap String) (keys : ∀ key ∈ m.map (·.1), key ≠ "," ∧ ¬IsBlankRun key) :
    SparesSeparators m := by
  intro token separating
  have separators : ∀ c ∈ token.toList, isSeparator c = true := by
    rcases separating with rfl | blank
    · simp [isSeparator]
    · exact fun c member => isSeparator_of_blank c (blank.2 c member)
  have absent : m.lookup token = none := by
    rw [OrderedMap.lookup_none_iff]
    intro member
    rcases separating with comma | blank
    · exact (keys token member).1 comma
    · exact (keys token member).2 blank
  rw [replace,lowercase_separators token separators,absent]
  rfl

theorem blank_run (c : Char) (cs : List Char) (run : (c :: cs).IsChain fun a b => joins a b = true)
    (blank : Text.isBlank c = true) : ∀ d ∈ c :: cs, Text.isBlank d = true := by
  induction cs generalizing c with
  | nil => simpa using blank
  | cons d cs ih =>
    obtain ⟨joined,rest⟩ := List.isChain_cons_cons.mp run
    have next : Text.isBlank d = true := by simpa [joins,blank,isSeparator_of_blank c blank] using joined
    exact List.forall_mem_cons.mpr ⟨blank,ih d rest next⟩

theorem separating_token (run : List Char) (filled : run ≠ []) (joined : run.IsChain fun a b => joins a b = true)
    (separators : ∀ c ∈ run, isSeparator c = true) : String.ofList run = "," ∨ IsBlankRun (String.ofList run) := by
  obtain ⟨c,cs,rfl⟩ := List.exists_cons_of_ne_nil filled
  rcases Bool.or_eq_true_iff.mp (separators c (by simp)) with comma | blank
  · -- Nothing joins a comma.
    obtain rfl := beq_iff_eq.mp comma
    left
    cases cs with
    | nil => rfl
    | cons d cs =>
      have linked := (List.isChain_cons_cons.mp joined).1
      rw [comma_joins d] at linked
      exact absurd linked Bool.false_ne_true
  · right
    refine ⟨by simp,?_⟩
    rw [String.toList_ofList]
    exact blank_run c cs joined blank

def replaced (m : OrderedMap String) (cs : List Char) : List Char :=
  (cs.splitBy joins).flatMap fun run => (replace m (String.ofList run)).toList

theorem toList_substitute (m : OrderedMap String) (s : String) :
    (substitute m .word s).toList = replaced m s.toList := by
  simp [substitute,tokens_eq,replaced,String.toList_join,List.flatMap_map]

theorem replaced_append (m : OrderedMap String) (l r : List Char)
    (apart : ∀ x ∈ l.getLast?, ∀ y ∈ r.head?, isSeparator x ≠ isSeparator y) :
    replaced m (l ++ r) = replaced m l ++ replaced m r := by
  have cut := List.splitBy_append (r := joins) fun x last y first => not_joins x y (apart x last y first)
  rw [replaced,cut,List.flatMap_append,replaced,replaced]

theorem splitBy_word (w : List Char) (filled : w ≠ []) (word : ∀ c ∈ w, isSeparator c = false) :
    w.splitBy joins = [w] := by
  apply List.splitBy_of_isChain filled
  apply List.Pairwise.isChain
  apply List.pairwise_of_forall_mem_list
  intro a first b second
  simp [joins,word a first,word b second]

theorem tokens_word (w : String) (word : IsWord w) : tokens w = [w] := by
  have filled : w.toList ≠ [] := by simpa using word.1
  rw [tokens_eq,splitBy_word w.toList filled word.2]
  simp

section

variable (m : OrderedMap String) (spares : SparesSeparators m)
include spares

theorem replaced_separators (gap : List Char) (separators : ∀ c ∈ gap, isSeparator c = true) :
    replaced m gap = gap := by
  have kept : ∀ run ∈ gap.splitBy joins, (replace m (String.ofList run)).toList = run := by
    intro run member
    have inside : ∀ c ∈ run, c ∈ gap := by
      intro c listed
      rw [← List.flatten_splitBy joins gap]
      exact List.mem_flatten_of_mem member listed
    rw [spares _ (separating_token run (List.ne_nil_of_mem_splitBy member) (List.isChain_of_mem_splitBy member)
      fun c listed => separators c (inside c listed)),String.toList_ofList]
  rw [replaced,List.flatMap_congr kept,List.flatMap_id']
  exact List.flatten_splitBy joins gap

/-- Separators in front stay, together with those that follow them. -/
theorem replaced_start (gap cs : List Char) (separators : ∀ c ∈ gap, isSeparator c = true) :
    replaced m (gap ++ cs) = gap ++ replaced m cs := by
  have run (front : List Char) (all : ∀ c ∈ front, isSeparator c = true) :
      replaced m (front ++ cs.dropWhile isSeparator) = front ++ replaced m (cs.dropWhile isSeparator) := by
    rw [replaced_append,replaced_separators m spares front all]
    intro x last y first
    have stops := List.head?_dropWhile_not isSeparator cs
    rw [first] at stops
    rw [all x (List.mem_of_getLast? last),stops]
    exact Bool.false_ne_true.symm
  have front : ∀ c ∈ cs.takeWhile isSeparator, isSeparator c = true := fun c => List.mem_takeWhile_imp
  have alone := run (cs.takeWhile isSeparator) front
  have joined := run (gap ++ cs.takeWhile isSeparator) (List.forall_mem_append.mpr ⟨separators,front⟩)
  rw [List.append_assoc,List.takeWhile_append_dropWhile] at joined
  rw [List.takeWhile_append_dropWhile] at alone
  rw [joined,alone,List.append_assoc]

/-- Separators at the end stay, together with those before them. -/
theorem replaced_end (cs gap : List Char) (separators : ∀ c ∈ gap, isSeparator c = true) :
    replaced m (cs ++ gap) = replaced m cs ++ gap := by
  have run (back : List Char) (all : ∀ c ∈ back, isSeparator c = true) :
      replaced m (cs.rdropWhile isSeparator ++ back) = replaced m (cs.rdropWhile isSeparator) ++ back := by
    rw [replaced_append,replaced_separators m spares back all]
    intro x last y first
    have stops : isSeparator x = false := by
      obtain ⟨filled,rfl⟩ := List.mem_getLast?_eq_getLast last
      simpa using List.rdropWhile_last_not isSeparator cs filled
    rw [all y (List.mem_of_mem_head? first),stops]
    exact Bool.false_ne_true
  have back : ∀ c ∈ cs.rtakeWhile isSeparator, isSeparator c = true := fun c => List.mem_rtakeWhile_imp
  have alone := run (cs.rtakeWhile isSeparator) back
  have joined := run (cs.rtakeWhile isSeparator ++ gap) (List.forall_mem_append.mpr ⟨back,separators⟩)
  rw [← List.append_assoc,List.rdropWhile_append_rtakeWhile] at joined
  rw [List.rdropWhile_append_rtakeWhile] at alone
  rw [joined,alone,List.append_assoc]

theorem replaced_across (l gap r : List Char) (filled : gap ≠ [])
    (separators : ∀ c ∈ gap, isSeparator c = true) :
    replaced m (l ++ gap ++ r) = replaced m l ++ gap ++ replaced m r := by
  -- The separators that the right part begins with go to the gap, so that a word begins after the cut.
  let front := r.takeWhile isSeparator
  let rest := r.dropWhile isSeparator
  have parts : front ++ rest = r := List.takeWhile_append_dropWhile
  have begins : ∀ c ∈ front, isSeparator c = true := fun c => List.mem_takeWhile_imp
  have cut : replaced m ((l ++ (gap ++ front)) ++ rest) = replaced m (l ++ (gap ++ front)) ++ replaced m rest := by
    apply replaced_append
    intro x last y first
    have stops := List.head?_dropWhile_not isSeparator r
    rw [first] at stops
    have ends : x ∈ gap ++ front := by
      rw [List.getLast?_append_of_ne_nil _ (by simp [filled])] at last
      exact List.mem_of_getLast? last
    rw [List.forall_mem_append.mpr ⟨separators,begins⟩ x ends,stops]
    exact Bool.false_ne_true.symm
  calc replaced m (l ++ gap ++ r)
      = replaced m ((l ++ (gap ++ front)) ++ rest) := by rw [← parts]; simp only [List.append_assoc]
    _ = replaced m l ++ gap ++ (front ++ replaced m rest) := by
        rw [cut,replaced_end m spares l _ (List.forall_mem_append.mpr ⟨separators,begins⟩)]
        simp only [List.append_assoc]
    _ = replaced m l ++ gap ++ replaced m r := by rw [← replaced_start m spares front rest begins,parts]

theorem substitute_across (a gap b : String) (between : IsGap gap) :
    substitute m .word (a ++ gap ++ b) = substitute m .word a ++ gap ++ substitute m .word b := by
  have filled : gap.toList ≠ [] := by simpa using between.1
  apply String.toList_inj.mp
  simp only [String.toList_append,toList_substitute]
  exact replaced_across m spares a.toList gap.toList b.toList filled between.2

end

theorem substitute_word (m : OrderedMap String) (w : String) (word : IsWord w) :
    substitute m .word w = (m.lookup (Text.lowercase w)).getD w := by
  rw [substitute,tokens_word w word]
  simp [replace]

/-- Where no name is a comma or white space, a selector is replaced part by part between its separators. A word is
replaced by what it stands for as a whole, and nothing that was put in is looked at again. -/
theorem substitute_compositional (m : OrderedMap String)
    (keys : ∀ key ∈ m.map (·.1), key ≠ "," ∧ ¬IsBlankRun key) :
    (∀ a gap b, IsGap gap →
      substitute m .word (a ++ gap ++ b) = substitute m .word a ++ gap ++ substitute m .word b) ∧
    (∀ w, IsWord w → substitute m .word w = (m.lookup (Text.lowercase w)).getD w) ∧
    ∀ a before w after b, IsGap before → IsWord w → IsGap after →
      substitute m .word (a ++ before ++ w ++ after ++ b) =
        substitute m .word a ++ before ++ (m.lookup (Text.lowercase w)).getD w ++ after ++ substitute m .word b := by
  have spares := sparesSeparators_of_keys m keys
  refine ⟨substitute_across m spares,substitute_word m,?_⟩
  intro a before w after b first word second
  rw [substitute_across m spares _ after b second,substitute_across m spares a before w first,substitute_word m w word]

/-- A name in capitals before white space of two kinds and a comma, and a word that only begins with it. -/
theorem substitute_compositional_palm :
    let m : OrderedMap String := [("palm", "palm and (max-width: 340px)")]
    (∀ key ∈ m.map (·.1), key ≠ "," ∧ ¬IsBlankRun key) ∧ IsGap " \u3000," ∧ IsWord "PALM" ∧ IsWord "palmtop" ∧
      substitute m .word ("PALM" ++ " \u3000," ++ "palmtop") = "palm and (max-width: 340px) \u3000,palmtop" := by
  intro m
  have keys : ∀ key ∈ m.map (·.1), key ≠ "," ∧ ¬IsBlankRun key := by
    intro key member
    obtain rfl : key = "palm" := by simpa [m] using member
    exact ⟨by decide,fun blank => absurd (blank.2 'p' (by simp)) (by decide)⟩
  have gap : IsGap " \u3000," := by decide +kernel
  have name : IsWord "PALM" := by decide +kernel
  have other : IsWord "palmtop" := by decide +kernel
  obtain ⟨across,word,-⟩ := substitute_compositional m keys
  refine ⟨keys,gap,name,other,?_⟩
  rw [across _ _ _ gap,word _ name,word _ other]
  decide +kernel

theorem trimmed_parts (s : String) (filled : Text.trimmed s ≠ "") :
    leading s ++ Text.trimmed s ++ trailing s = s := by
  have inner : Text.trim s.toList ≠ [] := by simpa [Text.trimmed] using filled
  apply String.toList_inj.mp
  simp only [leading,Text.trimmed,trailing,String.toList_append,String.toList_ofList]
  exact Text.trim_parts s.toList inner

theorem substitute_trimmed (m : OrderedMap String) (spares : SparesSeparators m) (s : String)
    (filled : Text.trimmed s ≠ "") :
    substitute m .word s = leading s ++ substitute m .word (Text.trimmed s) ++ trailing s := by
  have front : ∀ c ∈ (leading s).toList, isSeparator c = true := by
    rw [leading,String.toList_ofList]
    exact fun c member => isSeparator_of_blank c (Text.allBlank_takeWhile _ c member)
  have back : ∀ c ∈ (trailing s).toList, isSeparator c = true := by
    rw [trailing,String.toList_ofList]
    exact fun c member => isSeparator_of_blank c (Text.allBlank_rtakeWhile _ c member)
  apply String.toList_inj.mp
  rw [toList_substitute]
  nth_rewrite 1 [← trimmed_parts s filled]
  simp only [String.toList_append,toList_substitute]
  rw [List.append_assoc,replaced_start m spares _ _ front,replaced_end m spares _ _ back,List.append_assoc]

theorem isSeparator_lowerAt (before : List Char) (c : Char) (after : List Char) (d : Char)
    (member : d ∈ Text.lowerAt before c after) : isSeparator d = isSeparator c := by
  rw [isSeparator,Text.comma_lowerAt before c after d member,Text.isBlank_lowerAt before c after d member,isSeparator]

theorem lowercase_filled (s : String) : Text.lowercase s ≠ "" ↔ s ≠ "" := by
  have grows := Text.length_le_lower s.toList
  rw [not_iff_not,← String.toList_eq_nil_iff,← String.toList_eq_nil_iff,Text.lowercase,String.toList_ofList]
  constructor
  · intro empty
    rw [empty] at grows
    exact List.eq_nil_of_length_eq_zero (Nat.le_zero.mp grows)
  · intro empty
    rw [empty]
    rfl

theorem isWord_lowercase (s : String) : IsWord (Text.lowercase s) ↔ IsWord s := by
  have inked := Text.all_lower (fun c => !isSeparator c)
    (fun before c after d member => congrArg not (isSeparator_lowerAt before c after d member)) s.toList
  rw [Bool.eq_iff_iff,List.all_eq_true,List.all_eq_true] at inked
  simp only [Bool.not_eq_true'] at inked
  rw [IsWord,lowercase_filled,Text.lowercase,String.toList_ofList,inked,IsWord]

theorem spares_of_words (m : OrderedMap String) (words : ∀ key ∈ m.map (·.1), IsWord key) : SparesSeparators m := by
  apply sparesSeparators_of_keys
  intro key member
  obtain ⟨filled,word⟩ := words key member
  constructor
  · rintro rfl
    exact absurd (word ',' (by simp)) (by simp [isSeparator])
  · intro blank
    obtain ⟨c,inside⟩ := List.exists_mem_of_ne_nil key.toList (by simpa using filled)
    have separator := isSeparator_of_blank c (blank.2 c inside)
    rw [word c inside] at separator
    exact Bool.false_ne_true separator

/-- Where all names are words, a selector that is a name as a whole is replaced alike in both modes, up to the white
space around it, which only matching word by word keeps. A single word that is no name stays in both. -/
theorem modes_agree (m : OrderedMap String) (names : ∀ key ∈ m.map (·.1), IsWord key) (s : String) :
    (Text.lowercase (Text.trimmed s) ∈ m.map (·.1) →
      substitute m .word s = leading s ++ substitute m .exact s ++ trailing s ∧
      m.lookup (Text.lowercase (Text.trimmed s)) = some (substitute m .exact s)) ∧
    (IsWord (Text.trimmed s) → Text.lowercase (Text.trimmed s) ∉ m.map (·.1) →
      substitute m .word s = s ∧ substitute m .exact s = s) := by
  have spares := spares_of_words m names
  constructor
  · intro found
    have word := (isWord_lowercase _).mp (names _ found)
    obtain ⟨query,stands⟩ := OrderedMap.lookup_of_mem m _ found
    have whole : substitute m .exact s = query := by rw [substitute,stands,Option.getD_some]
    refine ⟨?_,by rw [stands,whole]⟩
    rw [substitute_trimmed m spares s word.1,substitute_word m _ word,stands,whole,Option.getD_some]
  · intro word missing
    have absent := (OrderedMap.lookup_none_iff m _).mpr missing
    constructor
    · rw [substitute_trimmed m spares s word.1,substitute_word m _ word,absent,Option.getD_none,trimmed_parts s word.1]
    · rw [substitute,absent,Option.getD_none]

/-- A name in capitals between white space of several kinds. -/
theorem modes_agree_palm :
    let m : OrderedMap String := [("palm", "screen")]
    let s := "\t PALM\u3000"
    (∀ key ∈ m.map (·.1), IsWord key) ∧ Text.lowercase (Text.trimmed s) ∈ m.map (·.1) ∧
      substitute m .exact s = "screen" ∧ substitute m .word s = "\t screen\u3000" := by
  intro m s
  have names : ∀ key ∈ m.map (·.1), IsWord key := by
    intro key member
    obtain rfl : key = "palm" := by simpa [m] using member
    decide +kernel
  have found : Text.lowercase (Text.trimmed s) ∈ m.map (·.1) := by decide +kernel
  have whole : substitute m .exact s = "screen" := by decide +kernel
  refine ⟨names,found,whole,?_⟩
  rw [((modes_agree m names s).1 found).1,whole]
  decide +kernel

end MediaTiers.Selector
