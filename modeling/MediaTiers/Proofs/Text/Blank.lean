import MediaTiers.Text.Basic
import Mathlib.Data.List.SplitBy
import Mathlib.Data.List.DropRight

/-! White space around a text and between its words. What trimming takes off stands before and after what it leaves,
and the words are just those that give the text back when white space is put around and between them. -/
namespace MediaTiers.Text

def AllBlank (cs : List Char) : Prop :=
  ∀ c ∈ cs, isBlank c = true

def IsSolid (w : List Char) : Prop :=
  w ≠ [] ∧ ∀ c ∈ w, isBlank c = false

theorem allBlank_takeWhile (cs : List Char) : AllBlank (cs.takeWhile isBlank) :=
  fun _ => List.mem_takeWhile_imp

theorem allBlank_rtakeWhile (cs : List Char) : AllBlank (cs.rtakeWhile isBlank) :=
  fun _ => List.mem_rtakeWhile_imp

/-- A text is what trimming leaves of it, between the white space at its ends. -/
theorem trim_parts (cs : List Char) (filled : trim cs ≠ []) :
    cs.takeWhile isBlank ++ trim cs ++ cs.rtakeWhile isBlank = cs := by
  have whole : trim cs ++ (cs.dropWhile isBlank).rtakeWhile isBlank = cs.dropWhile isBlank :=
    List.rdropWhile_append_rtakeWhile
  have stops : ((cs.dropWhile isBlank).reverse.takeWhile isBlank).length ≠ (cs.dropWhile isBlank).reverse.length := by
    intro all
    have size := congrArg List.length whole
    simp only [List.length_append,List.rtakeWhile,List.length_reverse] at size all
    exact filled (List.eq_nil_of_length_eq_zero (by omega))
  have back : cs.rtakeWhile isBlank = (cs.dropWhile isBlank).rtakeWhile isBlank := by
    nth_rewrite 1 [← List.takeWhile_append_dropWhile (p := isBlank) (l := cs)]
    rw [List.rtakeWhile,List.reverse_append,List.takeWhile_append,if_neg stops,List.rtakeWhile]
  rw [back,List.append_assoc,whole,List.takeWhile_append_dropWhile]

theorem trim_of_ends (cs : List Char) (starts : ∀ c ∈ cs.head?, isBlank c = false)
    (ends : ∀ c ∈ cs.getLast?, isBlank c = false) : trim cs = cs := by
  have front : cs.dropWhile isBlank = cs := by
    cases cs with
    | nil => rfl
    | cons c cs => simp [starts c (by simp)]
  have back : cs.rdropWhile isBlank = cs := by
    rw [List.rdropWhile_eq_self_iff]
    intro filled
    simp [ends _ (List.getLast?_eq_getLast_of_ne_nil filled)]
  have whole : trim cs = (cs.dropWhile isBlank).rdropWhile isBlank := rfl
  rw [whole,front,back]

theorem words_append (l r : List Char) (apart : ∀ x ∈ l.getLast?, ∀ y ∈ r.head?, isBlank x ≠ isBlank y) :
    words (l ++ r) = words l ++ words r := by
  have cut := List.splitBy_append (r := fun a b => isBlank a == isBlank b) fun x last y first =>
    beq_eq_false_iff_ne.mpr (apart x last y first)
  rw [words,cut,List.filter_append,words,words]

theorem words_blank (cs : List Char) (blank : AllBlank cs) : words cs = [] := by
  rw [words,List.filter_eq_nil_iff]
  intro run member
  have inside : ∀ c ∈ run, c ∈ cs := by
    intro c listed
    rw [← List.flatten_splitBy (fun a b => isBlank a == isBlank b) cs]
    exact List.mem_flatten_of_mem member listed
  simpa using fun c listed => blank c (inside c listed)

theorem words_solid (w : List Char) (solid : IsSolid w) : words w = [w] := by
  have whole : w.splitBy (fun a b => isBlank a == isBlank b) = [w] := by
    apply List.splitBy_of_isChain solid.1
    apply List.Pairwise.isChain
    apply List.pairwise_of_forall_mem_list
    intro a first b second
    simp [solid.2 a first,solid.2 b second]
  obtain ⟨c,member⟩ := List.exists_mem_of_ne_nil w solid.1
  have inked : w.all isBlank = false := List.all_eq_false.mpr ⟨c,member,by simp [solid.2 c member]⟩
  simp [words,whole,inked]

/-- The words in order, with white space between them and perhaps around them. -/
inductive Spaced : List (List Char) → List Char → Prop
  | blank (cs : List Char) (blank : AllBlank cs) : Spaced [] cs
  | word (before w rest : List Char) (ws : List (List Char)) (leads : AllBlank before) (solid : IsSolid w)
      (stops : ∀ c ∈ rest.head?, isBlank c = true) (later : Spaced ws rest) : Spaced (w :: ws) (before ++ w ++ rest)

theorem Spaced.words_eq {ws : List (List Char)} {cs : List Char} (spaced : Spaced ws cs) : words cs = ws := by
  induction spaced with
  | blank cs blank => exact words_blank cs blank
  | word before w rest ws leads solid stops _ ih =>
    rw [words_append,words_append,words_blank before leads,words_solid w solid,ih]
    · rfl
    · intro x last y first
      rw [leads x (List.mem_of_getLast? last),solid.2 y (List.mem_of_mem_head? first)]
      exact Bool.false_ne_true.symm
    · intro x last y first
      rw [List.getLast?_append_of_ne_nil _ solid.1] at last
      rw [stops y first,solid.2 x (List.mem_of_getLast? last)]
      exact Bool.false_ne_true

theorem exists_spaced (cs : List Char) : ∃ ws, Spaced ws cs := by
  -- The induction is on the length: what comes after the first word is shorter.
  induction size : cs.length using Nat.strong_induction_on generalizing cs with
  | _ n shorter =>
    cases inked : cs.dropWhile isBlank with
    | nil => exact ⟨[],.blank cs (List.dropWhile_eq_nil_iff.mp inked)⟩
    | cons c rest =>
      have starts : isBlank c = false := by
        have head := List.head?_dropWhile_not isBlank cs
        rwa [inked] at head
      have parts : cs.takeWhile isBlank ++ (c :: rest) = cs := by
        rw [← inked,List.takeWhile_append_dropWhile]
      have word : (c :: rest).takeWhile (!isBlank ·) = c :: rest.takeWhile (!isBlank ·) := by simp [starts]
      have tail : (c :: rest).dropWhile (!isBlank ·) = rest.dropWhile (!isBlank ·) := by simp [starts]
      obtain ⟨ws,later⟩ := shorter (rest.dropWhile (!isBlank ·)).length (by
        have shrinks := (List.dropWhile_suffix (l := rest) (!isBlank ·)).length_le
        rw [← parts,List.length_append,List.length_cons] at size
        omega) (rest.dropWhile (!isBlank ·)) rfl
      refine ⟨(c :: rest.takeWhile (!isBlank ·)) :: ws,?_⟩
      rw [← parts,← List.takeWhile_append_dropWhile (p := (!isBlank ·)) (l := c :: rest),word,tail,← List.append_assoc]
      apply Spaced.word _ _ _ _ (allBlank_takeWhile cs) _ _ later
      · refine ⟨List.cons_ne_nil _ _,List.forall_mem_cons.mpr ⟨starts,?_⟩⟩
        intro d member
        simpa using List.mem_takeWhile_imp member
      · intro d first
        have head := List.head?_dropWhile_not (!isBlank ·) rest
        rw [first] at head
        simpa using head

theorem words_eq_iff (cs : List Char) (ws : List (List Char)) : words cs = ws ↔ Spaced ws cs := by
  constructor
  · rintro rfl
    obtain ⟨ws,spaced⟩ := exists_spaced cs
    rw [spaced.words_eq]
    exact spaced
  · exact Spaced.words_eq

/-- Two words are all of a text exactly if white space stands between them, and nothing else around them. -/
theorem words_pair_iff (cs first second : List Char) : words cs = [first, second] ↔
    IsSolid first ∧ IsSolid second ∧ ∃ before gap after, cs = before ++ first ++ gap ++ second ++ after ∧
      AllBlank before ∧ AllBlank gap ∧ gap ≠ [] ∧ AllBlank after := by
  rw [words_eq_iff]
  constructor
  · intro spaced
    cases spaced with
    | word before _ rest _ leads solid stops later => cases later with
      | word gap _ after _ between other _ ends => cases ends with
        | blank _ blank =>
          refine ⟨solid,other,before,gap,after,by simp only [List.append_assoc],leads,between,?_,blank⟩
          -- Without a gap the first word would go on into the second.
          rintro rfl
          obtain ⟨c,tail,rfl⟩ := List.exists_cons_of_ne_nil other.1
          have head := stops c (by simp)
          rw [other.2 c (by simp)] at head
          exact Bool.false_ne_true head
  · rintro ⟨solid,other,before,gap,after,rfl,leads,between,apart,blank⟩
    have ends : ∀ c ∈ after.head?, isBlank c = true := fun c head => blank c (List.mem_of_mem_head? head)
    have stops : ∀ c ∈ (gap ++ second ++ after).head?, isBlank c = true := by
      rw [List.append_assoc,List.head?_append_of_ne_nil _ apart]
      exact fun c head => between c (List.mem_of_mem_head? head)
    have last : Spaced [second] (gap ++ second ++ after) :=
      .word gap second after [] between other ends (.blank after blank)
    have both := Spaced.word before first (gap ++ second ++ after) [second] leads solid stops last
    simpa only [List.append_assoc] using both

end MediaTiers.Text
