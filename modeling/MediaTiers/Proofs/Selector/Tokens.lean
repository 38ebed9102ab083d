import MediaTiers.Proofs.Attempt
import MediaTiers.Proofs.Selector
import MediaTiers.Proofs.Value.Plain

/-! The tokens of a selector. Every character belongs to one kind of token, and a token goes on as long as its kind does,
except that commas stand alone. This leaves one way only to cut a selector. Where no token is a name, the selector is
put together again as it was, and so it is right not to look at selectors at all where there are no names. -/
namespace MediaTiers.Selector

inductive TokenKind where
  | word
  | comma
  | blank
  deriving DecidableEq, Repr

namespace TokenKind

def Fits : TokenKind → String → Prop
  | .word, t => IsWord t
  | .comma, t => t = ","
  | .blank, t => IsBlankRun t

def ofChar (c : Char) : TokenKind :=
  if c = ',' then .comma else if Text.isBlank c then .blank else .word

theorem ofChar_comma (c : Char) : ofChar c = .comma ↔ c = ',' := by
  unfold ofChar
  split
  next same => simp [same]
  next other => cases Text.isBlank c <;> simp [other]

theorem ofChar_blank (c : Char) : ofChar c = .blank ↔ Text.isBlank c = true := by
  have apart : Text.isBlank ',' = false := by decide
  unfold ofChar
  split
  next same => simp [same,apart]
  next => cases Text.isBlank c <;> simp

theorem ofChar_word (c : Char) : ofChar c = .word ↔ isSeparator c = false := by
  unfold ofChar isSeparator
  split
  next same => simp [same]
  next other => cases Text.isBlank c <;> simp [other]

theorem joins_iff (a b : Char) : joins a b = true ↔ ofChar a = ofChar b ∧ ofChar a ≠ .comma := by
  have blanks : Text.isBlank a = true ∧ Text.isBlank b = true ↔ ofChar a = .blank ∧ ofChar b = .blank := by
    rw [ofChar_blank,ofChar_blank]
  have words : isSeparator a = false ∧ isSeparator b = false ↔ ofChar a = .word ∧ ofChar b = .word := by
    rw [ofChar_word,ofChar_word]
  simp only [joins,Bool.or_eq_true,Bool.and_eq_true,Bool.not_eq_true',blanks,words]
  cases ofChar a <;> cases ofChar b <;> simp

/-- A token is made of characters of its kind, and a comma of a single one. -/
theorem fits_iff (kind : TokenKind) (t : String) :
    kind.Fits t ↔ t.toList ≠ [] ∧ (∀ c ∈ t.toList, ofChar c = kind) ∧ (kind = .comma → t.toList.length = 1) := by
  cases kind with
  | word => simp [Fits,IsWord,ofChar_word]
  | blank => simp [Fits,IsBlankRun,ofChar_blank]
  | comma =>
    rw [Fits,← String.toList_inj]
    simp only [ofChar_comma,true_imp_iff]
    constructor
    · intro comma
      simp [comma]
    · rintro ⟨-,commas,single⟩
      obtain ⟨c,alone⟩ := List.length_eq_one_iff.mp single
      rw [alone,commas c (by simp [alone])]
      rfl

theorem Fits.unique {kind other : TokenKind} {t : String} (fits : kind.Fits t) (again : other.Fits t) :
    kind = other := by
  obtain ⟨filled,first,-⟩ := (fits_iff kind t).mp fits
  obtain ⟨-,second,-⟩ := (fits_iff other t).mp again
  obtain ⟨c,member⟩ := List.exists_mem_of_ne_nil _ filled
  rw [← first c member,second c member]

theorem isChain_iff (c : Char) (cs : List Char) : ((c :: cs).IsChain fun a b => joins a b = true) ↔
    (∀ d ∈ cs, ofChar d = ofChar c) ∧ (ofChar c = .comma → cs = []) := by
  induction cs generalizing c with
  | nil => simp
  | cons d cs ih =>
    rw [List.isChain_cons_cons,ih,joins_iff]
    constructor
    · rintro ⟨⟨same,unlike⟩,rest,-⟩
      refine ⟨List.forall_mem_cons.mpr ⟨same.symm,fun e member => (rest e member).trans same.symm⟩,?_⟩
      exact fun comma => absurd comma unlike
    · rintro ⟨all,alone⟩
      obtain ⟨same,rest⟩ := List.forall_mem_cons.mp all
      have unlike : ofChar c ≠ .comma := fun comma => List.cons_ne_nil _ _ (alone comma)
      refine ⟨⟨same.symm,unlike⟩,fun e member => (rest e member).trans same.symm,?_⟩
      exact fun comma => absurd (same.symm.trans comma) unlike

theorem exists_fits_iff (t : String) :
    (∃ kind : TokenKind, kind.Fits t) ↔ t.toList ≠ [] ∧ t.toList.IsChain fun a b => joins a b = true := by
  simp only [fits_iff]
  cases t.toList with
  | nil => simp
  | cons c cs =>
    rw [isChain_iff]
    simp [and_assoc]

end TokenKind

/-- A way to cut a text into tokens: nothing is lost, every token is of one kind, and of neighbours of one kind both
are commas. -/
structure Splits (s : String) (ts : List String) : Prop where
  joined : String.join ts = s
  each : ∀ t ∈ ts, t ≠ "" ∧ ∃! kind : TokenKind, kind.Fits t
  apart : ts.IsChain fun t u => ∀ kind : TokenKind, kind.Fits t → kind.Fits u → kind = .comma

/-- Tokens of known kinds do not join exactly if the kinds are different or both are commas. -/
theorem boundary_iff {t u : String} (first : ∃ kind : TokenKind, kind.Fits t)
    (second : ∃ kind : TokenKind, kind.Fits u) :
    (∃ ht hu, joins (t.toList.getLast ht) (u.toList.head hu) = false) ↔
      ∀ kind : TokenKind, kind.Fits t → kind.Fits u → kind = .comma := by
  obtain ⟨kind,fits⟩ := first
  obtain ⟨other,fits'⟩ := second
  obtain ⟨ht,left,-⟩ := (kind.fits_iff t).mp fits
  obtain ⟨hu,right,-⟩ := (other.fits_iff u).mp fits'
  have ends := left _ (List.getLast_mem ht)
  have starts := right _ (List.head_mem hu)
  have told := TokenKind.joins_iff (t.toList.getLast ht) (u.toList.head hu)
  rw [ends,starts] at told
  simp only [ht,hu,not_false_eq_true,exists_true_left,ne_eq,← Bool.not_eq_true,told]
  constructor
  · intro apart kind' one two
    obtain rfl := one.unique fits
    by_contra unlike
    exact apart ⟨two.unique fits',unlike⟩
  · rintro commas ⟨rfl,unlike⟩
    exact unlike (commas kind fits fits')

theorem tokens_eq_iff (s : String) (ts : List String) :
    tokens s = ts ↔ s.toList.splitBy joins = ts.map String.toList := by
  rw [tokens_eq]
  constructor
  · rintro rfl
    simp [Function.comp_def]
  · intro same
    simp [same,Function.comp_def]

/-- There is one way only to cut a text into tokens. -/
theorem splits_iff (s : String) (ts : List String) : Splits s ts ↔ ts = tokens s := by
  rw [eq_comm,tokens_eq_iff,List.splitBy_eq_iff,List.isChain_map]
  have whole : String.join ts = s ↔ s.toList = (ts.map String.toList).flatten := by
    rw [← String.toList_inj,String.toList_join,List.flatMap_def,eq_comm]
  have kinds : (∀ t ∈ ts, t ≠ "" ∧ ∃! kind : TokenKind, kind.Fits t) ↔ ∀ t ∈ ts, ∃ kind : TokenKind, kind.Fits t := by
    refine forall₂_congr fun t _ => ⟨fun held => held.2.exists,?_⟩
    rintro ⟨kind,fits⟩
    have filled := ((kind.fits_iff t).mp fits).1
    exact ⟨by simpa using filled,kind,fits,fun other again => again.unique fits⟩
  have runs : (∀ t ∈ ts, ∃ kind : TokenKind, kind.Fits t) ↔ [] ∉ ts.map String.toList ∧
      ∀ run ∈ ts.map String.toList, run.IsChain fun a b => joins a b = true := by
    rw [List.forall_mem_map]
    simp only [TokenKind.exists_fits_iff,forall₂_and,List.mem_map,not_exists,not_and,ne_eq]
  rw [← whole,← and_assoc (a := [] ∉ _),← runs]
  constructor
  · rintro ⟨joined,each,apart⟩
    have each := kinds.mp each
    refine ⟨joined,each,apart.imp_of_mem_imp ?_⟩
    intro t u first second
    exact (boundary_iff (each t first) (each u second)).mpr
  · rintro ⟨joined,each,apart⟩
    refine ⟨joined,kinds.mpr each,apart.imp_of_mem_imp ?_⟩
    intro t u first second
    exact (boundary_iff (each t first) (each u second)).mp

theorem substitute_unnamed (m : OrderedMap String) (s : String)
    (unnamed : ∀ t ∈ tokens s, Text.lowercase t ∉ m.map (·.1)) : substitute m .word s = s := by
  have kept : (tokens s).map (replace m) = tokens s := by
    nth_rewrite 2 [← List.map_id (tokens s)]
    apply List.map_congr_left
    intro t member
    rw [replace,(OrderedMap.lookup_none_iff m _).mpr (unnamed t member)]
    rfl
  rw [substitute,kept]
  exact ((splits_iff s (tokens s)).mpr rfl).joined

/-- Selectors one after another, each compared with what becomes of it. -/
def substituteEach (m : OrderedMap String) (mode : MatchMode) : List Value → Except Failure (List Value × Nat)
  | [] => return ([], 0)
  | v :: vs => do
    let replaced ← substituteValue m mode v
    let (rest, changed) ← substituteEach m mode vs
    return (replaced :: rest, if differs v replaced then changed + 1 else changed)

theorem substituteAll_named (m : OrderedMap String) (mode : MatchMode) (vs : List Value) (named : m ≠ []) :
    substituteAll m mode vs = substituteEach m mode vs := by
  have each : (vs.mapM (substituteValue m mode) >>= fun replaced =>
      pure (replaced, (vs.zip replaced).countP fun pair => differs pair.1 pair.2)) = substituteEach m mode vs := by
    induction vs with
    | nil => rfl
    | cons v vs ih =>
      rw [List.mapM_cons,substituteEach,← ih]
      cases substituteValue m mode v with
      | error failure => rfl
      | ok replaced =>
        cases vs.mapM (substituteValue m mode) with
        | error failure => rfl
        | ok rest => cases told : differs v replaced <;> simp [told]
  have looks : m.isEmpty = false := by simpa using named
  rw [← each,substituteAll,looks]
  rfl

theorem substitute_nothing (mode : MatchMode) (s : String) : substitute [] mode s = s := by
  cases mode with
  | exact => rfl
  | word => exact substitute_unnamed [] s (by simp)

theorem substituteEach_nothing (mode : MatchMode) (texts : List String) :
    substituteEach [] mode (texts.map .text) = .ok (texts.map .text, 0) := by
  induction texts with
  | nil => rfl
  | cons text texts ih =>
    rw [List.map_cons,substituteEach,ih,substituteValue,substitute_nothing]
    simp [differs,Value.same_text]

/-- The tokens of a selector are the only way to cut it into runs of white space, commas and words. A selector without
names stays as it is, so that passing over all selectors where there are no names gives what looking at each of them
would give. -/
theorem tokens_unique_split (s : String) :
    (∀ ts, Splits s ts ↔ ts = tokens s) ∧
    (∀ m : OrderedMap String, (∀ t ∈ tokens s, Text.lowercase t ∉ m.map (·.1)) → substitute m .word s = s) ∧
    (∀ m mode vs, m ≠ [] → substituteAll m mode vs = substituteEach m mode vs) ∧
    ∀ mode (texts : List String), substituteAll [] mode (texts.map .text) = .ok (texts.map .text, 0) ∧
      substituteEach [] mode (texts.map .text) = .ok (texts.map .text, 0) := by
  refine ⟨splits_iff s,?_,substituteAll_named,?_⟩
  · intro m unnamed
    exact substitute_unnamed m s unnamed
  · intro mode texts
    exact ⟨rfl,substituteEach_nothing mode texts⟩

/-- A name in capitals that the map does not have, white space of two kinds, and two commas. -/
theorem tokens_unique_split_commas :
    let s := "PALM\u3000\t,,tab"
    let m : OrderedMap String := [("palm-and-up", "print")]
    Splits s ["PALM", "\u3000\t", ",", ",", "tab"] ∧ (∀ t ∈ tokens s, Text.lowercase t ∉ m.map (·.1)) ∧
      substitute m .word s = s := by
  intro s m
  obtain ⟨unique,unnamed,-⟩ := tokens_unique_split s
  have cut : tokens s = ["PALM", "\u3000\t", ",", ",", "tab"] := by cbv
  have free : ∀ t ∈ tokens s, Text.lowercase t ∉ m.map (·.1) := by
    rw [cut]
    decide +kernel
  exact ⟨(unique _).mpr cut.symm,free,unnamed m free⟩

end MediaTiers.Selector
