import MediaTiers.Declaration
import MediaTiers.Proofs.Attempt
import MediaTiers.Proofs.Decimal.Writing
import MediaTiers.Proofs.Text.Lowercase

/-! How the value of a breakpoint is read. A type word is found without regard to letter case, and its kind is then
looked up by the lower-case form. The two agree but for the word `min` with a foreign i, which
matches although its lower-case form names no kind: just these values cannot be read. -/
namespace MediaTiers

namespace Text

theorem eq_of_toLower (c letter : Char) (same : c.toLower = letter) : c = letter ∨ c = letter.toUpper := by
  by_cases capital : c.isUpper = true
  · right
    rw [← same,Char.toUpper_toLower_eq_toUpper,Char.toUpper_eq_of_not_isLower (Char.not_isLower_of_isUpper capital)]
  · left
    rw [← same,Char.toLower_eq_of_not_isUpper capital]

theorem lowerAt_ascii (before : List Char) (c : Char) (after : List Char) (ascii : c.toLower.toNat < 0x80) :
    lowerAt before c after = [c.toLower] := by
  have small : c.toNat < 0x80 := by
    by_cases capital : c.isUpper = true
    · have range := (isUpper_iff c).mp capital
      omega
    · rwa [Char.toLower_eq_of_not_isUpper capital] at ascii
  have sigma : c ≠ 'Σ' := by
    rintro rfl
    revert small
    decide
  have dotted : c ≠ 'İ' := by
    rintro rfl
    revert small
    decide
  simp [lowerAt,sigma,dotted,lowerChar,small]

theorem lowercase_ascii (cs : List Char) (ascii : ∀ c ∈ cs, c.toLower.toNat < 0x80) :
    lowercase (String.ofList cs) = String.ofList (cs.map Char.toLower) := by
  have forward (before : List Char) : lowerFrom before cs = cs.map Char.toLower := by
    induction cs generalizing before with
    | nil => rfl
    | cons c cs ih =>
      rw [lowerFrom,lowerAt_ascii before c cs (ascii c (by simp)),ih (fun d member => ascii d (by simp [member]))]
      rfl
  rw [lowercase,lower,String.toList_ofList,forward]

theorem spells_iff (word : String) (cs : List Char) :
    spells word cs = true ↔ List.Forall₂ (fun letter c => isFormOf letter c = true) word.toList cs := by
  have matched (letters : List Char) (cs : List Char) :
      after? letters cs = some [] ↔ List.Forall₂ (fun letter c => isFormOf letter c = true) letters cs := by
    induction letters generalizing cs with
    | nil => simp [after?]
    | cons letter letters ih =>
      cases cs with
      | nil => simp [after?]
      | cons c cs =>
        by_cases form : isFormOf letter c = true
        · simp [after?,form,ih]
        · simp [after?,form]
  rw [spells,beq_iff_eq,matched]

end Text

/-- The word `min` with an i that matches one without regard to letter case, but has another lower-case form. -/
def isForeignMin : List Char → Bool
  | [m, i, n] => m.toLower == 'm' && (i == 'ı' || i == 'İ') && n.toLower == 'n'
  | _ => false

theorem isForeignMin_iff (word : List Char) : isForeignMin word = true ↔
    ∃ m i n, word = [m, i, n] ∧ m.toLower = 'm' ∧ (i = 'ı' ∨ i = 'İ') ∧ n.toLower = 'n' := by
  unfold isForeignMin
  split <;> simp_all [and_assoc]

theorem isType_iff (word : List Char) : isType word = true ↔
    isForeignMin word = true ∨ ∃ a b c, word = [a, b, c] ∧ a.toLower = 'm' ∧
      (b.toLower = 'i' ∧ c.toLower = 'n' ∨ b.toLower = 'a' ∧ c.toLower = 'x') := by
  have letters : "min".toList = ['m', 'i', 'n'] ∧ "max".toList = ['m', 'a', 'x'] := ⟨rfl,rfl⟩
  rw [isForeignMin_iff,isType,Bool.or_eq_true,Text.spells_iff,Text.spells_iff,letters.1,letters.2]
  simp only [List.forall₂_cons_left_iff,List.forall₂_nil_left_iff,Text.isFormOf]
  constructor
  · rintro (⟨a,_,first,⟨b,_,second,⟨c,_,third,rfl,rfl⟩,rfl⟩,rfl⟩ | ⟨a,_,first,⟨b,_,second,⟨c,_,third,rfl,rfl⟩,rfl⟩,rfl⟩)
    · have m : a.toLower = 'm' := by simpa using first
      have n : c.toLower = 'n' := by simpa using third
      have i : b.toLower = 'i' ∨ b = 'ı' ∨ b = 'İ' := by simpa using second
      rcases i with plain | foreign
      · exact .inr ⟨a,b,c,rfl,m,.inl ⟨plain,n⟩⟩
      · exact .inl ⟨a,b,c,rfl,m,foreign,n⟩
    · exact .inr ⟨a,b,c,rfl,by simpa using first,.inr ⟨by simpa using second,by simpa using third⟩⟩
  · rintro (⟨a,b,c,rfl,m,foreign,n⟩ | ⟨a,b,c,rfl,m,⟨i,n⟩ | ⟨a',x⟩⟩)
    · left
      simp [m,n,foreign]
    · left
      simp [m,n,i]
    · right
      simp [m,a',x]

/-- A type word names its kind by its lower-case form, unless its i is foreign. -/
theorem kind_of_isType (word : List Char) (type : isType word = true) (native : isForeignMin word = false) :
    ∃ kind, kind ≠ .custom ∧ Kind.ofName (Text.lowercase (String.ofList word)) = .ok kind := by
  rcases (isType_iff word).mp type with foreign | ⟨a,b,c,rfl,m,⟨i,n⟩ | ⟨a',x⟩⟩
  · simp [native] at foreign
  · refine ⟨.min,by decide,?_⟩
    rw [Text.lowercase_ascii _ (by simp [m,i,n])]
    simp only [List.map_cons,List.map_nil,m,i,n]
    rfl
  · refine ⟨.max,by decide,?_⟩
    rw [Text.lowercase_ascii _ (by simp [m,a',x])]
    simp only [List.map_cons,List.map_nil,m,a',x]
    rfl

theorem kind_of_isForeignMin (word : List Char) (foreign : isForeignMin word = true) :
    ∃ shown, Kind.ofName (Text.lowercase (String.ofList word)) = .error (.unknownName .kind shown) := by
  obtain ⟨m,i,n,rfl,first,middle,last⟩ := (isForeignMin_iff word).mp foreign
  rw [Text.lowercase,String.toList_ofList]
  simp only [Text.lower,Text.lowerFrom,Text.lowerAt_ascii _ m _ (by rw [first]; decide),
    Text.lowerAt_ascii _ n _ (by rw [last]; decide),first,last]
  -- The dotless i is in lower case already, and the dotted one has two characters.
  rcases middle with rfl | rfl
  · have kept : Text.lowerAt [m] 'ı' [n] = ['ı'] :=
      Text.isLower_of_unlisted 'ı' (by decide +kernel) (by decide) _ _
    rw [kept]
    exact ⟨_,rfl⟩
  · have split : Text.lowerAt [m] 'İ' [n] = ['i', '\u0307'] := rfl
    rw [split]
    exact ⟨_,rfl⟩

theorem pointOf_of_isType (word : List Char) (type : isType word = true) : pointOf? word = none := by
  have first : ∃ m rest, word = m :: rest ∧ m.toLower = 'm' := by
    rcases (isType_iff word).mp type with foreign | ⟨a,b,c,rfl,m,-⟩
    · obtain ⟨m,i,n,rfl,same,-⟩ := (isForeignMin_iff word).mp foreign
      exact ⟨m,[i, n],rfl,same⟩
    · exact ⟨a,[b, c],rfl,m⟩
  obtain ⟨m,rest,rfl,same⟩ := first
  -- A point starts with a digit or a decimal point.
  have unread : splitNumeral? (m :: rest) = none := by
    rcases Text.eq_of_toLower m 'm' same with rfl | rfl
    · rfl
    · rfl
  rw [pointOf?,unread]
  rfl

namespace Reading

theorem ofPair_ok (type : List Char) (value : Decimal) (unit : LengthUnit) (typeWord : isType type = true)
    (native : isForeignMin type = false) :
    ∃ kind, kind ≠ .custom ∧ ofPair type value unit = .ok (.point kind value unit) := by
  obtain ⟨kind,typed,named⟩ := kind_of_isType type typeWord native
  exact ⟨kind,typed,by rw [ofPair,named]; rfl⟩

theorem ofPair_error (type : List Char) (value : Decimal) (unit : LengthUnit) (foreign : isForeignMin type = true) :
    ∃ shown, ofPair type value unit = .error (.unknownName .kind shown) := by
  obtain ⟨shown,unknown⟩ := kind_of_isForeignMin type foreign
  exact ⟨shown,by rw [ofPair,unknown]; rfl⟩

/-- The words are a type and a point, in either order. -/
def Pairs (parts : List (List Char)) (type : List Char) (value : Decimal) (unit : LengthUnit) : Prop :=
  isType type = true ∧ ∃ word, pointOf? word = some (value, unit) ∧ (parts = [type, word] ∨ parts = [word, type])

theorem ofText_pair (cs type : List Char) (value : Decimal) (unit : LengthUnit)
    (pair : Pairs (Text.words cs) type value unit) : ofText cs = ofPair type value unit := by
  obtain ⟨typed,word,read,order⟩ := pair
  have unread := pointOf_of_isType type typed
  unfold ofText
  rcases order with parts | parts
  · simp [parts,typed,ofTwo,read]
  · simp [parts,typed,ofTwo,read,unread]

theorem ofText_cases (cs : List Char) :
    (∃ type value unit, Pairs (Text.words cs) type value unit) ∨
      ofText cs = .ok .query ∨ ∃ fault, ofText cs = .ok (.malformed fault (String.ofList cs)) := by
  unfold ofText
  simp only
  split
  next =>
    split
    next first second parts =>
      unfold ofTwo
      split
      next value unit typed read => exact .inl ⟨first,value,unit,typed,second,read,.inl parts⟩
      next =>
        split
        next value unit typed read => exact .inl ⟨second,value,unit,typed,first,read,.inr parts⟩
        next => exact .inr (.inr ⟨.pair,rfl⟩)
    next => exact .inr (.inr ⟨.format,rfl⟩)
  next => exact .inr (.inl rfl)

/-- The text pairs a point with the word `min` in foreign letters. -/
def PairsForeign (cs : List Char) : Prop :=
  ∃ type value unit, Pairs (Text.words cs) type value unit ∧ isForeignMin type = true

theorem ofText_foreign (cs : List Char) (foreign : PairsForeign cs) :
    ∃ shown, ofText cs = .error (.unknownName .kind shown) := by
  obtain ⟨type,value,unit,pair,foreign⟩ := foreign
  rw [ofText_pair cs type value unit pair]
  exact ofPair_error type value unit foreign

/-- Any other text can be read, and a point it reads as is one of its words. -/
theorem ofText_native (cs : List Char) (native : ¬PairsForeign cs) :
    ofText cs = .ok .query ∨ (∃ fault, ofText cs = .ok (.malformed fault (String.ofList cs))) ∨
      ∃ kind value unit, ofText cs = .ok (.point kind value unit) ∧ kind ≠ .custom ∧
        ∃ word ∈ Text.words cs, pointOf? word = some (value, unit) := by
  rcases ofText_cases cs with ⟨type,value,unit,pair⟩ | query | malformed
  · have same := ofText_pair cs type value unit pair
    cases foreign : isForeignMin type with
    | true => exact absurd ⟨type,value,unit,pair,foreign⟩ native
    | false =>
      obtain ⟨kind,typed,paired⟩ := ofPair_ok type value unit pair.1 foreign
      obtain ⟨-,word,point,order⟩ := pair
      have member : word ∈ Text.words cs := by
        rcases order with parts | parts <;> simp [parts]
      exact .inr (.inr ⟨kind,value,unit,same.trans paired,typed,word,member,point⟩)
  · exact .inl query
  · exact .inr (.inl malformed)

end Reading

namespace Text

theorem digitValue_lt (c : Char) : (digitValue? c).getD 0 < 10 := by
  unfold digitValue?
  cases found : digitZeros.find? fun start => start ≤ c.toNat && c.toNat < start + 10 with
  | none => simp
  | some start =>
    have range : start ≤ c.toNat ∧ c.toNat < start + 10 := by simpa using List.find?_some found
    simp only [Option.map_some,Option.getD_some]
    omega

theorem numberOf_lt (cs : List Char) : numberOf cs < 10 ^ cs.length := by
  induction cs using List.reverseRecOn with
  | nil => decide
  | append_singleton cs c ih =>
    have last : numberOf [c] < 10 := by simpa [numberOf] using digitValue_lt c
    rw [numberOf_append,List.length_append,pow_add]
    simp only [List.length_singleton,pow_one]
    omega

theorem trim_infix (cs : List Char) : trim cs <:+: cs := by
  unfold trim trimBy
  have right : ((cs.dropWhile isBlank).reverse.dropWhile isBlank).reverse <+: cs.dropWhile isBlank := by
    rw [← List.reverse_suffix,List.reverse_reverse]
    exact List.dropWhile_suffix _
  exact right.isInfix.trans (List.dropWhile_suffix _).isInfix

theorem word_infix (cs word : List Char) (member : word ∈ words cs) : word <:+: cs := by
  have run := List.mem_of_mem_filter member
  obtain ⟨before,after,split⟩ := List.append_of_mem run
  have whole := List.flatten_splitBy (fun a b => isBlank a == isBlank b) cs
  rw [split,List.flatten_append,List.flatten_cons] at whole
  exact ⟨before.flatten,after.flatten,by rw [← whole,List.append_assoc]⟩

end Text

theorem splitNumeral_whole (cs whole fraction rest : List Char)
    (read : splitNumeral? cs = some (whole, fraction, rest)) : whole = cs.takeWhile Text.isDigit := by
  unfold splitNumeral? at read
  simp only at read
  split at read
  · split at read
    · cases read
    · simp only [Option.some.injEq,Prod.mk.injEq] at read
      exact read.1.symm
  · split at read
    · cases read
    · simp only [Option.some.injEq,Prod.mk.injEq] at read
      exact read.1.symm

/-- A point lies below the power of ten with as many zeros as it has digits before its decimal point. -/
theorem pointOf_lt (word : List Char) (value : Decimal) (unit : LengthUnit)
    (read : pointOf? word = some (value, unit)) :
    |value.rational| < 10 ^ (word.takeWhile Text.isDigit).length := by
  unfold pointOf? at read
  simp only [Option.bind_eq_bind,Option.bind_eq_some_iff,Option.pure_def,Option.some.injEq,Prod.mk.injEq] at read
  obtain ⟨⟨whole,fraction,rest⟩,split,_,-,rfl,-⟩ := read
  have digits : (Text.numberOf (whole ++ fraction) : ℚ) < 10 ^ (whole.length + fraction.length) := by
    rw [← List.length_append]
    exact_mod_cast Text.numberOf_lt (whole ++ fraction)
  rw [Decimal.abs_rational,← splitNumeral_whole _ _ _ _ split,Decimal.magnitude,zpow_neg,zpow_natCast,← div_eq_mul_inv,
    div_lt_iff₀ (by positivity),← pow_add]
  exact digits

/-- No row of digits in the text is a thousand long. -/
def HasBriefNumerals (cs : List Char) : Prop :=
  ∀ run, run <:+: cs → (∀ c ∈ run, Text.isDigit c = true) → run.length < 1000

theorem HasBriefNumerals.of_length {cs : List Char} (short : cs.length < 1000) : HasBriefNumerals cs :=
  fun _ inside _ => inside.length_le.trans_lt short

theorem HasBriefNumerals.point_lt {cs word : List Char} (brief : HasBriefNumerals cs) (inside : word <:+: cs)
    (value : Decimal) (unit : LengthUnit) (read : pointOf? word = some (value, unit)) :
    |value.rational| < 10 ^ 1000 := by
  have whole := (List.takeWhile_prefix Text.isDigit (l := word)).isInfix.trans inside
  have few := brief _ whole fun c member => List.mem_takeWhile_imp member
  exact (pointOf_lt word value unit read).trans (pow_lt_pow_right₀ (by norm_num) few)

end MediaTiers
