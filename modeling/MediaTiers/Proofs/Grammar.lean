import MediaTiers.Proofs.Registry.Declare
import MediaTiers.Proofs.Text.Blank
import MediaTiers.Proofs.Text.Folding

/-! The grammar of a point. A value in ASCII reads as a point exactly if it is a type and a point token, in either
order and with white space between them; it is a query if none of its tokens is one of the two, and malformed
otherwise. -/
namespace MediaTiers

def IsAscii (cs : List Char) : Prop :=
  ∀ c ∈ cs, c.toNat < 0x80

namespace Text

theorem isFormOf_ascii (letter c : Char) (ascii : c.toNat < 0x80) : isFormOf letter c = (c.toLower == letter) := by
  have foreign (d : Char) (large : 0x80 ≤ d.toNat) : (c == d) = false := by
    rw [beq_eq_false_iff_ne]
    rintro rfl
    omega
  simp only [isFormOf,foreign 'ſ' (by decide),foreign '\u212A' (by decide),foreign 'ı' (by decide),
    foreign 'İ' (by decide),Bool.or_false,Bool.and_false]

theorem spells_ascii (word : String) (cs : List Char) (ascii : IsAscii cs) :
    spells word cs = true ↔ fold cs = word.toList := by
  rw [spells_iff,fold]
  generalize word.toList = letters
  induction cs generalizing letters with
  | nil => cases letters <;> simp
  | cons c cs ih =>
    obtain ⟨first,rest⟩ := List.forall_mem_cons.mp ascii
    cases letters with
    | nil => simp
    | cons letter letters => simp [isFormOf_ascii letter c first,ih rest]

theorem digitValue_ascii (c : Char) (ascii : c.toNat < 0x80) :
    digitValue? c = if c.isDigit then some (c.toNat - '0'.toNat) else none := by
  have large : ∀ start ∈ digitZeros.tail, 0x80 ≤ start := by decide
  have missed : (digitZeros.tail.find? fun start => start ≤ c.toNat && c.toNat < start + 10) = none := by
    rw [List.find?_eq_none]
    intro start member
    have beyond := large start member
    simp
    omega
  have zeros : digitZeros = '0'.toNat :: digitZeros.tail := rfl
  have range : c.isDigit = ('0'.toNat ≤ c.toNat && c.toNat < '0'.toNat + 10) := by
    rw [Bool.eq_iff_iff,Char.isDigit_iff_toNat]
    simp
    omega
  rw [digitValue?,zeros,List.find?_cons,← range,missed]
  cases c.isDigit <;> rfl

theorem isDigit_ascii (c : Char) (ascii : c.toNat < 0x80) : isDigit c = c.isDigit := by
  rw [isDigit,digitValue_ascii c ascii]
  cases c.isDigit <;> rfl

theorem ascii_of_isDigit (c : Char) (digit : c.isDigit = true) : c.toNat < 0x80 := by
  have range : c.toNat ≤ 57 := (Char.isDigit_iff_toNat.mp digit).2
  omega

theorem numberOf_ascii (cs : List Char) (digits : ∀ c ∈ cs, c.isDigit = true) :
    numberOf cs = Nat.ofDigitChars 10 cs 0 := by
  apply List.foldl_ext
  intro total c member
  rw [digitValue_ascii c (ascii_of_isDigit c (digits c member)),digits c member]
  rfl

theorem isSolid_of_fold (cs : List Char) (word : String) (spelled : fold cs = word.toList)
    (solid : IsSolid word.toList) : IsSolid cs := by
  refine ⟨?_,?_⟩
  · rintro rfl
    exact solid.1 spelled.symm
  · intro c member
    rw [← isBlank_toLower]
    exact solid.2 c.toLower (spelled ▸ List.mem_map_of_mem member)

end Text

/-- How a number without a sign is written and what it denotes: digits, perhaps with a decimal point after them and
more digits after that, or a decimal point with digits after it. -/
inductive Numeral : List Char → Decimal → Prop
  | whole (ds : List Char) (filled : ds ≠ []) (digits : ∀ d ∈ ds, d.isDigit = true) :
      Numeral ds (.finite false (Nat.ofDigitChars 10 ds 0) 0)
  | pointed (ds es : List Char) (filled : ds ≠ []) (digits : ∀ d ∈ ds ++ es, d.isDigit = true) :
      Numeral (ds ++ '.' :: es) (.finite false (Nat.ofDigitChars 10 (ds ++ es) 0) (-es.length))
  | fraction (es : List Char) (filled : es ≠ []) (digits : ∀ e ∈ es, e.isDigit = true) :
      Numeral ('.' :: es) (.finite false (Nat.ofDigitChars 10 es 0) (-es.length))

def TypeToken (cs : List Char) (kind : Kind) : Prop :=
  (kind = .min ∨ kind = .max) ∧ Text.fold cs = kind.name.toList

/-- A numeral with a unit directly after it, in any letter case. -/
def PointToken (cs : List Char) (value : Decimal) (unit : LengthUnit) : Prop :=
  ∃ numeral letters, cs = numeral ++ letters ∧ Numeral numeral value ∧ Text.fold letters = unit.name.toList

/-- A token that shows that the value is meant as a point. -/
def Meant (token : List Char) : Prop :=
  (∃ kind, TypeToken token kind) ∨ ∃ value unit, PointToken token value unit

/-- A type and a point in either order, with white space between them and perhaps around them. -/
inductive TypedPoint (kind : Kind) (value : Decimal) (unit : LengthUnit) : List Char → Prop
  | intro (before first gap second after : List Char) (leads : Text.AllBlank before) (between : Text.AllBlank gap)
      (apart : gap ≠ []) (ends : Text.AllBlank after)
      (order : TypeToken first kind ∧ PointToken second value unit ∨
        PointToken first value unit ∧ TypeToken second kind) :
      TypedPoint kind value unit (before ++ first ++ gap ++ second ++ after)

theorem TypeToken.solid {cs : List Char} {kind : Kind} (type : TypeToken cs kind) : Text.IsSolid cs := by
  apply Text.isSolid_of_fold cs kind.name type.2
  cases kind <;> exact ⟨by decide,List.all_iff_forall_prop.mp (by decide)⟩

theorem Numeral.plain {cs : List Char} {value : Decimal} (numeral : Numeral cs value) :
    ∀ c ∈ cs, c ∈ Decimal.plainChars := by
  have digit (ds : List Char) (digits : ∀ d ∈ ds, d.isDigit = true) : ∀ c ∈ ds, c ∈ Decimal.plainChars :=
    fun c member => Decimal.mem_plainChars_of_isDigit c (digits c member)
  have point : '.' ∈ Decimal.plainChars := by decide
  cases numeral with
  | whole _ _ digits => exact digit cs digits
  | pointed ds es _ digits =>
    obtain ⟨before,after⟩ := List.forall_mem_append.mp digits
    exact List.forall_mem_append.mpr ⟨digit ds before,List.forall_mem_cons.mpr ⟨point,digit es after⟩⟩
  | fraction es _ digits => exact List.forall_mem_cons.mpr ⟨point,digit es digits⟩

theorem PointToken.solid {cs : List Char} {value : Decimal} {unit : LengthUnit} (point : PointToken cs value unit) :
    Text.IsSolid cs := by
  obtain ⟨numeral,letters,rfl,number,spelled⟩ := point
  have word : Text.IsSolid letters := by
    apply Text.isSolid_of_fold letters unit.name spelled
    cases unit <;> exact ⟨by decide,List.all_iff_forall_prop.mp (by decide)⟩
  have unblank : ∀ c ∈ Decimal.plainChars, Text.isBlank c = false := List.all_iff_forall_prop.mp (by decide)
  refine ⟨List.append_ne_nil_of_right_ne_nil numeral word.1,List.forall_mem_append.mpr ⟨?_,word.2⟩⟩
  exact fun c member => unblank c (number.plain c member)

theorem isType_ascii (cs : List Char) (ascii : IsAscii cs) : isType cs = true ↔ ∃ kind, TypeToken cs kind := by
  rw [isType,Bool.or_eq_true,Text.spells_ascii "min" cs ascii,Text.spells_ascii "max" cs ascii]
  constructor
  · rintro (spelled | spelled)
    · exact ⟨.min,.inl rfl,spelled⟩
    · exact ⟨.max,.inr rfl,spelled⟩
  · rintro ⟨kind,rfl | rfl,spelled⟩
    · exact .inl spelled
    · exact .inr spelled

theorem unitOf_ascii (cs : List Char) (unit : LengthUnit) (ascii : IsAscii cs) :
    unitOf? cs = some unit ↔ Text.fold cs = unit.name.toList := by
  have same (u : LengthUnit) : Text.spells u.name cs = decide (Text.fold cs = u.name.toList) := by
    rw [Bool.eq_iff_iff,Text.spells_ascii u.name cs ascii,decide_eq_true_iff]
  simp only [unitOf?,same]
  constructor
  · intro found
    simpa using List.find?_some found
  · intro spelled
    rw [spelled]
    cases unit <;> rfl

section Numerals

variable {whole fraction rest : List Char}

theorem splitNumeral_digits (filled : whole ≠ []) (digits : ∀ d ∈ whole, Text.isDigit d = true)
    (stops : ∀ c ∈ rest.head?, Text.isDigit c = false ∧ c ≠ '.') :
    splitNumeral? (whole ++ rest) = some (whole, [], rest) := by
  obtain ⟨taken,dropped⟩ := Text.run_split whole rest digits fun c head => (stops c head).1
  simp only [splitNumeral?,taken,dropped]
  split
  next tail => exact absurd rfl (stops '.' (by simp)).2
  next => simp [filled]

theorem splitNumeral_pointed (filled : whole ++ fraction ≠ [])
    (digits : ∀ d ∈ whole ++ fraction, Text.isDigit d = true) (stops : ∀ c ∈ rest.head?, Text.isDigit c = false) :
    splitNumeral? (whole ++ '.' :: (fraction ++ rest)) = some (whole, fraction, rest) := by
  obtain ⟨before,after⟩ := List.forall_mem_append.mp digits
  have point : ∀ c ∈ ('.' :: (fraction ++ rest)).head?, Text.isDigit c = false := by
    simp
    decide
  obtain ⟨taken,dropped⟩ := Text.run_split whole _ before point
  obtain ⟨more,left⟩ := Text.run_split fraction rest after stops
  have some : (whole.isEmpty && fraction.isEmpty) = false := by simpa using filled
  simp [splitNumeral?,taken,dropped,more,left,some]

theorem splitNumeral_parts {cs : List Char} (read : splitNumeral? cs = some (whole, fraction, rest)) :
    (∀ d ∈ whole ++ fraction, Text.isDigit d = true) ∧ whole ++ fraction ≠ [] ∧
      (cs = whole ++ '.' :: (fraction ++ rest) ∨ fraction = [] ∧ cs = whole ++ rest) := by
  have digits (ds : List Char) : ∀ d ∈ ds.takeWhile Text.isDigit, Text.isDigit d = true :=
    fun d => List.mem_takeWhile_imp
  have parts := List.takeWhile_append_dropWhile (p := Text.isDigit) (l := cs)
  unfold splitNumeral? at read
  simp only at read
  split at read
  next tail dropped =>
    split at read
    · cases read
    next some =>
      cases read
      refine ⟨List.forall_mem_append.mpr ⟨digits cs,digits tail⟩,by simpa using some,.inl ?_⟩
      rw [List.takeWhile_append_dropWhile,← dropped,parts]
  next =>
    split at read
    · cases read
    next some =>
      cases read
      refine ⟨by simpa using digits cs,by simpa using some,.inr ⟨rfl,parts.symm⟩⟩

end Numerals

/-- What follows a numeral and spells a unit starts with a letter, so the numeral ends there. -/
theorem unit_stops (letters : List Char) (unit : LengthUnit) (spelled : Text.fold letters = unit.name.toList) :
    ∀ c ∈ letters.head?, Text.isDigit c = false ∧ c ≠ '.' := by
  intro c head
  have first : (Text.fold letters).head? = some c.toLower := by
    rw [Text.fold,List.head?_map,head]
    rfl
  have letter : c.toLower = 'p' ∨ c.toLower = 'e' ∨ c.toLower = 'r' := by
    rw [spelled] at first
    cases unit
    · exact .inl (Option.some.inj first).symm
    · exact .inr (.inl (Option.some.inj first).symm)
    · exact .inr (.inr (Option.some.inj first).symm)
  rcases letter with same | same | same <;> rcases Text.eq_of_toLower c _ same with rfl | rfl <;> decide

theorem pointOf_token (cs : List Char) (value : Decimal) (unit : LengthUnit) (ascii : IsAscii cs)
    (read : pointOf? cs = some (value, unit)) : PointToken cs value unit := by
  unfold pointOf? at read
  simp only [Option.bind_eq_bind,Option.bind_eq_some_iff,Option.pure_def,Option.some.injEq,Prod.mk.injEq] at read
  obtain ⟨⟨whole,fraction,rest⟩,split,_,spelled,rfl,rfl⟩ := read
  obtain ⟨digits,filled,form⟩ := splitNumeral_parts split
  have inside : ∀ c ∈ whole ++ fraction ++ rest, c ∈ cs := by
    rcases form with rfl | ⟨rfl,rfl⟩ <;> grind
  obtain ⟨front,back⟩ := List.forall_mem_append.mp inside
  have plain : ∀ d ∈ whole ++ fraction, d.isDigit = true := by
    intro d member
    rw [← Text.isDigit_ascii d (ascii d (front d member))]
    exact digits d member
  have letters := (unitOf_ascii rest _ fun c member => ascii c (back c member)).mp spelled
  rw [Text.numberOf_ascii _ plain]
  rcases form with rfl | ⟨rfl,rfl⟩
  · refine ⟨whole ++ '.' :: fraction,rest,by simp,?_,letters⟩
    cases whole with
    | nil => exact .fraction fraction filled plain
    | cons d whole => exact .pointed (d :: whole) fraction (List.cons_ne_nil d whole) plain
  · rw [List.append_nil] at filled plain ⊢
    exact ⟨whole,rest,rfl,.whole whole filled plain,letters⟩

theorem token_pointOf (cs : List Char) (value : Decimal) (unit : LengthUnit) (ascii : IsAscii cs)
    (token : PointToken cs value unit) : pointOf? cs = some (value, unit) := by
  obtain ⟨numeral,letters,rfl,number,spelled⟩ := token
  have stops := unit_stops letters unit spelled
  have unitWord : unitOf? letters = some unit :=
    (unitOf_ascii letters unit fun c member => ascii c (by simp [member])).mpr spelled
  have known (ds : List Char) (digits : ∀ d ∈ ds, d.isDigit = true) : ∀ d ∈ ds, Text.isDigit d = true := by
    intro d member
    rw [Text.isDigit_ascii d (Text.ascii_of_isDigit d (digits d member))]
    exact digits d member
  -- Whatever its form, the numeral is split off with its own digits, and the unit is left.
  have point (whole fraction : List Char) (digits : ∀ d ∈ whole ++ fraction, d.isDigit = true)
      (split : splitNumeral? (numeral ++ letters) = some (whole, fraction, letters)) :
      pointOf? (numeral ++ letters) =
        some (.finite false (Nat.ofDigitChars 10 (whole ++ fraction) 0) (-fraction.length), unit) := by
    rw [pointOf?,split,← Text.numberOf_ascii _ digits]
    simp [unitWord]
  cases number with
  | whole ds filled digits =>
    have read := point numeral [] (by simpa using digits) (splitNumeral_digits filled (known _ digits) stops)
    simpa using read
  | pointed ds es filled digits =>
    apply point ds es digits
    rw [List.append_assoc,List.cons_append]
    apply splitNumeral_pointed (List.append_ne_nil_of_left_ne_nil filled es) (known _ digits)
    exact fun c head => (stops c head).1
  | fraction es filled digits =>
    have split : splitNumeral? ([] ++ '.' :: (es ++ letters)) = some ([], es, letters) :=
      splitNumeral_pointed filled (known _ digits) fun c head => (stops c head).1
    exact point [] es digits split

theorem pointOf_ascii (cs : List Char) (value : Decimal) (unit : LengthUnit) (ascii : IsAscii cs) :
    pointOf? cs = some (value, unit) ↔ PointToken cs value unit :=
  ⟨pointOf_token cs value unit ascii,token_pointOf cs value unit ascii⟩

namespace Reading

theorem ofPair_token (type : List Char) (kind : Kind) (value : Decimal) (unit : LengthUnit)
    (token : TypeToken type kind) : ofPair type value unit = .ok (.point kind value unit) := by
  obtain ⟨typed,spelled⟩ := token
  have small : ∀ c ∈ type, c.toLower.toNat < 0x80 := by
    intro c member
    have listed : c.toLower ∈ kind.name.toList := spelled ▸ List.mem_map_of_mem member
    have small (k : Kind) : ∀ letter ∈ k.name.toList, letter.toNat < 0x80 := by
      cases k <;> exact List.all_iff_forall_prop.mp (by decide)
    exact small kind _ listed
  have lowered : Text.lowercase (String.ofList type) = kind.name := by
    rw [Text.lowercase_ascii type small,← Text.fold,spelled,String.ofList_toList]
  rw [ofPair,lowered]
  cases kind <;> rfl

theorem ofTwo_unpaired (text : String) (first second : List Char)
    (unpaired : ∀ type value unit, ¬Pairs [first, second] type value unit) :
    ofTwo text first second = .ok (.malformed .pair text) := by
  unfold ofTwo
  split
  next value unit typed read => exact absurd ⟨typed,second,read,.inl rfl⟩ (unpaired first value unit)
  next =>
    split
    next value unit typed read => exact absurd ⟨typed,first,read,.inr rfl⟩ (unpaired second value unit)
    next => rfl

theorem ofText_unpaired (cs word : List Char) (member : word ∈ Text.words cs)
    (meant : (isType word || isPoint word) = true)
    (unpaired : ∀ type value unit, ¬Pairs (Text.words cs) type value unit) :
    ofText cs = .ok (.malformed (if (Text.words cs).length = 2 then .pair else .format) (String.ofList cs)) := by
  have some : ((Text.words cs).any fun word => isType word || isPoint word) = true :=
    List.any_eq_true.mpr ⟨word,member,meant⟩
  simp only [ofText,some,if_true]
  split
  next first second parts =>
    rw [parts] at unpaired
    simpa [parts] using ofTwo_unpaired _ first second unpaired
  next other =>
    have many : (Text.words cs).length ≠ 2 := by
      intro two
      obtain ⟨first,second,parts⟩ := List.length_eq_two.mp two
      exact other first second parts
    rw [if_neg many]

/-- The same reading, of another text where a text is recorded. -/
def recording (text : String) : Reading → Reading
  | .malformed fault _ => .malformed fault text
  | reading => reading

theorem ofPair_recording (type : List Char) (value : Decimal) (unit : LengthUnit) (text : String) :
    (ofPair type value unit).map (·.recording text) = ofPair type value unit := by
  rw [ofPair]
  cases Kind.ofName (Text.lowercase (String.ofList type)) <;> rfl

theorem ofTwo_swap (text other : String) (first second : List Char) :
    ofTwo other second first = (ofTwo text first second).map (·.recording other) := by
  have unpaired : (Except.ok (.malformed .pair text) : Except Failure Reading).map (·.recording other) =
    .ok (.malformed .pair other) := rfl
  -- A type is no point, so at most one of the two orders can succeed.
  cases left : isType first <;> cases right : isType second
  · simp [ofTwo,left,right,unpaired]
  · cases read : pointOf? first <;> simp [ofTwo,left,right,read,unpaired,ofPair_recording]
  · cases read : pointOf? second <;> simp [ofTwo,left,right,read,unpaired,ofPair_recording]
  · simp [ofTwo,left,right,pointOf_of_isType first left,pointOf_of_isType second right,unpaired]

theorem ofText_swap (cs ds first second : List Char) (forth : Text.words cs = [first, second])
    (back : Text.words ds = [second, first]) :
    ofText ds = (ofText cs).map (·.recording (String.ofList ds)) := by
  simp only [ofText,forth,back,List.any_cons,List.any_nil,Bool.or_false]
  rw [Bool.or_comm,ofTwo_swap (String.ofList cs) (String.ofList ds) first second]
  split
  · rfl
  · rfl

end Reading

theorem IsAscii.word {cs word : List Char} (ascii : IsAscii cs) (member : word ∈ Text.words cs) : IsAscii word :=
  fun c inside => ascii c ((Text.word_infix cs word member).subset inside)

theorem meant_ascii (word : List Char) (ascii : IsAscii word) : (isType word || isPoint word) = true ↔ Meant word := by
  have point : isPoint word = true ↔ ∃ value unit, PointToken word value unit := by
    simp only [isPoint,Option.isSome_iff_exists,Prod.exists,pointOf_ascii word _ _ ascii]
  rw [Bool.or_eq_true,isType_ascii word ascii,point,Meant]

theorem typedPoint_iff (cs : List Char) (kind : Kind) (value : Decimal) (unit : LengthUnit) (ascii : IsAscii cs) :
    TypedPoint kind value unit cs ↔ ∃ type, TypeToken type kind ∧ Reading.Pairs (Text.words cs) type value unit := by
  constructor
  · rintro ⟨before,first,gap,second,after,leads,between,apart,ends,order⟩
    have left : IsAscii first := fun c member => ascii c (by simp [member])
    have right : IsAscii second := fun c member => ascii c (by simp [member])
    have cut (one : Text.IsSolid first) (other : Text.IsSolid second) :
        Text.words (before ++ first ++ gap ++ second ++ after) = [first, second] :=
      (Text.words_pair_iff _ first second).mpr ⟨one,other,before,gap,after,rfl,leads,between,apart,ends⟩
    rcases order with ⟨type,point⟩ | ⟨point,type⟩
    · have typed := (isType_ascii first left).mpr ⟨kind,type⟩
      have read := token_pointOf second value unit right point
      exact ⟨first,type,typed,second,read,.inl (cut type.solid point.solid)⟩
    · have typed := (isType_ascii second right).mpr ⟨kind,type⟩
      have read := token_pointOf first value unit left point
      exact ⟨second,type,typed,first,read,.inr (cut point.solid type.solid)⟩
  · rintro ⟨type,token,-,word,read,order⟩
    have point : PointToken word value unit := by
      apply pointOf_token word value unit _ read
      rcases order with parts | parts <;> exact ascii.word (by simp [parts])
    rcases order with parts | parts
    · obtain ⟨-,-,before,gap,after,rfl,leads,between,apart,ends⟩ := (Text.words_pair_iff cs type word).mp parts
      exact .intro before type gap word after leads between apart ends (.inl ⟨token,point⟩)
    · obtain ⟨-,-,before,gap,after,rfl,leads,between,apart,ends⟩ := (Text.words_pair_iff cs word type).mp parts
      exact .intro before word gap type after leads between apart ends (.inr ⟨point,token⟩)

theorem TypedPoint.read {cs : List Char} {kind : Kind} {value : Decimal} {unit : LengthUnit}
    (typed : TypedPoint kind value unit cs) (ascii : IsAscii cs) :
    Reading.ofText cs = .ok (.point kind value unit) := by
  obtain ⟨type,token,pair⟩ := (typedPoint_iff cs kind value unit ascii).mp typed
  rw [Reading.ofText_pair cs type value unit pair]
  exact Reading.ofPair_token type kind value unit token

theorem typedPoint_of_pairs (cs type : List Char) (value : Decimal) (unit : LengthUnit) (ascii : IsAscii cs)
    (pair : Reading.Pairs (Text.words cs) type value unit) : ∃ kind, TypedPoint kind value unit cs := by
  have member : type ∈ Text.words cs := by
    obtain ⟨-,word,-,parts | parts⟩ := pair <;> simp [parts]
  obtain ⟨kind,token⟩ := (isType_ascii type (ascii.word member)).mp pair.1
  exact ⟨kind,(typedPoint_iff cs kind value unit ascii).mpr ⟨type,token,pair⟩⟩

theorem Reading.ofText_unmeant (cs : List Char) (ascii : IsAscii cs)
    (unmeant : ∀ token ∈ Text.words cs, ¬Meant token) : ofText cs = .ok .query := by
  have none : ((Text.words cs).any fun word => isType word || isPoint word) = false := by
    rw [List.any_eq_false]
    intro token member
    rw [meant_ascii token (ascii.word member)]
    exact unmeant token member
  simp [ofText,none]

/-- A text in ASCII is a typed point, shows no sign of one, or is meant as one and malformed. -/
theorem Reading.ofText_trichotomy (cs : List Char) (ascii : IsAscii cs) :
    (∃ kind value unit, TypedPoint kind value unit cs) ∨
    (∀ token ∈ Text.words cs, ¬Meant token) ∧ ofText cs = .ok .query ∨
    (∃ token ∈ Text.words cs, Meant token) ∧
      ofText cs = .ok (.malformed (if (Text.words cs).length = 2 then .pair else .format) (String.ofList cs)) := by
  by_cases paired : ∃ type value unit, Pairs (Text.words cs) type value unit
  · obtain ⟨type,value,unit,pair⟩ := paired
    obtain ⟨kind,typed⟩ := typedPoint_of_pairs cs type value unit ascii pair
    exact .inl ⟨kind,value,unit,typed⟩
  · by_cases meant : ∃ token ∈ Text.words cs, Meant token
    · refine .inr (.inr ⟨meant,?_⟩)
      obtain ⟨token,member,sign⟩ := meant
      apply ofText_unpaired cs token member ((meant_ascii token (ascii.word member)).mpr sign)
      exact fun type value unit pair => paired ⟨type,value,unit,pair⟩
    · have unmeant : ∀ token ∈ Text.words cs, ¬Meant token := fun token member sign => meant ⟨token,member,sign⟩
      exact .inr (.inl ⟨unmeant,ofText_unmeant cs ascii unmeant⟩)

theorem Reading.ofText_point_iff (cs : List Char) (ascii : IsAscii cs) (kind : Kind) (value : Decimal)
    (unit : LengthUnit) : ofText cs = .ok (.point kind value unit) ↔ TypedPoint kind value unit cs := by
  constructor
  · intro read
    rcases ofText_trichotomy cs ascii with ⟨_,_,_,typed⟩ | ⟨-,query⟩ | ⟨-,malformed⟩
    · cases read.symm.trans (typed.read ascii)
      exact typed
    · cases read.symm.trans query
    · cases read.symm.trans malformed
  · exact fun typed => typed.read ascii

theorem Reading.ofText_query_iff (cs : List Char) (ascii : IsAscii cs) :
    ofText cs = .ok .query ↔ ∀ token ∈ Text.words cs, ¬Meant token := by
  constructor
  · intro read
    rcases ofText_trichotomy cs ascii with ⟨_,_,_,typed⟩ | ⟨unmeant,-⟩ | ⟨-,malformed⟩
    · cases read.symm.trans (typed.read ascii)
    · exact unmeant
    · cases read.symm.trans malformed
  · exact ofText_unmeant cs ascii

theorem declareText_malformed (name text : String) (l : Ledger) (fault : ValueFault)
    (read : Reading.ofText text.toList = .ok (.malformed fault text)) :
    declareText name text l = .error (.malformed fault (some (Text.lowercase name)) (some (.text text))) l := by
  have filled : text.toList.isEmpty = false := by
    cases none : text.toList with
    | nil =>
      rw [none] at read
      cases read
    | cons c cs => rfl
  simp only [declareText,filled,read]
  rfl

/-- A value in ASCII reads as a point exactly if it is a type and a point in either order, as a query exactly if none
of its tokens is a type or a point, and otherwise as malformed: the fault is in the format unless there are two
tokens, and the value is carried along. Two tokens read the same in either order, but for the value carried. -/
theorem Reading.ofValue_grammar (v : String) (ascii : IsAscii v.toList) : ∃ tokens, Text.Spaced tokens v.toList ∧
    (∀ kind value unit, ofValue (.text v) = .ok (.point kind value unit) ↔ TypedPoint kind value unit v.toList) ∧
    (ofValue (.text v) = .ok .query ↔ ∀ token ∈ tokens, ¬Meant token) ∧
    ((∀ kind value unit, ¬TypedPoint kind value unit v.toList) → (∃ token ∈ tokens, Meant token) →
      ∃ fault, ofValue (.text v) = .ok (.malformed fault v) ∧
        fault = (if tokens.length ≠ 2 then .format else .pair) ∧
        ∀ name l, declareText name v l =
          .error (.malformed fault (some (Text.lowercase name)) (some (.text v))) l) ∧
    ∀ w first second, tokens = [first, second] → Text.Spaced [second, first] w.toList →
      ofValue (.text w) = (ofValue (.text v)).map (·.recording w) := by
  refine ⟨Text.words v.toList,(Text.words_eq_iff _ _).mp rfl,ofText_point_iff v.toList ascii,
    ofText_query_iff v.toList ascii,?_,?_⟩
  · intro untyped meant
    rcases ofText_trichotomy v.toList ascii with ⟨kind,value,unit,typed⟩ | ⟨unmeant,-⟩ | ⟨-,malformed⟩
    · exact absurd typed (untyped kind value unit)
    · obtain ⟨token,member,sign⟩ := meant
      exact absurd sign (unmeant token member)
    · rw [String.ofList_toList] at malformed
      exact ⟨_,malformed,(ite_not _ _ _).symm,fun name l => declareText_malformed name v l _ malformed⟩
  · intro w first second forth back
    have swapped := ofText_swap v.toList w.toList first second forth back.words_eq
    rwa [String.ofList_toList] at swapped

theorem Reading.ofValue_grammar_rem :
    (IsAscii "\t.5REM  Max".toList ∧ TypedPoint .max (.finite false 5 (-1)) .rem "\t.5REM  Max".toList) ∧
    IsAscii "5.px tall 5.px".toList ∧ ofValue (.text "5.px tall 5.px") = .ok (.malformed .format "5.px tall 5.px") ∧
    ∀ name l, declareText name "5.px tall 5.px" l =
      .error (.malformed .format (some (Text.lowercase name)) (some (.text "5.px tall 5.px"))) l := by
  have written : IsAscii "\t.5REM  Max".toList := List.all_iff_forall_prop.mp (by decide)
  have wordy : IsAscii "5.px tall 5.px".toList := List.all_iff_forall_prop.mp (by decide)
  obtain ⟨_,_,point,_⟩ := ofValue_grammar "\t.5REM  Max" written
  refine ⟨⟨written,(point .max _ .rem).mp (by decide +kernel)⟩,wordy,by decide +kernel,?_⟩
  obtain ⟨tokens,_,point,query,malformed,_⟩ := ofValue_grammar "5.px tall 5.px" wordy
  have read : ofValue (.text "5.px tall 5.px") = .ok (.malformed .format "5.px tall 5.px") := by decide +kernel
  have untyped : ∀ kind value unit, ¬TypedPoint kind value unit "5.px tall 5.px".toList := by
    intro kind value unit typed
    cases read.symm.trans ((point kind value unit).mpr typed)
  have meant : ∃ token ∈ tokens, Meant token := by
    by_contra none
    cases read.symm.trans (query.mpr fun token member sign => none ⟨token,member,sign⟩)
  obtain ⟨fault,same,_,carried⟩ := malformed untyped meant
  cases read.symm.trans same
  exact carried

end MediaTiers
