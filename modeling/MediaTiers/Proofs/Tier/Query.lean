import MediaTiers.Proofs.Decimal.Writing
import MediaTiers.Tier

/-! Media queries read back. The conditions of a query stand in brackets, each a media feature and a point,
and a width meets the query if it respects the limits that the conditions set. The text of a range
sets exactly the limits that its ends were written for, and it tells the options that it was written with. -/
namespace MediaTiers

namespace Query

structure Limit where
  bound : Bound
  value : ℚ
  unit : LengthUnit

def conditions : List Char → List (List Char)
  | [] => []
  | c :: cs => if c = '(' then cs.takeWhile (· != ')') :: conditions cs else conditions cs

/-- The end of a range that a media feature is about. -/
def boundOf? (feature : List Char) : Option Bound :=
  if feature = "min-width".toList ∨ feature = "min-device-width".toList then some .min
  else if feature = "max-width".toList ∨ feature = "max-device-width".toList then some .max
  else none

/-- A number directly followed by a unit. -/
def readPoint? (cs : List Char) : Option (ℚ × LengthUnit) := do
  let number ← Decimal.read? (cs.takeWhile (!·.isAlpha))
  guard number.isFinite
  let unit ← LengthUnit.ofName? (String.ofList (cs.dropWhile (!·.isAlpha)))
  return (number.rational, unit)

def Limit.read? (condition : List Char) : Option Limit := do
  let bound ← boundOf? (condition.takeWhile (· != ':'))
  let (value, unit) ← readPoint? ((condition.dropWhile (· != ':')).drop 2)
  return ⟨bound, value, unit⟩

def limits? (query : String) : Option (List Limit) :=
  (conditions query.toList).mapM Limit.read?

def Limit.holds (limit : Limit) (unit : LengthUnit) (w : ℚ) : Bool :=
  limit.unit == unit && match limit.bound with
    | .min => limit.value ≤ w
    | .max => w ≤ limit.value

/-- Whether a width respects all limits of a query. -/
def admits (query : String) (unit : LengthUnit) (w : ℚ) : Bool :=
  (limits? query).any fun limits => limits.all (·.holds unit w)

def opening (query : String) : List Char :=
  query.toList.takeWhile (· != '(')

def features (query : String) : List (List Char) :=
  (conditions query.toList).map (·.takeWhile (· != ':'))

/-- A query with the media type of these options and no media feature but theirs. -/
structure Styled (o : MediaOptions) (query : String) : Prop where
  opens : opening query = (o.mediaType ++ " and ").toList
  featured : ∃ bounds : List Bound, bounds ≠ [] ∧ features query = bounds.map fun bound => (o.feature bound.name).toList

/-- A text that is read as a point, and does not interfere with the brackets around it. -/
structure Writes (text : String) (value : ℚ) (unit : LengthUnit) : Prop where
  reads : readPoint? text.toList = some (value, unit)
  free : ∀ c ∈ text.toList, c ≠ '(' ∧ c ≠ ')'

end Query

def Range.ends (r : Range) : List (Bound × String) :=
  (r.lower.map (Bound.min, ·)).toList ++ (r.upper.map (Bound.max, ·)).toList

theorem numeric_success {α : Type} (outcome : Except Decimal.Signal α) (a : α) (ok : numeric outcome = .ok a) :
    outcome = .ok a := by
  cases outcome with
  | error signal => cases ok
  | ok b => exact congrArg Except.ok (Except.ok.inj ok)

namespace Query

theorem conditions_skip (cs ds : List Char) (free : ∀ c ∈ cs, c ≠ '(') :
    conditions (cs ++ ds) = conditions ds := by
  induction cs with
  | nil => rfl
  | cons c cs ih =>
    rw [List.cons_append,conditions,if_neg (free c (by simp))]
    exact ih fun d member => free d (by simp [member])

theorem conditions_bracket (body rest : List Char) (free : ∀ c ∈ body, c ≠ '(' ∧ c ≠ ')') :
    conditions ('(' :: (body ++ ')' :: rest)) = body :: conditions rest := by
  have inside : (body ++ ')' :: rest).takeWhile (· != ')') = body := by
    rw [List.takeWhile_append_of_pos (fun c member => by simpa using (free c member).2)]
    simp
  rw [conditions,if_pos rfl,inside,conditions_skip _ _ (fun c member => (free c member).1),conditions,
    if_neg (by decide)]

theorem toList_intercalate_cons (separator first : String) (rest : List String) :
    (separator.intercalate (first :: rest)).toList =
      first.toList ++ rest.flatMap fun s => separator.toList ++ s.toList := by
  induction rest generalizing first with
  | nil => simp
  | cons second rest ih => simp [String.intercalate_cons_cons,ih]

theorem toList_query (o : MediaOptions) (r : Range) :
    (r.query o).toList = o.mediaType.toList ++
      r.ends.flatMap fun e => " and ".toList ++ (o.condition e.1 e.2).toList := by
  have listed : (r.lower.map (o.condition .min)).toList ++ (r.upper.map (o.condition .max)).toList =
      r.ends.map fun e => o.condition e.1 e.2 := by
    cases lower : r.lower <;> cases upper : r.upper <;> simp [Range.ends,lower,upper]
  rw [Range.query,List.cons_append,listed,toList_intercalate_cons,List.flatMap_map]

theorem feature_free (o : MediaOptions) (bound : Bound) :
    ∀ c ∈ (o.feature bound.name).toList, c ≠ '(' ∧ c ≠ ')' ∧ c ≠ ':' := by
  refine List.all_iff_forall_prop.mp ?_
  obtain ⟨device,only⟩ := o
  cases device <;> cases only <;> cases bound <;> decide

theorem boundOf_feature (o : MediaOptions) (bound : Bound) :
    boundOf? (o.feature bound.name).toList = some bound := by
  obtain ⟨device,only⟩ := o
  cases device <;> cases only <;> cases bound <;> decide

theorem takeWhile_feature (o : MediaOptions) (bound : Bound) (rest : List Char) :
    ((o.feature bound.name).toList ++ ':' :: rest).takeWhile (· != ':') = (o.feature bound.name).toList := by
  rw [List.takeWhile_append_of_pos (fun c member => by simpa using (feature_free o bound c member).2.2)]
  simp

theorem read_limit (o : MediaOptions) (bound : Bound) (text : String) (value : ℚ) (unit : LengthUnit)
    (written : Writes text value unit) :
    Limit.read? ((o.feature bound.name).toList ++ ':' :: ' ' :: text.toList) = some ⟨bound, value, unit⟩ := by
  have rest : ((o.feature bound.name).toList ++ ':' :: ' ' :: text.toList).dropWhile (· != ':') =
      ':' :: ' ' :: text.toList := by
    rw [List.dropWhile_append_of_pos (fun c member => by simpa using (feature_free o bound c member).2.2)]
    simp
  rw [Limit.read?,takeWhile_feature,rest,boundOf_feature]
  simp [written.reads]

theorem mediaType_free (o : MediaOptions) : ∀ c ∈ (o.mediaType ++ " and ").toList, c ≠ '(' := by
  refine List.all_iff_forall_prop.mp ?_
  obtain ⟨device,only⟩ := o
  cases device <;> cases only <;> decide

theorem toList_condition (o : MediaOptions) (bound : Bound) (point : String) : (o.condition bound point).toList =
    '(' :: (((o.feature bound.name).toList ++ ':' :: ' ' :: point.toList) ++ [')']) := by
  simp [MediaOptions.condition]

theorem conditions_query (o : MediaOptions) (r : Range)
    (free : ∀ e ∈ r.ends, ∀ c ∈ e.2.toList, c ≠ '(' ∧ c ≠ ')') :
    conditions (r.query o).toList =
      r.ends.map fun e => (o.feature e.1.name).toList ++ ':' :: ' ' :: e.2.toList := by
  have apart := mediaType_free o
  rw [String.toList_append] at apart
  obtain ⟨typed,joined⟩ := List.forall_mem_append.mp apart
  rw [toList_query,conditions_skip _ _ typed]
  generalize r.ends = ends at free
  induction ends with
  | nil => rfl
  | cons e ends ih =>
    have inside : ∀ c ∈ (o.feature e.1.name).toList ++ ':' :: ' ' :: e.2.toList, c ≠ '(' ∧ c ≠ ')' := by
      intro c member
      rcases List.mem_append.mp member with feature | rest
      · exact ⟨(feature_free o e.1 c feature).1,(feature_free o e.1 c feature).2.1⟩
      · rcases List.mem_cons.mp rest with rfl | rest
        · decide
        · rcases List.mem_cons.mp rest with rfl | point
          · decide
          · exact free e (by simp) c point
    rw [List.flatMap_cons,List.append_assoc,conditions_skip _ _ joined,toList_condition,List.cons_append,List.append_assoc,
      List.singleton_append,conditions_bracket _ _ inside,ih fun d member => free d (by simp [member]),List.map_cons]

theorem opening_query (o : MediaOptions) (r : Range) (bounded : r.ends ≠ []) :
    opening (r.query o) = (o.mediaType ++ " and ").toList := by
  obtain ⟨e,ends,split⟩ := List.exists_cons_of_ne_nil bounded
  rw [opening,toList_query,split,List.flatMap_cons,toList_condition,List.append_assoc,← List.append_assoc,
    ← String.toList_append,List.takeWhile_append_of_pos (fun c member => by simpa using mediaType_free o c member)]
  simp

theorem features_query (o : MediaOptions) (r : Range) (free : ∀ e ∈ r.ends, ∀ c ∈ e.2.toList, c ≠ '(' ∧ c ≠ ')') :
    features (r.query o) = r.ends.map fun e => (o.feature e.1.name).toList := by
  rw [features,conditions_query o r free,List.map_map]
  apply List.map_congr_left
  intro e _
  exact takeWhile_feature o e.1 _

theorem deviceWidth_of_feature (o p : MediaOptions) (bound other : Bound)
    (same : (o.feature bound.name).toList = (p.feature other.name).toList) : o.deviceWidth = p.deviceWidth := by
  obtain ⟨device,only⟩ := o
  obtain ⟨device',only'⟩ := p
  cases device <;> cases device' <;> cases bound <;> cases other <;> simp [MediaOptions.feature,Bound.name] at same ⊢

theorem useOnly_of_mediaType (o p : MediaOptions) (same : o.mediaType = p.mediaType) : o.useOnly = p.useOnly := by
  obtain ⟨device,only⟩ := o
  obtain ⟨device',only'⟩ := p
  cases only <;> cases only' <;> simp [MediaOptions.mediaType] at same ⊢

theorem Styled.unique {o p : MediaOptions} {query : String} (styled : Styled o query) (again : Styled p query) :
    o = p := by
  obtain ⟨first,bounds,filled,named⟩ := styled
  obtain ⟨second,others,-,named'⟩ := again
  have only := useOnly_of_mediaType o p (String.toList_inj.mp (by simpa using first.symm.trans second))
  have names := named.symm.trans named'
  cases bounds with
  | nil => exact absurd rfl filled
  | cons bound bounds => cases others with
    | nil => cases names
    | cons other others =>
      have device := deviceWidth_of_feature o p bound other (List.cons.inj names).1
      obtain ⟨_,_⟩ := o
      obtain rfl : _ = p.deviceWidth := device
      obtain rfl : _ = p.useOnly := only
      rfl

/-- The query of a range is in the style of the options that it was written with, and of no others. -/
theorem styled_query_iff (o p : MediaOptions) (r : Range) (bounded : r.ends ≠ [])
    (free : ∀ e ∈ r.ends, ∀ c ∈ e.2.toList, c ≠ '(' ∧ c ≠ ')') : Styled p (r.query o) ↔ p = o := by
  have styled : Styled o (r.query o) := by
    refine ⟨opening_query o r bounded,r.ends.map (·.1),by simpa using bounded,?_⟩
    rw [features_query o r free,List.map_map]
    rfl
  constructor
  · intro other
    exact other.unique styled
  · rintro rfl
    exact styled

/-- The limits of a query are the points that the ends of the range were written for. -/
theorem limits_query (o : MediaOptions) (r : Range) (limits : List Limit)
    (written : List.Forall₂ (fun e l => e.1 = l.bound ∧ Writes e.2 l.value l.unit) r.ends limits) :
    limits? (r.query o) = some limits := by
  have free : ∀ e ∈ r.ends, ∀ c ∈ e.2.toList, c ≠ '(' ∧ c ≠ ')' := by
    intro e member
    obtain ⟨i,bound,rfl⟩ := List.mem_iff_getElem.mp member
    have size := written.length_eq
    exact (written.get bound (by omega)).2.free
  rw [limits?,conditions_query o r free]
  generalize r.ends = ends at written
  clear free
  induction written with
  | nil => rfl
  | cons head tail ih =>
    obtain ⟨same,writes⟩ := head
    rw [List.map_cons,List.mapM_cons,read_limit o _ _ _ _ writes,ih,same]
    rfl

/-- A width meets the query of a range exactly if it lies between the numbers that its ends were written for. -/
theorem admits_query (o : MediaOptions) (r : Range) (unit : LengthUnit) (lower upper : Option ℚ) (w : ℚ)
    (low : Option.Rel (fun text value => Writes text value unit) r.lower lower)
    (high : Option.Rel (fun text value => Writes text value unit) r.upper upper) :
    admits (r.query o) unit w = true ↔ (∀ value ∈ lower, value ≤ w) ∧ ∀ value ∈ upper, w ≤ value := by
  obtain ⟨lowerText,upperText⟩ := r
  have limits : limits? (Range.query o ⟨lowerText, upperText⟩) =
      some ((lower.map (⟨.min, ·, unit⟩)).toList ++ (upper.map (⟨.max, ·, unit⟩)).toList) := by
    apply limits_query
    cases low with
    | none => cases high with
      | none => exact .nil
      | some writes => exact .cons ⟨rfl,writes⟩ .nil
    | some lowWrites => cases high with
      | none => exact .cons ⟨rfl,lowWrites⟩ .nil
      | some writes => exact .cons ⟨rfl,lowWrites⟩ (.cons ⟨rfl,writes⟩ .nil)
  rw [admits,limits]
  cases lower <;> cases upper <;> simp [Limit.holds]

theorem unitName_free (unit : LengthUnit) : ∀ c ∈ unit.name.toList, c ≠ '(' ∧ c ≠ ')' := by
  refine List.all_iff_forall_prop.mp ?_
  cases unit <;> decide

theorem plainChars_free : ∀ c ∈ Decimal.plainChars, c ≠ '(' ∧ c ≠ ')' :=
  List.all_iff_forall_prop.mp (by decide)

theorem writes_of_plain (number : String) (unit : LengthUnit) (y : Decimal)
    (plain : ∀ c ∈ number.toList, c ∈ Decimal.plainChars) (found : Decimal.read? number.toList = some y)
    (finite : y.isFinite = true) : Writes (number ++ unit.name) y.rational unit := by
  constructor
  · have letterless : ∀ c ∈ Decimal.plainChars, (!c.isAlpha) = true := List.all_iff_forall_prop.mp (by decide)
    have digits : (number.toList ++ unit.name.toList).takeWhile (!·.isAlpha) = number.toList := by
      rw [List.takeWhile_append_of_pos fun c member => letterless c (plain c member)]
      cases unit <;> simp [LengthUnit.name]
    have letters : (number.toList ++ unit.name.toList).dropWhile (!·.isAlpha) = unit.name.toList := by
      rw [List.dropWhile_append_of_pos fun c member => letterless c (plain c member)]
      cases unit <;> rfl
    have named : LengthUnit.ofName? (String.ofList unit.name.toList) = some unit := by cases unit <;> decide
    rw [String.toList_append,readPoint?,digits,letters,found,named]
    simp [finite]
  · rw [String.toList_append,List.forall_mem_append]
    exact ⟨fun c member => plainChars_free c (plain c member),unitName_free unit⟩

theorem pointText_writes (x : Decimal) (unit : LengthUnit) (finite : x.isFinite = true)
    (fits : Decimal.Representable x.rational) :
    ∃ text, pointText x unit = .ok text ∧ Writes text x.rational unit := by
  obtain ⟨number,written,plain,y,found,yFinite,same⟩ := Decimal.plain_exact x finite fits
  refine ⟨number ++ unit.name,?_,?_⟩
  · rw [pointText,written]
    rfl
  · rw [← same]
    exact writes_of_plain number unit y plain found yFinite

theorem writes_of_pointText (x : Decimal) (unit : LengthUnit) (text : String)
    (written : pointText x unit = .ok text) (finite : x.isFinite = true)
    (fits : Decimal.Representable x.rational) : Writes text x.rational unit := by
  obtain ⟨given,same,writes⟩ := pointText_writes x unit finite fits
  rw [written] at same
  rwa [Except.ok.inj same]

/-- No number is written with brackets, not even one that is not finite. -/
theorem plainText_free (x : Decimal) : ∀ c ∈ x.plainText, c ≠ '(' ∧ c ≠ ')' := by
  have sign (negative : Bool) : ∀ c ∈ Decimal.signText negative, c ≠ '(' ∧ c ≠ ')' := by
    refine List.all_iff_forall_prop.mp ?_
    cases negative <;> decide
  cases x with
  | finite negative a e => exact fun c member => plainChars_free c (Decimal.plainText_plainChars negative a e c member)
  | infinite negative =>
    refine List.all_iff_forall_prop.mp ?_
    cases negative <;> decide
  | nan negative signaling payload =>
    have words : ∀ c ∈ (if signaling then "sNaN" else "NaN").toList, c ≠ '(' ∧ c ≠ ')' := by
      refine List.all_iff_forall_prop.mp ?_
      cases signaling <;> decide
    have digits : ∀ c ∈ (if payload = 0 then [] else Decimal.digits payload), c ≠ '(' ∧ c ≠ ')' := by
      intro c member
      split at member
      · cases member
      · exact plainChars_free c (Decimal.mem_plainChars_of_isDigit c (Decimal.isDigit_digits payload c member))
    rw [Decimal.plainText,Decimal.nanText,List.forall_mem_append,List.forall_mem_append]
    exact ⟨⟨sign negative,words⟩,digits⟩

theorem pointText_free (x : Decimal) (unit : LengthUnit) (text : String) (written : pointText x unit = .ok text) :
    ∀ c ∈ text.toList, c ≠ '(' ∧ c ≠ ')' := by
  obtain ⟨number,printed,joined⟩ := Attempt.bind_success _ _ _ written
  obtain ⟨y,-,plain⟩ := Attempt.bind_success _ _ _ (numeric_success _ _ printed)
  cases plain
  cases joined
  rw [String.toList_append,String.toList_ofList,List.forall_mem_append]
  exact ⟨plainText_free y,unitName_free unit⟩

end Query
end MediaTiers
