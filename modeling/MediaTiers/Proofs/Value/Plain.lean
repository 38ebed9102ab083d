import MediaTiers.Value.Access
import Mathlib

/-! Values made of maps, lists, texts, truth values and nulls: how many entries their maps have, and when two of them
are the same tree. Maps from text keys are read field by field. -/
namespace MediaTiers

namespace Value

mutual

/-- Whether a value is made of maps, lists, texts, truth values and nulls. -/
def isPlain : Value → Bool
  | .null | .bool _ | .text _ => true
  | .list items => arePlain items
  | .map entries => arePlainEntries entries
  | _ => false

def arePlain : List Value → Bool
  | [] => true
  | v :: vs => v.isPlain && arePlain vs

def arePlainEntries : List (Value × Value) → Bool
  | [] => true
  | (k, v) :: es => k.isPlain && v.isPlain && arePlainEntries es

end

mutual

def entryCount : Value → Nat
  | .list items => entryCountAll items
  | .map entries => entryCountEntries entries
  | _ => 0

def entryCountAll : List Value → Nat
  | [] => 0
  | v :: vs => v.entryCount + entryCountAll vs

def entryCountEntries : List (Value × Value) → Nat
  | [] => 0
  | (k, v) :: es => 1 + k.entryCount + v.entryCount + entryCountEntries es

end

mutual

theorem entryCount_lt_size : (v : Value) → v.entryCount < v.size
  | .list items => by
    have inner := entryCountAll_le_size items
    rw [entryCount,size]
    omega
  | .map entries => by
    have inner := entryCountEntries_le_size entries
    rw [entryCount,size]
    omega
  | .null | .bool _ | .int _ | .float _ | .text _ | .bytes _ | .day _ | .moment _ | .again _ => Nat.one_pos
  | .tuple _ | .set _ | .shared _ _ | .cyclic _ _ => by
    simp only [entryCount,size]
    omega

theorem entryCountAll_le_size : (vs : List Value) → entryCountAll vs ≤ sizeAll vs
  | [] => Nat.le_refl _
  | v :: vs => Nat.add_le_add (Nat.le_of_lt (entryCount_lt_size v)) (entryCountAll_le_size vs)

theorem entryCountEntries_le_size : (es : List (Value × Value)) → entryCountEntries es ≤ sizeEntries es
  | [] => Nat.le_refl _
  | (k, v) :: es => by
    have key := entryCount_lt_size k
    have value := entryCount_lt_size v
    have rest := entryCountEntries_le_size es
    rw [entryCountEntries,sizeEntries]
    omega

end

mutual

/-- Whether two plain values are one and the same tree, entry by entry. -/
def sameTree : Value → Value → Bool
  | .null, .null => true
  | .bool a, .bool b => a == b
  | .text s, .text t => s == t
  | .list xs, .list ys => sameTrees xs ys
  | .map es, .map fs => sameEntries es fs
  | _, _ => false

def sameTrees : List Value → List Value → Bool
  | [], [] => true
  | x :: xs, y :: ys => x.sameTree y && sameTrees xs ys
  | _, _ => false

def sameEntries : List (Value × Value) → List (Value × Value) → Bool
  | [], [] => true
  | (k, v) :: es, (l, w) :: fs => k.sameTree l && v.sameTree w && sameEntries es fs
  | _, _ => false

end

mutual

theorem eq_of_sameTree : (v w : Value) → v.sameTree w = true → v = w
  | .null, .null, _ => rfl
  | .bool _, .bool _, same => congrArg bool (eq_of_beq same)
  | .text _, .text _, same => congrArg text (eq_of_beq same)
  | .list xs, .list ys, same => congrArg list (eq_of_sameTrees xs ys same)
  | .map es, .map fs, same => congrArg map (eq_of_sameEntries es fs same)

theorem eq_of_sameTrees : (vs ws : List Value) → sameTrees vs ws = true → vs = ws
  | [], [], _ => rfl
  | v :: vs, w :: ws, same => by
    rw [sameTrees,Bool.and_eq_true] at same
    rw [eq_of_sameTree v w same.1,eq_of_sameTrees vs ws same.2]

theorem eq_of_sameEntries : (es fs : List (Value × Value)) → sameEntries es fs = true → es = fs
  | [], [], _ => rfl
  | (k, v) :: es, (l, w) :: fs, same => by
    rw [sameEntries,Bool.and_eq_true,Bool.and_eq_true] at same
    rw [eq_of_sameTree k l same.1.1,eq_of_sameTree v w same.1.2,eq_of_sameEntries es fs same.2]

end

/-- Values have no decidable equality, but an outcome can be compared with a plain value as a tree. -/
theorem ok_of_sameTree (outcome : Except Failure Value) (w : Value)
    (same : outcome.toOption.any (·.sameTree w) = true) : outcome = .ok w := by
  cases outcome with
  | ok v => exact congrArg _ (v.eq_of_sameTree w same)
  | error _ => cases same

theorem lookup_record (fields : List (String × Value)) (key : String) :
    lookup? key (fields.map fun f => (.text f.1, f.2)) = fields.lookup key := by
  induction fields with
  | nil => rfl
  | cons f fields ih =>
    rw [List.map_cons,lookup?,List.lookup_cons,ih]
    by_cases same : f.1 = key
    · simp [same]
    · simp [same,beq_eq_false_iff_ne.mpr (Ne.symm same)]

theorem record_fieldD (fields : List (String × Value)) (key : String) (default : Value) :
    (record fields).fieldD key default = .ok ((fields.lookup key).getD default) := by
  simp only [fieldD,field?,record,bare,lookup_record]
  rfl

theorem record_isPlain (fields : List (String × Value)) :
    (record fields).isPlain = fields.all (·.2.isPlain) := by
  rw [record,isPlain]
  induction fields with
  | nil => rfl
  | cons f fields ih => rw [List.map_cons,arePlainEntries,ih,isPlain,Bool.true_and,List.all_cons]

theorem record_entryCount (fields : List (String × Value)) :
    (record fields).entryCount = (fields.map fun f => 1 + f.2.entryCount).sum := by
  rw [record,entryCount]
  induction fields with
  | nil => rfl
  | cons f fields ih =>
    have key : (text f.1).entryCount = 0 := rfl
    rw [List.map_cons,entryCountEntries,ih,key,Nat.add_zero,List.map_cons,List.sum_cons]

theorem elements_list (items : List Value) : (list items).elements = .ok items := rfl

theorem same_text (s t : String) : (text s).same (.text t) = (s == t) := by
  simp [same,sameAtom,content]

theorem eq_null (v : Value) (null : v.isNull = true) : v = .null := by
  cases v with
  | null => rfl
  | _ => cases null

theorem isNull_iff (v : Value) : v.isNull = true ↔ v = .null := by
  refine ⟨v.eq_null,?_⟩
  rintro rfl
  rfl

def isText : Value → Bool
  | .text _ => true
  | _ => false

def isTextOrNull (v : Value) : Bool :=
  v.isNull || v.isText

theorem isTextOrNull_isPlain (v : Value) (text : v.isTextOrNull = true) : v.isPlain = true := by
  cases v with
  | null | text _ => rfl
  | _ => cases text

theorem arePlain_iff (vs : List Value) : arePlain vs = true ↔ ∀ v ∈ vs, v.isPlain = true := by
  induction vs with
  | nil => simp [arePlain]
  | cons v vs ih => rw [arePlain,Bool.and_eq_true,ih,List.forall_mem_cons]

def optional (name : String) (field : Option Value) : List (String × Value) :=
  (field.map fun v => (name, v)).toList

theorem lookup_optional (key name : String) (field : Option Value) :
    (optional name field).lookup key = if key = name then field else none := by
  cases field with
  | none => simp [optional]
  | some v =>
    by_cases same : key = name
    · simp [optional,same]
    · simp [optional,same,List.lookup_cons,beq_eq_false_iff_ne.mpr same]

theorem forall_optional (holds : Value → Prop) (name : String) (field : Option Value) :
    (∀ f ∈ optional name field, holds f.2) ↔ ∀ v ∈ field, holds v := by
  cases field <;> simp [optional]

end Value
end MediaTiers
