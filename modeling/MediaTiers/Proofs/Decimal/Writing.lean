import MediaTiers.Decimal.Printer
import MediaTiers.Decimal.Reader
import MediaTiers.Proofs.Attempt
import MediaTiers.Proofs.Decimal.Rounding
import Mathlib.Data.Bool.AllAny
import Mathlib.Data.List.TakeWhile
import Mathlib.Tactic.IntervalCases

/-! Plain notation and its reading. The digits of a coefficient denote it, a point moves them into a fraction,
and reading the text of a decimal gives back the number that the decimal denotes. -/
namespace MediaTiers

namespace Text

theorem numberOf_foldl (cs : List Char) (start : Nat) :
    cs.foldl (fun total c => 10 * total + (digitValue? c).getD 0) start =
      start * 10 ^ cs.length + numberOf cs := by
  unfold numberOf
  induction cs generalizing start with
  | nil => simp
  | cons c cs ih =>
    rw [List.foldl_cons,List.foldl_cons,ih,ih (10 * 0 + _),List.length_cons,pow_succ]
    ring

theorem numberOf_append (cs ds : List Char) :
    numberOf (cs ++ ds) = numberOf cs * 10 ^ ds.length + numberOf ds := by
  rw [numberOf,List.foldl_append,numberOf_foldl]
  rfl

theorem numberOf_zeros (n : Nat) : numberOf (List.replicate n '0') = 0 := by
  induction n with
  | zero => rfl
  | succ n ih =>
    have first : numberOf ['0'] = 0 := rfl
    rw [List.replicate_succ,← List.singleton_append,numberOf_append,ih,first,Nat.zero_mul]

theorem digitValue_digitChar (d : Nat) (small : d < 10) : digitValue? (Nat.digitChar d) = some d := by
  interval_cases d <;> rfl

theorem numberOf_digits (n : Nat) : numberOf (Nat.toDigits 10 n) = n := by
  induction n using Nat.strong_induction_on with
  | _ n smaller =>
    rw [Nat.toDigits_eq_if (by norm_num)]
    split
    next small => simp [numberOf,digitValue_digitChar n small]
    next large =>
      have last := digitValue_digitChar (n % 10) (Nat.mod_lt n (by norm_num))
      rw [numberOf_append,smaller (n / 10) (by omega)]
      simp only [numberOf,List.foldl_cons,List.foldl_nil,last,Option.getD_some,List.length_singleton]
      omega

theorem trimBy_eq_self {α : Type} (test : α → Bool) (xs : List α) (none : ∀ x ∈ xs, test x = false) :
    trimBy test xs = xs := by
  have dropped (ys : List α) (none : ∀ y ∈ ys, test y = false) : ys.dropWhile test = ys := by
    cases ys with
    | nil => rfl
    | cons y ys => simp [none y (by simp)]
  rw [trimBy,dropped xs none,dropped xs.reverse (fun x member => none x (by simpa using member)),List.reverse_reverse]

/-- A run of characters of one sort ends where another sort begins. -/
theorem run_split {test : Char → Bool} (run rest : List Char) (inside : ∀ c ∈ run, test c = true)
    (stops : ∀ c ∈ rest.head?, test c = false) :
    (run ++ rest).takeWhile test = run ∧ (run ++ rest).dropWhile test = rest := by
  rw [List.takeWhile_append_of_pos inside,List.dropWhile_append_of_pos inside]
  cases rest with
  | nil => simp
  | cons c rest => simp [stops c (by simp)]

end Text

namespace Decimal

def plainChars : List Char :=
  ['-', '.', '0', '1', '2', '3', '4', '5', '6', '7', '8', '9']

theorem mem_plainChars_of_isDigit (c : Char) (digit : c.isDigit = true) : c ∈ plainChars := by
  obtain ⟨low,high⟩ : 48 ≤ c.toNat ∧ c.toNat ≤ 57 := Char.isDigit_iff_toNat.mp digit
  have named := Char.ofNat_toNat c
  interval_cases c.toNat <;> subst named <;> decide

/-- The whole part of a number and its fraction with a point before it; an empty fraction has none. -/
def pointed (whole fraction : List Char) : List Char :=
  whole ++ if fraction.isEmpty then [] else '.' :: fraction

theorem isDigit_digits (n : Nat) (c : Char) (member : c ∈ digits n) : c.isDigit = true :=
  Nat.isDigit_of_mem_toDigits (by norm_num) (by norm_num) member

theorem head_digits (n : Nat) (nonzero : n ≠ 0) : (digits n).head? ≠ some '0' := by
  induction n using Nat.strong_induction_on with
  | _ n smaller =>
    rw [digits,Nat.toDigits_eq_if (by norm_num)]
    split
    next small => interval_cases n <;> simp_all
    next large =>
      rw [List.head?_append_of_ne_nil _ Nat.toDigits_ne_nil]
      exact smaller (n / 10) (by omega) (by omega)

theorem last_digits (n : Nat) : (digits n).getLast? = some (Nat.digitChar (n % 10)) := by
  rw [digits,Nat.toDigits_eq_if (by norm_num)]
  split
  next small => rw [Nat.mod_eq_of_lt small,List.getLast?_singleton]
  next => rw [List.getLast?_concat]

theorem withPoint_pointed (ds : List Char) (places : Nat) (allDigits : ∀ d ∈ ds, d.isDigit = true)
    (filled : ds ≠ []) :
    ∃ whole fraction, withPoint ds places = pointed whole fraction ∧ whole ≠ [] ∧ fraction.length = places ∧
      (∀ d ∈ whole ++ fraction, d.isDigit = true) ∧ Text.numberOf (whole ++ fraction) = Text.numberOf ds ∧
      (ds.head? ≠ some '0' → whole.head? = some '0' → whole = ['0']) ∧
      (fraction ≠ [] → fraction.getLast? = ds.getLast?) := by
  unfold withPoint
  split
  next none =>
    subst none
    exact ⟨ds,[],by simp [pointed],filled,rfl,by simpa using allDigits,by simp,fun lead zero => absurd zero lead,
      fun some => absurd rfl some⟩
  next some =>
    generalize padded : List.replicate (places + 1 - ds.length) '0' ++ ds = long
    have size : places + 1 ≤ long.length := by
      rw [← padded]
      simp
      omega
    refine ⟨long.take (long.length - places),long.drop (long.length - places),?_,?_,?_,?_,?_,?_,?_⟩
    · have rest : long.drop (long.length - places) ≠ [] := by
        apply List.ne_nil_of_length_pos
        rw [List.length_drop]
        omega
      simp [pointed,rest]
    · apply List.ne_nil_of_length_pos
      rw [List.length_take]
      omega
    · rw [List.length_drop]
      omega
    · rw [List.take_append_drop,← padded]
      intro d member
      rcases List.mem_append.mp member with zero | given
      · rw [(List.mem_replicate.mp zero).2]
        rfl
      · exact allDigits d given
    · rw [List.take_append_drop,← padded,Text.numberOf_append,Text.numberOf_zeros,Nat.zero_mul,Nat.zero_add]
    · -- Zeros are put in front only if the whole part is to be a single one of them.
      intro lead zero
      rcases Nat.lt_or_ge places ds.length with enough | short
      · have bare : long = ds := by
          rw [← padded,Nat.sub_eq_zero_of_le enough]
          rfl
        rw [List.head?_take,if_neg (by omega),bare] at zero
        exact absurd zero lead
      · have one : long.length - places = 1 := by
          rw [← padded]
          simp
          omega
        have front : places + 1 - ds.length = (places - ds.length) + 1 := by omega
        rw [one,← padded,front,List.replicate_succ]
        rfl
    · intro some
      rw [List.getLast?_drop,if_neg (by omega),← padded,List.getLast?_append_of_ne_nil _ filled]

/-- Plain digits are a whole part and a fraction, and together they denote the magnitude. Neither has a zero that
could be left out, unless the coefficient is zero or ends in one. -/
theorem plainDigits_pointed (a : Nat) (e : Int) :
    ∃ whole fraction, plainDigits a e = pointed whole fraction ∧ whole ≠ [] ∧
      (fraction.length : Int) = -min e 0 ∧ (∀ d ∈ whole ++ fraction, d.isDigit = true) ∧
      magnitude (Text.numberOf (whole ++ fraction)) (-(fraction.length : Int)) = magnitude a e ∧
      (a ≠ 0 → whole.head? = some '0' → whole = ['0']) ∧ (a % 10 ≠ 0 → fraction.getLast? ≠ some '0') := by
  unfold plainDigits
  split
  next above =>
    refine ⟨digits a ++ List.replicate e.toNat '0',[],by simp [pointed],by simp [digits,Nat.toDigits_ne_nil],
      by simp; omega,?_,?_,?_,by simp⟩
    · intro d member
      rw [List.append_nil] at member
      rcases List.mem_append.mp member with digit | zero
      · exact isDigit_digits a d digit
      · rw [(List.mem_replicate.mp zero).2]
        rfl
    · rw [List.append_nil,Text.numberOf_append,Text.numberOf_zeros,digits,Text.numberOf_digits,List.length_replicate,
        Nat.add_zero,magnitude_shift]
      congr 1
      simp
      omega
    · intro nonzero zero
      rw [digits,List.head?_append_of_ne_nil _ Nat.toDigits_ne_nil] at zero
      exact absurd zero (head_digits a nonzero)
  next below =>
    obtain ⟨whole,fraction,text,filled,size,allDigits,number,lead,last⟩ :=
      withPoint_pointed (digits a) e.natAbs (isDigit_digits a) Nat.toDigits_ne_nil
    refine ⟨whole,fraction,text,filled,by omega,allDigits,?_,fun nonzero => lead (head_digits a nonzero),?_⟩
    · rw [number,digits,Text.numberOf_digits,size]
      congr 1
      omega
    · intro ending
      have some : fraction ≠ [] := by
        apply List.ne_nil_of_length_pos
        omega
      have small := Nat.mod_lt a (by norm_num : 0 < 10)
      rw [last some,last_digits]
      generalize a % 10 = d at ending small
      interval_cases d <;> simp_all

theorem readParts_pointed (whole fraction : List Char) (filled : whole ≠ [])
    (allDigits : ∀ d ∈ whole ++ fraction, d.isDigit = true) :
    readParts? (pointed whole fraction) =
      some (Text.numberOf (whole ++ fraction), -(fraction.length : Int)) := by
  obtain ⟨wholeDigits,fractionDigits⟩ := List.forall_mem_append.mp allDigits
  cases fraction with
  | nil =>
    obtain ⟨taken,dropped⟩ := Text.run_split whole [] wholeDigits (by simp)
    rw [List.append_nil] at taken dropped
    simp [readParts?,pointed,taken,dropped,filled]
  | cons d ds =>
    obtain ⟨taken,dropped⟩ := Text.run_split whole ('.' :: d :: ds) wholeDigits (by simp)
    obtain ⟨more,nothing⟩ := Text.run_split (d :: ds) [] fractionDigits (by simp)
    rw [List.append_nil] at more nothing
    simp only [readParts?,pointed,List.isEmpty_cons,Bool.false_eq_true,if_false,taken,dropped,more,nothing]
    simp

/-- The characters of numbers that may have a power of ten. -/
def exactChars : List Char :=
  'E' :: '+' :: plainChars

theorem mem_exactChars_of_plain (c : Char) (plain : c ∈ plainChars) : c ∈ exactChars :=
  List.mem_cons_of_mem _ (List.mem_cons_of_mem _ plain)

theorem read_exactChars (cs : List Char) (known : ∀ c ∈ cs, c ∈ exactChars) : read? cs = readAscii? cs := by
  have unblank : ∀ c ∈ exactChars, Text.isBlank c = false := List.all_iff_forall_prop.mp (by decide)
  have marked : ∀ c ∈ exactChars, (c != '_') = true := List.all_iff_forall_prop.mp (by decide)
  have ascii : ∀ c ∈ exactChars, asciiForm? c = some c := List.all_iff_forall_prop.mp (by decide)
  have trimmed : Text.trim cs = cs := Text.trimBy_eq_self _ _ fun c member => unblank c (known c member)
  have kept : cs.filter (· != '_') = cs := List.filter_eq_self.mpr fun c member => marked c (known c member)
  have same : cs.mapM asciiForm? = some cs := by
    clear trimmed kept
    induction cs with
    | nil => rfl
    | cons c cs ih =>
      rw [List.mapM_cons,ascii c (known c (by simp)),ih fun d member => known d (by simp [member])]
      rfl
  rw [read?,trimmed,kept,same]
  rfl

theorem read_plainChars (cs : List Char) (plain : ∀ c ∈ cs, c ∈ plainChars) : read? cs = readAscii? cs :=
  read_exactChars cs fun c member => mem_exactChars_of_plain c (plain c member)

/-- What starts with a digit is neither an infinity nor a NaN, and has no sign of its own. -/
theorem readAscii_digits (d : Char) (cs : List Char) (digit : d.isDigit = true) :
    readAscii? (d :: cs) = readFinite? false (d :: cs) ∧
      readAscii? ('-' :: d :: cs) = readFinite? true (d :: cs) := by
  have unsigned : ∀ c ∈ plainChars, c.isDigit = true → c ≠ '-' ∧ c ≠ '+' :=
    List.all_iff_forall_prop.mp (by decide)
  have lowered : ∀ c ∈ plainChars, c.isDigit = true → c.toLower ≠ 'n' ∧ c.toLower ≠ 's' ∧ c.toLower ≠ 'i' :=
    List.all_iff_forall_prop.mp (by decide)
  obtain ⟨minus,plus⟩ := unsigned d (mem_plainChars_of_isDigit d digit) digit
  obtain ⟨notN,notS,notI⟩ := lowered d (mem_plainChars_of_isDigit d digit) digit
  have body : ∀ text negative, splitSign text = (negative, d :: cs) →
      readAscii? text = readFinite? negative (d :: cs) := by
    intro text negative parts
    unfold readAscii?
    simp only [parts,List.map_cons]
    split <;> simp_all
  have sign : splitSign (d :: cs) = (false, d :: cs) := by
    unfold splitSign
    split <;> simp_all
  exact ⟨body _ _ sign,body _ _ rfl⟩

theorem pointed_plainChars (whole fraction : List Char)
    (allDigits : ∀ d ∈ whole ++ fraction, d.isDigit = true) : ∀ c ∈ pointed whole fraction, c ∈ plainChars := by
  intro c member
  have digit (given : c ∈ whole ++ fraction) := mem_plainChars_of_isDigit c (allDigits c given)
  unfold pointed at member
  split at member
  · exact digit (by simp_all)
  · rcases List.mem_append.mp member with first | rest
    · exact digit (by simp [first])
    · rcases List.mem_cons.mp rest with rfl | second
      · decide
      · exact digit (by simp [second])

theorem readFinite_plainDigits (negative : Bool) (a : Nat) (e : Int) (low : minExact ≤ e)
    (high : adjusted a e ≤ maxExact) :
    ∃ b f, readFinite? negative (plainDigits a e) = some (.finite negative b f) ∧
      magnitude b f = magnitude a e := by
  obtain ⟨whole,fraction,text,filled,size,allDigits,number,-⟩ := plainDigits_pointed a e
  refine ⟨Text.numberOf (whole ++ fraction),-(fraction.length : Int),?_,number⟩
  have least : minExact ≤ -(fraction.length : Int) := by
    have below : minExact ≤ 0 := by decide
    omega
  have most : adjusted (Text.numberOf (whole ++ fraction)) (-(fraction.length : Int)) ≤ maxExact := by
    by_cases zero : Text.numberOf (whole ++ fraction) = 0
    · have above : 0 ≤ maxExact := by decide
      have single : digitCount 0 = 1 := rfl
      rw [zero,adjusted,single]
      omega
    · have nonzero : a ≠ 0 := by
        rintro rfl
        rw [magnitude_zero] at number
        exact (magnitude_pos _ _ zero).ne' number
      have bound := (magnitude_decade a e nonzero).2
      rw [← number] at bound
      exact (adjusted_le _ _ _ zero bound).trans high
  rw [readFinite?,text,readParts_pointed whole fraction filled allDigits]
  simp [most,least]

theorem plainText_plainChars (negative : Bool) (a : Nat) (e : Int) :
    ∀ c ∈ plainText (.finite negative a e), c ∈ plainChars := by
  obtain ⟨whole,fraction,text,-,-,allDigits,-⟩ := plainDigits_pointed a e
  have plain := pointed_plainChars whole fraction allDigits
  rw [← text] at plain
  by_cases zero : a = 0
  · subst zero
    simpa [plainText] using plain
  · have sign : ∀ c ∈ signText negative, c ∈ plainChars := by
      cases negative <;> simp [signText,plainChars]
    rw [plainText,if_neg zero]
    exact List.forall_mem_append.mpr ⟨sign,plain⟩

/-- Plain notation reads back as the number that it was written for. -/
theorem read_plainText (negative : Bool) (a : Nat) (e : Int) (low : minExact ≤ e)
    (high : adjusted a e ≤ maxExact) :
    (∀ c ∈ plainText (.finite negative a e), c ∈ plainChars) ∧
      ∃ y, read? (plainText (.finite negative a e)) = some y ∧ y.isFinite = true ∧
        y.rational = rational (.finite negative a e) := by
  have plain := plainText_plainChars negative a e
  refine ⟨plain,?_⟩
  obtain ⟨whole,fraction,text,filled,-,allDigits,-⟩ := plainDigits_pointed a e
  obtain ⟨d,ws,rfl⟩ := List.exists_cons_of_ne_nil filled
  have digit : d.isDigit = true := allDigits d (by simp)
  have first : ∃ ds, plainDigits a e = d :: ds := ⟨_,text⟩
  obtain ⟨ds,first⟩ := first
  obtain ⟨unsigned,signed⟩ := readAscii_digits d ds digit
  rw [read_plainChars _ plain]
  by_cases zero : a = 0
  · subst zero
    obtain ⟨b,f,found,same⟩ := readFinite_plainDigits false 0 e low high
    have written : plainText (.finite negative 0 e) = plainDigits 0 e := by simp [plainText]
    refine ⟨.finite false b f,?_,rfl,?_⟩
    · rw [written,first,unsigned,← first,found]
    · rw [rational_zero,rational,same,magnitude_zero]
      rfl
  · obtain ⟨b,f,found,same⟩ := readFinite_plainDigits negative a e low high
    have written : plainText (.finite negative a e) = signText negative ++ plainDigits a e := by simp [plainText,zero]
    refine ⟨.finite negative b f,?_,rfl,by simp only [rational,same]⟩
    rw [written,← found,first]
    cases negative
    · exact unsigned
    · exact signed

theorem stripZeros_magnitude (a : Nat) (e : Int) :
    magnitude (stripZeros a e).1 (stripZeros a e).2 = magnitude a e := by
  fun_induction stripZeros a e with
  | case1 e => rw [magnitude_zero,magnitude_zero]
  | case2 a e nonzero divisible ih =>
    have whole : a / 10 * 10 ^ 1 = a := by omega
    rw [ih,← Nat.cast_one,← magnitude_shift,whole]
  | case3 a e nonzero other => rfl

theorem stripZeros_exponent (a : Nat) (e floor : Int) (below : floor ≤ 0) (low : floor ≤ e) :
    floor ≤ (stripZeros a e).2 := by
  fun_induction stripZeros a e with
  | case1 e => exact below
  | case2 a e nonzero divisible ih => exact ih (by omega)
  | case3 a e nonzero other => exact low

theorem normalize_fitted (x : Decimal) (negative : Bool) (a : Nat) (e : Int) (fitted : fit x = .ok (.finite negative a e))
    (low : minExponent ≤ e) (high : magnitude a e < 10 ^ (maxAdjusted + 1)) :
    ∃ b f, normalize x = .ok (.finite negative b f) ∧ magnitude b f = magnitude a e ∧
      minExponent ≤ f ∧ adjusted b f ≤ maxAdjusted := by
  refine ⟨(stripZeros a e).1,(stripZeros a e).2,?_,stripZeros_magnitude a e,?_,?_⟩
  · rw [normalize,fitted]
    rfl
  · exact stripZeros_exponent a e minExponent (by decide) low
  · by_cases zero : a = 0
    · subst zero
      have bare : stripZeros 0 e = (0, 0) := by simp [stripZeros]
      rw [bare]
      decide
    · have kept := stripZeros_magnitude a e
      apply adjusted_le
      · intro none
        rw [none,magnitude_zero] at kept
        exact (magnitude_pos a e zero).ne kept
      · rwa [kept]

theorem plain_fitted (x : Decimal) (negative : Bool) (a : Nat) (e : Int) (fitted : fit x = .ok (.finite negative a e))
    (low : minExponent ≤ e) (high : magnitude a e < 10 ^ (maxAdjusted + 1)) :
    ∃ text, x.plain = .ok text ∧ (∀ c ∈ text.toList, c ∈ plainChars) ∧
      ∃ y, read? text.toList = some y ∧ y.isFinite = true ∧ y.rational = rational (.finite negative a e) := by
  obtain ⟨b,f,normal,same,floor,top⟩ := normalize_fitted x negative a e fitted low high
  have range : minExact ≤ minExponent ∧ maxAdjusted ≤ maxExact := by decide
  obtain ⟨plain,y,found,yFinite,value⟩ := read_plainText negative b f (range.1.trans floor) (top.trans range.2)
  refine ⟨String.ofList (plainText (.finite negative b f)),?_,by simpa using plain,y,by simpa using found,yFinite,?_⟩
  · rw [Decimal.plain,normal]
    rfl
  · rw [value]
    simp only [rational,same]

theorem plain_exact (x : Decimal) (finite : x.isFinite = true) (fits : Representable x.rational) :
    ∃ text, x.plain = .ok text ∧ (∀ c ∈ text.toList, c ∈ plainChars) ∧
      ∃ y, read? text.toList = some y ∧ y.isFinite = true ∧ y.rational = x.rational := by
  obtain ⟨n,a,e,rfl⟩ := x.exists_finite finite
  obtain ⟨b,f,fitted,same,low⟩ := fit_finite n a e fits
  have high : magnitude b f < 10 ^ (maxAdjusted + 1) := by
    rw [same,← abs_rational n]
    exact fits.2
  obtain ⟨text,written,plain,y,found,yFinite,value⟩ := plain_fitted _ n b f fitted low high
  refine ⟨text,written,plain,y,found,yFinite,?_⟩
  rw [value]
  simp only [rational,same]

end Decimal
end MediaTiers
