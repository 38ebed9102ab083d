import MediaTiers.Proofs.Decimal.Writing

/-! The exact form of a decimal and its reading. The form shows coefficient and exponent, with or without a power of
ten; reading gives both back digit for digit, as long as the decimal is one that can be held at all. -/
namespace MediaTiers.Decimal

/-- The decimals that can be held: the leading digit of a finite one is not too high and the last one not too low. -/
def IsHeld : Decimal → Prop
  | .finite _ coefficient exponent => adjusted coefficient exponent ≤ maxExact ∧ minExact ≤ exponent
  | _ => True

theorem readFinite_held (negative : Bool) (cs : List Char) (x : Decimal) (read : readFinite? negative cs = some x) :
    x.IsHeld := by
  obtain ⟨⟨coefficient,exponent⟩,-,rest⟩ := Option.bind_eq_some_iff.mp read
  obtain ⟨_,range,made⟩ := Option.bind_eq_some_iff.mp rest
  cases made
  unfold guard at range
  split at range
  next inside => exact inside
  next => cases range

theorem read_held (cs : List Char) (x : Decimal) (read : read? cs = some x) : x.IsHeld := by
  obtain ⟨ascii,-,read⟩ := Option.bind_eq_some_iff.mp read
  have unbounded (negative signaling : Bool) (payload : List Char)
      (read : readNaN? negative signaling payload = some x) : x.IsHeld := by
    unfold readNaN? at read
    split at read
    · cases read
      trivial
    · cases read
  unfold readAscii? at read
  dsimp only at read
  split at read
  · exact unbounded _ _ _ read
  · exact unbounded _ _ _ read
  · cases read
    trivial
  · cases read
    trivial
  · exact readFinite_held _ _ x read

theorem readExponent_text (e : Int) : readExponent? ((if e < 0 then '-' else '+') :: digits e.natAbs) = some e := by
  have filled : digits e.natAbs ≠ [] := Nat.toDigits_ne_nil
  have allDigits : (digits e.natAbs).all Char.isDigit = true := List.all_eq_true.mpr (isDigit_digits e.natAbs)
  have number : Text.numberOf (digits e.natAbs) = e.natAbs := Text.numberOf_digits e.natAbs
  split
  next below =>
    have size : (e.natAbs : Int) = -e := by omega
    simp [readExponent?,splitSign,filled,allDigits,number,size]
  next above =>
    have size : (e.natAbs : Int) = e := by omega
    simp [readExponent?,splitSign,filled,allDigits,number,size]

theorem readParts_scaled (whole fraction : List Char) (e : Int) (filled : whole ≠ [])
    (allDigits : ∀ d ∈ whole ++ fraction, d.isDigit = true) :
    readParts? (pointed whole fraction ++ exponentText e) =
      some (Text.numberOf (whole ++ fraction), e - fraction.length) := by
  obtain ⟨wholeDigits,fractionDigits⟩ := List.forall_mem_append.mp allDigits
  have scale := readExponent_text e
  generalize shown : (if e < 0 then '-' else '+') :: digits e.natAbs = text at scale
  have tail : exponentText e = 'E' :: text := by rw [exponentText,shown]
  cases fraction with
  | nil =>
    obtain ⟨taken,dropped⟩ := Text.run_split whole ('E' :: text) wholeDigits (by simp)
    simp [readParts?,pointed,tail,taken,dropped,filled,scale]
  | cons d ds =>
    obtain ⟨taken,dropped⟩ := Text.run_split whole ('.' :: (d :: ds ++ 'E' :: text)) wholeDigits (by simp)
    obtain ⟨more,left⟩ := Text.run_split (d :: ds) ('E' :: text) fractionDigits (by simp)
    have form : pointed whole (d :: ds) ++ 'E' :: text = whole ++ '.' :: (d :: ds ++ 'E' :: text) := by
      simp [pointed]
    rw [tail,form]
    simp only [readParts?,taken,dropped,more,left,scale]
    simp

theorem exponentText_exactChars (e : Int) : ∀ c ∈ exponentText e, c ∈ exactChars := by
  intro c member
  rcases List.mem_cons.mp member with rfl | rest
  · decide
  · rcases List.mem_cons.mp rest with rfl | digit
    · split <;> decide
    · exact mem_exactChars_of_plain c (mem_plainChars_of_isDigit c (isDigit_digits _ c digit))

/-- A magnitude in exact form starts with a digit, and its parts are the coefficient and the exponent. -/
theorem readParts_exact (a : Nat) (e : Int) :
    ∃ d text, exact (.finite false a e) = d :: text ∧ d.isDigit = true ∧ (∀ c ∈ d :: text, c ∈ exactChars) ∧
      readParts? (d :: text) = some (a, e) := by
  have wide (whole fraction : List Char) (allDigits : ∀ d ∈ whole ++ fraction, d.isDigit = true) :
      ∀ c ∈ pointed whole fraction, c ∈ exactChars := fun c member =>
    mem_exactChars_of_plain c (pointed_plainChars whole fraction allDigits c member)
  have number : Text.numberOf (digits a) = a := Text.numberOf_digits a
  have count : 0 < (digits a).length := List.length_pos_of_ne_nil Nat.toDigits_ne_nil
  simp only [exact,signText,Bool.false_eq_true,if_false,List.nil_append]
  split
  next near =>
    obtain ⟨whole,fraction,form,filled,size,allDigits,same,-⟩ :=
      withPoint_pointed (digits a) e.natAbs (isDigit_digits a) Nat.toDigits_ne_nil
    obtain ⟨d,ds,rfl⟩ := List.exists_cons_of_ne_nil filled
    have read := readParts_pointed (d :: ds) fraction filled allDigits
    have chars := wide (d :: ds) fraction allDigits
    have place : -(fraction.length : Int) = e := by omega
    rw [same,number,place] at read
    rw [form]
    exact ⟨d,_,rfl,allDigits d (by simp),chars,read⟩
  next far =>
    obtain ⟨whole,fraction,form,filled,size,allDigits,same,-⟩ :=
      withPoint_pointed (digits a) ((digits a).length - 1) (isDigit_digits a) Nat.toDigits_ne_nil
    obtain ⟨d,ds,rfl⟩ := List.exists_cons_of_ne_nil filled
    have read := readParts_scaled (d :: ds) fraction (adjusted a e) filled allDigits
    have chars := wide (d :: ds) fraction allDigits
    -- The leading digit stands before the point, so all digits but one count against the written power.
    have place : adjusted a e - (fraction.length : Int) = e := by
      rw [adjusted,digitCount]
      omega
    have all : ∀ c ∈ pointed (d :: ds) fraction ++ exponentText (adjusted a e), c ∈ exactChars :=
      List.forall_mem_append.mpr ⟨chars,exponentText_exactChars _⟩
    rw [same,number,place] at read
    rw [form]
    exact ⟨d,_,rfl,allDigits d (by simp),all,read⟩

/-- A finite decimal is read from its exact form, sign, coefficient and exponent, exactly if it can be held. -/
theorem read_exact_iff (n : Bool) (a : Nat) (e : Int) :
    read? (exact (.finite n a e)) = some (.finite n a e) ↔ IsHeld (.finite n a e) := by
  refine ⟨read_held _ _,?_⟩
  intro held
  obtain ⟨d,text,form,digit,chars,parts⟩ := readParts_exact a e
  obtain ⟨unsigned,signed⟩ := readAscii_digits d text digit
  have magnitude : readFinite? n (d :: text) = some (.finite n a e) := by
    have range : adjusted a e ≤ maxExact ∧ minExact ≤ e := held
    simp [readFinite?,parts,range]
  cases n with
  | false => rw [form,read_exactChars _ chars,unsigned,magnitude]
  | true =>
    have minus : exact (.finite true a e) = '-' :: d :: text := by
      rw [← form]
      rfl
    rw [minus,read_exactChars _ (List.forall_mem_cons.mpr ⟨by decide,chars⟩),signed,magnitude]

end MediaTiers.Decimal
