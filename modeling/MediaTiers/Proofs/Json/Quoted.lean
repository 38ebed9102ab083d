import MediaTiers.Json.Printer
import MediaTiers.Json.Reader
import Mathlib.Tactic.IntervalCases

/-! Texts between quotes in JSON. Every character is written in ASCII: by itself, by a letter after a backslash, or by
one or two 16-bit units. Reading what stands between the quotes gives the characters back. -/
namespace MediaTiers.Json

theorem digitValue_digitChar (d : Nat) (small : d < 16) :
    Integer.digitValue? (Nat.digitChar d) = some d ∧ (Nat.digitChar d).toNat < 0x80 := by
  interval_cases d <;> decide

theorem unitOf_hexDigits (n : Nat) (small : n < 0x10000) :
    ∃ a b c d, Text.hexDigits 4 n = [a, b, c, d] ∧ unitOf? a b c d = some n ∧
      ∀ x ∈ [a, b, c, d], x.toNat < 0x80 := by
  have digit (m : Nat) := digitValue_digitChar (m % 16) (Nat.mod_lt m (by decide))
  refine ⟨_,_,_,_,rfl,?_,?_⟩
  · simp only [unitOf?,(digit _).1,Option.bind_eq_bind,Option.bind_some,Option.pure_def,Option.some.injEq]
    omega
  · simp only [List.forall_mem_cons,(digit _).2,true_and]
    simp

theorem unitEscape_ascii (n : Nat) (small : n < 0x10000) : ∀ x ∈ unitEscape n, x.toNat < 0x80 := by
  obtain ⟨a,b,c,d,shown,-,ascii⟩ := unitOf_hexDigits n small
  rw [unitEscape,shown]
  exact List.forall_mem_cons.mpr ⟨by decide,List.forall_mem_cons.mpr ⟨by decide,ascii⟩⟩

/-- Parts are put in front of what is read later. -/
def inFront (ps : List Piece) (read : List Piece × List Char) : List Piece × List Char :=
  (ps ++ read.1, read.2)

theorem pieces_unit (n : Nat) (small : n < 0x10000) (rest : List Char) :
    pieces (unitEscape n ++ rest) = (pieces rest).map (inFront [.unit n]) := by
  obtain ⟨a,b,c,d,shown,unit,-⟩ := unitOf_hexDigits n small
  have form : unitEscape n ++ rest = '\\' :: 'u' :: a :: b :: c :: d :: rest := by
    rw [unitEscape,shown]
    rfl
  rw [form,pieces,unit]
  cases pieces rest <;> rfl

theorem pieces_pair (n : Nat) (small : n < 0x110000) (beyond : 0x10000 ≤ n) (rest : List Char) :
    pieces (pairEscape n ++ rest) = (pieces rest).map
      (inFront [.unit (0xD800 + (n - 0x10000) / 0x400), .unit (0xDC00 + (n - 0x10000) % 0x400)]) := by
  rw [pairEscape,List.append_assoc,pieces_unit _ (by omega),pieces_unit _ (by omega)]
  cases pieces rest <;> rfl

theorem pieces_short (e c : Char) (short : shortEscape? e = some c) (rest : List Char) :
    pieces ('\\' :: e :: rest) = (pieces rest).map (inFront [.char c]) := by
  have letter : e ≠ 'u' := by
    rintro rfl
    cases short
  rw [pieces]
  · rw [short]
    cases pieces rest <;> rfl
  · intro _ _ _ _ _ unit
    exact absurd unit letter

theorem pieces_plain (c : Char) (above : 0x20 ≤ c.toNat) (quote : c ≠ '"') (slash : c ≠ '\\') (rest : List Char) :
    pieces (c :: rest) = (pieces rest).map (inFront [.char c]) := by
  have allowed : (decide (0x20 ≤ c.toNat) && c != '\\') = true := by simp [above,slash]
  rw [pieces]
  · rw [allowed]
    cases pieces rest <;> rfl
  · exact quote
  · exact fun _ _ _ _ _ escape _ => slash escape
  · exact fun _ _ escape _ => slash escape

/-- Parts that are joined to one character, whatever follows. -/
def Spells (ps : List Piece) (c : Char) : Prop :=
  ∀ more, joinPieces none (ps ++ more) = c :: joinPieces none more

theorem spells_unit (c : Char) (single : c.toNat < 0x10000) : Spells [.unit c.toNat] c := by
  intro more
  have valid : c.toNat < 0xD800 ∨ 0xDFFF < c.toNat ∧ c.toNat < 0x110000 := c.valid
  have high : isHighHalf c.toNat = false := by
    simp [isHighHalf]
    omega
  have low : isLowHalf c.toNat = false := by
    simp [isLowHalf]
    omega
  simp [joinPieces,unitChar,high,low]

theorem spells_pair (c : Char) (beyond : 0x10000 ≤ c.toNat) :
    Spells [.unit (0xD800 + (c.toNat - 0x10000) / 0x400), .unit (0xDC00 + (c.toNat - 0x10000) % 0x400)] c := by
  intro more
  have valid : c.toNat < 0xD800 ∨ 0xDFFF < c.toNat ∧ c.toNat < 0x110000 := c.valid
  generalize first : 0xD800 + (c.toNat - 0x10000) / 0x400 = high
  generalize second : 0xDC00 + (c.toNat - 0x10000) % 0x400 = low
  have highHalf : isHighHalf high = true := by
    simp [isHighHalf]
    omega
  have lowHalf : isLowHalf low = true := by
    simp [isLowHalf]
    omega
  have joined : 0x10000 + (high - 0xD800) * 0x400 + (low - 0xDC00) = c.toNat := by omega
  simp [joinPieces,highHalf,lowHalf,pairChar,joined]

theorem shortEscape_special (c : Char) (special : (c == '"' || c == '\\') = true) :
    shortEscape? c = some c ∧ c.toNat < 0x80 := by
  rcases Bool.or_eq_true_iff.mp special with quote | slash
  · rw [eq_of_beq quote]
    decide
  · rw [eq_of_beq slash]
    decide

/-- A character is written in ASCII, and is read from what is written for it. -/
theorem charText_reads (c : Char) :
    (∀ x ∈ charText c, x.toNat < 0x80) ∧
      ∃ ps, Spells ps c ∧ ∀ rest, pieces (charText c ++ rest) = (pieces rest).map (inFront ps) := by
  have short (e : Char) (means : shortEscape? e = some c ∧ e.toNat < 0x80) :
      (∀ x ∈ ['\\', e], x.toNat < 0x80) ∧
        ∃ ps, Spells ps c ∧ ∀ rest, pieces (['\\', e] ++ rest) = (pieces rest).map (inFront ps) :=
    ⟨by simpa using means.2,[.char c],fun _ => rfl,pieces_short e c means.1⟩
  have valid : c.toNat < 0xD800 ∨ 0xDFFF < c.toNat ∧ c.toNat < 0x110000 := c.valid
  unfold charText
  split
  next special => exact short c (shortEscape_special c special)
  split
  next same => cases eq_of_beq same; exact short 'n' (by decide)
  split
  next same => cases eq_of_beq same; exact short 'r' (by decide)
  split
  next same => cases eq_of_beq same; exact short 't' (by decide)
  split
  next same => cases eq_of_beq same; exact short 'f' (by decide)
  split
  next same => cases eq_of_beq same; exact short 'b' (by decide)
  split
  next special _ _ _ _ _ shown =>
    obtain ⟨above,below⟩ : 0x20 ≤ c.toNat ∧ c.toNat ≤ 0x7E := by simpa using shown
    obtain ⟨quote,slash⟩ : c ≠ '"' ∧ c ≠ '\\' := by simpa using special
    exact ⟨by simp; omega,[.char c],fun _ => rfl,pieces_plain c above quote slash⟩
  split
  next single => exact ⟨unitEscape_ascii _ single,_,spells_unit c single,pieces_unit _ single⟩
  next far =>
    have beyond : 0x10000 ≤ c.toNat := Nat.le_of_not_lt far
    have ascii := List.forall_mem_append.mpr ⟨unitEscape_ascii (0xD800 + (c.toNat - 0x10000) / 0x400) (by omega),
      unitEscape_ascii (0xDC00 + (c.toNat - 0x10000) % 0x400) (by omega)⟩
    exact ⟨ascii,_,spells_pair c beyond,pieces_pair _ (by omega) beyond⟩

theorem stringText_ascii (s : String) : ∀ x ∈ stringText s, x.toNat < 0x80 := by
  have inner : ∀ x ∈ s.toList.flatMap charText, x.toNat < 0x80 := by
    intro x member
    obtain ⟨c,-,inside⟩ := List.mem_flatMap.mp member
    exact (charText_reads c).1 x inside
  rw [stringText]
  exact List.forall_mem_append.mpr
    ⟨List.forall_mem_cons.mpr ⟨by decide,inner⟩,List.forall_mem_singleton.mpr (by decide)⟩

theorem pieces_chars (cs rest : List Char) :
    ∃ ps, pieces (cs.flatMap charText ++ '"' :: rest) = some (ps, rest) ∧ joinPieces none ps = cs := by
  induction cs with
  | nil => exact ⟨[],by rw [List.flatMap_nil,List.nil_append,pieces],rfl⟩
  | cons c cs ih =>
    obtain ⟨later,read,joined⟩ := ih
    obtain ⟨ps,spells,first⟩ := (charText_reads c).2
    refine ⟨ps ++ later,?_,?_⟩
    · rw [List.flatMap_cons,List.append_assoc,first,read]
      rfl
    · rw [spells,joined]

theorem stringBody_text (s : String) (rest : List Char) :
    ∃ body, stringText s ++ rest = '"' :: body ∧ stringBody body = .ok (s, rest) := by
  obtain ⟨ps,read,joined⟩ := pieces_chars s.toList rest
  refine ⟨s.toList.flatMap charText ++ '"' :: rest,by simp [stringText],?_⟩
  rw [stringBody,read]
  simp only [joined,String.ofList_toList]

end MediaTiers.Json
