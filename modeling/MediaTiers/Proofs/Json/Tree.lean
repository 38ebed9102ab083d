import MediaTiers.Proofs.Attempt
import MediaTiers.Proofs.Json.Quoted
import MediaTiers.Proofs.Value.Plain
import Mathlib

/-! Trees of lists and records in JSON. The text of a tree is written in ASCII and is read as that tree, whatever
follows it; the number of its characters bounds the calls that reading it takes. -/
namespace MediaTiers

/-- Nulls and texts, lists of trees, and records of trees under distinct names. -/
inductive Value.Tree : Value → Prop
  | null : Tree .null
  | text (s : String) : Tree (.text s)
  | list (items : List Value) (each : ∀ v ∈ items, Tree v) : Tree (.list items)
  | record (fields : List (String × Value)) (distinct : (fields.map (·.1)).Nodup) (each : ∀ f ∈ fields, Tree f.2) :
      Tree (.record fields)

namespace Json

/-- Begins with a character that is neither white space nor closes anything. -/
def Starts (cs : List Char) : Prop :=
  ∃ c more, cs = c :: more ∧ isSpace c = false ∧ c ≠ ']' ∧ c ≠ '\x7d'

theorem Starts.append {cs : List Char} (starts : Starts cs) (rest : List Char) : Starts (cs ++ rest) := by
  obtain ⟨c,more,rfl,solid⟩ := starts
  exact ⟨c,more ++ rest,rfl,solid⟩

/-- A text of a value: it is read as that value whatever follows, by as many calls as it has characters. -/
structure Denotes (text : List Char) (v : Value) : Prop where
  ascii : ∀ c ∈ text, c.toNat < 0x80
  starts : Starts text
  reads : ∀ bound rest, text.length ≤ bound → value bound (text ++ rest) = .ok (v, rest)

/-- A text of an entry: the name between quotes, then the text of its value. -/
def DenotesEntry (text : List Char) (entry : String × Value) : Prop :=
  ∃ inner, text = stringText entry.1 ++ ':' :: ' ' :: inner ∧ Denotes inner entry.2

theorem skipSpace_solid (c : Char) (cs : List Char) (solid : isSpace c = false) : skipSpace (c :: cs) = c :: cs := by
  simp [skipSpace,solid]

theorem skipSpace_newline (level : Nat) (c : Char) (cs : List Char) (solid : isSpace c = false) :
    skipSpace (newline level ++ c :: cs) = c :: cs := by
  have blank : ∀ x ∈ newline level, isSpace x = true := by
    intro x member
    rcases List.mem_cons.mp member with rfl | space
    · rfl
    · rw [(List.mem_replicate.mp space).2]
      rfl
  rw [skipSpace,List.dropWhile_append_of_pos blank]
  exact skipSpace_solid c cs solid

theorem newline_ascii (level : Nat) : ∀ x ∈ newline level, x.toNat < 0x80 := by
  intro x member
  rcases List.mem_cons.mp member with rfl | space
  · decide
  · rw [(List.mem_replicate.mp space).2]
    decide

/-- What stands between two elements one level below. -/
def separator (level : Nat) : List Char :=
  ',' :: newline (level + 1)

section Row

variable {α : Type} {Reads : List Char → α → Prop} {read : Nat → List Char → Except Failure (List α × List Char)}

/-- A reader of rows is known by what it does with the last element and with an element before others. -/
structure ReadsRows (Reads : List Char → α → Prop) (read : Nat → List Char → Except Failure (List α × List Char))
    (close : Char) : Prop where
  starts : ∀ text a, Reads text a → Starts text
  ascii : ∀ text a, Reads text a → ∀ c ∈ text, c.toNat < 0x80
  last : ∀ text a level bound rest, Reads text a → text.length ≤ bound →
    read (bound + 1) (text ++ (newline level ++ close :: rest)) = .ok ([a], rest)
  more : ∀ text a level bound later, Reads text a → text.length ≤ bound → Starts later →
    read (bound + 1) (text ++ (separator level ++ later)) =
      read bound later >>= fun found => .ok (a :: found.1, found.2)

theorem ReadsRows.row {close : Char} (reads : ReadsRows Reads read close) (level : Nat) (texts : List (List Char))
    (as : List α) (each : List.Forall₂ Reads texts as) (filled : texts ≠ []) :
    Starts ((separator level).intercalate texts) ∧ (∀ c ∈ (separator level).intercalate texts, c.toNat < 0x80) ∧
      ∀ bound rest, ((separator level).intercalate texts).length < bound →
        read bound ((separator level).intercalate texts ++ (newline level ++ close :: rest)) = .ok (as, rest) := by
  induction each with
  | nil => exact absurd rfl filled
  | @cons text a texts as first others ih =>
    have opens := reads.starts text a first
    have plain := reads.ascii text a first
    cases others with
    | nil =>
      rw [List.intercalate_singleton]
      refine ⟨opens,plain,?_⟩
      intro bound rest enough
      obtain ⟨bound,rfl⟩ : ∃ less, bound = less + 1 := ⟨bound - 1,by omega⟩
      exact reads.last text a level bound rest first (by omega)
    | @cons next b texts as second others =>
      obtain ⟨starts,ascii,found⟩ := ih (by simp)
      have width : 0 < (separator level).length := Nat.succ_pos _
      have gap : ∀ c ∈ separator level, c.toNat < 0x80 :=
        List.forall_mem_cons.mpr ⟨by decide,newline_ascii (level + 1)⟩
      rw [List.intercalate_cons_cons,List.append_assoc]
      refine ⟨opens.append _,by simp only [List.forall_mem_append]; exact ⟨plain,gap,ascii⟩,?_⟩
      intro bound rest enough
      simp only [List.length_append] at enough
      obtain ⟨bound,rfl⟩ : ∃ less, bound = less + 1 := ⟨bound - 1,by omega⟩
      rw [List.append_assoc,List.append_assoc,reads.more text a level bound _ first (by omega) (starts.append _),
        found bound rest (by omega)]
      rfl

/-- A collection between brackets: a closing bracket ends it at once, and anything else begins a row of elements. -/
structure Encloses (Reads : List Char → α → Prop) (read : Nat → List Char → Except Failure (List α × List Char))
    (make : List α → Value) (left right : Char) : Prop where
  rows : ReadsRows Reads read right
  brackets : (left, right) = ('[', ']') ∨ (left, right) = ('\x7b', '\x7d')
  empty : ∀ bound rest, value (bound + 1) (left :: right :: rest) = .ok (make [], rest)
  opened : ∀ bound cs c more, skipSpace cs = c :: more → c ≠ right →
    value (bound + 1) (left :: cs) = read bound (c :: more) >>= fun found => .ok (make found.1, found.2)

theorem enclosed_lines (left right : Char) (level : Nat) (texts : List (List Char)) (filled : texts ≠ []) :
    enclosed left right level texts = left :: (newline (level + 1) ++
      ((separator level).intercalate texts ++ (newline level ++ [right]))) := by
  have some : texts.isEmpty = false := by simpa using filled
  simp [enclosed,some,separator]

theorem Encloses.denotes {make : List α → Value} {left right : Char} (encloses : Encloses Reads read make left right)
    (level : Nat) (texts : List (List Char)) (as : List α) (each : List.Forall₂ Reads texts as) :
    Denotes (enclosed left right level texts) (make as) := by
  have known : left.toNat < 0x80 ∧ right.toNat < 0x80 ∧ isSpace left = false ∧ left ≠ ']' ∧ left ≠ '\x7d' ∧
      ∀ c, c ≠ ']' ∧ c ≠ '\x7d' → c ≠ right := by
    rcases encloses.brackets with same | same
    · cases same
      exact ⟨by decide,by decide,rfl,by decide,by decide,fun c apart => apart.1⟩
    · cases same
      exact ⟨by decide,by decide,rfl,by decide,by decide,fun c apart => apart.2⟩
  obtain ⟨leftAscii,rightAscii,solid,notList,notMap,closes⟩ := known
  by_cases filled : texts = []
  · subst filled
    cases each
    have form : enclosed left right level [] = [left, right] := rfl
    rw [form]
    refine ⟨by simp [leftAscii,rightAscii],⟨left,_,rfl,solid,notList,notMap⟩,?_⟩
    intro bound rest enough
    obtain ⟨bound,rfl⟩ : ∃ less, bound = less + 1 := ⟨bound - 1,by simp at enough; omega⟩
    exact encloses.empty bound rest
  · obtain ⟨starts,ascii,found⟩ := encloses.rows.row level texts as each filled
    rw [enclosed_lines left right level texts filled]
    refine ⟨?_,⟨left,_,rfl,solid,notList,notMap⟩,?_⟩
    · simp only [List.forall_mem_cons,List.forall_mem_append]
      exact ⟨leftAscii,newline_ascii (level + 1),ascii,newline_ascii level,rightAscii,by simp⟩
    · intro bound rest enough
      simp only [List.length_cons,List.length_append] at enough
      obtain ⟨bound,rfl⟩ : ∃ less, bound = less + 1 := ⟨bound - 1,by omega⟩
      have row := found bound rest (by omega)
      obtain ⟨c,more,form,blank,apart⟩ := starts
      simp only [form,List.cons_append,List.append_assoc,List.nil_append] at row ⊢
      rw [encloses.opened bound _ c _ (skipSpace_newline (level + 1) c _ blank) (closes c apart),row]
      rfl

end Row

theorem items_rows : ReadsRows Denotes items ']' where
  starts _ _ denotes := denotes.starts
  ascii _ _ denotes := denotes.ascii
  last text v level bound rest denotes enough := by
    rw [items,denotes.reads _ _ enough,Attempt.ok_bind]
    simp only [skipSpace_newline level ']' rest rfl]
    rfl
  more text v level bound later denotes enough starts := by
    obtain ⟨c,cs,rfl,solid,-⟩ := starts
    have comma : skipSpace (separator level ++ c :: cs) = ',' :: (newline (level + 1) ++ c :: cs) :=
      skipSpace_solid ',' _ rfl
    rw [items,denotes.reads _ _ enough,Attempt.ok_bind]
    simp only [comma,skipSpace_newline _ c cs solid]
    rfl

/-- An entry is read up to its end, and what follows decides how the map goes on. -/
theorem entries_entry (text : List Char) (entry : String × Value) (denotes : DenotesEntry text entry) (bound : Nat)
    (enough : text.length ≤ bound) (tail : List Char) :
    entries (bound + 1) (text ++ tail) = match skipSpace tail with
      | '\x7d' :: rest => .ok ([entry], rest)
      | ',' :: rest => entries bound (skipSpace rest) >>= fun found => .ok (entry :: found.1, found.2)
      | _ => .error .notJson := by
  obtain ⟨inner,rfl,inside⟩ := denotes
  obtain ⟨body,form,named⟩ := stringBody_text entry.1 (':' :: ' ' :: (inner ++ tail))
  have spread : stringText entry.1 ++ ':' :: ' ' :: inner ++ tail = '"' :: body := by
    rw [← form]
    simp
  have colon : skipSpace (':' :: ' ' :: (inner ++ tail)) = ':' :: ' ' :: (inner ++ tail) := skipSpace_solid _ _ rfl
  have space : skipSpace (' ' :: (inner ++ tail)) = inner ++ tail := by
    obtain ⟨c,more,rfl,solid,-⟩ := inside.starts
    exact skipSpace_solid c (more ++ tail) solid
  have short : inner.length ≤ bound := by
    simp only [List.length_append,List.length_cons] at enough
    omega
  rw [spread,entries,named,Attempt.ok_bind]
  simp only [colon,space,inside.reads bound tail short,Attempt.ok_bind]
  rfl

theorem entries_rows : ReadsRows DenotesEntry entries '\x7d' where
  starts text entry denotes := by
    obtain ⟨inner,rfl,-⟩ := denotes
    exact ⟨'"',_,rfl,rfl,by decide,by decide⟩
  ascii text entry denotes := by
    obtain ⟨inner,rfl,inside⟩ := denotes
    simp only [List.forall_mem_cons,List.forall_mem_append]
    exact ⟨stringText_ascii entry.1,by decide,by decide,inside.ascii⟩
  last text entry level bound rest denotes enough := by
    rw [entries_entry text entry denotes bound enough,skipSpace_newline level '\x7d' rest rfl]
    rfl
  more text entry level bound later denotes enough starts := by
    obtain ⟨c,cs,rfl,solid,-⟩ := starts
    have comma : skipSpace (separator level ++ c :: cs) = ',' :: (newline (level + 1) ++ c :: cs) :=
      skipSpace_solid ',' _ rfl
    rw [entries_entry text entry denotes bound enough,comma]
    simp only [skipSpace_newline _ c cs solid]

theorem list_encloses : Encloses Denotes items .list '[' ']' where
  rows := items_rows
  brackets := .inl rfl
  empty bound rest := by
    rw [value,skipSpace_solid ']' rest rfl]
    rfl
  opened bound cs c more skipped other := by
    rw [value,skipped]
    split
    next same => exact absurd (List.cons.inj same).1 other
    next => rfl

theorem map_encloses : Encloses DenotesEntry entries mapOf '\x7b' '\x7d' where
  rows := entries_rows
  brackets := .inr rfl
  empty bound rest := by
    rw [value,skipSpace_solid '\x7d' rest rfl]
    rfl
  opened bound cs c more skipped other := by
    rw [value,skipped]
    split
    next same => exact absurd (List.cons.inj same).1 other
    next => rfl

theorem insertEntry_new (key : String) (v : Value) (fields : List (String × Value)) (new : key ∉ fields.map (·.1)) :
    Value.insertEntry (.text key) v (fields.map fun f => (.text f.1, f.2)) =
      (fields ++ [(key, v)]).map fun f => (.text f.1, f.2) := by
  induction fields with
  | nil => rfl
  | cons f fields ih =>
    obtain ⟨other,fresh⟩ : key ≠ f.1 ∧ key ∉ fields.map (·.1) := by simpa using new
    have apart : (Value.text f.1).same (.text key) = false := by
      rw [Value.same_text]
      simpa using other.symm
    simp only [List.map_cons,Value.insertEntry,apart,Bool.false_eq_true,if_false,ih fresh,List.cons_append]

theorem mapOf_distinct (fields : List (String × Value)) (distinct : (fields.map (·.1)).Nodup) :
    mapOf fields = .record fields := by
  have later (before after : List (String × Value)) (distinct : ((before ++ after).map (·.1)).Nodup) :
      after.foldl (fun m e => Value.insertEntry (.text e.1) e.2 m) (before.map fun f => (.text f.1, f.2)) =
        (before ++ after).map fun f => (.text f.1, f.2) := by
    induction after generalizing before with
    | nil => simp
    | cons f after ih =>
      have new : f.1 ∉ before.map (·.1) := by
        intro member
        rw [List.map_append,List.map_cons] at distinct
        exact (List.nodup_append.mp distinct).2.2 f.1 member f.1 (by simp) rfl
      rw [List.foldl_cons,insertEntry_new _ _ _ new,ih (before ++ [f]) (by simpa using distinct)]
      simp
  exact congrArg Value.map (later [] fields distinct)

theorem null_denotes : Denotes ['n', 'u', 'l', 'l'] .null where
  ascii := by simp
  starts := ⟨'n',_,rfl,rfl,by decide,by decide⟩
  reads bound rest enough := by
    obtain ⟨bound,rfl⟩ : ∃ less, bound = less + 1 := ⟨bound - 1,by simp at enough; omega⟩
    rfl

theorem text_denotes (s : String) : Denotes (stringText s) (.text s) where
  ascii := stringText_ascii s
  starts := ⟨'"',_,rfl,rfl,by decide,by decide⟩
  reads bound rest enough := by
    obtain ⟨bound,rfl⟩ : ∃ less, bound = less + 1 := ⟨bound - 1,by simp [stringText] at enough; omega⟩
    obtain ⟨body,form,read⟩ := stringBody_text s rest
    rw [form,value,read]
    rfl

theorem textsAt_denotes (outer : List Nat) (level : Nat) (vs : List Value)
    (each : ∀ v ∈ vs, ∃ text, textAt outer level v = .ok text ∧ Denotes text v) :
    ∃ texts, textsAt outer level vs = .ok texts ∧ List.Forall₂ Denotes texts vs := by
  induction vs with
  | nil => exact ⟨[],rfl,.nil⟩
  | cons v vs ih =>
    obtain ⟨⟨text,written,first⟩,others⟩ := List.forall_mem_cons.mp each
    obtain ⟨texts,row,rest⟩ := ih others
    refine ⟨text :: texts,?_,.cons first rest⟩
    rw [textsAt,written,row]
    rfl

theorem entryTextsAt_denotes (outer : List Nat) (level : Nat) (fields : List (String × Value))
    (each : ∀ f ∈ fields, ∃ text, textAt outer level f.2 = .ok text ∧ Denotes text f.2) :
    ∃ texts, entryTextsAt outer level (fields.map fun f => (.text f.1, f.2)) = .ok texts ∧
      List.Forall₂ DenotesEntry texts fields := by
  induction fields with
  | nil => exact ⟨[],rfl,.nil⟩
  | cons f fields ih =>
    obtain ⟨⟨text,written,first⟩,others⟩ := List.forall_mem_cons.mp each
    obtain ⟨texts,row,rest⟩ := ih others
    have key : keyText (.text f.1) = .ok f.1 := rfl
    refine ⟨_,?_,.cons ⟨text,rfl,first⟩ rest⟩
    rw [List.map_cons,entryTextsAt,key,written,row]
    rfl

/-- A tree has a text at every level, and the text is read as the tree. -/
theorem textAt_denotes (v : Value) (tree : v.Tree) (outer : List Nat) (level : Nat) :
    ∃ text, textAt outer level v = .ok text ∧ Denotes text v := by
  induction tree generalizing level with
  | null => exact ⟨_,rfl,null_denotes⟩
  | text s => exact ⟨_,rfl,text_denotes s⟩
  | list items _ ih =>
    obtain ⟨texts,row,each⟩ := textsAt_denotes outer (level + 1) items fun v member => ih v member (level + 1)
    refine ⟨_,?_,list_encloses.denotes level texts items each⟩
    rw [textAt,row]
    rfl
  | record fields distinct _ ih =>
    obtain ⟨texts,row,each⟩ := entryTextsAt_denotes outer (level + 1) fields fun f member => ih f member (level + 1)
    have denotes := map_encloses.denotes level texts fields each
    rw [mapOf_distinct fields distinct] at denotes
    refine ⟨_,?_,denotes⟩
    rw [Value.record,textAt,row]
    rfl

/-- Every tree is written in ASCII and read back from its text. -/
theorem read_write (v : Value) (tree : v.Tree) :
    ∃ text, write v = .ok text ∧ (∀ c ∈ text.toList, c.toNat < 0x80) ∧ read text = .ok v := by
  obtain ⟨text,written,denotes⟩ := textAt_denotes v tree [] 0
  refine ⟨String.ofList text,?_,?_,?_⟩
  · rw [write,written]
    rfl
  · rw [String.toList_ofList]
    exact denotes.ascii
  · have found := denotes.reads (2 * text.length + 2) [] (by omega)
    have first : skipSpace text = text := by
      obtain ⟨c,more,rfl,solid,-⟩ := denotes.starts
      exact skipSpace_solid c more solid
    rw [List.append_nil] at found
    simp only [read,String.toList_ofList,first,found,Attempt.ok_bind]
    rfl

end Json
end MediaTiers
