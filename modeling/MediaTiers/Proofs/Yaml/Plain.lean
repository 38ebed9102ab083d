import MediaTiers.Proofs.Attempt
import MediaTiers.Proofs.Value.Plain
import MediaTiers.Yaml.Printer

/-! Maps, lists, texts, flags and nulls can always be written as a document: they have a form as nodes whatever marks
have been given out, and a page takes every node. -/
namespace MediaTiers.Yaml

mutual

theorem ofValue_plain (marks : List Nat) : (v : Value) → v.isPlain = true →
    ∃ n, (Node.ofValue v).run marks = .ok (n, marks)
  | .null, _ => ⟨.scalar .null "null",rfl⟩
  | .bool b, _ => ⟨.scalar .bool (if b then "true" else "false"),rfl⟩
  | .text s, _ => ⟨.scalar .str s,rfl⟩
  | .list items, plain => by
    obtain ⟨ns,made⟩ := ofValues_plain marks items plain
    refine ⟨.sequence .seq ns,?_⟩
    rw [Node.ofValue]
    simp only [StateT.run_bind,made]
    rfl
  | .map entries, plain => by
    obtain ⟨ns,made⟩ := ofEntries_plain marks entries plain
    refine ⟨.mapping .map ns,?_⟩
    rw [Node.ofValue]
    simp only [StateT.run_bind,made]
    rfl

theorem ofValues_plain (marks : List Nat) : (vs : List Value) → Value.arePlain vs = true →
    ∃ ns, (Node.ofValues vs).run marks = .ok (ns, marks)
  | [], _ => ⟨[],rfl⟩
  | v :: vs, plain => by
    rw [Value.arePlain,Bool.and_eq_true] at plain
    obtain ⟨n,first⟩ := ofValue_plain marks v plain.1
    obtain ⟨ns,rest⟩ := ofValues_plain marks vs plain.2
    refine ⟨n :: ns,?_⟩
    rw [Node.ofValues]
    simp only [StateT.run_bind,first,rest,Attempt.ok_bind]
    rfl

theorem ofEntries_plain (marks : List Nat) : (es : List (Value × Value)) → Value.arePlainEntries es = true →
    ∃ ns, (Node.ofEntries es).run marks = .ok (ns, marks)
  | [], _ => ⟨[],rfl⟩
  | (k, v) :: es, plain => by
    rw [Value.arePlainEntries,Bool.and_eq_true,Bool.and_eq_true] at plain
    obtain ⟨key,keyMade⟩ := ofValue_plain marks k plain.1.1
    obtain ⟨value,valueMade⟩ := ofValue_plain marks v plain.1.2
    obtain ⟨ns,rest⟩ := ofEntries_plain marks es plain.2
    refine ⟨(key, value) :: ns,?_⟩
    rw [Node.ofEntries]
    simp only [StateT.run_bind,keyMade,valueMade,rest,Attempt.ok_bind]
    rfl

end

theorem write_plain (v : Value) (plain : v.isPlain = true) : ∃ text, write v = .ok text := by
  obtain ⟨n,made⟩ := ofValue_plain [] v plain
  refine ⟨((writeNode n.aliases.eraseDups .root none n .blank).indent 0).text,?_⟩
  rw [write,Node.ofDocument,made]
  rfl

end MediaTiers.Yaml
