import MediaTiers.Proofs.Json.Tree
import MediaTiers.Proofs.Stylesheet.RoundTrip

/-! Sheets as JSON texts and back. The document of a sheet is a tree of lists and records, so its text is written in
ASCII and read as the same document again. -/
namespace MediaTiers

theorem Value.tree_of_isTextOrNull (v : Value) (text : v.isTextOrNull = true) : v.Tree := by
  cases v with
  | null => exact .null
  | text s => exact .text s
  | _ => cases text

theorem Declaration.Textual.tree {d : Declaration} (textual : d.Textual) : d.toValue.Tree := by
  have type : d.type.Tree := d.type.tree_of_isTextOrNull (by simp [Value.isTextOrNull,textual.type])
  have property := d.property.tree_of_isTextOrNull textual.property
  have value := d.value.tree_of_isTextOrNull textual.value
  have comment := d.comment.tree_of_isTextOrNull textual.comment
  unfold toValue
  split
  · exact .record _ (by simp) (by simp [comment,Value.Tree.text])
  · exact .record _ (by simp) (by simp [type,property,value])

namespace Rule

theorem fields_distinct (r : Rule) : (r.fields.map (·.1)).Nodup := by
  have once (name : String) (field : Option Value) : ((Value.optional name field).map (·.1)).Sublist [name] := by
    cases field <;> simp [Value.optional]
  have names : (r.fields.map (·.1)).Sublist ["type", "selectors", "media", "declarations", "rules"] := by
    simp only [fields,List.map_cons,List.map_append]
    exact (((once _ _).append (once _ _)).append (once _ _)).append (once _ _) |>.cons_cons _
  exact names.nodup (by decide)

theorem Textual.tree {r : Rule} (textual : r.Textual) (below : ∀ v ∈ Stylesheet.toValues r.children, v.Tree) :
    r.toValue.Tree := by
  have text (v : Value) (held : v.isText = true) : v.Tree :=
    v.tree_of_isTextOrNull (by simp [Value.isTextOrNull,held])
  rw [toValue_eq]
  refine .record _ r.fields_distinct ((r.forall_fields Value.Tree).mpr ⟨text _ textual.type,?_,?_,?_,?_⟩)
  · exact fun _ => .list _ fun v inside => text v (textual.selectors v inside)
  · exact fun _ => r.media.tree_of_isTextOrNull textual.media
  · intro ds held
    refine .list _ (List.forall_mem_map.mpr ?_)
    intro d inside
    exact (textual.declarations d (by simpa [entries,Option.mem_def.mp held] using inside)).tree
  · intro rs held
    exact .list _ (by simpa [children,Option.mem_def.mp held] using below)

end Rule

namespace Stylesheet

theorem Textual.tree {sheet : Stylesheet} (textual : Textual sheet) : (toValue sheet).Tree := by
  have rows : ∀ v ∈ toValues sheet, v.Tree := by
    induction sheet using induction with
    | nil => simp [toValues]
    | cons r rs inner rest =>
      obtain ⟨first,below,beside⟩ := (forall_rules_cons Rule.Textual r rs).mp textual
      rw [toValues,List.forall_mem_cons]
      exact ⟨first.tree (inner below),rest beside⟩
  have body : (Value.record [("rules", .list (toValues sheet))]).Tree :=
    .record _ (by simp) (by simpa using .list _ rows)
  exact .record _ (by simp) (by simp [body,Value.Tree.text])

/-- A sheet of texts has a JSON text in ASCII, and what is read from it is what its document is read as. -/
theorem json_round_trip (sheet : Stylesheet) (textual : Textual sheet) :
    ∃ text back, toJson sheet = .ok text ∧ (∀ c ∈ text.toList, c.toNat < 0x80) ∧
      Json.read text = .ok (toValue sheet) ∧ ofJson text = .ok back ∧ ofValue (toValue sheet) = .ok back := by
  obtain ⟨text,written,ascii,read⟩ := Json.read_write (toValue sheet) textual.tree
  obtain ⟨inBody,inFrame⟩ := count_le_document sheet
  have size := (toValue sheet).entryCount_lt_size
  have back : ofValue (toValue sheet) = .ok (restored sheet) := ofValueWithin_toValue sheet _ (by omega)
  refine ⟨text,restored sheet,written,ascii,read,?_,back⟩
  have found : Json.format.read text = .ok (toValue sheet) := read
  rw [ofJson,Stylesheet.read,found,Attempt.ok_bind,back]

/-- A media selector with a quote, a backslash, two control characters and a character beyond the first plane. -/
theorem json_round_trip_escapes :
    let sheet : Stylesheet := [media "\"\\\n\x7f😀" []]
    let text := "\x7b\n  \"type\": \"stylesheet\",\n  \"stylesheet\": \x7b\n    \"rules\": [\n      \x7b\n" ++
      "        \"type\": \"media\",\n        \"media\": \"\\\"\\\\\\n\\u007f\\ud83d\\ude00\",\n        \"rules\": []\n" ++
      "      \x7d\n    ]\n  \x7d\n\x7d"
    toJson sheet = .ok text ∧ ofJson text = .ok sheet := by
  intro sheet text
  have listed : rules sheet = sheet := by simp [sheet,media,rules_cons,rules_nil,Rule.children]
  have textual : Textual sheet := by
    rw [Textual,listed,List.forall_mem_singleton]
    exact ⟨rfl,by simp [media],by simp [media,Rule.entries],rfl⟩
  obtain ⟨written,back,shown,-,-,read,given⟩ := json_round_trip sheet textual
  have writes : toJson sheet = .ok text := by decide +kernel
  obtain rfl : written = text := Except.ok.inj (shown.symm.trans writes)
  have same : ofValue (toValue sheet) = .ok sheet := rfl
  rw [same] at given
  cases given
  exact ⟨writes,read⟩

end Stylesheet
end MediaTiers
