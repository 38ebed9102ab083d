import MediaTiers.Proofs.Config
import MediaTiers.Proofs.Decimal.Exact
import MediaTiers.Proofs.Yaml.Plain
import Mathlib

/-! Configurations as documents and back. The delta travels as text, in plain notation or with a power of ten, and comes
back with the coefficient and the exponent that it had. -/
namespace MediaTiers.Config

def fields (c : Config) : List (String × Value) :=
  [("use_only", .bool c.useOnly), ("device_width", .bool c.deviceWidth), ("prune_empty_rules", .bool c.pruneEmpty),
    ("fractional_delta", .text (toString c.delta)), ("match_mode", .text c.mode.name)]

theorem readDelta_text (entries : List (Value × Value)) (delta : Decimal)
    (written : Value.lookup? "fractional_delta" entries = some (.text (toString delta)))
    (positive : delta.isPositive = true) (held : delta.IsHeld) : readDelta entries = .ok delta := by
  cases delta with
  | finite n a e =>
    have read := (Decimal.read_exact_iff n a e).mpr held
    have text : (toString (Decimal.finite n a e)).toList = (Decimal.finite n a e).exact := String.toList_ofList
    have plain (s : String) : (Value.text s).plain = .ok s := rfl
    simp only [readDelta,written,plain,Attempt.ok_bind,text,read,positive,if_true,Attempt.pure_ok]
  | infinite n => cases positive
  | nan n s p => cases positive

theorem readMode_text (entries : List (Value × Value)) (mode : MatchMode)
    (written : Value.lookup? "match_mode" entries = some (.text mode.name)) : readMode entries = .ok mode := by
  have plain (s : String) : (Value.text s).plain = .ok s := rfl
  have named : MatchMode.ofName? (Text.lowercase mode.name) = some mode := by cases mode <;> decide
  simp only [readMode,written,plain,Attempt.ok_bind,named,Attempt.pure_ok]

theorem ofValue_toValue (c : Config) (positive : c.delta.isPositive = true) (held : c.delta.IsHeld) :
    ofValue c.toValue = .ok c := by
  let entries : List (Value × Value) := c.fields.map fun f => (.text f.1, f.2)
  have found (key : String) : Value.lookup? key entries = c.fields.lookup key := Value.lookup_record c.fields key
  have known : checkKeys entries = .ok () := checkKeys_known (by rfl)
  have delta := readDelta_text entries c.delta (found _) positive held
  have mode := readMode_text entries c.mode (found _)
  have flag (key : String) (default b : Bool) (written : c.fields.lookup key = some (.bool b)) :
      readFlag entries key default = .ok b := by
    simp only [readFlag,found,written]
  have form : c.toValue = .map entries := rfl
  have filled : (Value.map entries).isEmpty = false := rfl
  rw [form,ofValue,filled,if_neg Bool.false_ne_true]
  simp only [Value.bare,known,flag "use_only" false c.useOnly rfl,flag "device_width" false c.deviceWidth rfl,
    flag "prune_empty_rules" true c.pruneEmpty rfl,delta,mode,Attempt.ok_bind,Attempt.pure_ok]

def document (c : Config) : Value :=
  .record [("breakpoints", c.toValue)]

theorem document_isPlain (c : Config) : c.document.isPlain = true := by
  have fields : c.toValue = .record c.fields := rfl
  simp [document,fields,Config.fields,Value.record_isPlain,Value.isPlain]

/-- A configuration with a delta above zero comes back from its document, the delta digit for digit. It does so through
a text in any format that reads what it wrote there, and the format of files can write every configuration. -/
theorem document_comes_back (c : Config) (positive : c.delta.isPositive = true) (held : c.delta.IsHeld) :
    ofValue c.toValue = .ok c ∧
      (∀ (format : DocumentFormat) (text : String), write format c = .ok text →
        format.read text = .ok c.document → read format text = .ok c) ∧
      ∃ text, c.toYaml = .ok text ∧ (Yaml.read text = .ok c.document → ofYaml text = .ok c) := by
  have back := ofValue_toValue c positive held
  have through (format : DocumentFormat) (text : String) (undone : format.read text = .ok c.document) :
      read format text = .ok c := by
    have headed : body c.document = c.toValue := rfl
    rw [read,undone,Attempt.ok_bind,headed,back]
  obtain ⟨text,written⟩ := Yaml.write_plain c.document c.document_isPlain
  exact ⟨back,fun format text _ => through format text,text,written,through Yaml.format text⟩

/-- A delta with a trailing zero and a power of ten, through a written document. -/
theorem document_comes_back_power :
    let c : Config := ⟨true, false, false, .finite false 120 (-30), .exact⟩
    let text := "breakpoints:\n  use_only: true\n  device_width: false\n  prune_empty_rules: false\n" ++
      "  fractional_delta: '1.20E-28'\n  match_mode: exact\n"
    ofValue c.toValue = .ok c ∧ c.toYaml = .ok text ∧ ofYaml text = .ok c := by
  intro c text
  obtain ⟨back,-,written,shown,undone⟩ := document_comes_back c rfl ⟨by decide,by decide⟩
  have writes : c.toYaml = .ok text := by decide +kernel
  obtain rfl : written = text := Except.ok.inj (shown.symm.trans writes)
  have parsed : (Yaml.read text).toOption.any (·.sameTree c.document) = true := by decide +kernel
  exact ⟨back,writes,undone (Value.ok_of_sameTree _ _ parsed)⟩

end MediaTiers.Config
