import MediaTiers.Config.File
import MediaTiers.Proofs.Decimal.Rational
import MediaTiers.Proofs.Value.Display
import Mathlib

/-! The outcomes of loading a configuration. What is accepted has a finite delta above zero. What is not accepted is
refused as a configuration, unless the refusal cannot be worded: the keys that it names have no order, or what it
shows holds a whole number of too many digits. -/
namespace MediaTiers.Config

def Fits (key : String) (v : Value) : Prop :=
  if key = "fractional_delta" then
    ∃ text delta, v.plain = .ok text ∧ Decimal.read? text.toList = some delta ∧ delta.isPositive = true
  else if key = "match_mode" then ∃ text mode, v.plain = .ok text ∧ MatchMode.ofName? (Text.lowercase text) = some mode
  else ∃ b, v = .bool b

theorem fits_shows (key : String) (v : Value) (fit : Fits key v) : v.showsLong [] = false := by
  unfold Fits at fit
  split at fit
  · obtain ⟨text,delta,plain,-⟩ := fit
    exact v.plain_hinges.iff.mp ⟨text,plain⟩
  split at fit
  · obtain ⟨text,mode,plain,-⟩ := fit
    exact v.plain_hinges.iff.mp ⟨text,plain⟩
  · obtain ⟨b,rfl⟩ := fit
    rfl

variable {α β : Type} {entries : List (Value × Value)} {key : String} {keys : List String}

/-- Reading what stands under one key: a value that does not fit is shown in the refusal. -/
inductive Reads (entries : List (Value × Value)) (key : String) : Except Failure α → Prop
  | accepted (a : α) (fit : ∀ v, Value.lookup? key entries = some v → Fits key v) : Reads entries key (.ok a)
  | refused (v : Value) (held : Value.lookup? key entries = some v) (unfit : ¬Fits key v)
      (short : v.showsLong [] = false) (fault : ConfigFault) : Reads entries key (.error (.config fault))
  | unshown (v : Value) (held : Value.lookup? key entries = some v) (long : v.showsLong [] = true) :
      Reads entries key (.error (.tooManyDigits none))

theorem reads_absent (a : α) (absent : Value.lookup? key entries = none) : Reads entries key (.ok a) :=
  .accepted a (by simp [absent])

theorem reads_fit (a : α) (v : Value) (held : Value.lookup? key entries = some v) (fit : Fits key v) :
    Reads entries key (.ok a) :=
  .accepted a (by simpa [held] using fit)

theorem reads_unfit (v : Value) (held : Value.lookup? key entries = some v) (unfit : ¬Fits key v)
    (fault : String → ConfigFault) :
    Reads entries key (v.display >>= fun shown => .error (.config (fault shown)) : Except Failure α) := by
  cases long : v.showsLong [] with
  | true =>
    rw [v.display_hinges.2 (by simp [long]),Attempt.error_bind]
    exact .unshown v held long
  | false =>
    obtain ⟨shown,ok⟩ := v.display_hinges.1 long
    rw [ok,Attempt.ok_bind]
    exact .refused v held unfit long _

theorem reads_plain (v : Value) (held : Value.lookup? key entries = some v) (next : String → Except Failure α)
    (later : ∀ text, v.plain = .ok text → Reads entries key (next text)) : Reads entries key (v.plain >>= next) := by
  cases plain : v.plain with
  | ok text => exact later text plain
  | error failure =>
    cases v.plain_hinges.fault_eq plain
    refine .unshown v held ?_
    by_contra short
    obtain ⟨text,ok⟩ := v.plain_hinges.1 (by simpa using short)
    rw [plain] at ok
    cases ok

theorem readFlag_reads (entries : List (Value × Value)) (key : String) (default : Bool)
    (flag : key ≠ "fractional_delta" ∧ key ≠ "match_mode") : Reads entries key (readFlag entries key default) := by
  have fits (v : Value) : Fits key v ↔ ∃ b, v = .bool b := by
    rw [Fits,if_neg flag.1,if_neg flag.2]
  unfold readFlag
  split
  next absent => exact reads_absent default absent
  next b held => exact reads_fit b _ held ((fits _).mpr ⟨b,rfl⟩)
  next v other held => exact reads_unfit v held (fun fit => by simp_all) (.notFlag key)

theorem readDelta_reads (entries : List (Value × Value)) : Reads entries "fractional_delta" (readDelta entries) := by
  unfold readDelta
  split
  next absent => exact reads_absent defaultDelta absent
  next v held =>
    apply reads_plain v held
    intro text plain
    have fits : Fits "fractional_delta" v ↔ ∃ delta, Decimal.read? text.toList = some delta ∧ delta.isPositive = true := by
      simp [Fits,plain]
    cases read : Decimal.read? text.toList with
    | none => exact reads_unfit v held (by simp [fits,read]) .unreadableDelta
    | some delta =>
      cases positive : delta.isPositive with
      | true =>
        simp only [positive,if_true]
        exact reads_fit delta v held (fits.mpr ⟨delta,read,positive⟩)
      | false =>
        simp only [positive,Bool.false_eq_true,if_false]
        exact .refused v held (by simp [fits,read,positive]) (v.plain_hinges.iff.mp ⟨text,plain⟩) _

theorem readMode_reads (entries : List (Value × Value)) : Reads entries "match_mode" (readMode entries) := by
  unfold readMode
  split
  next absent => exact reads_absent MatchMode.word absent
  next v held =>
    apply reads_plain v held
    intro text plain
    have fits : Fits "match_mode" v ↔ ∃ mode, MatchMode.ofName? (Text.lowercase text) = some mode := by
      simp [Fits,plain]
    cases named : MatchMode.ofName? (Text.lowercase text) with
    | none => exact reads_unfit v held (by simp [fits,named]) .unknownMode
    | some mode => exact reads_fit mode v held (fits.mpr ⟨mode,named⟩)

/-- The keys are looked at one after another, and behind values that fit there is one that cannot be shown. -/
inductive Stuck (entries : List (Value × Value)) : List String → Prop
  | here (key : String) (keys : List String) (v : Value) (held : Value.lookup? key entries = some v)
      (long : v.showsLong [] = true) : Stuck entries (key :: keys)
  | later (key : String) (keys : List String) (fit : ∀ v, Value.lookup? key entries = some v → Fits key v)
      (rest : Stuck entries keys) : Stuck entries (key :: keys)

/-- Something is accepted, or the configuration is refused. -/
def Reported (outcome : Except Failure α) : Prop :=
  (∃ a, outcome = .ok a) ∨ ∃ fault, outcome = .error (.config fault)

structure ReadsRow (entries : List (Value × Value)) (keys : List String) (outcome : Except Failure α) : Prop where
  stuck : Stuck entries keys → outcome = .error (.tooManyDigits none)
  reported : ¬Stuck entries keys → Reported outcome

theorem readsRow_nil (a : α) : ReadsRow entries [] (.ok a) where
  stuck := nofun
  reported _ := .inl ⟨a,rfl⟩

theorem Reads.row {first : Except Failure α} {next : α → Except Failure β} (reads : Reads entries key first)
    (rest : ∀ a, ReadsRow entries keys (next a)) : ReadsRow entries (key :: keys) (first >>= next) := by
  cases reads with
  | accepted a fit =>
    constructor
    · rintro (⟨_,_,v,held,long⟩ | ⟨_,_,_,later⟩)
      · simp [fits_shows key v (fit v held)] at long
      · exact (rest a).stuck later
    · intro free
      exact (rest a).reported fun later => free (.later key keys fit later)
  | refused v held unfit short fault =>
    constructor
    · rintro (⟨_,_,w,same,long⟩ | ⟨_,_,fit,_⟩)
      · obtain rfl := Option.some.inj (held.symm.trans same)
        simp [short] at long
      · exact absurd (fit v held) unfit
    · exact fun _ => .inr ⟨fault,rfl⟩
  | unshown v held long =>
    constructor
    · exact fun _ => rfl
    · exact fun free => absurd (.here key keys v held long) free

def unknownKeys (entries : List (Value × Value)) : List Value :=
  (entries.map (·.1)).filter (!isKnownKey ·)

/-- A configuration that is not accepted and cannot be refused either. -/
def Unreportable (entries : List (Value × Value)) : Prop :=
  Value.sortable (unknownKeys entries) = false ∨ (∃ k ∈ unknownKeys entries, k.showsLong [] = true) ∨
    unknownKeys entries = [] ∧ Stuck entries knownKeys

theorem checkKeys_known (known : unknownKeys entries = []) : checkKeys entries = .ok () := by
  unfold unknownKeys at known
  simp [checkKeys,known,Value.sorted,Value.sortable]

theorem checkKeys_unsortable (unsortable : Value.sortable (unknownKeys entries) = false) :
    checkKeys entries = .error .wrongOperand := by
  unfold unknownKeys at unsortable
  simp [checkKeys,unsortable,Value.sorted]

theorem checkKeys_unknown (sortable : Value.sortable (unknownKeys entries) = true) (unknown : unknownKeys entries ≠ []) :
    ((∃ k ∈ unknownKeys entries, k.showsLong [] = true) → checkKeys entries = .error (.tooManyDigits none)) ∧
      ((¬∃ k ∈ unknownKeys entries, k.showsLong [] = true) → ∃ fault, checkKeys entries = .error (.config fault)) := by
  let row := (unknownKeys entries).mergeSort fun x y => !y.less x
  have same : row.Perm (unknownKeys entries) := List.mergeSort_perm _ _
  have sorted : Value.sorted ((entries.map (·.1)).filter (!isKnownKey ·)) = .ok row := if_pos sortable
  have filled : row ≠ [] := fun none => unknown (List.perm_nil.mp (none ▸ same.symm))
  have run : checkKeys entries = row.mapM (·.display) >>= fun shown => .error (.config (.unknownKeys shown)) := by
    simp [checkKeys,sorted,filled]
  have shows : Attempt.Hinges (row.mapM (·.display)) (¬∃ k ∈ unknownKeys entries, k.showsLong [] = true)
      (.tooManyDigits none) := by
    refine (Attempt.hinges_mapM _ _ row fun k _ => k.display_hinges).of_iff ?_
    simp [same.mem_iff]
  rw [run]
  constructor
  · intro long
    rw [shows.2 (not_not.mpr long),Attempt.error_bind]
  · intro short
    obtain ⟨shown,ok⟩ := shows.1 short
    exact ⟨_,by rw [ok,Attempt.ok_bind]⟩

theorem entries_empty (v : Value) (held : v.bare = .map entries) (empty : v.isEmpty = true) : entries = [] := by
  cases v with
  | map es =>
    cases held
    exact List.isEmpty_iff.mp empty
  | shared mark v =>
    cases held
    exact List.isEmpty_iff.mp empty
  | cyclic mark v =>
    cases v with
    | map es =>
      rw [List.isEmpty_iff.mp empty] at held
      cases held
      rfl
    | again other | cyclic other _ =>
      simp only [Value.bare,Value.unfold] at held
      split at held <;> cases held
    | _ => simp [Value.bare,Value.unfold] at held
  | _ => cases held

theorem delta_positive (v : Value) (config : Config) (accepted : ofValue v = .ok config) :
    config.delta.isPositive = true := by
  unfold ofValue at accepted
  split at accepted
  · cases accepted
    rfl
  split at accepted
  next entries _ =>
    obtain ⟨_,-,rest⟩ := Attempt.bind_success _ _ _ accepted
    obtain ⟨_,-,rest⟩ := Attempt.bind_success _ _ _ rest
    obtain ⟨_,-,rest⟩ := Attempt.bind_success _ _ _ rest
    obtain ⟨_,-,rest⟩ := Attempt.bind_success _ _ _ rest
    obtain ⟨delta,read,rest⟩ := Attempt.bind_success _ _ _ rest
    obtain ⟨_,-,made⟩ := Attempt.bind_success _ _ _ rest
    cases made
    unfold readDelta at read
    split at read
    · cases read
      rfl
    · obtain ⟨_,-,rest⟩ := Attempt.bind_success _ _ _ read
      split at rest
      · obtain ⟨_,-,thrown⟩ := Attempt.bind_success _ _ _ rest
        cases thrown
      · split at rest
        next positive =>
          cases rest
          exact positive
        next => cases rest
  next => cases accepted


/-- The outcomes that loading promises: a configuration that can be used, or a refusal. -/
def IsDocumented : Except Failure Config → Prop
  | .ok config => config.delta.isFinite = true ∧ 0 < config.delta.rational
  | .error failure => ∃ fault, failure = .config fault

theorem isDocumented_of_reported (v : Value) (reported : Reported (ofValue v)) : IsDocumented (ofValue v) := by
  rcases reported with ⟨config,accepted⟩ | ⟨fault,refused⟩
  · rw [accepted]
    exact Decimal.rational_of_isPositive _ (delta_positive v config accepted)
  · rw [refused]
    exact ⟨fault,rfl⟩

theorem ofValue_row (v : Value) (filled : v.isEmpty = false) (held : v.bare = .map entries) :
    ∃ rest, ofValue v = (checkKeys entries >>= fun _ => rest) ∧ ReadsRow entries knownKeys rest := by
  refine ⟨_,by rw [ofValue,filled,if_neg (by decide),held],?_⟩
  exact (readFlag_reads entries "use_only" false (by decide)).row fun useOnly =>
    (readFlag_reads entries "device_width" false (by decide)).row fun deviceWidth =>
    (readFlag_reads entries "prune_empty_rules" true (by decide)).row fun pruneEmpty =>
    (readDelta_reads entries).row fun delta => (readMode_reads entries).row fun mode => readsRow_nil _

theorem unreportable_nil : ¬Unreportable [] := by
  have free (keys : List String) : ¬Stuck [] keys := by
    intro stuck
    induction stuck with
    | here _ _ _ held => cases held
    | later _ _ _ _ ih => exact ih
  rintro (unsortable | ⟨k,member,-⟩ | ⟨-,stuck⟩)
  · cases unsortable
  · cases member
  · exact free _ stuck

theorem ofValue_unreportable (v : Value) (held : v.bare = .map entries) (unreportable : Unreportable entries) :
    ofValue v = .error .wrongOperand ∨ ofValue v = .error (.tooManyDigits none) := by
  have filled : v.isEmpty = false := by
    by_contra empty
    rw [entries_empty v held (by simpa using empty)] at unreportable
    exact unreportable_nil unreportable
  obtain ⟨rest,run,row⟩ := ofValue_row v filled held
  rw [run]
  rcases unreportable with unsortable | ⟨k,member,long⟩ | ⟨known,stuck⟩
  · rw [checkKeys_unsortable unsortable]
    exact .inl rfl
  · cases sortable : Value.sortable (unknownKeys entries) with
    | false =>
      rw [checkKeys_unsortable sortable]
      exact .inl rfl
    | true =>
      rw [(checkKeys_unknown sortable (List.ne_nil_of_mem member)).1 ⟨k,member,long⟩]
      exact .inr rfl
  · rw [checkKeys_known known,Attempt.ok_bind]
    exact .inr (row.stuck stuck)

theorem ofValue_reported (v : Value) (reportable : ∀ entries, v.bare = .map entries → ¬Unreportable entries) :
    Reported (ofValue v) := by
  cases filled : v.isEmpty with
  | true => exact .inl ⟨default,by rw [ofValue,filled,if_pos rfl]⟩
  | false =>
    by_cases mapping : ∃ entries, v.bare = .map entries
    · obtain ⟨entries,held⟩ := mapping
      obtain ⟨rest,run,row⟩ := ofValue_row v filled held
      have sortable : Value.sortable (unknownKeys entries) = true := by
        by_contra unsortable
        exact reportable entries held (.inl (by simpa using unsortable))
      rw [run]
      by_cases known : unknownKeys entries = []
      · rw [checkKeys_known known,Attempt.ok_bind]
        exact row.reported fun stuck => reportable entries held (.inr (.inr ⟨known,stuck⟩))
      · obtain ⟨fault,refused⟩ := (checkKeys_unknown sortable known).2 fun long =>
          reportable entries held (.inr (.inl long))
        exact .inr ⟨fault,by rw [refused,Attempt.error_bind]⟩
    · refine .inr ⟨.notMapping v.bare.kindName,?_⟩
      rw [ofValue,filled,if_neg (by decide)]
      split
      next entries held => exact absurd ⟨entries,held⟩ mapping
      next => rfl

theorem load_text (format : DocumentFormat) (path : String) (bytes : List UInt8) (text : String) (v : Value)
    (utf8 : decode bytes = .ok text) (parsed : format.read text = .ok v)
    (other : ofValue (body v) ≠ .error .notYaml) : load format path (some bytes) = ofValue (body v) := by
  have meant : read format text = ofValue (body v) := by rw [read,parsed,Attempt.ok_bind]
  rw [load,utf8,Attempt.ok_bind,meant]
  split
  next refused => exact absurd refused other
  next => rfl

/-- Loading a text in any format has one of the promised outcomes, unless it has to refuse a configuration and cannot
say why. Then it stops for want of an order among keys, or over a number of too many digits. -/
theorem load_documented_iff (format : DocumentFormat) (path : String) (bytes : List UInt8) (text : String)
    (utf8 : decode bytes = .ok text) (reader : ∀ failure, format.read text = .error failure → failure = .notYaml) :
    (IsDocumented (load format path (some bytes)) ↔
      ¬∃ v entries, format.read text = .ok v ∧ (body v).bare = .map entries ∧ Unreportable entries) ∧
    (¬IsDocumented (load format path (some bytes)) → load format path (some bytes) = .error .wrongOperand ∨
      load format path (some bytes) = .error (.tooManyDigits none)) := by
  cases parsed : format.read text with
  | error failure =>
    cases reader failure parsed
    have refused : load format path (some bytes) = .error (.config (.invalidYaml path)) := by
      rw [load,utf8,Attempt.ok_bind,read,parsed,Attempt.error_bind]
      rfl
    simp [refused,IsDocumented]
  | ok v =>
    by_cases unreportable : ∃ entries, (body v).bare = .map entries ∧ Unreportable entries
    · obtain ⟨entries,held,stopped⟩ := unreportable
      have outcome := ofValue_unreportable (body v) held stopped
      have run := load_text format path bytes text v utf8 parsed
        (by rcases outcome with failed | failed <;> simp [failed])
      have undocumented : ¬IsDocumented (load format path (some bytes)) := by
        rw [run]
        rcases outcome with failed | failed <;> simp [failed,IsDocumented]
      refine ⟨⟨fun documented => absurd documented undocumented,?_⟩,fun _ => run ▸ outcome⟩
      exact fun none => absurd ⟨v,entries,rfl,held,stopped⟩ none
    · have reported := ofValue_reported (body v) fun entries held stopped => unreportable ⟨entries,held,stopped⟩
      have run := load_text format path bytes text v utf8 parsed
        (by rcases reported with ⟨_,ok⟩ | ⟨_,refused⟩ <;> simp_all)
      have documented : IsDocumented (load format path (some bytes)) := run ▸ isDocumented_of_reported _ reported
      refine ⟨⟨?_,fun _ => documented⟩,fun undocumented => absurd documented undocumented⟩
      rintro - ⟨w,entries,same,held,stopped⟩
      cases same
      exact unreportable ⟨entries,held,stopped⟩

theorem reader_of_document (text : String) (document : (Yaml.read text).isOk = true) (failure : Failure)
    (failed : Yaml.read text = .error failure) : failure = .notYaml := by
  rw [failed] at document
  cases document

/-- A configuration under its heading, with a carriage return at the end of a line. -/
theorem load_documented_iff_heading :
    let bytes := "breakpoints:\r\n  fractional_delta: 1e-3\n  match_mode: Word\n".toUTF8.toList
    ∃ text, decode bytes = .ok text ∧
      load Yaml.format "config.yaml" (some bytes) = .ok { default with delta := .finite false 1 (-3) } ∧
      ¬∃ v entries, Yaml.read text = .ok v ∧ (body v).bare = .map entries ∧ Unreportable entries := by
  intro bytes
  let text := "breakpoints:\n  fractional_delta: 1e-3\n  match_mode: Word\n"
  have utf8 : decode bytes = .ok text := by decide +kernel
  have loaded : load Yaml.format "config.yaml" (some bytes) = .ok { default with delta := .finite false 1 (-3) } := by
    decide +kernel
  have reader := reader_of_document text (by decide +kernel)
  have documented : IsDocumented (load Yaml.format "config.yaml" (some bytes)) := by
    rw [loaded]
    exact ⟨rfl,Decimal.rational_pos 1 (-3) (by decide)⟩
  exact ⟨text,utf8,loaded,(load_documented_iff Yaml.format "config.yaml" bytes text utf8 reader).1.mp documented⟩

/-- Two keys that are not known, a number and a text: they have no order, and nothing is reported. -/
theorem load_undocumented :
    let bytes := "1: a\nb: c\n".toUTF8.toList
    decode bytes = .ok "1: a\nb: c\n" ∧
      (∀ failure, Yaml.read "1: a\nb: c\n" = .error failure → failure = .notYaml) ∧
      load Yaml.format "config.yaml" (some bytes) = .error .wrongOperand ∧
      ¬IsDocumented (load Yaml.format "config.yaml" (some bytes)) := by
  intro bytes
  have utf8 : decode bytes = .ok "1: a\nb: c\n" := by decide +kernel
  have stopped : load Yaml.format "config.yaml" (some bytes) = .error .wrongOperand := by decide +kernel
  exact ⟨utf8,reader_of_document _ (by decide +kernel),stopped,by simp [stopped,IsDocumented]⟩

end MediaTiers.Config
