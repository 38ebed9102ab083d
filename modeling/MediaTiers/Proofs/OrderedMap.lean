import MediaTiers.OrderedMap
import Mathlib.Data.List.Nodup

/-! Look-up in ordered maps: writing replaces, a row of writes is decided by its last one, and where no name is
written with two values the order of the writes does not matter. -/
namespace MediaTiers.OrderedMap

variable {β : Type}

theorem lookup_cons (key name : String) (value : β) (entries : List (String × β)) :
    ((key, value) :: entries).lookup name = if name = key then some value else entries.lookup name := by
  by_cases same : name = key
  · simp [same]
  · have unequal : (name == key) = false := by simpa using same
    simp [List.lookup_cons,unequal,same]

theorem lookup_put (m : OrderedMap β) (key name : String) (value : β) :
    (put key value m).lookup name = if name = key then some value else m.lookup name := by
  induction m with
  | nil => simp only [put,lookup_cons]
  | cons entry entries ih =>
    obtain ⟨k,v⟩ := entry
    by_cases here : k = key
    · subst here
      by_cases same : name = k <;> simp [put,lookup_cons,same]
    · by_cases found : name = k
      · subst found
        simp [put,here]
      · simp [put,here,lookup_cons,found,ih]

theorem put_fresh (m : OrderedMap β) (key : String) (value : β) (fresh : key ∉ m.map (·.1)) :
    put key value m = m ++ [(key, value)] := by
  induction m with
  | nil => rfl
  | cons entry entries ih =>
    rw [List.map_cons,List.mem_cons,not_or] at fresh
    rw [put,if_neg (Ne.symm fresh.1),ih fresh.2,List.cons_append]

theorem lookup_putAll (entries : List (String × β)) (m : OrderedMap β) (name : String) :
    (putAll entries m).lookup name = (entries.reverse.lookup name).or (m.lookup name) := by
  induction entries generalizing m with
  | nil => simp [putAll]
  | cons entry entries ih =>
    obtain ⟨key,value⟩ := entry
    have step : putAll ((key, value) :: entries) m = putAll entries (put key value m) := rfl
    rw [step,ih,lookup_put,List.reverse_cons,List.lookup_append]
    by_cases same : name = key <;> simp [same,lookup_cons]

/-- No name is written with two values. -/
def Functional (entries : List (String × β)) : Prop :=
  ∀ key v w, (key, v) ∈ entries → (key, w) ∈ entries → v = w

theorem functional_of_nodup (entries : List (String × β)) (distinct : (entries.map (·.1)).Nodup) :
    Functional entries := by
  intro key v w first second
  have same := List.inj_on_of_nodup_map distinct first second rfl
  exact (Prod.mk.inj same).2

theorem Functional.subset {entries others : List (String × β)} (inside : others ⊆ entries)
    (functional : Functional entries) : Functional others :=
  fun key v w first second => functional key v w (inside first) (inside second)

theorem Functional.perm {entries others : List (String × β)} (same : entries.Perm others)
    (functional : Functional entries) : Functional others :=
  functional.subset same.symm.subset

theorem lookup_eq_some_iff (entries : List (String × β)) (functional : Functional entries) (name : String)
    (value : β) : entries.lookup name = some value ↔ (name, value) ∈ entries := by
  induction entries with
  | nil => simp
  | cons entry entries ih =>
    obtain ⟨key,given⟩ := entry
    have rest : Functional entries := fun k v w first second =>
      functional k v w (List.mem_cons_of_mem _ first) (List.mem_cons_of_mem _ second)
    rw [lookup_cons]
    by_cases same : name = key
    · subst same
      rw [if_pos rfl,Option.some.injEq]
      constructor
      · rintro rfl
        simp
      · intro member
        exact functional name given value (by simp) member
    · simp [same,ih rest]

/-- Where no name has two values, the order of the entries does not matter. -/
theorem lookup_perm (entries others : List (String × β)) (functional : Functional entries)
    (same : entries.Perm others) (name : String) : entries.lookup name = others.lookup name := by
  apply Option.ext
  intro value
  rw [lookup_eq_some_iff entries functional,lookup_eq_some_iff others (functional.perm same)]
  exact same.mem_iff

theorem lookup_none_iff (m : OrderedMap β) (name : String) : m.lookup name = none ↔ name ∉ m.map (·.1) := by
  induction m with
  | nil => simp
  | cons entry entries ih =>
    rw [lookup_cons,List.map_cons,List.mem_cons,not_or,← ih]
    by_cases same : name = entry.1 <;> simp [same]

theorem lookup_of_mem (m : OrderedMap β) (name : String) (member : name ∈ m.map (·.1)) :
    ∃ value, m.lookup name = some value := by
  apply Option.ne_none_iff_exists'.mp
  rw [ne_eq,lookup_none_iff,not_not]
  exact member

theorem mem_of_lookup (m : OrderedMap β) (name : String) (value : β) (found : m.lookup name = some value) :
    (name, value) ∈ m := by
  induction m with
  | nil => cases found
  | cons entry entries ih =>
    rw [lookup_cons] at found
    split at found
    next same =>
      cases found
      simp [same]
    next => exact List.mem_cons_of_mem _ (ih found)

theorem mem_put (m : OrderedMap β) (key : String) (value : β) (entry : String × β) (member : entry ∈ put key value m) :
    entry = (key, value) ∨ entry ∈ m := by
  induction m with
  | nil => simpa [put] using member
  | cons first entries ih =>
    rw [put] at member
    split at member
    next =>
      rcases List.mem_cons.mp member with rfl | inside
      · exact .inl rfl
      · exact .inr (by simp [inside])
    next =>
      rcases List.mem_cons.mp member with rfl | inside
      · exact .inr (by simp)
      · exact (ih inside).imp_right fun later => by simp [later]

theorem mem_putAll (entries : List (String × β)) (m : OrderedMap β) (entry : String × β)
    (member : entry ∈ putAll entries m) : entry ∈ entries ∨ entry ∈ m := by
  induction entries generalizing m with
  | nil => exact .inr member
  | cons first entries ih =>
    rcases ih (put first.1 first.2 m) member with later | here
    · exact .inl (by simp [later])
    · rcases mem_put m first.1 first.2 entry here with rfl | before
      · exact .inl (by simp)
      · exact .inr before

theorem mem_ofList (entries : List (String × β)) (entry : String × β) (member : entry ∈ ofList entries) :
    entry ∈ entries := by
  rcases mem_putAll entries [] entry member with inside | none
  · exact inside
  · cases none

theorem mem_keys_put (m : OrderedMap β) (key name : String) (value : β) :
    name ∈ (put key value m).map (·.1) ↔ name = key ∨ name ∈ m.map (·.1) := by
  induction m with
  | nil => simp [put]
  | cons entry entries ih =>
    obtain ⟨k,v⟩ := entry
    by_cases here : k = key
    · subst here
      simp [put]
    · simp only [put,here,if_false,List.map_cons,List.mem_cons,ih]
      exact or_left_comm

theorem mem_keys_putAll (entries : List (String × β)) (m : OrderedMap β) (name : String) :
    name ∈ (putAll entries m).map (·.1) ↔ name ∈ entries.map (·.1) ∨ name ∈ m.map (·.1) := by
  induction entries generalizing m with
  | nil => simp [putAll]
  | cons entry entries ih =>
    have step : putAll (entry :: entries) m = putAll entries (put entry.1 entry.2 m) := rfl
    rw [step,ih,mem_keys_put,List.map_cons,List.mem_cons,or_assoc]
    exact or_left_comm

theorem mem_keys_ofList (entries : List (String × β)) (name : String) :
    name ∈ (ofList entries).map (·.1) ↔ name ∈ entries.map (·.1) := by
  simp [ofList,mem_keys_putAll]

theorem keys_put_nodup (m : OrderedMap β) (key : String) (value : β) (distinct : (m.map (·.1)).Nodup) :
    ((put key value m).map (·.1)).Nodup := by
  induction m with
  | nil => simp [put]
  | cons entry entries ih =>
    obtain ⟨k,v⟩ := entry
    obtain ⟨fresh,rest⟩ := List.nodup_cons.mp distinct
    by_cases here : k = key
    · subst here
      simpa [put] using distinct
    · have absent : k ∉ (put key value entries).map (·.1) := by
        rw [mem_keys_put]
        rintro (equal | member)
        · exact here equal
        · exact fresh member
      simp only [put,here,if_false,List.map_cons]
      exact List.nodup_cons.mpr ⟨absent,ih rest⟩

theorem keys_putAll_nodup (entries : List (String × β)) (m : OrderedMap β) (distinct : (m.map (·.1)).Nodup) :
    ((putAll entries m).map (·.1)).Nodup := by
  induction entries generalizing m with
  | nil => exact distinct
  | cons entry entries ih => exact ih _ (keys_put_nodup m entry.1 entry.2 distinct)

theorem keys_ofList_nodup (entries : List (String × β)) : ((ofList entries).map (·.1)).Nodup :=
  keys_putAll_nodup entries [] List.nodup_nil

theorem lookup_ofList (entries : List (String × β)) (functional : Functional entries) (name : String) :
    (ofList entries).lookup name = entries.lookup name := by
  have turned := lookup_perm entries entries.reverse functional (List.reverse_perm entries).symm name
  rw [ofList,lookup_putAll,turned]
  simp

theorem lookup_ofList_perm (entries others : List (String × β)) (functional : Functional entries)
    (same : entries.Perm others) (name : String) : (ofList entries).lookup name = (ofList others).lookup name := by
  rw [lookup_ofList entries functional,lookup_ofList others (functional.perm same)]
  exact lookup_perm entries others functional same name

/-- Entries of a map go before those of the map they are written into. -/
theorem lookup_putAll_ofList (entries : List (String × β)) (m : OrderedMap β) (name : String) :
    (putAll (ofList entries) m).lookup name = ((ofList entries).lookup name).or (m.lookup name) := by
  have functional := functional_of_nodup _ (keys_ofList_nodup entries)
  rw [lookup_putAll,← lookup_perm _ _ functional (List.reverse_perm (ofList entries)).symm name]

end MediaTiers.OrderedMap
