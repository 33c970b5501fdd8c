import EntitlementRules.Configuration.Settings
import EntitlementRules.Proofs.Procedure
import EntitlementRules.Proofs.Text.Utf8.Order
import EntitlementRules.Proofs.Toml.Keys

/-! Settings files: what a table sets, and which of its members it is refused for. -/
namespace EntitlementRules.SettingsLayer

open Text.Utf8 (encode)

variable {path key : String} {layer : SettingsLayer} {unsupported : List String}
  {table before after : Toml.Table} {member : String × Toml} {flag : Bool}

/-! ## Members -/

def Supported (key : String) : Prop := key = "verbose" ∨ key = "debug"

/-- A member that sets something: its key has a meaning and its value is a truth value. -/
def Sets (member : String × Toml) : Prop :=
  (member.1 = "verbose" ∨ member.1 = "debug") ∧ ∃ flag, member.2 = .bool flag

/-- A member whose key has a meaning, with a value that is no truth value. -/
def Misset (member : String × Toml) : Prop := Supported member.1 ∧ ∀ flag, member.2 ≠ .bool flag

theorem isSupported_iff : isSupported key = true ↔ Supported key := by
  simp [isSupported, Supported]

theorem sets_iff : Sets member ↔ Supported member.1 ∧ ¬ Misset member := by
  unfold Sets Misset
  constructor
  · rintro ⟨supported, flag, truth⟩
    exact ⟨supported, fun misset => misset.2 flag truth⟩
  · rintro ⟨supported, sound⟩
    refine ⟨supported, ?_⟩
    by_contra other
    exact sound ⟨supported, not_exists.mp other⟩

/-- What a layer sets for a key. -/
def value? (layer : SettingsLayer) (key : String) : Option Bool :=
  match key with
  | "verbose" => layer.verbose
  | "debug" => layer.debug
  | _ => none

theorem value?_empty (key : String) : ({} : SettingsLayer).value? key = none := by
  unfold value?
  split <;> rfl

/-- A layer with the setting of a member, where the member sets something. -/
def take (layer : SettingsLayer) (member : String × Toml) : SettingsLayer :=
  (member.2.bool?.bind (layer.set? member.1)).getD layer

theorem set?_of_supported (supported : Supported key) (layer : SettingsLayer) (flag : Bool) :
    layer.set? key flag = some (layer.take (key, .bool flag)) := by
  rcases supported with rfl | rfl
  · rfl
  · rfl

theorem take_of_unsupported (unsupported : ¬ Supported member.1) : layer.take member = layer := by
  have nothing (flag : Bool) : layer.set? member.1 flag = none := by
    unfold set?
    split
    · next same => exact absurd (.inl same) unsupported
    · next same => exact absurd (.inr same) unsupported
    · rfl
  unfold take
  cases member.2.bool? with
  | none => rfl
  | some flag => rw [Option.bind_some, nothing, Option.getD_none]

theorem value?_take_self (supported : Supported key) : (layer.take (key, .bool flag)).value? key = some flag := by
  rcases supported with rfl | rfl
  · rfl
  · rfl

theorem value?_take_of_ne (other : member.1 ≠ key) : (layer.take member).value? key = layer.value? key := by
  by_cases supported : Supported member.1
  · obtain ⟨name, value⟩ := member
    cases value with
    | bool flag =>
      rcases supported with rfl | rfl
      all_goals
        unfold value?
        split <;> first | rfl | exact absurd rfl other
    | _ => rfl
  · rw [take_of_unsupported supported]

/-! ## Tables -/

/-- The keys of a table that have no meaning, in their order. -/
def unknownKeys (table : Toml.Table) : List String :=
  (table.filter fun member => !isSupported member.1).map Prod.fst

theorem mem_unknownKeys : key ∈ unknownKeys table ↔ ¬ Supported key ∧ ∃ value, (key, value) ∈ table := by
  simp [unknownKeys, ← isSupported_iff, and_comm]

/-- Members without a misset one among them are passed: each sets what it says, and the keys that have no
meaning are gathered. -/
theorem ofMembers_append (sound : ∀ member ∈ before, ¬ Misset member) :
    ofMembers path layer unsupported (before ++ after) =
      ofMembers path (before.foldl take layer) (unsupported ++ unknownKeys before) after := by
  induction before generalizing layer unsupported with
  | nil => simp [unknownKeys]
  | cons member rest ih =>
    obtain ⟨key, value⟩ := member
    have later : ∀ member ∈ rest, ¬ Misset member := fun member inside => sound member (.tail _ inside)
    rw [List.cons_append, ofMembers, List.foldl_cons]
    by_cases supported : Supported key
    · obtain ⟨-, flag, rfl⟩ := sets_iff.mpr ⟨supported, sound _ (.head _)⟩
      have meant : isSupported key = true := isSupported_iff.mpr supported
      have gathered : unknownKeys ((key, .bool flag) :: rest) = unknownKeys rest := by
        simp [unknownKeys, meant]
      simp only [meant, ↓reduceIte, Toml.bool?, Option.bind_some, set?_of_supported supported]
      rw [ih later, gathered]
    · have foreign : isSupported key = false := Bool.not_eq_true _ ▸ mt isSupported_iff.mp supported
      have gathered : unknownKeys ((key, value) :: rest) = key :: unknownKeys rest := by
        simp [unknownKeys, foreign]
      simp only [foreign, Bool.false_eq_true, ↓reduceIte]
      rw [ih later, take_of_unsupported supported, gathered, List.append_assoc, List.singleton_append]

theorem ofMembers_misset (misset : Misset member) :
    ofMembers path layer unsupported (member :: after) = .error (.invalidSetting path member.1) := by
  obtain ⟨key, value⟩ := member
  obtain ⟨supported, foreign⟩ := misset
  have read : value.bool? = none := by
    cases value with
    | bool flag => exact absurd rfl (foreign flag)
    | _ => rfl
  rw [ofMembers, if_pos (isSupported_iff.mpr supported), read]
  rfl

theorem ofTable_misset (sound : ∀ member ∈ before, ¬ Misset member) (misset : Misset member) :
    ofTable path (before ++ member :: after) = .error (.invalidSetting path member.1) := by
  rw [ofTable, ofMembers_append sound, ofMembers_misset misset]
  rfl

theorem ofTable_sound (sound : ∀ member ∈ table, ¬ Misset member) :
    ofTable path table =
      if unknownKeys table = [] then .ok (table.foldl take {})
      else .error (.unsupportedSettings path (unknownKeys table)) := by
  have read : ofMembers path {} [] (table ++ []) = ofMembers path (table.foldl take {}) ([] ++ unknownKeys table) [] :=
    ofMembers_append sound
  rw [List.append_nil, List.nil_append, ofMembers] at read
  rw [ofTable, read]
  cases unknownKeys table with
  | nil => rfl
  | cons key rest => rfl

theorem exists_first_misset (misset : ∃ member ∈ table, Misset member) :
    ∃ before member after, table = before ++ member :: after ∧ (∀ other ∈ before, ¬ Misset other) ∧
      Misset member := by
  induction table with
  | nil => simp at misset
  | cons head rest ih =>
    by_cases first : Misset head
    · exact ⟨[], head, rest, rfl, nofun, first⟩
    · obtain ⟨member, inside, misset⟩ := misset
      have later : member ∈ rest := (List.mem_cons.mp inside).resolve_left fun same => first (same ▸ misset)
      obtain ⟨before, member, after, rfl, sound, misset⟩ := ih ⟨member, later, misset⟩
      exact ⟨head :: before, member, after, rfl, List.forall_mem_cons.mpr ⟨first, sound⟩, misset⟩

theorem unknownKeys_eq_nil_iff (sound : ∀ member ∈ table, ¬ Misset member) :
    unknownKeys table = [] ↔ ∀ member ∈ table, Sets member := by
  rw [unknownKeys, List.map_eq_nil_iff, List.filter_eq_nil_iff]
  refine forall₂_congr fun member inside => ?_
  rw [sets_iff, and_iff_left (sound member inside), Bool.not_eq_true', Bool.not_eq_false, isSupported_iff]

theorem ofTable_eq_ok_iff :
    ofTable path table = .ok layer ↔ (∀ member ∈ table, Sets member) ∧ layer = table.foldl take {} := by
  by_cases misset : ∃ member ∈ table, Misset member
  · obtain ⟨before, member, after, rfl, sound, misset⟩ := exists_first_misset misset
    rw [ofTable_misset sound misset]
    refine ⟨nofun, fun ⟨sets, _⟩ => ?_⟩
    exact absurd misset (sets_iff.mp (sets member (by simp))).2
  · have sound : ∀ member ∈ table, ¬ Misset member := fun member inside found => misset ⟨member, inside, found⟩
    rw [ofTable_sound sound, ← unknownKeys_eq_nil_iff sound]
    split
    · next known => simp [known, eq_comm]
    · next unknown => simp [unknown]

theorem value?_foldl_take_of_absent (absent : ∀ value, (key, value) ∉ table) :
    (table.foldl take layer).value? key = layer.value? key := by
  induction table generalizing layer with
  | nil => rfl
  | cons member rest ih =>
    have other : member.1 ≠ key := by
      rintro rfl
      exact absent _ (.head _)
    rw [List.foldl_cons, ih fun value inside => absent value (.tail _ inside), value?_take_of_ne other]

/-- Where no key is repeated, each member that sets something is found in the layer. -/
theorem value?_foldl_take (once : table.Pairwise (·.1 ≠ ·.1)) (supported : Supported key)
    (inside : (key, .bool flag) ∈ table) : (table.foldl take layer).value? key = some flag := by
  obtain ⟨before, after, rfl⟩ := List.append_of_mem inside
  have absent (value : Toml) : (key, value) ∉ after := fun later =>
    (List.pairwise_cons.mp (List.pairwise_append.mp once).2.1).1 _ later rfl
  rw [List.foldl_append, List.foldl_cons, value?_foldl_take_of_absent absent, value?_take_self supported]

/-- The layer that a table sets says for each key what the table says. -/
theorem value?_of_read (once : table.Pairwise (·.1 ≠ ·.1)) (read : ofTable path table = .ok layer)
    (key : String) :
    (∀ flag, layer.value? key = some flag ↔ (key, .bool flag) ∈ table) ∧
      (layer.value? key = none ↔ ∀ value, (key, value) ∉ table) := by
  obtain ⟨sets, rfl⟩ := ofTable_eq_ok_iff.mp read
  by_cases present : ∃ value, (key, value) ∈ table
  · obtain ⟨value, inside⟩ := present
    obtain ⟨supported, flag, rfl⟩ := sets _ inside
    have found : (table.foldl take {}).value? key = some flag := value?_foldl_take once supported inside
    refine ⟨fun other => ⟨fun same => ?_, value?_foldl_take once supported⟩, ?_⟩
    · cases found.symm.trans same
      exact inside
    · rw [found]
      exact ⟨nofun, fun absent => absurd inside (absent _)⟩
  · have absent := not_exists.mp present
    rw [value?_foldl_take_of_absent absent, value?_empty]
    exact ⟨fun flag => ⟨nofun, fun inside => absurd inside (absent _)⟩, fun _ => absent, fun _ => rfl⟩

/-! ## Refusals -/

/-- A table in ascending order is refused for the least of its misset members. -/
theorem ofTable_least_misset (ascending : table.Pairwise (·.1 < ·.1)) (misset : ∃ member ∈ table, Misset member) :
    ∃ least ∈ table, Misset least ∧ (∀ other ∈ table, Misset other → ¬ other.1 < least.1) ∧
      ofTable path table = .error (.invalidSetting path least.1) := by
  obtain ⟨before, least, after, rfl, sound, misset⟩ := exists_first_misset misset
  refine ⟨least, by simp, misset, fun other inside again => ?_, ofTable_misset sound misset⟩
  rcases List.mem_append.mp inside with earlier | later
  · exact absurd again (sound other earlier)
  · rcases List.mem_cons.mp later with rfl | later
    · exact lt_irrefl _
    · exact lt_asymm ((List.pairwise_cons.mp (List.pairwise_append.mp ascending).2.1).1 other later)

theorem ofTable_unknown (sound : ∀ member ∈ table, ¬ Misset member)
    (unknown : ∃ member ∈ table, ¬ Supported member.1) :
    ofTable path table = .error (.unsupportedSettings path (unknownKeys table)) := by
  obtain ⟨member, inside, foreign⟩ := unknown
  have filled := List.ne_nil_of_mem (mem_unknownKeys.mpr ⟨foreign, _, inside⟩)
  rw [ofTable_sound sound, if_neg filled]

/-- A text is read exactly where its table has no other keys than `verbose` and `debug` and no other values
than truth values, and each setting is then what the text says. Else it is refused for the least of these keys
with another value or, where there is none, for all other keys, in ascending order. -/
theorem settings_whitelisted {content : String} (parsed : Toml.parse content = some table) :
    table.Pairwise (fun member other => encode member.1 < encode other.1) ∧
      ((∃ layer, ofText path content = .ok layer) ↔ ∀ member ∈ table, Sets member) ∧
      (∀ layer, ofText path content = .ok layer → ∀ key,
        (∀ flag, layer.value? key = some flag ↔ (key, .bool flag) ∈ table) ∧
          (layer.value? key = none ↔ ∀ value, (key, value) ∉ table)) ∧
      ((∃ member ∈ table, Misset member) → ∃ least ∈ table, Misset least ∧
        (∀ other ∈ table, Misset other → ¬ encode other.1 < encode least.1) ∧
          ofText path content = .error (.invalidSetting path least.1)) ∧
      ((∀ member ∈ table, ¬ Misset member) → (∃ member ∈ table, ¬ Supported member.1) →
        ∃ keys, ofText path content = .error (.unsupportedSettings path keys) ∧
          keys.Pairwise (fun key other => encode key < encode other) ∧
            ∀ key, key ∈ keys ↔ ¬ Supported key ∧ ∃ value, (key, value) ∈ table) := by
  have ascending := Toml.ascending_of_parse parsed
  have read : ofText path content = ofTable path table := by rw [ofText, parsed]
  simp only [read, Text.Utf8.encode_lt_iff]
  refine ⟨ascending, by simp [ofTable_eq_ok_iff], fun layer => value?_of_read (ascending.imp ne_of_lt),
    ofTable_least_misset ascending, fun sound unknown => ?_⟩
  exact ⟨unknownKeys table, ofTable_unknown sound unknown,
    List.pairwise_map.mpr (ascending.sublist List.filter_sublist), fun key => mem_unknownKeys⟩

/-- A dotted key makes a table, which is no truth value: its first part is named, although a key without a
meaning comes before it. -/
theorem dotted_setting_refused :
    ∃ table, Toml.parse "debug.level = 2\ncolour = 1\n" = some table ∧
      ofText ".rulesctlrc" "debug.level = 2\ncolour = 1\n" = .error (.invalidSetting ".rulesctlrc" "debug") := by
  have lines : (Toml.lines {} "debug.level = 2\ncolour = 1\n".toList).map
      (·.finish.map fun member => (member.1, member.2.bool?)) = some [("debug", none), ("colour", none)] := by
    decide +kernel
  obtain ⟨root, read, members⟩ := Option.map_eq_some_iff.mp lines
  obtain ⟨table, parsed, same⟩ := Toml.exists_parse (by decide) read
  have listed (member : String × Toml) (inside : member ∈ table) :
      (member.1, member.2.bool?) ∈ [("debug", none), ("colour", none)] :=
    members ▸ List.mem_map_of_mem (same.mem_iff.mp inside)
  have misset : ∃ member ∈ table, Misset member := by
    have made : ("debug", none) ∈ root.finish.map fun member => (member.1, member.2.bool?) := members ▸ .head _
    obtain ⟨member, inside, shown⟩ := List.mem_map.mp made
    obtain ⟨name, value⟩ := Prod.mk.inj shown
    refine ⟨member, same.mem_iff.mpr inside, .inr name, fun flag truth => ?_⟩
    rw [truth] at value
    cases value
  obtain ⟨-, -, -, first, -⟩ := settings_whitelisted parsed
  obtain ⟨least, inside, ⟨supported, -⟩, -, refused⟩ := first misset
  have named : least.1 = "debug" := by
    have known := listed least inside
    rcases supported with verbose | debug
    · rw [verbose] at known
      simp at known
    · exact debug
  exact ⟨table, parsed, named ▸ refused⟩

end EntitlementRules.SettingsLayer
