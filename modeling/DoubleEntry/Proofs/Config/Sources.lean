import DoubleEntry.Proofs.Config.Fields
import DoubleEntry.Proofs.Text.Split

/-!
The sources of the settings. Each setting is what the environment has for it, else what the file of the mode has, else
what the file of defaults has, else its default, whatever they have for the others. Only an address of the database has to
be found somewhere.
-/

set_option autoImplicit false

namespace DoubleEntry.Config

open Value

theorem split_points (key : String) : key.splitOn "." = (key.toList.splitOn '.').map String.ofList :=
  Text.split_char key '.'

theorem key_path (s : Setting) : keyPath s.key = s.path := by
  rw [keyPath, split_points]
  cases s <;> decide +kernel

theorem group_assigned (s : Setting) (origin : Origin) (members : Table) :
    assignedBy (s.group, .table origin members) = members.map fun member => ([s.group, member.1], member.2) := by
  have path : keyPath s.group = [s.group] := by
    rw [keyPath, split_points]
    cases s <;> decide +kernel
  rw [assignedBy, path]

theorem variable_key (s : Setting) : serviceNaming.key? s.variableName = some s.key := by
  cases s <;> decide +kernel

theorem path_injective (s other : Setting) (same : s.path = other.path) : s = other := by
  have names : s.name = other.name := by simpa [Setting.path] using congrArg List.getLast? same
  revert names
  cases s <;> cases other <;> decide

namespace Environment

def settings (naming : Naming) (environment : Environment) : Table :=
  environment.filterMap fun v => (naming.key? v.1).map fun key => (key, .scalar origin (scalar v.2))

theorem settings_added (naming : Naming) (environment : Environment) (entries : Table)
    (once : ((entries ++ settings naming environment).map Prod.fst).Nodup) :
    environment.foldl (fun entries v => match naming.key? v.1 with
      | some key => Table.put key (.scalar origin (scalar v.2)) entries
      | none => entries) entries = entries ++ settings naming environment := by
  induction environment generalizing entries with
  | nil => exact (List.append_nil entries).symm
  | cons v rest ih =>
      rw [List.foldl_cons]
      cases found : naming.key? v.1 with
      | none =>
          have skipped : settings naming (v :: rest) = settings naming rest := by simp [settings, found]
          rw [skipped] at once ⊢
          exact ih entries once
      | some key =>
          have taken : settings naming (v :: rest) = (key, .scalar origin (scalar v.2)) :: settings naming rest := by
            simp [settings, found]
          rw [taken, List.append_cons] at once ⊢
          have front : ((entries ++ [(key, Value.scalar origin (scalar v.2))]).map Prod.fst).Nodup :=
            ((List.sublist_append_left _ _).map Prod.fst).nodup once
          rw [List.map_append, List.nodup_append] at front
          have fresh : key ∉ entries.map Prod.fst := fun among => front.2.2 key among key (by simp) rfl
          rw [← ih _ once, ← Table.put_fresh key _ entries fresh]

theorem table_settings (naming : Naming) (environment : Environment)
    (once : ((settings naming environment).map Prod.fst).Nodup) :
    table naming environment = settings naming environment :=
  settings_added naming environment [] once

theorem settings_assigned (naming : Naming) (environment : Environment) :
    assigned (settings naming environment) =
      (settings naming environment).map fun entry => (keyPath entry.1, entry.2) := by
  have single : ∀ entry ∈ settings naming environment, assignedBy entry = [(keyPath entry.1, entry.2)] := by
    intro entry among
    obtain ⟨v, _, set⟩ := List.mem_filterMap.mp among
    obtain ⟨key, _, rfl⟩ := Option.map_eq_some_iff.mp set
    rw [assignedBy]
    split
    · rename_i isTable
      cases isTable
    · rfl
  rw [assigned, List.flatMap_congr single, ← List.map_eq_flatMap]

end Environment

-- A source that sets settings only, each of them once, and to values that can be converted.
structure ValidSource (source : Table) : Prop where
  known : ∀ a ∈ assigned source, ∃ s : Setting, a.1 = s.path ∧ ∃ x, s.decode a.2 = .ok x
  once : ((assigned source).map Prod.fst).Nodup

def Setting.valueIn (s : Setting) (source : Table) : Option Value := (assigned source).lookup s.path

-- What a file contains that goes by a plain name and may be absent. No file has the name without an extension.
inductive Contents (files : Files) (name : String) : Table → Prop
  | absent (plain : files.lookup name = none) (missing : files.lookup (name ++ extension) = none) : Contents files name []
  | present (plain : files.lookup name = none) (text : String) (found : files.lookup (name ++ extension) = some text)
      (table : Table) (read : Toml.read (some (directory ++ (name ++ extension))) text.toList = .ok table) :
      Contents files name table

theorem file_table (files : Files) (name : String) (table : Table) (contents : Contents files name table) :
    fileTable files name = .ok table := by
  cases contents with
  | absent plain missing => simp [fileTable, findFile, plain, missing]
  | present plain text found table read => simp [fileTable, findFile, plain, found, read]

section ValidSources

variable (source : Table) (valid : ValidSource source)

include valid

theorem valid_source_converts (s : Setting) : Converts s.decode (s.valueIn source) := by
  intro v found
  obtain ⟨before, after, split, _⟩ := List.lookup_eq_some_iff.mp found
  obtain ⟨other, place, decoded⟩ := valid.known (s.path, v) (by rw [split]; simp)
  rw [path_injective s other place]
  exact decoded

theorem valid_source_plain : Plain (assigned source) := by
  intro a among
  obtain ⟨s, place, x, decoded⟩ := valid.known a among
  refine ⟨⟨s.group, s.name, place⟩, ?_⟩
  cases value : a.2 with
  | scalar _ _ => rfl
  | list _ _ | table _ _ =>
      rw [value] at decoded
      cases s <;> cases decoded

end ValidSources

/-- Two files, which may be absent, and an environment, which set nothing but settings. -/
structure Deployment (files : Files) (environment : Environment) where
  defaults : Table
  mode : Table
  defaultFile : Contents files "default" defaults
  modeFile : Contents files (runMode environment) mode
  defaultValid : ValidSource defaults
  modeValid : ValidSource mode
  variableValid : ValidSource (Environment.settings serviceNaming environment)

namespace Deployment

variable {files : Files} {environment : Environment} (d : Deployment files environment)

def chosen (s : Setting) : Option Value :=
  (s.valueIn (Environment.settings serviceNaming environment)).or ((s.valueIn d.mode).or (s.valueIn d.defaults))

theorem chosen_converts (s : Setting) : Converts s.decode (d.chosen s) := by
  intro v found
  rcases Option.or_eq_some_iff.mp found with own | ⟨_, lower⟩
  · exact valid_source_converts _ d.variableValid s v own
  · rcases Option.or_eq_some_iff.mp lower with own | ⟨_, own⟩
    · exact valid_source_converts _ d.modeValid s v own
    · exact valid_source_converts _ d.defaultValid s v own

include d in
theorem environment_table :
    Environment.table serviceNaming environment = Environment.settings serviceNaming environment := by
  have once := d.variableValid.once
  rw [Environment.settings_assigned, List.map_map] at once
  refine Environment.table_settings serviceNaming environment (List.Nodup.of_map keyPath ?_)
  rw [List.map_map]
  exact once

theorem merged_laid : Laid emptyTable
    (assigned d.defaults ++ (assigned d.mode ++ assigned (Environment.settings serviceNaming environment)))
    (merge [d.defaults, d.mode, Environment.settings serviceNaming environment]) := by
  have plain : ∀ source ∈ [d.defaults, d.mode, Environment.settings serviceNaming environment],
      Plain (assigned source) := by
    simp only [List.mem_cons, List.not_mem_nil, or_false]
    rintro source (rfl | rfl | rfl)
    · exact valid_source_plain _ d.defaultValid
    · exact valid_source_plain _ d.modeValid
    · exact valid_source_plain _ d.variableValid
  simpa [merge] using layers_laid _ plain emptyTable empty_grouped

theorem merged_at (s : Setting) :
    (merge [d.defaults, d.mode, Environment.settings serviceNaming environment]).at? s.group s.name = d.chosen s := by
  have none : emptyTable.at? s.group s.name = none := rfl
  rw [d.merged_laid.found s.group s.name, none, Option.or_none, List.reverse_append, List.reverse_append,
    List.lookup_append, List.lookup_append, lookup_reverse _ d.defaultValid.once, lookup_reverse _ d.modeValid.once,
    lookup_reverse _ d.variableValid.once, Option.or_assoc]
  rfl

-- What is loaded, before it is known whether the database has an address.
include d in
theorem load_decoded :
    load files environment = decodeAll decodeSettings
      (merge [d.defaults, d.mode, Environment.settings serviceNaming environment]) := by
  rw [load, sources, file_table files _ _ d.defaultFile, file_table files _ _ d.modeFile, d.environment_table]
  rfl

theorem load_chosen :
    (d.chosen .url = none ∧ ∃ e, load files environment = .error e) ∨
      ∃ x, load files environment = .ok x ∧ ∀ s : Setting, Takes s.decode s.default? (d.chosen s) (s.field x) := by
  have fits : ∀ s : Setting, Converts s.decode
      ((merge [d.defaults, d.mode, Environment.settings serviceNaming environment]).at? s.group s.name) := by
    intro s
    rw [d.merged_at s]
    exact d.chosen_converts s
  rcases settings_decoded _ d.merged_laid.grouped fits with ⟨unset, e, failed⟩ | ⟨x, decoded, taken⟩
  · refine .inl ⟨(d.merged_at .url).symm.trans unset, .setting e, ?_⟩
    rw [d.load_decoded, decodeAll, failed]
  · refine .inr ⟨x, ?_, ?_⟩
    · rw [d.load_decoded, decodeAll, decoded]
    · intro s
      rw [← d.merged_at s]
      exact taken s

include d in
theorem variable_value (s : Setting) (text : String) (among : (s.variableName, text) ∈ environment) :
    s.valueIn (Environment.settings serviceNaming environment) =
      some (.scalar Environment.origin (Environment.scalar text)) := by
  refine lookup_assigned _ d.variableValid.once s.path _ ?_
  rw [Environment.settings_assigned, List.mem_map]
  refine ⟨(s.key, .scalar Environment.origin (Environment.scalar text)), List.mem_filterMap.mpr ⟨_, among, ?_⟩, ?_⟩
  · rw [variable_key s, Option.map_some]
  · rw [key_path s]

end Deployment

structure Layered {files : Files} {environment : Environment} (d : Deployment files environment) : Prop where
  fails : (∃ e, load files environment = .error e) ↔
    Setting.url.valueIn (Environment.settings serviceNaming environment) = none ∧
      Setting.url.valueIn d.mode = none ∧ Setting.url.valueIn d.defaults = none
  fields : ∀ x, load files environment = .ok x →
    ∀ s : Setting, Takes s.decode s.default? (d.chosen s) (s.field x)
  named : ∀ (s : Setting) (text : String), (s.variableName, text) ∈ environment →
    s.valueIn (Environment.settings serviceNaming environment) =
      some (.scalar Environment.origin (Environment.scalar text))
  -- Two deployments that agree on a setting have it alike, however they differ on the others.
  alone : ∀ {otherFiles : Files} {otherEnvironment : Environment} (other : Deployment otherFiles otherEnvironment) x y,
    load files environment = .ok x → load otherFiles otherEnvironment = .ok y →
      ∀ s : Setting, d.chosen s = other.chosen s → s.field x = s.field y

/-- Every setting has its value from the last of the sources that set it, or else its default, and all settings load
unless the address of the database is set nowhere. -/
theorem settings_are_layered (files : Files) (environment : Environment) (d : Deployment files environment) :
    Layered d := by
  have fields : ∀ x, load files environment = .ok x →
      ∀ s : Setting, Takes s.decode s.default? (d.chosen s) (s.field x) := by
    intro x loaded
    rcases d.load_chosen with ⟨_, e, failed⟩ | ⟨y, decoded, taken⟩
    · cases failed.symm.trans loaded
    · cases decoded.symm.trans loaded
      exact taken
  refine ⟨?_, fields, d.variable_value, ?_⟩
  · have unset : d.chosen .url = none ↔ Setting.url.valueIn (Environment.settings serviceNaming environment) = none ∧
        Setting.url.valueIn d.mode = none ∧ Setting.url.valueIn d.defaults = none := by
      rw [Deployment.chosen, Option.or_eq_none_iff, Option.or_eq_none_iff]
    rw [← unset]
    rcases d.load_chosen with ⟨none, e, failed⟩ | ⟨x, loaded, taken⟩
    · exact ⟨fun _ => none, fun _ => ⟨e, failed⟩⟩
    · constructor
      · rintro ⟨e, failed⟩
        cases loaded.symm.trans failed
      · intro none
        have needed := taken .url
        rw [none] at needed
        cases needed
  · intro otherFiles otherEnvironment other x y loaded otherLoaded s same
    have own := fields x loaded s
    rcases other.load_chosen with ⟨_, e, failed⟩ | ⟨z, decoded, taken⟩
    · cases failed.symm.trans otherLoaded
    · cases decoded.symm.trans otherLoaded
      rw [same] at own
      exact takes_unique s.decode s.default? (other.chosen s) _ _ own (taken s)

-- A deployment with one setting from each source and one that the mode overrides.
section Staged

def stagedFiles : Files :=
  [("default.toml", "[server]\nhost = \"::1\"\n[log]\njson = true\n"), ("staging.toml", "log.json = false\n")]

def stagedEnvironment : Environment :=
  [("RUN_MODE", "staging"), ("TRANSFER__DATABASE__URL", "postgres://db"), ("TRANSFER__SERVER__PORT", "9090")]

def stagedDefaults : Table :=
  let origin : Origin := some "config/default.toml"
  [("server", .table origin [("host", .scalar origin (.text "::1"))]),
    ("log", .table origin [("json", .scalar origin (.flag true))])]

def stagedMode : Table :=
  let origin : Origin := some "config/staging.toml"
  [("log", .table origin [("json", .scalar origin (.flag false))])]

theorem staged_defaults : assigned stagedDefaults =
    [(Setting.host.path, .scalar (some "config/default.toml") (.text "::1")),
      (Setting.json.path, .scalar (some "config/default.toml") (.flag true))] := by
  rw [assigned, stagedDefaults, List.flatMap_cons, List.flatMap_cons]
  exact congrArg₂ (· ++ ·) (group_assigned .host _ _) (congrArg (· ++ []) (group_assigned .json _ _))

theorem staged_mode :
    assigned stagedMode = [(Setting.json.path, .scalar (some "config/staging.toml") (.flag false))] :=
  congrArg (· ++ []) (group_assigned .json _ _)

theorem staged_variables : assigned (Environment.settings serviceNaming stagedEnvironment) =
    [(Setting.url.path, .scalar Environment.origin (.text "postgres://db")),
      (Setting.port.path, .scalar Environment.origin (.int 9090))] := by
  have mode : serviceNaming.key? "RUN_MODE" = none := by decide +kernel
  have url : serviceNaming.key? "TRANSFER__DATABASE__URL" = some Setting.url.key := by decide +kernel
  have port : serviceNaming.key? "TRANSFER__SERVER__PORT" = some Setting.port.key := by decide +kernel
  have text : Environment.scalar "postgres://db" = .text "postgres://db" := by decide +kernel
  have number : Environment.scalar "9090" = .int 9090 := by decide +kernel
  rw [Environment.settings_assigned]
  simp only [stagedEnvironment, Environment.settings, List.filterMap_cons, List.filterMap_nil, mode, url, port, text,
    number, Option.map_none, Option.map_some, List.map_cons, List.map_nil, key_path]

set_option maxRecDepth 20000 in
def staged : Deployment stagedFiles stagedEnvironment where
  defaults := stagedDefaults
  mode := stagedMode
  defaultFile := .present rfl _ rfl stagedDefaults (by cbv)
  modeFile := .present rfl _ rfl stagedMode (by cbv)
  defaultValid := by
    refine ⟨?_, by rw [staged_defaults]; decide⟩
    simp only [staged_defaults, List.forall_mem_cons]
    exact ⟨⟨.host, rfl, _, rfl⟩, ⟨.json, rfl, _, rfl⟩, by simp⟩
  modeValid := by
    refine ⟨?_, by rw [staged_mode]; decide⟩
    simp only [staged_mode, List.forall_mem_cons]
    exact ⟨⟨.json, rfl, _, rfl⟩, by simp⟩
  variableValid := by
    refine ⟨?_, by rw [staged_variables]; decide⟩
    simp only [staged_variables, List.forall_mem_cons]
    exact ⟨⟨.url, rfl, _, rfl⟩, ⟨.port, rfl, 9090, rfl⟩, by simp⟩

theorem settings_are_layered_staged : Layered staged ∧ ∃ x, load stagedFiles stagedEnvironment = .ok x ∧
    x.server.host = "::1" ∧ x.server.port = 9090 ∧ x.log.json = false ∧ x.database.maxConnections = 10 := by
  have layered : Layered staged := settings_are_layered stagedFiles stagedEnvironment staged
  refine ⟨layered, ?_⟩
  cases loaded : load stagedFiles stagedEnvironment with
  | error e =>
      have unset := (layered.fails.mp ⟨e, loaded⟩).1
      rw [Setting.valueIn, staged_variables] at unset
      cases unset
  | ok x =>
      have taken : ∀ s : Setting, Takes s.decode s.default?
          (((assigned (Environment.settings serviceNaming stagedEnvironment)).lookup s.path).or
            (((assigned stagedMode).lookup s.path).or ((assigned stagedDefaults).lookup s.path))) (s.field x) :=
        layered.fields x loaded
      rw [staged_variables, staged_mode, staged_defaults] at taken
      refine ⟨x, rfl, ?_, ?_, ?_, ?_⟩
      · exact (Except.ok.inj (taken .host)).symm
      · exact (Except.ok.inj (taken .port)).symm
      · exact (Except.ok.inj (taken .json)).symm
      · exact (Option.some.inj (taken .maxConnections)).symm

end Staged

end DoubleEntry.Config
