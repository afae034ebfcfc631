import Voicemail.Proofs.Assoc
import Voicemail.Proofs.Except
import Voicemail.Settings.Load

/-!
# Which source decides

A merged table says of an option what the higher of its two tables says of it, and what the lower
one says where the higher one does not mention it (`Setting.lookup_merge`). The environment mentions
a switch exactly if its variable is set (`Environment.lookup_settings`). So the settings that are
loaded have each switch as the first of the arguments, the environment and the configuration
document that mentions it has it (`Settings.load_switch`).
-/

namespace Voicemail

/-! ## Readings -/

namespace Reading

/-- An input that could be read has no issue. -/
theorem ofIssues_ok {α : Type} {issues : List Issue} {v v' : α} (h : ofIssues issues v = .ok v') :
    issues = [] ∧ v = v' := by
  unfold ofIssues at h
  split at h
  next hempty => exact ⟨List.isEmpty_iff.1 hempty, Except.ok.inj h⟩
  next => cases h

variable {α β : Type} {read : β → Reading α} {default : α} {key : String}
  {parts : List (String × β)}

/-- What could not be read by a reader has an issue. -/
def Definite (read : β → Reading α) : Prop := ∀ v, (read v).issues = [] → ∃ a, read v = .ok a

/-- A part without an issue could be read, or it was left out. -/
theorem optional_eq_ok (hread : Definite read)
    (h : (optional read default key parts).issues = []) :
    optional read default key parts = .ok ((optional read default key parts).valueD default) := by
  revert h
  unfold optional
  cases parts.lookup key with
  | none => exact fun _ => rfl
  | some v =>
    dsimp only
    intro h
    cases hv : read v with
    | ok => rfl
    | error is =>
      rw [hv] at h
      obtain ⟨a, ha⟩ := hread v (by rw [hv]; exact List.map_eq_nil_iff.1 h)
      cases hv.symm.trans ha

/-- What a part says that may be left out. -/
theorem optional_ok {a : α} (h : optional read default key parts = .ok a) :
    (parts.lookup key = none ∧ a = default) ∨
      ∃ v, parts.lookup key = some v ∧ read v = .ok a := by
  unfold optional at h
  split at h
  next v hv => exact .inr ⟨v, hv, ok_of_mapError h⟩
  next hnone => exact .inl ⟨hnone, (Except.ok.inj h).symm⟩

/-- So could an input whose parts have no issue. -/
theorem ofIssues_eq_ok {issues : List Issue} {a : α} (h : (ofIssues issues a).issues = []) :
    ofIssues issues a = .ok a := by
  unfold ofIssues at h ⊢
  split at h
  next hempty => exact if_pos hempty
  next hempty => exact absurd (List.isEmpty_iff.2 h) hempty

end Reading

/-! ## Settings that are read -/

namespace Setting

variable {α : Type}

/-- A single value that could not be read has an issue, -/
theorem definite_scalar (read : Json → Except Complaint α) (otherwise : Complaint) :
    Reading.Definite (scalar read otherwise) := by
  intro v h
  cases v with
  | value v =>
    rw [scalar] at h ⊢
    cases hv : read v with
    | ok a => exact ⟨a, rfl⟩
    | error => rw [hv] at h; cases h
  | table | other => cases h

/-- and so has what is neither a text nor null, -/
theorem definite_stringOrNull : Reading.Definite stringOrNull := by
  intro v h
  unfold stringOrNull at h ⊢
  split at h
  · exact ⟨none, rfl⟩
  next hnull =>
    cases hstring : v.string with
    | ok s => exact ⟨some s, rfl⟩
    | error is =>
      rw [hstring] at h
      obtain ⟨s, hs⟩ := definite_scalar _ _ v (by rw [← string, hstring]; exact h)
      cases hstring.symm.trans hs

/-- and what is no integer, or one beyond its bounds. -/
theorem definite_intBetween (low high : Int) : Reading.Definite (intBetween low high) := by
  intro v h
  unfold intBetween at h ⊢
  split at h
  next is hint =>
    obtain ⟨n, hn⟩ := definite_scalar _ _ v (by rw [← int, hint]; exact h)
    cases hint.symm.trans hn
  next n hint =>
    split at h
    · cases h
    · split at h
      · cases h
      next hlow hhigh => exact ⟨n, by rw [if_neg hlow, if_neg hhigh]⟩

/-- An integer that is accepted is in the range. -/
theorem intBetween_ok {low high n : Int} {v : Setting} (h : intBetween low high v = .ok n) :
    low ≤ n ∧ n ≤ high := by
  unfold intBetween at h
  split at h
  · cases h
  · split at h
    · cases h
    · split at h
      · cases h
      · cases h
        omega

end Setting

/-! ## Merged tables -/

namespace Setting

variable {low high : List (String × Setting)} {key : String}

/-- A merged table has the options of the higher one, each put over that of the lower one, and the
other options of the lower one. -/
theorem lookup_merge (h : (Assoc.keys high).Nodup) :
    (merge low high).lookup key =
      ((high.lookup key).map (onTopOf (low.lookup key))).or (low.lookup key) := by
  induction high generalizing low with
  | nil => rw [merge]; rfl
  | cons option rest ih =>
    obtain ⟨name, v⟩ := option
    rw [Assoc.keys, List.map_cons, List.nodup_cons] at h
    rw [merge, ih h.2, Assoc.lookup_set, List.lookup_cons]
    by_cases hkey : key = name
    · subst hkey
      rw [Assoc.lookup_of_not_mem h.1, if_pos rfl, beq_self_eq_true]
      rfl
    · rw [if_neg hkey, beq_eq_false_iff_ne.2 hkey]

/-- Nothing lies below. -/
theorem onTopOf_none (v : Setting) : onTopOf none v = v := by
  cases v <;> rfl

/-- A table stays one when it is put over something. -/
theorem onTopOf_table (low : Option Setting) (members : List (String × Setting)) :
    ∃ merged, onTopOf low (.table members) = .table merged := by
  cases low with
  | none => exact ⟨members, rfl⟩
  | some v =>
    cases v with
    | table below => exact ⟨merge below members, by rw [onTopOf]⟩
    | value | other => exact ⟨members, rfl⟩

/-- What lies below a setting does not matter to a reader for which all tables are alike. -/
theorem read_onTopOf {α : Type} {read : Setting → Reading α}
    (hread : ∀ ms ms', read (.table ms) = read (.table ms')) (low : Option Setting) (v : Setting) :
    read (onTopOf low v) = read v := by
  cases v with
  | value | other => rfl
  | table members =>
    obtain ⟨merged, hmerged⟩ := onTopOf_table low members
    rw [hmerged]
    exact hread merged members

end Setting

/-! ## The environment -/

namespace Environment

variable {env : Environment} {switches : List String} {sections : List (String × List String)}
  {table : List (String × Setting)}

/-- The switches whose variables are set. -/
def ownSettings (env : Environment) (switches : List String) : List (String × Setting) :=
  switches.filterMap fun name => (env.switchSetting name).map (name, ·)

/-- The switches whose variables are set have the order of all switches. -/
theorem keys_ownSettings (env : Environment) (switches : List String) :
    (Assoc.keys (env.ownSettings switches)).Sublist switches := by
  induction switches with
  | nil => exact .slnil
  | cons name rest ih =>
    rw [ownSettings, List.filterMap_cons]
    cases env.switchSetting name with
    | none => exact ih.cons name
    | some v => exact ih.cons_cons name

/-- Each switch has what its own variable says. -/
theorem lookup_ownSettings (env : Environment) (switches : List String) (name : String) :
    (env.ownSettings switches).lookup name =
      if name ∈ switches then env.switchSetting name else none := by
  induction switches with
  | nil => rfl
  | cons other rest ih =>
    rw [ownSettings] at ih
    rw [ownSettings, List.filterMap_cons]
    by_cases hname : name = other
    · subst hname
      cases hv : env.switchSetting name with
      | some v => simp
      | none => simp [ih, hv]
    · cases env.switchSetting other with
      | some v => simp [ih, hname, List.lookup_cons, beq_eq_false_iff_ne.2 hname]
      | none => simp [ih, hname]

/-- The sections that the environment mentions are among those that are asked for. -/
theorem keys_sections {found : List (Option (String × Setting))}
    (h : (sections.mapM fun (name, options) => do
      return (← env.sectionSetting name options).map (name, ·) :
        Except Failure (List (Option (String × Setting)))) = .ok found) :
    (Assoc.keys (found.filterMap id)).Sublist (Assoc.keys sections) := by
  induction sections generalizing found with
  | nil =>
    cases h
    exact .slnil
  | cons entry rest ih =>
    obtain ⟨name, options⟩ := entry
    rw [List.mapM_cons] at h
    obtain ⟨setting, hfirst, h⟩ := exists_of_bind_ok h
    obtain ⟨more, hmore, h⟩ := exists_of_bind_ok h
    obtain ⟨v, -, hv⟩ := exists_of_bind_ok hfirst
    cases h
    cases hv
    cases v with
    | none => exact (ih hmore).cons name
    | some v => exact (ih hmore).cons_cons name

/-- What the environment says of each name comes from its own variable or from those of the
section. -/
theorem settings_eq (h : env.settings switches sections = .ok table) :
    ∃ rest, table = env.ownSettings switches ++ rest ∧
      (Assoc.keys rest).Sublist (Assoc.keys sections) := by
  obtain ⟨found, hfound, h⟩ := exists_of_bind_ok h
  cases h
  exact ⟨_, rfl, keys_sections hfound⟩

/-- The environment mentions no name twice, if none is asked for twice. -/
theorem nodup_settings (h : env.settings switches sections = .ok table)
    (hnames : (switches ++ Assoc.keys sections).Nodup) : (Assoc.keys table).Nodup := by
  obtain ⟨rest, rfl, hrest⟩ := settings_eq h
  rw [Assoc.keys, List.map_append]
  exact hnames.sublist ((keys_ownSettings env switches).append hrest)

/-- The environment says of a switch what its variable says. -/
theorem lookup_settings (h : env.settings switches sections = .ok table)
    (hnames : (switches ++ Assoc.keys sections).Nodup) {name : String} (hname : name ∈ switches) :
    table.lookup name = env.switchSetting name := by
  obtain ⟨rest, rfl, hrest⟩ := settings_eq h
  have hother : name ∉ Assoc.keys rest :=
    fun hmem => (List.nodup_append.1 hnames).2.2 _ hname _ (hrest.subset hmem) rfl
  rw [List.lookup_append, lookup_ownSettings, if_pos hname, Assoc.lookup_of_not_mem hother,
    Option.or_none]

end Environment

/-! ## Switches -/

/-- A switch that is a setting of its own. -/
inductive SettingSwitch where
  | jsonOutput
  | quiet
  | verbose
  | logJson
  | sync
  deriving DecidableEq, Repr

namespace SettingSwitch

/-- The name of a switch among the settings. -/
def name : SettingSwitch → String
  | .jsonOutput => "json_output"
  | .quiet => "quiet"
  | .verbose => "verbose"
  | .logJson => "log_json"
  | .sync => "sync"

/-- Whether a switch is on. -/
def value (s : Settings) : SettingSwitch → Bool
  | .jsonOutput => s.jsonOutput
  | .quiet => s.quiet
  | .verbose => s.verbose
  | .logJson => s.logJson
  | .sync => s.sync

/-- What a source that mentions a switch says of it; a switch that no source mentions is off. -/
def said (w : SettingSwitch) : Option Setting → Reading Bool
  | some v => (Setting.bool v).under w.name
  | none => .ok false

/-- Reading a switch out of a table is reading what the table mentions of it. -/
theorem optional_eq_said (w : SettingSwitch) (table : List (String × Setting)) :
    Reading.optional Setting.bool false w.name table = w.said (table.lookup w.name) := by
  unfold Reading.optional
  cases table.lookup w.name <;> rfl

/-- What lies below a source that mentions a switch does not matter. -/
theorem said_onTopOf (w : SettingSwitch) (high low low' : Option Setting) :
    w.said ((high.map (Setting.onTopOf low')).or low) = w.said (high.or low) := by
  cases high with
  | none => rfl
  | some v => exact congrArg (Reading.under w.name) (Setting.read_onTopOf (fun _ _ => rfl) low' v)

end SettingSwitch

/-- The options of the configuration document, of which there are none without one. -/
def Surroundings.document (s : Surroundings) (named : Option String) (root : Option Path) :
    Except Failure (List (String × Setting)) := do
  match ← s.config named root with
  | none => return []
  | some p => readConfig p ((← s.read? p).getD [])

namespace Settings

variable {s : Surroundings} {named : Option String} {root : Option Path}
  {arguments document : List (String × Setting)} {settings : Settings}

/-- Settings that could be read have no switch at fault, and each as the table says. -/
theorem read_switch {root : Path} {config : Option Path} {table : List (String × Setting)}
    (h : read root config table = .ok settings) (w : SettingSwitch) :
    w.said (table.lookup w.name) = .ok (w.value settings) := by
  obtain ⟨hissues, rfl⟩ := Reading.ofIssues_ok h
  simp only [List.append_eq_nil_iff] at hissues
  obtain ⟨⟨⟨⟨⟨⟨⟨⟨⟨hjson, hquiet⟩, hverbose⟩, hlog⟩, hsync⟩, -⟩, -⟩, -⟩, -⟩, -⟩ := hissues
  rw [← w.optional_eq_said]
  have hbool : Reading.Definite Setting.bool := Setting.definite_scalar _ _
  cases w with
  | jsonOutput => exact Reading.optional_eq_ok hbool hjson
  | quiet => exact Reading.optional_eq_ok hbool hquiet
  | verbose => exact Reading.optional_eq_ok hbool hverbose
  | logJson => exact Reading.optional_eq_ok hbool hlog
  | sync => exact Reading.optional_eq_ok hbool hsync

/-- What the loaded settings are read from. -/
theorem load_eq (h : load s named root arguments = .ok settings) :
    ∃ document root' config environment,
      s.config named root = .ok config ∧
      s.document named root = .ok document ∧
      s.environment.settings switchNames sectionNames = .ok environment ∧
      read root' config (Setting.merge (Setting.merge document environment) arguments) =
        .ok settings := by
  unfold load at h
  split at h
  · cases h
  obtain ⟨config, hconfig, h⟩ := exists_of_bind_ok h
  revert h
  generalize root.getD ((config.map (·.parent)).getD s.directory) = root'
  intro h
  have ⟨document, hdocument, h⟩ : ∃ document, s.document named root = .ok document ∧
      (do let environment ← s.environment.settings switchNames sectionNames
          let all := Setting.merge (Setting.merge document environment) arguments
          (read root' config all).mapError Failure.invalid) = .ok settings := by
    unfold Surroundings.document
    rw [hconfig]
    cases config with
    | none => exact ⟨[], rfl, h⟩
    | some p =>
      obtain ⟨bytes, hbytes, h⟩ := exists_of_bind_ok h
      obtain ⟨document, hdocument, h⟩ := exists_of_bind_ok h
      refine ⟨document, ?_, h⟩
      show (do readConfig p ((← s.read? p).getD [])) = _
      rw [hbytes]
      exact hdocument
  obtain ⟨environment, henvironment, h⟩ := exists_of_bind_ok h
  exact ⟨document, root', config, environment, hconfig, hdocument, henvironment, ok_of_mapError h⟩

/-- Settings whose parts are at hand are loaded. -/
theorem load_of_read {config : Option Path} {environment : List (String × Setting)}
    (hmisuse : misuse? (Assoc.keys arguments) = none) (hconfig : s.config named root = .ok config)
    (hdocument : s.document named root = .ok document)
    (henvironment : s.environment.settings switchNames sectionNames = .ok environment)
    (hread : read (root.getD ((config.map (·.parent)).getD s.directory)) config
      (Setting.merge (Setting.merge document environment) arguments) = .ok settings) :
    load s named root arguments = .ok settings := by
  have hmap : (read (root.getD ((config.map (·.parent)).getD s.directory)) config
      (Setting.merge (Setting.merge document environment) arguments)).mapError Failure.invalid =
        .ok settings := by rw [hread]; rfl
  unfold load
  unfold Surroundings.document at hdocument
  rw [hconfig] at hdocument
  rw [hmisuse, hconfig, henvironment]
  cases config with
  | none =>
    cases hdocument
    exact hmap
  | some p =>
    obtain ⟨_, hp, hdocument⟩ := exists_of_bind_ok hdocument
    cases hp
    obtain ⟨bytes, hbytes, hdocument⟩ := exists_of_bind_ok hdocument
    show (do
      let bytes ← s.read? p
      let document ← readConfig p (bytes.getD [])
      (read (root.getD p.parent) (some p)
        (Setting.merge (Setting.merge document environment) arguments)).mapError
          Failure.invalid) = _
    rw [hbytes]
    show (do
      let document ← readConfig p (bytes.getD [])
      (read (root.getD p.parent) (some p)
        (Setting.merge (Setting.merge document environment) arguments)).mapError
          Failure.invalid) = _
    rw [hdocument]
    exact hmap

/-- A switch in the settings that are loaded is as the first of the arguments, the environment and
the configuration document says that mentions it, and else it is off. -/
theorem load_switch (h : load s named root arguments = .ok settings)
    (hdocument : s.document named root = .ok document)
    (harguments : (Assoc.keys arguments).Nodup) (w : SettingSwitch) :
    w.said ((arguments.lookup w.name).or
      ((s.environment.switchSetting w.name).or (document.lookup w.name))) =
        .ok (w.value settings) := by
  obtain ⟨document', root', config, environment, -, hdocument', henvironment, hread⟩ := load_eq h
  obtain rfl := Except.ok.inj (hdocument.symm.trans hdocument')
  have hnames : (switchNames ++ Assoc.keys sectionNames).Nodup := by decide
  have hmem : w.name ∈ switchNames := by cases w <;> decide
  have hlookup := read_switch hread w
  rw [Setting.lookup_merge harguments, w.said_onTopOf,
    Setting.lookup_merge (Environment.nodup_settings henvironment hnames),
    Environment.lookup_settings henvironment hnames hmem] at hlookup
  rw [← hlookup]
  cases arguments.lookup w.name with
  | some => rfl
  | none => exact (w.said_onTopOf (s.environment.switchSetting w.name) (document.lookup w.name)
      (document.lookup w.name)).symm

end Settings

end Voicemail
