import Mathlib
import Voicemail.Proofs.Settings.Sections

/-!
# Options of sections

Settings that are loaded are put together leaf by leaf (`Settings.LeafByLeaf`): each option of a
section has the value that the first of the arguments, the environment and the configuration
document that mentions this option has for it, and the coded default where none mentions it. A
source that mentions other options of the section hides nothing, since sections are merged option by
option (`SectionOption.find?_merge`), and no option looks at what lies below the setting that it is
read from (`SectionOption.read_onTopOf`).
-/

namespace Voicemail

/-- An option of a section. -/
inductive SectionOption where
  | protocol
  | networkTimeout
  | defaultPinLength
  | locale
  | applicationPort
  | destinationNumber
  | storePath
  | eventsSync
  | maxRetries
  | maxWorkers
  deriving DecidableEq, Repr

namespace SectionOption

/-- The section that an option belongs to. -/
def sectionName : SectionOption → String
  | .protocol | .networkTimeout | .defaultPinLength | .locale => "provisioning"
  | .applicationPort | .destinationNumber => "sms"
  | .storePath => "store"
  | .eventsSync | .maxRetries | .maxWorkers => "events"

/-- The name of an option in its section. -/
def name : SectionOption → String
  | .protocol => "protocol"
  | .networkTimeout => "network_timeout_seconds"
  | .defaultPinLength => "default_pin_length"
  | .locale => "locale"
  | .applicationPort => "application_port"
  | .destinationNumber => "destination_number"
  | .storePath => "path"
  | .eventsSync => "sync"
  | .maxRetries => "max_retries"
  | .maxWorkers => "max_workers"

/-- The values of an option. -/
def Value : SectionOption → Type
  | .protocol | .destinationNumber => String
  | .networkTimeout => Binary64
  | .locale | .storePath => Option String
  | .eventsSync => Bool
  | .defaultPinLength | .applicationPort | .maxRetries | .maxWorkers => Int

/-- How the value of an option is read. -/
def read : (o : SectionOption) → Setting → Reading o.Value
  | .protocol | .destinationNumber => Setting.string
  | .networkTimeout => Setting.float
  | .locale | .storePath => Setting.stringOrNull
  | .eventsSync => Setting.bool
  | .defaultPinLength => Setting.intBetween 1 10
  | .applicationPort | .maxRetries | .maxWorkers => Setting.int

/-- The value of an option that nobody mentions. -/
def default : (o : SectionOption) → o.Value
  | .protocol => "vvm3"
  | .networkTimeout => Binary64.ofInt 60
  | .defaultPinLength => (6 : Int)
  | .locale | .storePath => (none : Option String)
  | .applicationPort => (0 : Int)
  | .destinationNumber => ""
  | .eventsSync => false
  | .maxRetries => (3 : Int)
  | .maxWorkers => (2 : Int)

/-- The value of an option among settings. -/
def value (s : Settings) : (o : SectionOption) → o.Value
  | .protocol => s.provisioning.protocol
  | .networkTimeout => s.provisioning.networkTimeout
  | .defaultPinLength => s.provisioning.defaultPinLength
  | .locale => s.provisioning.locale
  | .applicationPort => s.sms.applicationPort
  | .destinationNumber => s.sms.destinationNumber
  | .storePath => s.store.path
  | .eventsSync => s.events.sync
  | .maxRetries => s.events.maxRetries
  | .maxWorkers => s.events.maxWorkers

/-- The value that a mention of an option stands for; without one it is the default. -/
def said (o : SectionOption) : Option Setting → Reading o.Value
  | some v => o.read v
  | none => .ok o.default

/-- What a source says of an option. -/
def find? (o : SectionOption) (table : List (String × Setting)) : Option Setting :=
  Setting.member? o.name (table.lookup o.sectionName)

/-- Every option of every section is one of these. -/
theorem exists_of_mem {name option : String} {options : List String}
    (h : (name, options) ∈ Settings.sectionNames) (hoption : option ∈ options) :
    ∃ o : SectionOption, o.sectionName = name ∧ o.name = option := by
  have hall : ∀ entry ∈ Settings.sectionNames, ∀ option ∈ entry.2,
      ∃ o ∈ [protocol, networkTimeout, defaultPinLength, locale, applicationPort,
        destinationNumber, storePath, eventsSync, maxRetries, maxWorkers],
        o.sectionName = entry.1 ∧ o.name = option := by decide
  obtain ⟨o, -, ho⟩ := hall _ h option hoption
  exact ⟨o, ho⟩

/-- Each of these is an option of a section. -/
theorem exists_mem_sectionNames (o : SectionOption) :
    ∃ entry ∈ Settings.sectionNames, entry.1 = o.sectionName ∧ o.name ∈ entry.2 := by
  cases o <;> decide

/-- A variable leads to every option. -/
theorem way_name (o : SectionOption) :
    Environment.way o.sectionName
      (Environment.mark ++ o.sectionName ++ "__" ++ o.name) = [o.name] := by
  cases o <;> decide +kernel

/-! ## Reading options -/

/-- An option that could not be read has an issue. -/
theorem definite_read (o : SectionOption) : Reading.Definite o.read := by
  cases o with
  | protocol | networkTimeout | applicationPort | destinationNumber | eventsSync | maxRetries
  | maxWorkers => exact Setting.definite_scalar _ _
  | locale | storePath => exact Setting.definite_stringOrNull
  | defaultPinLength => exact Setting.definite_intBetween 1 10

/-- No option looks at what lies below the setting that it is read from. -/
theorem said_onTopOf (o : SectionOption) (high low low' : Option Setting) :
    o.said ((high.map (Setting.onTopOf low')).or low) = o.said (high.or low) := by
  cases high with
  | none => rfl
  | some v =>
    have htables : ∀ ms ms', o.read (.table ms) = o.read (.table ms') := by
      cases o <;> exact fun _ _ => rfl
    exact Setting.read_onTopOf htables low' v

/-- What is read under the name of an option is what the option says. -/
theorem said_lookup {o : SectionOption} {ms : List (String × Setting)}
    (h : (Reading.optional o.read o.default o.name ms).issues = []) :
    o.said (ms.lookup o.name) =
      .ok ((Reading.optional o.read o.default o.name ms).valueD o.default) := by
  obtain ⟨hnone, hdefault⟩ | ⟨v, hv, hread⟩ :=
    Reading.optional_ok (Reading.optional_eq_ok o.definite_read h)
  · rw [hnone, hdefault]
    rfl
  · rw [hv]
    exact hread

/-! ## Reading sections -/

/-- The options of the section for provisioning are as they say. -/
theorem said_provisioning {ms : List (String × Setting)} {p : ProvisioningSettings}
    (h : ProvisioningSettings.read ms = .ok p) :
    protocol.said (ms.lookup protocol.name) = .ok p.protocol ∧
      networkTimeout.said (ms.lookup networkTimeout.name) = .ok p.networkTimeout ∧
      defaultPinLength.said (ms.lookup defaultPinLength.name) = .ok p.defaultPinLength ∧
      locale.said (ms.lookup locale.name) = .ok p.locale := by
  obtain ⟨hissues, rfl⟩ := Reading.ofIssues_ok h
  simp only [List.append_eq_nil_iff] at hissues
  obtain ⟨⟨⟨hprotocol, htimeout⟩, hlength⟩, hlocale⟩ := hissues
  exact ⟨said_lookup hprotocol, said_lookup htimeout, said_lookup hlength, said_lookup hlocale⟩

/-- So are those of the section for messages. -/
theorem said_sms {ms : List (String × Setting)} {p : SmsSettings}
    (h : SmsSettings.read ms = .ok p) :
    applicationPort.said (ms.lookup applicationPort.name) = .ok p.applicationPort ∧
      destinationNumber.said (ms.lookup destinationNumber.name) = .ok p.destinationNumber := by
  obtain ⟨hissues, rfl⟩ := Reading.ofIssues_ok h
  simp only [List.append_eq_nil_iff] at hissues
  exact ⟨said_lookup hissues.1, said_lookup hissues.2⟩

/-- So is that of the section for the store. -/
theorem said_store {ms : List (String × Setting)} {p : StoreSettings}
    (h : StoreSettings.read ms = .ok p) :
    storePath.said (ms.lookup storePath.name) = .ok p.path := by
  obtain ⟨hissues, rfl⟩ := Reading.ofIssues_ok h
  exact said_lookup hissues

/-- So are those of the section for events. -/
theorem said_events {ms : List (String × Setting)} {p : EventSettings}
    (h : EventSettings.read ms = .ok p) :
    eventsSync.said (ms.lookup eventsSync.name) = .ok p.sync ∧
      maxRetries.said (ms.lookup maxRetries.name) = .ok p.maxRetries ∧
      maxWorkers.said (ms.lookup maxWorkers.name) = .ok p.maxWorkers := by
  obtain ⟨hissues, rfl⟩ := Reading.ofIssues_ok h
  simp only [List.append_eq_nil_iff] at hissues
  obtain ⟨⟨hsync, hretries⟩, hworkers⟩ := hissues
  exact ⟨said_lookup hsync, said_lookup hretries, said_lookup hworkers⟩

/-- What an option says in the whole table is what it says in the table of its section, and its
default where there is no such table. -/
theorem said_find? (o : SectionOption) {α : Type} {read : List (String × Setting) → Reading α}
    {default : α} {table : List (String × Setting)} (value : α → o.Value)
    (hread : ∀ ms, (read ms).issues = [] → ∃ a, read ms = .ok a)
    (hdefault : value default = o.default)
    (hsaid : ∀ {ms a}, read ms = .ok a → o.said (ms.lookup o.name) = .ok (value a))
    (h : (Reading.optional (Setting.sectionOf read) default o.sectionName table).issues = []) :
    o.said (o.find? table) = .ok (value (
      (Reading.optional (Setting.sectionOf read) default o.sectionName table).valueD default)) := by
  have hsection : Reading.Definite (Setting.sectionOf read) := by
    intro v hv
    cases v with
    | table ms => exact hread ms hv
    | value | other => cases hv
  unfold find?
  obtain ⟨hnone, hunset⟩ | ⟨v, hv, hok⟩ :=
    Reading.optional_ok (Reading.optional_eq_ok hsection h)
  · rw [hnone, hunset, hdefault]
    rfl
  · cases v with
    | table ms =>
      rw [hv]
      exact hsaid hok
    | value | other => cases hok

/-- Settings that could be read have each option as the table says. -/
theorem said_of_read {root : Path} {config : Option Path} {table : List (String × Setting)}
    {settings : Settings} (h : Settings.read root config table = .ok settings) (o : SectionOption) :
    o.said (o.find? table) = .ok (o.value settings) := by
  obtain ⟨hissues, rfl⟩ := Reading.ofIssues_ok h
  simp only [List.append_eq_nil_iff] at hissues
  obtain ⟨⟨⟨⟨⟨-, hprovisioning⟩, hsms⟩, hstore⟩, hevents⟩, -⟩ := hissues
  have hprovisioned (ms) (h : (ProvisioningSettings.read ms).issues = []) :
      ∃ p, ProvisioningSettings.read ms = .ok p := ⟨_, Reading.ofIssues_eq_ok h⟩
  have hsent (ms) (h : (SmsSettings.read ms).issues = []) : ∃ p, SmsSettings.read ms = .ok p :=
    ⟨_, Reading.ofIssues_eq_ok h⟩
  have hstored (ms) (h : (StoreSettings.read ms).issues = []) :
      ∃ p, StoreSettings.read ms = .ok p := ⟨_, Reading.ofIssues_eq_ok h⟩
  have hdispatched (ms) (h : (EventSettings.read ms).issues = []) :
      ∃ p, EventSettings.read ms = .ok p := ⟨_, Reading.ofIssues_eq_ok h⟩
  cases o with
  | protocol =>
    exact said_find? protocol (fun p => p.protocol) hprovisioned rfl
      (fun h => (said_provisioning h).1) hprovisioning
  | networkTimeout =>
    exact said_find? networkTimeout (fun p => p.networkTimeout) hprovisioned rfl
      (fun h => (said_provisioning h).2.1) hprovisioning
  | defaultPinLength =>
    exact said_find? defaultPinLength (fun p => p.defaultPinLength) hprovisioned rfl
      (fun h => (said_provisioning h).2.2.1) hprovisioning
  | locale =>
    exact said_find? locale (fun p => p.locale) hprovisioned rfl
      (fun h => (said_provisioning h).2.2.2) hprovisioning
  | applicationPort =>
    exact said_find? applicationPort (fun p => p.applicationPort) hsent rfl
      (fun h => (said_sms h).1) hsms
  | destinationNumber =>
    exact said_find? destinationNumber (fun p => p.destinationNumber) hsent rfl
      (fun h => (said_sms h).2) hsms
  | storePath => exact said_find? storePath (fun p => p.path) hstored rfl said_store hstore
  | eventsSync =>
    exact said_find? eventsSync (fun p => p.sync) hdispatched rfl
      (fun h => (said_events h).1) hevents
  | maxRetries =>
    exact said_find? maxRetries (fun p => p.maxRetries) hdispatched rfl
      (fun h => (said_events h).2.1) hevents
  | maxWorkers =>
    exact said_find? maxWorkers (fun p => p.maxWorkers) hdispatched rfl
      (fun h => (said_events h).2.2) hevents

end SectionOption

/-! ## Merged sections -/

namespace Setting

/-- Options as a dictionary gives them: no name twice, and sections as dictionaries, too. -/
structure Sectioned (table : List (String × Setting)) : Prop where
  nodup : (Assoc.keys table).Nodup
  sections : ∀ name ∈ Assoc.keys Settings.sectionNames, ∀ v, table.lookup name = some v →
    ∃ ms, v = .table ms ∧ (Assoc.keys ms).Nodup

/-- A table that is put over something has its own options, each put over what lies below it, and
the other options that lie below. -/
theorem member?_onTopOf {ms : List (String × Setting)} (hms : (Assoc.keys ms).Nodup)
    (option : String) (low : Option Setting) :
    member? option (some (onTopOf low (.table ms))) =
      ((ms.lookup option).map (onTopOf (member? option low))).or (member? option low) := by
  have halone : ms.lookup option = ((ms.lookup option).map (onTopOf none)).or none := by
    rw [show onTopOf none = id from funext onTopOf_none, Option.map_id, Option.or_none]
    rfl
  cases low with
  | none => exact halone
  | some v =>
    cases v with
    | table below =>
      rw [onTopOf]
      exact lookup_merge hms
    | value | other => exact halone

end Setting

namespace SectionOption

variable {low high : List (String × Setting)}

/-- A merged table says of an option what the higher one says, put over what the lower one says, and
what the lower one says where the higher one does not mention the option. -/
theorem find?_merge (hhigh : Setting.Sectioned high) (o : SectionOption) :
    o.find? (Setting.merge low high) =
      ((o.find? high).map (Setting.onTopOf (o.find? low))).or (o.find? low) := by
  unfold find?
  rw [Setting.lookup_merge hhigh.nodup]
  cases hsection : high.lookup o.sectionName with
  | none => rfl
  | some v =>
    obtain ⟨entry, hentry, hname, -⟩ := o.exists_mem_sectionNames
    have hmem : o.sectionName ∈ Assoc.keys Settings.sectionNames :=
      List.mem_map.2 ⟨_, hentry, hname⟩
    obtain ⟨ms, rfl, hms⟩ := hhigh.sections _ hmem v hsection
    rw [Option.map_some, Option.some_or]
    exact Setting.member?_onTopOf hms o.name _

end SectionOption

namespace Environment

variable {env : Environment} {table : List (String × Setting)}

/-- The names of options are in lower case already. -/
theorem foldName_option : ∀ entry ∈ Settings.sectionNames, ∀ option ∈ entry.2,
    foldName option = option := by
  decide +kernel

/-- Where the variables of sections hold objects, the settings out of the environment are a
dictionary, and say of each option what the environment mentions. -/
theorem sectioned_settings
    (h : env.settings Settings.switchNames Settings.sectionNames = .ok table)
    (htables : env.GivesTables (Assoc.keys Settings.sectionNames)) :
    Setting.Sectioned table ∧
      ∀ o : SectionOption, o.find? table = env.mention? o.sectionName o.name := by
  have hnames : (Settings.switchNames ++ Assoc.keys Settings.sectionNames).Nodup := by decide
  refine ⟨⟨nodup_settings h hnames, fun name hname v hv => ?_⟩, fun o => ?_⟩
  · obtain ⟨entry, hentry, rfl⟩ := List.mem_map.1 hname
    obtain ⟨hnone | ⟨ms, hms, hnodup⟩, -⟩ :=
      lookup_option h hnames htables hentry (foldName_option entry hentry)
    · cases hv.symm.trans hnone
    · exact ⟨ms, Option.some.inj (hv.symm.trans hms), hnodup⟩
  · obtain ⟨entry, hentry, hsection, hoption⟩ := o.exists_mem_sectionNames
    have hsaid := (lookup_option h hnames htables hentry (foldName_option entry hentry)).2 _ hoption
    rwa [hsection] at hsaid

end Environment

namespace Settings

variable {s : Surroundings} {named : Option String} {root : Option Path}
  {arguments document : List (String × Setting)} {settings : Settings}

/-- Settings that are put together leaf by leaf. -/
structure LeafByLeaf (arguments : List (String × Setting)) (env : Environment)
    (document : List (String × Setting)) (settings : Settings) : Prop where
  switch : ∀ w : SettingSwitch,
    w.said ((arguments.lookup w.name).or
      ((env.switchSetting w.name).or (document.lookup w.name))) = .ok (w.value settings)
  option : ∀ o : SectionOption,
    o.said ((o.find? arguments).or
      ((env.mention? o.sectionName o.name).or (o.find? document))) = .ok (o.value settings)
  /-- Which options the environment mentions, and how. -/
  decided : ∀ o : SectionOption, env.Decided o.sectionName o.name

/-- The length of a PIN in settings that could be read is one that a PIN can have. -/
theorem read_defaultPinLength {root : Path} {config : Option Path} {table : List (String × Setting)}
    (h : read root config table = .ok settings) :
    1 ≤ settings.provisioning.defaultPinLength ∧ settings.provisioning.defaultPinLength ≤ 10 := by
  have hsaid := SectionOption.said_of_read h .defaultPinLength
  cases hfind : SectionOption.defaultPinLength.find? table with
  | none =>
    rw [hfind] at hsaid
    have hlength : 6 = settings.provisioning.defaultPinLength := Except.ok.inj hsaid
    omega
  | some v =>
    rw [hfind] at hsaid
    exact Setting.intBetween_ok hsaid

/-- Settings that are loaded allow the PIN a length from one to ten. If the arguments and the
environment give sections as tables, each switch and each option of a section has the value that the
first of the arguments, the environment and the configuration document that mentions it has for it,
and its default if none does. -/
theorem load_leafByLeaf (h : load s named root arguments = .ok settings) :
    (1 ≤ settings.provisioning.defaultPinLength ∧ settings.provisioning.defaultPinLength ≤ 10) ∧
    (Setting.Sectioned arguments → s.environment.GivesTables (Assoc.keys sectionNames) →
      ∃ document, s.document named root = .ok document ∧
        LeafByLeaf arguments s.environment document settings) := by
  obtain ⟨document, root', config, environment, -, hdocument, henvironment, hread⟩ := load_eq h
  refine ⟨read_defaultPinLength hread, fun harguments htables => ⟨document, hdocument, ?_⟩⟩
  obtain ⟨hsectioned, hmention⟩ := Environment.sectioned_settings henvironment htables
  refine ⟨load_switch h hdocument harguments.nodup, fun o => ?_,
    fun o => Environment.decided o.way_name⟩
  have hsaid := SectionOption.said_of_read hread o
  rw [o.find?_merge harguments, o.said_onTopOf] at hsaid
  cases hargument : o.find? arguments with
  | some v =>
    rw [hargument] at hsaid
    exact hsaid
  | none =>
    rw [hargument, Option.none_or, o.find?_merge hsectioned, o.said_onTopOf, hmention] at hsaid
    exact hsaid

/-! ### Three sources that mention options of one section -/

/-- A machine on which a configuration document, the variable of an option and that of a section
mention options of sections. -/
def layered : Surroundings where
  directory := .ofString "/"
  environment :=
    [("VVMPROV_PROVISIONING__LOCALE", "es_US"), ("VVMPROV_EVENTS", "\x7b\"sync\": true\x7d")]
  look _ := .ok (some "[provisioning]\nprotocol = \"omtp\"\nlocale = \"de\"\n".toUTF8.toList)

/-- An argument for the section that the others mention, too. -/
def shorterPin : List (String × Setting) :=
  [("provisioning", .table [("default_pin_length", .value (.int 4))])]

/-- The document mentions the protocol and the locale. -/
theorem document_layered : layered.document (some "c.toml") (some (.ofString "/")) = .ok
    [("provisioning",
      .table [("protocol", .value (.str "omtp")), ("locale", .value (.str "de"))])] := by
  let text := "[provisioning]\nprotocol = \"omtp\"\nlocale = \"de\"\n"
  have hdecode : Text.Utf8.decode text.toUTF8.toList = .ok text.toList := by decide +kernel
  have hlines : plainLines text.toList = text.toList := by decide +kernel
  have hread : Toml.read text.toList =
      .ok [("provisioning", .table [("protocol", .str "omtp"), ("locale", .str "de")])] := by cbv
  show readConfig (.ofString "c.toml") text.toUTF8.toList = _
  unfold readConfig
  rw [hdecode]
  dsimp only
  rw [hlines, hread]
  simp [Setting.ofTable, Setting.ofToml]

/-- The variables' names lose their case, and their texts keep it. -/
theorem folded_layered : layered.environment.folded =
    [("vvmprov_provisioning__locale", "es_US"), ("vvmprov_events", "\x7b\"sync\": true\x7d")] := by
  decide +kernel

/-- The text of the section's variable is an object. -/
theorem read_object_layered :
    Json.read? "\x7b\"sync\": true\x7d" = some (.obj [("sync", .bool true)]) := by
  cbv

/-- The variable of an option belongs to its section only, and that of a section to no option. -/
theorem sectionOptions_layered :
    layered.environment.sectionOptions "provisioning" = [("locale", .value (.str "es_US"))] ∧
      ∀ name ∈ ["sms", "store", "events"], layered.environment.sectionOptions name = [] := by
  have hlocale : Environment.way "provisioning" "vvmprov_provisioning__locale" = ["locale"] := by
    decide +kernel
  have hevents : Environment.way "provisioning" "vvmprov_events" = [] := by decide +kernel
  have hothers : ∀ name ∈ ["sms", "store", "events"],
      Environment.way name "vvmprov_provisioning__locale" = [] ∧
        Environment.way name "vvmprov_events" = [] := by
    decide +kernel
  constructor
  · simp [Environment.sectionOptions_eq, folded_layered, hlocale, hevents, Environment.place,
      Assoc.set]
  · intro name hname
    obtain ⟨hlocale, hevents⟩ := hothers name hname
    simp [Environment.sectionOptions_eq, folded_layered, hlocale, hevents, Environment.place]

/-- The environment mentions the locale, and the switch of the events. -/
theorem settings_layered : layered.environment.settings switchNames sectionNames = .ok
    [("provisioning", .table [("locale", .value (.str "es_US"))]),
      ("events", .table [("sync", .value (.bool true))])] := by
  have hswitches : ∀ name ∈ switchNames,
      layered.environment.folded.lookup (Environment.mark ++ name) = none := by
    decide +kernel
  have hsections : ∀ name ∈ ["provisioning", "sms", "store"],
      layered.environment.folded.lookup (Environment.mark ++ name) = none := by
    decide +kernel
  have hevents : layered.environment.folded.lookup (Environment.mark ++ "events") =
      some "\x7b\"sync\": true\x7d" := by
    decide +kernel
  have hdeep : Json.tooDeep? "\x7b\"sync\": true\x7d".toList = none := by decide +kernel
  have hnames : Environment.memberName ["protocol", "network_timeout_seconds", "default_pin_length",
      "locale"] "locale" = "locale" ∧
        Environment.memberName ["sync", "max_retries", "max_workers"] "sync" = "sync" := by
    decide +kernel
  obtain ⟨hlocale, hothers⟩ := sectionOptions_layered
  have hown : switchNames.filterMap
      (fun name => (layered.environment.switchSetting name).map (name, ·)) = [] :=
    List.filterMap_eq_nil_iff.2 fun name hname => by
      rw [Environment.switchSetting, hswitches name hname, Option.map_none, Option.map_none]
  have hprovisioning : layered.environment.sectionSetting "provisioning"
      ["protocol", "network_timeout_seconds", "default_pin_length", "locale"] =
        .ok (some (.table [("locale", .value (.str "es_US"))])) := by
    unfold Environment.sectionSetting
    rw [hsections _ (.head _), hlocale]
    simp [hnames, Assoc.ofPairs, Assoc.setAll, Assoc.set]
  have hnone (name : String) (hname : name ∈ ["sms", "store"]) (options : List String) :
      layered.environment.sectionSetting name options = .ok none := by
    unfold Environment.sectionSetting
    rw [hsections name (.tail _ hname), hothers name (List.mem_append_left ["events"] hname)]
    rfl
  have hobject : layered.environment.sectionSetting "events"
      ["sync", "max_retries", "max_workers"] =
        .ok (some (.table [("sync", .value (.bool true))])) := by
    unfold Environment.sectionSetting
    rw [hevents, hothers "events" (by simp)]
    dsimp only
    rw [hdeep, read_object_layered]
    simp [hnames, Setting.merge, Setting.ofMembers, Setting.ofJson, Assoc.ofPairs, Assoc.setAll,
      Assoc.set]
  unfold Environment.settings
  rw [hown]
  simp only [sectionNames, List.mapM_cons, List.mapM_nil]
  rw [hprovisioning, hnone "sms" (by simp), hnone "store" (by simp), hobject]
  rfl

/-- All of that makes settings. -/
theorem exists_load_layered :
    ∃ settings, load layered (some "c.toml") (some (.ofString "/")) shorterPin = .ok settings := by
  have hmerge : Setting.merge (Setting.merge
      [("provisioning",
        .table [("protocol", .value (.str "omtp")), ("locale", .value (.str "de"))])]
      [("provisioning", .table [("locale", .value (.str "es_US"))]),
        ("events", .table [("sync", .value (.bool true))])]) shorterPin =
      [("provisioning", .table [("protocol", .value (.str "omtp")),
        ("locale", .value (.str "es_US")), ("default_pin_length", .value (.int 4))]),
        ("events", .table [("sync", .value (.bool true))])] := by
    simp [shorterPin, Setting.merge, Setting.onTopOf, Assoc.set, List.lookup]
  have hissues : (read (.ofString "/") (some (.ofString "c.toml"))
      [("provisioning", .table [("protocol", .value (.str "omtp")),
        ("locale", .value (.str "es_US")), ("default_pin_length", .value (.int 4))]),
        ("events", .table [("sync", .value (.bool true))])]).issues = [] := by
    decide +kernel
  have hconfig : layered.config (some "c.toml") (some (.ofString "/")) =
      .ok (some (.ofString "c.toml")) := by
    rfl
  have hread := Reading.ofIssues_eq_ok hissues
  exact ⟨_, load_of_read (by decide +kernel) hconfig document_layered settings_layered
    ((congrArg (read _ _) hmerge).trans hread)⟩

/-- The document, the environment and the argument all mention the section for provisioning. -/
theorem load_leafByLeaf_layered :
    ∃ settings, load layered (some "c.toml") (some (.ofString "/")) shorterPin = .ok settings ∧
      Setting.Sectioned shorterPin ∧
      layered.environment.GivesTables (Assoc.keys sectionNames) ∧
      ∃ document, layered.document (some "c.toml") (some (.ofString "/")) = .ok document ∧
        LeafByLeaf shorterPin layered.environment document settings := by
  obtain ⟨settings, hload⟩ := exists_load_layered
  have harguments : Setting.Sectioned shorterPin := by
    refine ⟨by decide, fun name _ v hv => ?_⟩
    unfold shorterPin at hv
    rw [List.lookup_cons] at hv
    split at hv
    · cases hv
      exact ⟨_, rfl, by decide⟩
    · cases hv
  have htables : layered.environment.GivesTables (Assoc.keys sectionNames) := by
    have hvariables : ∀ name ∈ Assoc.keys sectionNames,
        layered.environment.folded.lookup (Environment.mark ++ name) ∈
          [none, some "\x7b\"sync\": true\x7d"] := by
      decide +kernel
    intro name hname text htext
    have htext : text = "\x7b\"sync\": true\x7d" := by
      simpa [htext] using hvariables name hname
    exact ⟨_, htext ▸ read_object_layered⟩
  exact ⟨settings, hload, harguments, htables, (load_leafByLeaf hload).2 harguments htables⟩

end Settings

end Voicemail
