import Voicemail.CommandLine.Answer
import Voicemail.Proofs.Settings.Precedence

/-!
# Switches on the command line

A switch that is not on the command line should leave the word to the environment, and that to the
configuration document (`FallsThrough`). The program passes every switch of its own on to the
settings, as off where it was not given (`Globals.lookup_settings`), and what is passed on wins over
the other two (`Settings.load_switch`). So a switch is on exactly if it was given
(`Accepted.value_eq_given`), and it falls through only where the lower sources leave it off as well.
-/

namespace Voicemail.CommandLine

/-- Whether a switch stands on the command line. -/
def Globals.given (g : Globals) : SettingSwitch → Bool
  | .jsonOutput => g.json
  | .quiet => g.quiet
  | .verbose => g.verbose
  | .logJson => g.logJson
  | .sync => g.sync

/-- The program has an argument for each switch, whether it was given or not. -/
theorem Globals.lookup_settings (g : Globals) (w : SettingSwitch) :
    g.settings.lookup w.name = some (.value (.bool (g.given w))) := by
  cases w <;> rfl

/-- An invocation whose arguments and settings are accepted: the switches of the program among the
arguments, the options of the configuration document, and the settings. -/
structure Accepted (s : Surroundings) (args : List String) (g : Globals)
    (document : List (String × Setting)) (settings : Settings) : Prop where
  read : ∃ command, Start.read args = .ok ⟨g, command⟩
  document : s.document g.config none = .ok document
  load : Settings.load s g.config none g.settings = .ok settings

/-- What the environment says of a switch, or else the configuration document; a switch that neither
mentions is off. -/
def fallback (env : Environment) (document : List (String × Setting)) (w : SettingSwitch) :
    Reading Bool :=
  w.said ((env.switchSetting w.name).or (document.lookup w.name))

/-- What a switch comes to if one that was not given is left to the environment and the
document. -/
def intended (g : Globals) (env : Environment) (document : List (String × Setting))
    (w : SettingSwitch) : Reading Bool :=
  if g.given w then .ok true else fallback env document w

/-- Each switch of an invocation is on if it was given, and else as the environment and the
configuration document have it. -/
def FallsThrough (s : Surroundings) (args : List String) : Prop :=
  ∀ ⦃g document settings⦄, Accepted s args g document settings →
    ∀ w : SettingSwitch, intended g s.environment document w = .ok (w.value settings)

variable {s : Surroundings} {args : List String} {g : Globals}
  {document : List (String × Setting)} {settings : Settings}

/-- A switch is on exactly if it was given, whatever the environment and the document say. -/
theorem Accepted.value_eq_given (h : Accepted s args g document settings) (w : SettingSwitch) :
    w.value settings = g.given w := by
  have hnames : (Assoc.keys g.settings).Nodup := by
    rw [show Assoc.keys g.settings = Settings.switchNames from rfl]
    decide
  have hswitch := Settings.load_switch h.load h.document hnames w
  rw [g.lookup_settings] at hswitch
  exact (Except.ok.inj hswitch).symm

/-- Where a switch was given, or the lower sources leave it off, nobody sees that they were not
asked. -/
theorem Accepted.intended_iff (h : Accepted s args g document settings) (w : SettingSwitch) :
    intended g s.environment document w = .ok (w.value settings) ↔
      g.given w = true ∨ fallback s.environment document w = .ok false := by
  rw [h.value_eq_given, intended]
  cases g.given w with
  | true => simp
  | false => simp

/-- A switch is on exactly if it was given. Switches that were not given fall through to the
environment and the configuration document in those invocations in which these leave them off. -/
theorem fallsThrough_iff (s : Surroundings) (args : List String) :
    (∀ ⦃g document settings⦄, Accepted s args g document settings →
      ∀ w : SettingSwitch, w.value settings = g.given w) ∧
    (FallsThrough s args ↔ ∀ ⦃g document settings⦄, Accepted s args g document settings →
      ∀ w : SettingSwitch, g.given w = true ∨ fallback s.environment document w = .ok false) := by
  refine ⟨fun g document settings ha => ha.value_eq_given, ?_⟩
  exact ⟨fun h g document settings ha w => (ha.intended_iff w).1 (h ha w),
    fun h g document settings ha w => (ha.intended_iff w).2 (h ha w)⟩

/-- A machine without files, on which a variable asks for JSON. -/
def jsonByVariable : Surroundings where
  directory := .ofString "/"
  environment := [("VVMPROV_JSON_OUTPUT", "true")]
  look _ := .ok none

/-- No switch of the program. -/
def noSwitches : Globals := ⟨false, false, false, false, false, none⟩

/-- An invocation without switches is accepted on that machine. -/
theorem accepted_jsonByVariable :
    ∃ settings, Accepted jsonByVariable ["route", "st=N"] noSwitches [] settings := by
  have hnamed : jsonByVariable.lookup? Surroundings.configVariable = none := by decide +kernel
  have hnull : (jsonByVariable.directory.under jsonByVariable.directory).hasNull = false := by
    decide +kernel
  have hconfig : jsonByVariable.config none none = .ok none := by
    show jsonByVariable.findConfig none = _
    unfold Surroundings.findConfig
    rw [hnamed]
    simp only [Option.getD_none, hnull]
    rfl
  have henvironment :
      jsonByVariable.environment.settings Settings.switchNames Settings.sectionNames =
        .ok [("json_output", .value (.str "true"))] := by rfl
  have hmerge : Setting.merge (Setting.merge [] [("json_output", .value (.str "true"))])
      noSwitches.settings = noSwitches.settings := by
    simp [Setting.merge, Setting.onTopOf, Assoc.set, noSwitches, Globals.settings]
  obtain ⟨settings, hread⟩ : ∃ settings,
      Settings.read jsonByVariable.directory none noSwitches.settings = .ok settings := ⟨_, rfl⟩
  have hdocument : jsonByVariable.document none none = .ok [] := by
    unfold Surroundings.document
    rw [hconfig]
    rfl
  refine ⟨settings, ⟨_, rfl⟩, hdocument,
    Settings.load_of_read rfl hconfig hdocument henvironment ?_⟩
  rw [hmerge]
  exact hread

/-- The variable does not make the program answer in JSON. -/
theorem not_fallsThrough_variable : ¬ FallsThrough jsonByVariable ["route", "st=N"] := by
  obtain ⟨settings, ha⟩ := accepted_jsonByVariable
  have hfallback : fallback jsonByVariable.environment [] .jsonOutput = .ok true := by rfl
  intro h
  obtain hgiven | hoff := (ha.intended_iff .jsonOutput).1 (h ha .jsonOutput)
  · cases hgiven
  · cases hfallback.symm.trans hoff

end Voicemail.CommandLine
