import Voicemail.Proofs.Preferences
import Voicemail.Proofs.Provisioning.Course

/-!
# The client's own preferences

The client keeps two preferences of its own among the fields of the carrier: whether the service is
enabled, and the PIN to present as the old one. The steps of an attempt respect them: only disabling
the service touches the first, and only a change of the PIN that the carrier accepts touches the
second (`Attempt.Course.ownPin`). Storing the fields of a status does not, since a field may have
the name of either. `Attempt.keepsOwnState_iff` says that nothing else can go wrong: an attempt
keeps the client's own state on every platform exactly if the fields that it stores do not overwrite
it.
-/

namespace Voicemail

open Client

/-! ## Accepted changes of the PIN -/

/-- The platform is asked for a change of the PIN by one of some calls, and accepts it. -/
def Platform.AcceptsPin (p : Platform) (table : CommandTable) (past calls : List Call) : Prop :=
  ∃ before text after response, ∃ new old : String, calls = before ++ .execute text :: after ∧
    table.render .changeTuiPassword [("new_pin", .str new), ("old_pin", .str old)] = .ok text ∧
    p.respond (past ++ before) (.execute text) = .ok response ∧ isAccepted response = true

/-- What becomes of preferences: nothing, or a PIN is stored because the platform accepted one. -/
inductive OwnPin (p : Platform) (table : CommandTable) (account : String) (past calls : List Call)
    (before : Preferences) : Preferences → Prop
  | kept : OwnPin p table account past calls before before
  | replaced (pin : String) (accepted : p.AcceptsPin table past calls) :
      OwnPin p table account past calls before (before.setOldPin account (some pin))

variable {p : Platform} {table : CommandTable} {account : String} {past calls : List Call}
  {before after : Preferences}

/-- An accepted change stays one among more calls. -/
theorem Platform.AcceptsPin.append {sooner : List Call}
    (h : p.AcceptsPin table (past ++ sooner) calls) (later : List Call) :
    p.AcceptsPin table past (sooner ++ (calls ++ later)) := by
  obtain ⟨xs, text, ys, response, new, old, rfl, written, answer, acceptance⟩ := h
  refine ⟨sooner ++ xs, text, ys ++ later, response, new, old, by simp, written, ?_, acceptance⟩
  rw [← answer, List.append_assoc]

/-- Calls that send no command change no PIN. -/
theorem Platform.not_acceptsPin (h : Attempt.SendsNone calls) : ¬p.AcceptsPin table past calls := by
  rintro ⟨xs, text, ys, -, -, -, rfl, -⟩
  exact h text (by simp)

/-- A reply that accepts a change of the PIN is an accepted change. -/
theorem Client.Reply.acceptsPin {new old response : String}
    (h : Reply p table .changeTuiPassword [("new_pin", .str new), ("old_pin", .str old)] past calls
      (.ok response))
    (acceptance : isAccepted response = true) : p.AcceptsPin table past calls := by
  cases h with
  | answered written answer =>
    exact ⟨[], _, [], response, new, old, rfl, written, by rwa [List.append_nil], acceptance⟩

namespace OwnPin

/-- What becomes of preferences is the same among more calls. -/
theorem append {sooner : List Call}
    (h : OwnPin p table account (past ++ sooner) calls before after) (later : List Call) :
    OwnPin p table account past (sooner ++ (calls ++ later)) before after := by
  cases h with
  | kept => exact .kept
  | replaced pin accepted => exact .replaced pin (accepted.append later)

/-- A PIN that is stored enables and disables nothing. -/
theorem isEnabled (h : OwnPin p table account past calls before after) :
    after.isEnabled account = before.isEnabled account := by
  cases h with
  | kept => rfl
  | replaced pin accepted => exact before.isEnabled_setOldPin account pin

/-- Without an accepted change the PIN stays. -/
theorem oldPin? (h : OwnPin p table account past calls before after)
    (hpin : ¬p.AcceptsPin table past calls) : after.oldPin? account = before.oldPin? account := by
  cases h with
  | kept => rfl
  | replaced pin accepted => exact absurd accepted hpin

end OwnPin

/-- Steps that leave the preferences as they are store no PIN. -/
theorem Client.After.ownPin {c c' : Client} {made : List Call} {reports : List String}
    (h : After c made reports c') :
    OwnPin p table account past calls c.preferences c'.preferences := by
  rw [h.preferences]
  exact .kept

/-! ## The setup -/

namespace Bootstrap

variable {b : Bootstrap} {identifier : String} {spanish pinSet : Bool} {c c' : Client}
  {reports : List String} {r : Except Failure Bool}

/-- The PIN step stores a PIN only if the platform accepts it. -/
theorem PinStep.ownPin (h : PinStep p b identifier pinSet c calls reports r c') :
    OwnPin p b.protocol.commands b.account c.transcript.calls calls c.preferences
      c'.preferences := by
  cases h with
  | kept _ after => exact after.ownPin
  | underivable _ _ after => exact after.ownPin
  | unanswered _ _ _ after => exact after.ownPin
  | rejected _ _ _ _ after => exact after.ownPin
  | replaced _ _ reply acceptance after =>
    rw [after.preferences]
    exact .replaced _ (reply.acceptsPin acceptance)

/-- So do the commands of the setup. -/
theorem Commands.ownPin (h : Commands p b identifier spanish pinSet c calls reports r c') :
    OwnPin p b.protocol.commands b.account c.transcript.calls calls c.preferences
      c'.preferences := by
  cases h with
  | language _ _ after => exact after.ownPin
  | stopped _ _ after pin _ =>
    have hpin := pin.ownPin
    rw [after.calls, after.preferences] at hpin
    simpa using hpin.append []
  | tutorial _ _ after pin _ afterwards =>
    have hpin := pin.ownPin
    rw [after.calls, after.preferences] at hpin
    rw [afterwards.preferences, List.append_assoc]
    exact hpin.append _

/-- So does the session of the setup. -/
theorem Session.ownPin (h : Session p b identifier spanish pinSet c calls reports r c') :
    OwnPin p b.protocol.commands b.account c.transcript.calls calls c.preferences
      c'.preferences := by
  cases h with
  | refused _ after => exact after.ownPin
  | noNetwork _ _ after => exact after.ownPin
  | notOpened _ _ _ after => exact after.ownPin
  | worked _ _ _ before work after =>
    have hpin := work.2.ownPin
    rw [before.calls, before.preferences] at hpin
    rw [after.preferences]
    exact hpin.append _

end Bootstrap

namespace Attempt

variable {a : Attempt} {s : StatusResponse} {c c' : Client} {reports : List String}
  {r : Except Failure Outcome}

/-- Apart from a PIN that the platform accepts, a course leaves the preferences as they are once the
fields of the status are stored. -/
theorem Course.ownPin (h : Course p a s c calls reports r c') :
    OwnPin p a.protocol.commands a.account c.transcript.calls calls
      (c.preferences.putStatus a.account s.rawFields) c'.preferences := by
  cases h with
  | intro before session ending handling after asked =>
    have hpin := session.ownPin
    rw [before.calls, before.preferences] at hpin
    rw [after.preferences]
    exact hpin.append _

/-! ## Attempts -/

/-- An attempt leaves it to its own steps whether the service is enabled and what the old PIN is:
disabling the service, and a change of the PIN that the platform accepts. -/
def KeepsOwnState (p : Platform) (a : Attempt) (s : StatusResponse) (c : Client) : Prop :=
  ∃ calls,
    (a.provision p s c).2.transcript.calls = c.transcript.calls ++ calls ∧
      (¬a.Routes s .disableService →
        (a.provision p s c).2.preferences.isEnabled a.account = c.preferences.isEnabled a.account) ∧
      (¬p.AcceptsPin a.protocol.commands c.transcript.calls calls →
        (a.provision p s c).2.preferences.oldPin? a.account = c.preferences.oldPin? a.account)

/-- The fields of a status that sets up a new user have the name of a key of the client's own, and
say something else than the client. -/
def Overwrites (a : Attempt) (s : StatusResponse) (c : Client) : Prop :=
  a.Routes s .provisionNewUser ∧
    ((∃ value, Preferences.lastField s.rawFields Preferences.enabledKey = some value ∧
        decide (value = "true") ≠ c.preferences.isEnabled a.account) ∨
      ∃ pin, Preferences.lastField s.rawFields Preferences.pinKey = some pin ∧
        c.preferences.oldPin? a.account ≠ some pin)

/-- Fields that do not overwrite the client's state can be stored without a change of it. -/
theorem putStatus_of_not_overwrites (hroute : a.Routes s .provisionNewUser)
    (h : ¬a.Overwrites s c) :
    (c.preferences.putStatus a.account s.rawFields).isEnabled a.account =
        c.preferences.isEnabled a.account ∧
      (c.preferences.putStatus a.account s.rawFields).oldPin? a.account =
        c.preferences.oldPin? a.account := by
  refine ⟨?_, ?_⟩
  · rw [Preferences.isEnabled_putStatus]
    cases hlast : Preferences.lastField s.rawFields Preferences.enabledKey with
    | none => rfl
    | some value =>
      exact Decidable.byContradiction fun hne => h ⟨hroute, .inl ⟨value, hlast, hne⟩⟩
  · rw [Preferences.oldPin?_putStatus]
    cases hlast : Preferences.lastField s.rawFields Preferences.pinKey with
    | none => rfl
    | some pin =>
      exact Decidable.byContradiction fun hne =>
        h ⟨hroute, .inr ⟨pin, hlast, fun heq => hne heq.symm⟩⟩

/-- Fields that overwrite the client's state change it when they are stored. -/
theorem Overwrites.putStatus (h : a.Overwrites s c) :
    (c.preferences.putStatus a.account s.rawFields).isEnabled a.account ≠
        c.preferences.isEnabled a.account ∨
      (c.preferences.putStatus a.account s.rawFields).oldPin? a.account ≠
        c.preferences.oldPin? a.account := by
  obtain ⟨value, hlast, hne⟩ | ⟨pin, hlast, hne⟩ := h.2
  · refine .inl ?_
    rw [Preferences.isEnabled_putStatus, hlast]
    exact hne
  · refine .inr ?_
    rw [Preferences.oldPin?_putStatus, hlast]
    exact hne.symm

/-- Whatever the platform does, an attempt whose fields do not overwrite the client's state keeps
it. -/
theorem keepsOwnState_of_not_overwrites (p : Platform) (h : ¬a.Overwrites s c) :
    a.KeepsOwnState p s c := by
  by_cases hroute : a.Routes s .provisionNewUser
  · obtain ⟨calls, added, r, c₁, c', hrun, hcourse, hcalls, -, hpreferences⟩ :=
      provision_course hroute p c
    obtain ⟨henabled, hpin⟩ := putStatus_of_not_overwrites hroute h
    have hown := hcourse.ownPin
    rw [KeepsOwnState, hrun]
    refine ⟨calls, hcalls, fun _ => ?_, fun hnone => ?_⟩
    · rw [hpreferences, hown.isEnabled, henabled]
    · rw [hpreferences, hown.oldPin? hnone, hpin]
  · obtain ⟨calls, added, r, c', hrun, -, hafter⟩ := provision_other hroute p c
    rw [KeepsOwnState, hrun]
    obtain ⟨action, haction, hafter⟩ | hafter := hafter
    · refine ⟨calls, hafter.calls, fun hdisable => ?_, fun _ => ?_⟩
      · have hne : action ≠ .disableService := fun heq => hdisable (heq ▸ haction)
        rw [hafter.preferences, settled, if_neg hne]
      · rw [hafter.preferences, settled]
        split
        · exact c.preferences.oldPin?_setEnabled a.account false
        · rfl
    · refine ⟨calls, hafter.calls, fun _ => ?_, fun _ => ?_⟩
      · rw [hafter.preferences]
      · rw [hafter.preferences]

/-! ## What overwrites it -/

/-- A platform that refuses every request for a network. -/
def offline : Platform :=
  .faulting fun
    | .requestNetwork _ => some ⟨.networkUnavailable, "airplane mode"⟩
    | _ => none

/-- Without a network no command is sent. -/
theorem Course.sendsNone_offline (h : Course offline a s c calls reports r c') :
    SendsNone calls := by
  cases h with
  | intro before session ending handling after asked =>
    cases session with
    | refused => simpa [SendsNone] using asked
    | noNetwork request => cases request
    | notOpened request => cases request
    | worked request => cases request

/-- Fields that overwrite the client's state do so in an attempt without a network. -/
theorem Overwrites.not_keepsOwnState (h : a.Overwrites s c) : ¬a.KeepsOwnState offline s c := by
  obtain ⟨calls, added, r, c₁, c', hrun, hcourse, hadds, -, hpreferences⟩ :=
    provision_course h.1 offline c
  have hnone : ¬offline.AcceptsPin a.protocol.commands c.transcript.calls calls :=
    Platform.not_acceptsPin hcourse.sendsNone_offline
  have hown := hcourse.ownPin
  rintro ⟨calls', hcalls', henabled, hpin⟩
  rw [hrun] at hcalls' henabled hpin
  have hcalls : calls' = calls := List.append_cancel_left (hcalls'.symm.trans hadds)
  have hroute : ¬a.Routes s .disableService := fun hdisable => by cases hdisable.unique h.1
  dsimp only at henabled hpin
  rw [hpreferences, hown.isEnabled] at henabled
  rw [hcalls, hpreferences, hown.oldPin? hnone] at hpin
  obtain hne | hne := h.putStatus
  · exact hne (henabled hroute)
  · exact hne (hpin hnone)

/-- Whatever the platform does, an attempt keeps the client's own state exactly if the fields that
it stores do not overwrite it. -/
theorem keepsOwnState_iff (a : Attempt) (s : StatusResponse) (c : Client) :
    (∀ p, a.KeepsOwnState p s c) ↔ ¬a.Overwrites s c :=
  ⟨fun hkeeps hover => hover.not_keepsOwnState (hkeeps offline),
    fun hover p => keepsOwnState_of_not_overwrites p hover⟩

/-- A status with fields of the names of the client's own keys: without a network and without any
command the attempt disables the service and replaces the PIN. -/
theorem not_keepsOwnState_offline :
    ¬(forAccount "sim-1").KeepsOwnState offline
      (.ofFields [("st", "N"), ("u", "2065551234@x"), ("is_enabled", "false"),
        ("default_old_pin", "0000")])
      { Client.new { root := ⟨.root, []⟩, configPath := none } none [] with
        preferences := Preferences.empty.setOldPin "sim-1" (some "4321") } :=
  Overwrites.not_keepsOwnState ⟨⟨rfl, rfl⟩, .inl ⟨"false", rfl, by decide⟩⟩

end Attempt

end Voicemail
