import Voicemail.Proofs.Bootstrap.Faultless
import Voicemail.Proofs.Provisioning.Course

/-!
# Attempts on platforms without faults

On a platform that never faults an attempt that has an action carries it through to an outcome. Only
a setup for which the clock cannot count the time to wait fails (`Attempt.provision_faultless`).
-/

namespace Voicemail.Attempt

open Client

variable {p : Platform} {a : Attempt} {s : StatusResponse} {c : Client}

/-- A failure that means that the clock cannot count how long to wait for a network. -/
def IsUncountable (c : Client) (e : Failure) : Prop :=
  let limit := TimeLimit.real c.settings.provisioning.networkTimeout
  e = .beyondClock limit ∧ limit.isBeyondClock = true

/-- Without a fault the request for the status is made. -/
theorem send_faultless (hp : p.IsFaultless) (a : Attempt) (r : Request) (c : Client) :
    (a.send p r c).1 = .ok () := by
  unfold send
  split
  · obtain ⟨⟨⟩, hanswer⟩ := hp c.transcript.calls
      (.sendMessage c.settings.sms.destinationNumber c.settings.sms.applicationPort r.text)
    rw [bind_ok (get_apply c), perform_apply, hanswer]
    rfl
  · rfl

/-- Without a fault the setup of a new user has an outcome. -/
theorem setUpNewUser_faultless (hp : p.IsFaultless) (hw : a.protocol.commands.WritesAll)
    {e : Failure} (he : (a.setUpNewUser p s c).1 = .error e) : IsUncountable c e := by
  obtain ⟨c₀, hput, hbefore⟩ :=
    After.putPreferences a.account (s.rawFields.map fun field => (field.1, some field.2)) c
  generalize hrun : (a.bootstrap p c.settings.provisioning).run p s.subscriberIdentifier
    (a.isSpanish c) (a.isPinSet s c) c₀ = run
  obtain ⟨r, c₁⟩ := run
  obtain ⟨r', reports, c₂, hhandle, -, hhandling⟩ := a.handle_handling r c₁
  rw [setUpNewUser_handle hput hbefore hrun, hhandle] at he
  obtain rfl : r' = .error e := he
  cases hhandling with
  | passed hpassed =>
    have hfailed := Bootstrap.run_faultless hp (b := a.bootstrap p c.settings.provisioning) hw
      (Reporter.toBus_isQuiet a.protocol a.account) (bootstrap_asksBy p a c.settings.provisioning)
      (send_faultless hp a .status) s.subscriberIdentifier (a.isSpanish c) (a.isPinSet s c) c₀
      (by rw [hrun])
    obtain hsession | huncountable := hfailed
    · simp [isHandled, hsession] at hpassed
    · exact huncountable

/-- Without a fault an action has an outcome. -/
theorem carryOut_faultless (hp : p.IsFaultless) (hw : a.protocol.commands.WritesAll)
    {action : Action} {e : Failure} (he : (a.carryOut p s action c).1 = .error e) :
    IsUncountable c e := by
  have hreport (kind : EventKind) (o : Outcome) :
      ((do (Reporter.toBus a.protocol a.account).report kind; return o : ClientM Outcome) c).1 =
        .ok o := by
    obtain ⟨c', hreport, -⟩ := (Reporter.toBus_isQuiet a.protocol a.account).report kind c
    rw [bind_ok hreport]
    rfl
  cases action with
  | provisionNewUser => exact setUpNewUser_faultless hp hw he
  | selfProvision =>
    obtain ⟨⟨⟩, hanswer⟩ := hp c.transcript.calls (.subscribe s c.context)
    have hperform : perform p (.subscribe s c.context) c =
        (.ok (), c.noting [.call (.subscribe s c.context)]) := by
      rw [perform_apply, hanswer]
      rfl
    have hrun : a.carryOut p s .selfProvision c =
        (.ok .subscribed, c.noting [.call (.subscribe s c.context)]) :=
      (bind_ok (get_apply c)).trans (bind_ok hperform)
    rw [hrun] at he
    cases he
  | disableService =>
    obtain ⟨c', hput, -⟩ := After.putPreferences a.account
      [(Preferences.enabledKey, some "false")] c
    have hrun : a.carryOut p s .disableService c = (.ok .disabled, c') := bind_ok hput
    rw [hrun] at he
    cases he
  | reportUnknownSubscriber => cases (hreport .subscriberUnknown _).symm.trans he
  | reportBlocked => cases (hreport .subscriberBlocked _).symm.trans he

/-- Without a fault an attempt that has an action has an outcome. -/
theorem provision_faultless (hp : p.IsFaultless) (hw : a.protocol.commands.WritesAll)
    {action : Action} (h : a.Routes s action) {e : Failure}
    (he : (a.provision p s c).1 = .error e) : IsUncountable c e := by
  generalize hcarry : a.carryOut p s action (a.started s action c) = run
  obtain ⟨r, c₁⟩ := run
  rw [provision_apply h hcarry] at he
  exact carryOut_faultless hp hw (c := a.started s action c) (by rw [hcarry]; exact he)

end Voicemail.Attempt
