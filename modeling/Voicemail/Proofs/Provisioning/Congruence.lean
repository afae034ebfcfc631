import Voicemail.Proofs.Client.Congruence
import Voicemail.Provisioning

/-!
# Relations between attempts

A relation between operations that is a congruence relates attempts, up from the commands of a setup
(`Bootstrap.run_congr`, `Attempt.Confuses.route_congr`). The two sides may be attempts on different
platforms, for different status responses and with different new PINs: what a relation makes of the
new PIN is said by `Bootstrap.Conceals`, and what it makes of the status by `Attempt.Confuses`.
Between the opening and the closing of a session there may be a relation of its own, for all that is
only true there.
-/

namespace Voicemail

open Client

variable {p p₁ p₂ : Platform} {R S : ∀ {α : Type}, ClientM α → ClientM α → Prop}

/-! ## The setup -/

namespace Bootstrap

variable {b : Bootstrap}

/-- A relation does not tell apart setups whose new PINs are the same in some sense. -/
structure Conceals (p₁ p₂ : Platform) (b : Bootstrap)
    (S : ∀ {α : Type}, ClientM α → ClientM α → Prop) (same : String → String → Prop) : Prop where
  newPin {α : Type} {f₁ f₂ : String → ClientM α}
    (hf : ∀ new₁ new₂, same new₁ new₂ → S (f₁ new₁) (f₂ new₂)) :
    S (b.newPin >>= f₁) (b.newPin >>= f₂)
  changePin {new₁ new₂ : String} (h : same new₁ new₂) (old : String) :
    S (changePin p₁ new₁ old) (changePin p₂ new₂ old)
  setOldPin {new₁ new₂ : String} (h : same new₁ new₂) :
    S (setOldPin b.account (some new₁)) (setOldPin b.account (some new₂))

/-- Where the draws are the same, so are the new PINs. -/
theorem conceals_of_draw (h : IsCongruence p₁ p₂ b.account S) (hdraw : S draw draw) :
    b.Conceals p₁ p₂ S Eq where
  newPin hf := by
    refine h.bind ?_ fun new => hf new new rfl
    refine h.get_bind fun c₁ c₂ hshared => ?_
    rw [hshared.pinLength, drawPin, if_pos (Pin.isLength_clampLength _)]
    exact h.bind hdraw fun _ => h.pure _
  changePin hsame old := hsame ▸ h.changePin_of_execute (h.execute _ _)
  setOldPin hsame := hsame ▸ h.putPreferences _

section
variable {same : String → String → Prop} (h : IsCongruence p₁ p₂ b.account S)
  (hr : ∀ e, S (b.reporter.report e) (b.reporter.report e)) (hpin : b.Conceals p₁ p₂ S same)
  (identifier : String) (spanish pinSet : Bool)
include h hr hpin

/-- Replacing the default PIN is related. -/
theorem replaceDefaultPin_congr :
    S (replaceDefaultPin p₁ b identifier) (replaceDefaultPin p₂ b identifier) := by
  unfold replaceDefaultPin
  cases Pin.derive? identifier with
  | none =>
    exact h.bind (h.log .bootstrap (by decide) _ _ _ rfl) fun _ => h.bind (hr _) fun _ => h.pure _
  | some old =>
    refine hpin.newPin fun new₁ new₂ hsame => h.bind (hpin.changePin hsame old) fun change => ?_
    cases change with
    | success =>
      exact h.bind (hpin.setOldPin hsame) fun _ => h.bind (hr _) fun _ =>
        h.bind (h.log .bootstrap (by decide) _ _ _ rfl) fun _ => h.pure _
    | failure =>
      exact h.bind (h.log .bootstrap (by decide) _ _ _ rfl) fun _ => h.bind (hr _) fun _ => h.pure _

/-- Sending the commands of a setup is related. -/
theorem runCommands_congr :
    S (runCommands p₁ b identifier spanish pinSet)
      (runCommands p₂ b identifier spanish pinSet) := by
  refine h.bind (h.setLanguage _) fun _ => ?_
  refine h.bind (h.log .bootstrap (by decide) _ _ _ rfl) fun _ => ?_
  have hlast (goOn : Bool) : S
      (do
        if goOn then
          Client.closeTutorial p₁
          Client.log .bootstrap .info "new_user.tutorial_closed" []
        return goOn : ClientM Bool)
      (do
        if goOn then
          Client.closeTutorial p₂
          Client.log .bootstrap .info "new_user.tutorial_closed" []
        return goOn) := by
    cases goOn with
    | true =>
      exact h.bind h.closeTutorial fun _ =>
        h.bind (h.log .bootstrap (by decide) _ _ _ rfl) fun _ => h.pure _
    | false => exact h.pure _
  cases pinSet with
  | true => exact h.bind (h.log .bootstrap (by decide) _ _ _ rfl) fun _ => hlast true
  | false => exact h.bind (replaceDefaultPin_congr h hr hpin identifier) hlast

end

section
variable {b₁ b₂ : Bootstrap} (h : IsCongruence p₁ p₂ b₁.account R)
  (hs : R b₁.requestStatus b₂.requestStatus)
include h hs

/-- Asking for the status after a setup is related if the request is. -/
theorem confirm_congr : R b₁.confirm b₂.confirm := by
  refine h.bind (h.attempt hs) fun answer => ?_
  cases answer with
  | ok => exact h.pure _
  | error e =>
    dsimp only
    split
    · exact h.log .bootstrap (by decide) _ _ _ rfl
    · exact h.throw _

/-- A setup is related if its reports are, its request for the status, and its session. -/
theorem run_congr (hr : ∀ e, R (b₁.reporter.report e) (b₂.reporter.report e))
    (identifier : String) (spanish pinSet : Bool)
    (hsession : R (runSession p₁ b₁ identifier spanish pinSet)
      (runSession p₂ b₂ identifier spanish pinSet)) :
    R (run p₁ b₁ identifier spanish pinSet) (run p₂ b₂ identifier spanish pinSet) := by
  refine h.bind (h.attempt hsession) fun result => ?_
  match result with
  | .ok true => exact h.bind (confirm_congr h hs) fun _ => h.pure _
  | .ok false => exact h.pure _
  | .error e =>
    dsimp only
    split
    · exact h.bind (h.log .bootstrap (by decide) _ _ _ rfl) fun _ => h.bind (hr _) fun _ => h.pure _
    · exact h.throw _

end

end Bootstrap

/-! ## Attempts -/

namespace Attempt

variable {a : Attempt} {s₁ s₂ : StatusResponse}

/-- Sending the carrier a message is related. -/
theorem send_congr (h : IsCongruence p₁ p₂ a.account R) (r : Request) :
    R (a.send p₁ r) (a.send p₂ r) := by
  unfold send
  split
  · refine h.get_bind fun c₁ c₂ hshared => ?_
    rw [hshared.sms]
    exact h.perform _ (by simp)
  · exact h.pure _

/-- Relations, the second one for the time in which a session is open, do not tell two status
responses apart where an attempt uses them. -/
structure Confuses (p₁ p₂ : Platform) (a : Attempt)
    (R S : ∀ {α : Type}, ClientM α → ClientM α → Prop) (s₁ s₂ : StatusResponse) : Prop where
  outside : IsCongruence p₁ p₂ a.account R
  inside : IsCongruence p₁ p₂ a.account S
  visits : IsCongruence.Visits p₁ p₂ a.protocol.commands a.account R S
  report (e : EventKind) : R ((Reporter.toBus a.protocol a.account).report e)
    ((Reporter.toBus a.protocol a.account).report e)
  reportInside (e : EventKind) : S ((Reporter.toBus a.protocol a.account).report e)
    ((Reporter.toBus a.protocol a.account).report e)
  pins : ∃ same, ∀ settings, (a.bootstrap p₁ settings).Conceals p₁ p₂ S same
  status : s₁.provisioningStatus = s₂.provisioningStatus
  returnCode : s₁.returnCode = s₂.returnCode
  identifier : s₁.subscriberIdentifier = s₂.subscriberIdentifier
  putStatus : R (putStatus a.account s₁.rawFields) (putStatus a.account s₂.rawFields)
  subscribe (context : LogContext) :
    R (Client.perform p₁ (.subscribe s₁ context)) (Client.perform p₂ (.subscribe s₂ context))

/-- A congruence does not tell a status response apart from itself. -/
theorem confuses_self (h : IsCongruence p₁ p₂ a.account R)
    (hvisits : IsCongruence.Visits p₁ p₂ a.protocol.commands a.account R R)
    (hr : ∀ e, R ((Reporter.toBus a.protocol a.account).report e)
      ((Reporter.toBus a.protocol a.account).report e))
    (hdraw : R draw draw) (s : StatusResponse) : a.Confuses p₁ p₂ R R s s where
  outside := h
  inside := h
  visits := hvisits
  report := hr
  reportInside := hr
  pins := ⟨Eq, fun settings => Bootstrap.conceals_of_draw (b := a.bootstrap p₁ settings) h hdraw⟩
  status := rfl
  returnCode := rfl
  identifier := rfl
  putStatus := h.putPreferences _
  subscribe _ := h.perform _ (by simp)

namespace Confuses

variable (h : a.Confuses p₁ p₂ R S s₁ s₂)
include h

/-- The session of a setup is related. -/
theorem runSession_congr (settings : ProvisioningSettings) (identifier : String)
    (spanish pinSet : Bool) :
    R ((a.bootstrap p₁ settings).runSession p₁ identifier spanish pinSet)
      ((a.bootstrap p₂ settings).runSession p₂ identifier spanish pinSet) := by
  obtain ⟨same, hpin⟩ := h.pins
  refine h.visits fun _ => h.inside.bind (h.inside.log .bootstrap (by decide) _ _ _ rfl) fun _ => ?_
  exact Bootstrap.runCommands_congr (b := a.bootstrap p₁ settings) h.inside h.reportInside
    (hpin settings) identifier spanish pinSet

/-- The setup of a new user is related. -/
theorem setUpNewUser_congr : R (a.setUpNewUser p₁ s₁) (a.setUpNewUser p₂ s₂) := by
  have hc := h.outside
  refine hc.bind h.putStatus fun _ => hc.get_bind fun c₁ c₂ hshared => ?_
  have hlocale : a.effectiveLocale c₁ = a.effectiveLocale c₂ := by
    simp only [effectiveLocale, hshared.provisioning, hshared.systemLocale]
  rw [hlocale, hshared.provisioning, hshared.hasOldPin, h.identifier]
  refine hc.bind (hc.attempt ?_) fun result => ?_
  · exact Bootstrap.run_congr hc (send_congr hc .status) h.report _ _ _
      (h.runSession_congr _ _ _ _)
  · cases result with
    | ok outcome => exact hc.pure _
    | error e =>
      dsimp only
      split
      · exact hc.bind (hc.log .provisioning (by decide) _ _ _ rfl) fun _ =>
          hc.bind (h.report _) fun _ => hc.pure _
      · exact hc.throw _

/-- Carrying out an action is related. -/
theorem carryOut_congr (action : Action) :
    R (a.carryOut p₁ s₁ action) (a.carryOut p₂ s₂ action) := by
  have hc := h.outside
  cases action with
  | selfProvision =>
    refine hc.get_bind fun c₁ c₂ hshared => ?_
    rw [hshared.context]
    exact hc.bind (h.subscribe _) fun _ => hc.pure _
  | reportUnknownSubscriber => exact hc.bind (h.report _) fun _ => hc.pure _
  | provisionNewUser => exact h.setUpNewUser_congr
  | disableService => exact hc.bind (hc.putPreferences _) fun _ => hc.pure _
  | reportBlocked => exact hc.bind (h.report _) fun _ => hc.pure _

/-- Both responses are routed alike. -/
theorem route_eq : a.protocol.router.route s₁ = a.protocol.router.route s₂ := by
  simp only [Router.route, Router.route?, h.status, h.returnCode]

/-- An attempt is related up to the tags of its records if the dispatch of its end is. -/
theorem route_congr (hclosing : ∀ action outcome, R
      (discard (dispatchQuietly Hook.postProvision.name (.obj (a.closing action outcome))
        (some a.account)) : ClientM PUnit)
      (discard (dispatchQuietly Hook.postProvision.name (.obj (a.closing action outcome))
        (some a.account)))) :
    R (a.route p₁ s₁) (a.route p₂ s₂) := by
  have hc := h.outside
  unfold route
  rw [h.route_eq, h.status, h.returnCode]
  cases a.protocol.router.route s₂ with
  | error e => exact hc.bind (hc.log .provisioning (by decide) _ _ _ rfl) fun _ => hc.throw _
  | ok action =>
    exact hc.bind (hc.log .provisioning (by decide) _ _ _ rfl) fun _ =>
      hc.bind (h.carryOut_congr action) fun _ =>
        hc.bind (hc.log .provisioning (by decide) _ _ _ rfl) fun _ =>
          hc.bind (hclosing _ _) fun _ => hc.pure _

end Confuses

end Attempt

end Voicemail
