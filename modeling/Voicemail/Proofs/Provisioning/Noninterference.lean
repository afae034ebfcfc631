import Voicemail.Proofs.Client.Oblivious
import Voicemail.Proofs.Provisioning.Congruence
import Voicemail.Proofs.Session.Visit

/-!
# Plugins do not interfere

Events are dispatched between the commands of a setup, and plugins may fail at any of them. None of
this reaches an attempt (`Attempt.provision_noninterference`): to be oblivious is a congruence
(`Client.Oblivious.isCongruence`), so the operations of which an attempt is made are oblivious, from
a single command of a session to the attempt, and alike clients get the same outcome or failure,
make the same calls, store the same preferences and journal the same events.
-/

namespace Voicemail

open Client

/-- Alike clients look the same to every attempt. -/
theorem Client.Alike.shared {c₁ c₂ : Client} (h : Alike c₁ c₂) (account : String) :
    Shared account c₁ c₂ where
  provisioning := h.provisioning
  sms := h.sms
  systemLocale := h.systemLocale
  context := h.context
  session := h.session
  hasOldPin := by rw [h.preferences]
  pinLength := by rw [h.preferences]

/-- To be the same oblivious operation is a congruence. -/
theorem Client.Oblivious.isCongruence (p : Platform) (account : String) :
    IsCongruence p p account fun m₁ m₂ => m₁ = m₂ ∧ Oblivious m₁ where
  pure _ := ⟨rfl, .pure⟩
  lift _ := ⟨rfl, .lift⟩
  bind hm hf := by
    obtain ⟨rfl, hm⟩ := hm
    obtain rfl := funext fun a => (hf a).1
    exact ⟨rfl, hm.bind fun a => (hf a).2⟩
  get_bind hf := by
    obtain rfl := funext fun c => (hf c c (.refl account c)).1
    refine ⟨rfl, .get_bind (fun c => (hf c c (.refl account c)).2) fun c₁ c₂ h => ?_⟩
    exact (hf c₁ c₂ (h.shared account)).1
  attempt hm := ⟨by rw [hm.1], hm.2.attempt⟩
  perform _ _ := ⟨rfl, .perform⟩
  log _ _ _ _ _ _ := ⟨rfl, .log⟩
  say _ _ _ _ := ⟨rfl, .say⟩
  putPreferences _ := ⟨rfl, .putPreferences⟩

/-! ## Attempts -/

namespace Attempt

variable {p : Platform} {a : Attempt} {s : StatusResponse}

/-- Routing a status does not tell alike clients apart. -/
theorem route_oblivious : Oblivious (a.route p s) := by
  have hc := Oblivious.isCongruence p a.account
  have hvisits := hc.visits ⟨rfl, .perform⟩
    (fun _ => ⟨rfl, .modify (fun _ _ h => { h with session := rfl }) fun _ => ⟨rfl, rfl⟩⟩)
    a.protocol.commands
  have h := a.confuses_self hc hvisits
    (fun e => ⟨rfl, Reporter.toBus_oblivious a.protocol a.account e⟩) ⟨rfl, .draw⟩ s
  exact (h.route_congr fun _ _ => ⟨rfl, .dispatchQuietly⟩).2

/-- Neither does the whole attempt, whether the protocol provisions or not. -/
theorem provision_oblivious : Oblivious (a.provision p s) := by
  unfold provision
  split
  · exact route_oblivious.within
  · exact Oblivious.throw.bind fun _ => route_oblivious.within

/-- Clients that differ only in where their events go get the same from an attempt, make the same
calls, have the same preferences and draws afterwards, and journal the same events if both have a
bus. -/
theorem provision_noninterference (p : Platform) (a : Attempt) (s : StatusResponse)
    {c₁ c₂ : Client} (h : Alike c₁ c₂) :
    SameRun c₁ c₂ (a.provision p s c₁) (a.provision p s c₂) :=
  provision_oblivious c₁ c₂ h

/-- A client without a bus. -/
def busless : Client := .new { root := ⟨.root, []⟩, configPath := none } none [1234567890]

/-- The same client with a plugin that fails at every call. -/
def plagued : Client :=
  { busless with
    bus := some
      { registry :=
          { members := [("p", .plugin
              { label := "p"
                className := "P"
                hooks := [.vvmEvent, .postProvision]
                respond := fun _ _ _ => some ⟨.runtime, "boom"⟩
                calls := 0 })] }
        maxRetries := 1
        waiting := none } }

/-- A plugin that fails at every call does not keep a new user from being set up. -/
theorem provision_noninterference_plagued :
    Alike busless plagued ∧ SameRun busless plagued
      (provision .obliging ⟨"a", .vvm3, none⟩ (.ofFields [("st", "N"), ("u", "2065551234@x")])
        busless)
      (provision .obliging ⟨"a", .vvm3, none⟩ (.ofFields [("st", "N"), ("u", "2065551234@x")])
        plagued) :=
  have h : Alike busless plagued := ⟨rfl, rfl, rfl, rfl, rfl, rfl, rfl, rfl⟩
  ⟨h, provision_noninterference .obliging ⟨"a", .vvm3, none⟩ _ h⟩

end Attempt

end Voicemail
