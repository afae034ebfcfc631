import Voicemail.Proofs.Client.After
import Voicemail.Session
import Voicemail.Status

/-!
# Relations between operations

A statement about every operation of which an attempt is made is proved along their text. This is
done once for all such statements: `Client.IsCongruence` says of a relation between operations that
it relates the steps of an attempt on one platform to those on another, and what is built from
related parts. Then it relates the commands of a session as well. What is done on a network it
relates if both platforms are the same (`IsCongruence.withNetwork`), and how it goes with a session
is said by `IsCongruence.Visits`. A statement about one operation is a relation that does not look
at the second one.
-/

namespace Voicemail

/-- Whether one of the fields has the name of a tag. -/
def LogContext.isShadowed (fields : List (String × Json)) : Bool :=
  fields.any fun field => field.1 == "account_id" || field.1 == "protocol"

namespace Client

/-- Clients that look the same to an attempt for an account. -/
structure Shared (account : String) (c₁ c₂ : Client) : Prop where
  provisioning : c₁.settings.provisioning = c₂.settings.provisioning
  sms : c₁.settings.sms = c₂.settings.sms
  systemLocale : c₁.systemLocale = c₂.systemLocale
  context : c₁.context = c₂.context
  session : c₁.session = c₂.session
  hasOldPin : c₁.preferences.hasOldPin account = c₂.preferences.hasOldPin account
  pinLength : c₁.preferences.get? account StatusResponse.pinLengthField =
    c₂.preferences.get? account StatusResponse.pinLengthField

/-- A client looks the same as itself. -/
theorem Shared.refl (account : String) (c : Client) : Shared account c c :=
  ⟨rfl, rfl, rfl, rfl, rfl, rfl, rfl⟩

/-- A relation between operations that holds of the steps of an attempt for an account on two
platforms, and of what is built from operations of which it holds. -/
structure IsCongruence (p₁ p₂ : Platform) (account : String)
    (R : ∀ {α : Type}, ClientM α → ClientM α → Prop) : Prop where
  pure {α : Type} (a : α) : R (pure a) (pure a)
  lift {α : Type} (r : Except Failure α) : R (liftM r) (liftM r)
  bind {α β : Type} {m₁ m₂ : ClientM α} {f₁ f₂ : α → ClientM β} (hm : R m₁ m₂)
    (hf : ∀ a, R (f₁ a) (f₂ a)) : R (m₁ >>= f₁) (m₂ >>= f₂)
  /-- A look at the client shows what both have in common. -/
  get_bind {α : Type} {f₁ f₂ : Client → ClientM α}
    (hf : ∀ c₁ c₂, Shared account c₁ c₂ → R (f₁ c₁) (f₂ c₂)) : R (get >>= f₁) (get >>= f₂)
  attempt {α : Type} {m₁ m₂ : ClientM α} (hm : R m₁ m₂) : R (attempt m₁) (attempt m₂)
  /-- Requests for a network are no steps: what is done with the replies belongs to them. -/
  perform (call : Call) (h : ∀ account, call ≠ .requestNetwork account) :
    R (perform p₁ call) (perform p₂ call)
  /-- An attempt has no field of its own with the name of a tag. -/
  log (source : LogSource) (h : source.logger ≠ LogSource.reporting.logger) (level : LogLevel)
    (event : String) (fields : List (String × Json))
    (hfields : LogContext.isShadowed fields = false) :
    R (log source level event fields) (log source level event fields)
  say (source : LogSource) (h : source.logger ≠ LogSource.reporting.logger) (level : LogLevel)
    (message : String) : R (say source level message) (say source level message)
  putPreferences (values : List (String × Option String)) :
    R (putPreferences account values) (putPreferences account values)

namespace IsCongruence

variable {p p₁ p₂ : Platform} {account : String}
  {R : ∀ {α : Type}, ClientM α → ClientM α → Prop} {α : Type}

/-- Failures are related to themselves. -/
theorem throw (h : IsCongruence p₁ p₂ account R) (e : Failure) :
    R (throw e : ClientM α) (throw e) :=
  h.lift (.error e)

/-- Bodies that are related are so with cleanups that are related. -/
theorem ensuring (h : IsCongruence p₁ p₂ account R) {body₁ body₂ : ClientM α}
    {cleanup₁ cleanup₂ : ClientM Unit} (hbody : R body₁ body₂) (hcleanup : R cleanup₁ cleanup₂) :
    R (ensuring body₁ cleanup₁) (ensuring body₂ cleanup₂) := by
  rw [ensuring_eq, ensuring_eq]
  exact h.bind (h.attempt hbody) fun result => h.bind hcleanup fun _ => h.lift result

/-! ## Networks -/

/-- Passing over late replies is related to itself: all that it does is log. -/
theorem ignoreReplies (h : IsCongruence p₁ p₂ account R) (replies : List NetworkReply) :
    R (ignoreReplies account replies) (ignoreReplies account replies) := by
  induction replies with
  | nil => exact h.pure _
  | cons reply rest ih =>
    refine h.bind ?_ fun _ => ih
    cases reply with
    | available | unavailable => exact h.say .network (by decide) _ _

section
variable (h : IsCongruence p p account R)
  (hrequest : R (Client.perform p (.requestNetwork account))
    (Client.perform p (.requestNetwork account)))
include h hrequest

/-- A request for a network is related to itself if its call is. -/
theorem requestNetwork : R (requestNetwork p account) (requestNetwork p account) := by
  refine h.bind (h.attempt hrequest) fun answer => ?_
  cases answer with
  | ok grant => exact h.bind (h.ignoreReplies grant.replies.tail) fun _ => h.pure _
  | error e => exact h.throw _

/-- Work on a network is related if what is done on it is. -/
theorem withNetwork {limit : TimeLimit} {body₁ body₂ : String → ClientM α}
    (hbody : ∀ network, R (body₁ network) (body₂ network)) :
    R (withNetwork p account limit body₁) (withNetwork p account limit body₂) := by
  refine h.bind (h.requestNetwork hrequest) fun grant => h.ensuring ?_ ?_
  · exact h.bind (h.lift _) fun network =>
      h.bind (h.say .network (by decide) _ _) fun _ => hbody network
  · exact h.bind (h.perform _ (by simp)) fun _ => h.say .network (by decide) _ _

end

/-! ## Sessions -/

/-- Work in a session is related by one relation if what is done in it is by another one. -/
def Visits (p₁ p₂ : Platform) (table : CommandTable) (account : String)
    (R S : ∀ {α : Type}, ClientM α → ClientM α → Prop) : Prop :=
  ∀ ⦃α : Type⦄ ⦃limit : TimeLimit⦄ ⦃body₁ body₂ : String → ClientM α⦄,
    (∀ network, S (body₁ network) (body₂ network)) →
      R (withSession p₁ table account limit body₁) (withSession p₂ table account limit body₂)

/-- Closing a session is related if setting it to none is. -/
theorem closeSession (h : IsCongruence p₁ p₂ account R)
    (hset : R (modify fun c => { c with session := none })
      (modify fun c => { c with session := none })) :
    R (closeSession p₁) (closeSession p₂) := by
  refine h.get_bind fun c₁ c₂ hshared => ?_
  rw [hshared.session]
  split
  · exact h.bind hset fun _ => h.perform _ (by simp)
  · exact h.pure _

/-- A congruence for which it does not matter whether a session is open needs no other one. -/
theorem visits (h : IsCongruence p p account R)
    (hrequest : R (Client.perform p (.requestNetwork account))
      (Client.perform p (.requestNetwork account)))
    (hset : ∀ session : Option CommandTable,
      R (modify fun c => { c with session }) (modify fun c => { c with session }))
    (table : CommandTable) : Visits p p table account R R := by
  intro α limit body₁ body₂ hbody
  refine h.withNetwork hrequest fun network => ?_
  refine h.bind ?_ fun _ => h.ensuring (hbody network) (h.closeSession (hset none))
  exact h.bind (h.perform _ (by simp)) fun _ => hset _

/-! ## Commands -/

/-- A command is written by the table of the open session. -/
theorem execute (h : IsCongruence p₁ p₂ account R) (command : Command)
    (params : List (String × Json)) :
    R (execute p₁ command params) (execute p₂ command params) := by
  refine h.get_bind fun c₁ c₂ hshared => ?_
  rw [hshared.session]
  cases c₂.session with
  | none => exact h.throw _
  | some table =>
    dsimp only
    cases table.render command params with
    | error e => exact h.throw _
    | ok text => exact h.perform _ (by simp)

/-- Setting the language is related. -/
theorem setLanguage (h : IsCongruence p₁ p₂ account R) (code : String) :
    R (setLanguage p₁ code) (setLanguage p₂ code) := by
  refine h.bind (h.execute _ _) fun response => ?_
  split
  · exact h.pure _
  · exact h.throw _

/-- Closing the tutorial is related. -/
theorem closeTutorial (h : IsCongruence p₁ p₂ account R) :
    R (closeTutorial p₁) (closeTutorial p₂) := by
  refine h.bind (h.execute _ _) fun response => ?_
  split
  · exact h.pure _
  · exact h.throw _

/-- A change of the PIN is related if its command is. -/
theorem changePin_of_execute (h : IsCongruence p₁ p₂ account R) {new₁ new₂ old : String}
    (hexecute : R
      (Client.execute p₁ .changeTuiPassword [("new_pin", .str new₁), ("old_pin", .str old)])
      (Client.execute p₂ .changeTuiPassword [("new_pin", .str new₂), ("old_pin", .str old)])) :
    R (changePin p₁ new₁ old) (changePin p₂ new₂ old) := by
  refine h.bind hexecute fun response => ?_
  split
  · exact h.pure _
  · exact h.bind (h.say .session (by decide) _ _) fun _ => h.pure _

end IsCongruence

end Client

end Voicemail
