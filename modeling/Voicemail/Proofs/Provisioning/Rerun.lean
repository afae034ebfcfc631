import Voicemail.Proofs.Bootstrap.Cooperation
import Voicemail.Proofs.Bootstrap.NewPin
import Voicemail.Proofs.Provisioning.Course

/-!
# Repeated attempts

A setup that failed is run again from scratch when the carrier reports the subscriber as new once
more, and nobody says at which step the earlier one stopped. What an attempt leaves behind for the
next is whether there is a PIN: where there is one, no change of the PIN is sent and there is one
afterwards, and where a change is accepted, there is one afterwards (`Errand.Respects`). So however
many attempts are made, for whatever accounts and on whatever platforms, an account's PIN is changed
once at most, and the account can still be set up (`safeToRerun`).
-/

namespace Voicemail

open Client

/-! ## Changes of the PIN by their text -/

/-- The word that begins a change of the PIN. -/
def changePinWord : String := "CHANGE_TUI_PWD "

/-- Whether a command changes a PIN. -/
def Sent.changesPin (x : Sent) : Bool := changePinWord.toList.isPrefixOf x.text.toList

/-- The text that sets the language. -/
theorem Step.text_setLanguage (code : String) :
    (Step.setLanguage code).text Protocol.vvm3.commands =
      .ok (String.ofList ("CHANGE_VM_LANG Lang=".toList ++ (code.toList ++ []))) := by
  rfl

/-- The text that changes the PIN. -/
theorem Step.text_changePin (new old : String) :
    (Step.changePin new old).text Protocol.vvm3.commands =
      .ok (String.ofList ("CHANGE_TUI_PWD PWD=".toList ++
        (new.toList ++ (" OLD_PWD=".toList ++ (old.toList ++ []))))) := by
  rfl

/-- Every command of a setup can be written, and its text tells whether it changes a PIN. -/
theorem Step.text_vvm3 (step : Step) :
    ∃ text, step.text Protocol.vvm3.commands = .ok text ∧
      changePinWord.toList.isPrefixOf text.toList = step.isTolerant := by
  cases step with
  | setLanguage code =>
    refine ⟨_, text_setLanguage code, ?_⟩
    rw [String.toList_ofList]
    rfl
  | changePin new old =>
    refine ⟨_, text_changePin new old, ?_⟩
    rw [String.toList_ofList]
    rfl
  | closeTutorial => exact ⟨"CLOSE_NUT", rfl, rfl⟩

/-- The protocol with provisioning writes every command of a setup. -/
theorem writesAll_vvm3 : Protocol.vvm3.commands.WritesAll := fun step => by
  obtain ⟨text, written, -⟩ := step.text_vvm3
  exact ⟨text, written⟩

/-- A command with the text of a step changes a PIN if the step does. -/
theorem Sent.changesPin_of_text {x : Sent} {step : Step}
    (h : step.text Protocol.vvm3.commands = .ok x.text) : x.changesPin = step.isTolerant := by
  obtain ⟨text, written, htext⟩ := step.text_vvm3
  obtain rfl : x.text = text := Except.ok.inj (h.symm.trans written)
  exact htext

/-- Where no change of the PIN is planned, none is sent. -/
theorem changes_eq_nil {plan : List Step} {sent : List Sent}
    (h : sent.map (.ok ·.text) <+: plan.map (Step.text Protocol.vvm3.commands))
    (hnone : plan.countP Step.isTolerant = 0) : sent.filter Sent.changesPin = [] := by
  refine List.filter_eq_nil_iff.2 fun x hx => ?_
  have hmem : .ok x.text ∈ plan.map (Step.text Protocol.vvm3.commands) :=
    h.subset (List.mem_map_of_mem hx)
  obtain ⟨step, hstep, htext⟩ := List.mem_map.1 hmem
  rw [Sent.changesPin_of_text htext]
  exact List.countP_eq_zero.1 hnone step hstep

/-- Where one change of the PIN is planned at most, what is sent of it is that one. -/
theorem changes_eq_sentPin {plan : List Step} {sent : List Sent}
    (h : sent.map (.ok ·.text) <+: plan.map (Step.text Protocol.vvm3.commands))
    (hone : plan.countP Step.isTolerant ≤ 1) :
    sent.filter Sent.changesPin = [] ∨
      ∃ x new, sent.filter Sent.changesPin = [x] ∧ sentPin? plan sent = some ⟨new, x.answer⟩ := by
  induction plan generalizing sent with
  | nil =>
    obtain rfl : sent = [] := List.map_eq_nil_iff.1 (List.prefix_nil.1 h)
    exact .inl rfl
  | cons step rest ih =>
    cases sent with
    | nil => exact .inl rfl
    | cons x xs =>
      rw [List.map_cons, List.map_cons, List.cons_prefix_cons] at h
      obtain ⟨htext, h⟩ := h
      have hx : x.changesPin = step.isTolerant := Sent.changesPin_of_text htext.symm
      cases step with
      | changePin new old =>
        have hrest : rest.countP Step.isTolerant = 0 := by
          simpa [List.countP_cons, Step.isTolerant] using hone
        refine .inr ⟨x, new, ?_, sentPin?_changePin new old rest x xs⟩
        rw [List.filter_cons_of_pos hx, changes_eq_nil h hrest]
      | setLanguage | closeTutorial =>
        have hskip : x.changesPin ≠ true := by simp [hx, Step.isTolerant]
        rw [List.filter_cons_of_neg hskip]
        exact ih h (by simpa [List.countP_cons, Step.isTolerant] using hone)

/-- A setup plans one change of the PIN at most, -/
theorem Bootstrap.plan_countP_le (b : Bootstrap) (identifier : String) (spanish pinSet : Bool)
    (new : String) : (b.plan identifier spanish pinSet new).countP Step.isTolerant ≤ 1 := by
  unfold plan pinPlan
  split
  · simp [Step.isTolerant]
  · split <;> simp [List.countP_cons, Step.isTolerant]

/-- and none where there is a PIN from an earlier run. -/
theorem Bootstrap.plan_countP_eq_zero (b : Bootstrap) (identifier : String) (spanish : Bool)
    (new : String) : (b.plan identifier spanish true new).countP Step.isTolerant = 0 := by
  simp [plan, pinPlan, Step.isTolerant]

/-- Of the changes that a setup sends none comes where there is a PIN from an earlier run, one at
most in any case, and a PIN is stored where one is accepted. -/
theorem FollowsPin.changes {b : Bootstrap} {identifier new account : String}
    {spanish pinSet : Bool} {sent : List Sent} {before after : Preferences}
    {reports : List String}
    (h : FollowsPin account (sentPin? (b.plan identifier spanish pinSet new) sent) before after
      reports)
    (horder : InOrder Protocol.vvm3.commands (b.plan identifier spanish pinSet new) sent) :
    (pinSet = true → sent.filter Sent.changesPin = []) ∧
      (sent.filter Sent.changesPin).length ≤ 1 ∧
      ∀ x ∈ sent.filter Sent.changesPin, accepts x.answer = true →
        after.hasOldPin account = true := by
  refine ⟨?_, ?_⟩
  · rintro rfl
    exact changes_eq_nil horder.texts (b.plan_countP_eq_zero ..)
  · obtain hnone | ⟨y, new', hone, hchange⟩ :=
      changes_eq_sentPin horder.texts (b.plan_countP_le ..)
    · rw [hnone]
      exact ⟨Nat.zero_le 1, fun x hx => nomatch hx⟩
    · rw [hone]
      refine ⟨Nat.le_refl 1, fun x hx hacceptance => ?_⟩
      obtain rfl := List.mem_singleton.1 hx
      have hold := h.oldPin?
      rw [hchange, Option.bind_some, SentPin.adopted?, if_pos hacceptance] at hold
      exact congrArg Option.isSome hold

/-! ## Accounts that have a PIN -/

namespace Preferences

variable {preferences : Preferences} {account : String}

/-- The fields of a status take no PIN away. -/
theorem hasOldPin_putStatus (h : preferences.hasOldPin account = true) (account' : String)
    (fields : List (String × String)) :
    (preferences.putStatus account' fields).hasOldPin account = true := by
  rw [hasOldPin, oldPin?, get?_putStatus]
  split
  · rw [Option.isSome_or, Bool.or_eq_true]
    exact .inr h
  · exact h

/-- A change of the PIN takes none away, whatever its answer. -/
theorem hasOldPin_adopting (h : preferences.hasOldPin account = true) (account' : String)
    (change : Option SentPin) :
    (preferences.adopting account' change).hasOldPin account = true := by
  rw [adopting]
  split
  · rw [hasOldPin, oldPin?_setOldPin]
    split
    · rfl
    · exact h
  · exact h

/-- Nor does an action other than the setup of a new user. -/
theorem hasOldPin_settled (h : preferences.hasOldPin account = true) (a : Attempt)
    (action : Action) : (a.settled action preferences).hasOldPin account = true := by
  have hkey : pinKey ≠ enabledKey := by decide
  rw [Attempt.settled]
  split
  · rw [hasOldPin, oldPin?, setEnabled, get?_put, if_neg fun heq => hkey heq.2]
    exact h
  · exact h

end Preferences

/-- What a setup of a new user sends is in order, and the PIN follows it. -/
theorem Attempt.Course.followsPin {p : Platform} {a : Attempt} {s : StatusResponse}
    {c c' : Client} {calls : List Call} {reports : List String} {r : Except Failure Outcome}
    (h : Course p a s c calls reports r c') :
    ∃ new reports', InOrder a.protocol.commands
        ((a.bootstrap p c.settings.provisioning).plan s.subscriberIdentifier (a.isSpanish c)
          (a.isPinSet s c) new) (p.sent c.transcript.calls calls) ∧
      FollowsPin a.account
        (sentPin? ((a.bootstrap p c.settings.provisioning).plan s.subscriberIdentifier
          (a.isSpanish c) (a.isPinSet s c) new) (p.sent c.transcript.calls calls))
        (c.preferences.putStatus a.account s.rawFields) c'.preferences reports' := by
  cases h with
  | intro before session ending handling after asked =>
    have hcalls := before.calls.trans (List.append_nil _)
    have horder := session.planned.1
    have hpin := session.followsPin
    rw [hcalls] at horder hpin
    rw [before.preferences, ← after.preferences] at hpin
    rw [Platform.sent_append, Platform.sent_eq_nil asked, List.append_nil]
    exact ⟨_, _, horder, hpin⟩

/-! ## Errands -/

/-- One attempt among others: whom it is for, which status it is made for, and how the platform
behaves while it is made. -/
structure Errand where
  platform : Platform
  account : String
  locale : Option String
  status : StatusResponse

namespace Errand

/-- The attempt of an errand. -/
def attempt (e : Errand) : Attempt := ⟨e.account, .vvm3, e.locale⟩

/-- What an errand gives, and the client afterwards. -/
def run (e : Errand) (c : Client) : Except Failure Outcome × Client :=
  e.attempt.provision e.platform e.status c

/-- The commands that an errand sends. -/
def sent (e : Errand) (c : Client) : List Sent :=
  e.platform.sent c.transcript.calls
    ((e.run c).2.transcript.calls.drop c.transcript.calls.length)

/-- The changes of an account's PIN that an errand sends. -/
def pinChanges (account : String) (e : Errand) (c : Client) : List Sent :=
  if e.account = account then (e.sent c).filter Sent.changesPin else []

/-- The client after errands, made one after another. -/
def runAll (es : List Errand) (c : Client) : Client := es.foldl (fun c e => (e.run c).2) c

/-- The changes of an account's PIN that errands send, made one after another. -/
def allPinChanges (account : String) : List Errand → Client → List Sent
  | [], _ => []
  | e :: es, c => e.pinChanges account c ++ allPinChanges account es (e.run c).2

/-- What an errand does about the PIN of an account. -/
structure Respects (account : String) (e : Errand) (c : Client) : Prop where
  /-- Where there is a PIN, no change of it is sent, -/
  sendsNone : c.preferences.hasOldPin account = true → e.pinChanges account c = []
  /-- and there is one afterwards. -/
  keeps : c.preferences.hasOldPin account = true →
    (e.run c).2.preferences.hasOldPin account = true
  /-- Not more than one change is sent. -/
  once : (e.pinChanges account c).length ≤ 1
  /-- Where one is accepted, there is a PIN afterwards. -/
  stores : ∀ x ∈ e.pinChanges account c, accepts x.answer = true →
    (e.run c).2.preferences.hasOldPin account = true

variable {account : String} {e : Errand} {c : Client} {calls : List Call}

/-- The commands of an errand are those among its calls. -/
theorem sent_eq (h : (e.run c).2.transcript.calls = c.transcript.calls ++ calls) :
    e.sent c = e.platform.sent c.transcript.calls calls := by
  rw [sent, h, List.drop_left]

/-- An errand that sends no change of a PIN respects it unless it takes the PIN away. -/
theorem Respects.of_eq_nil (h : e.pinChanges account c = [])
    (hkeeps : c.preferences.hasOldPin account = true →
      (e.run c).2.preferences.hasOldPin account = true) : e.Respects account c := by
  refine ⟨fun _ => h, hkeeps, ?_, fun x hx => ?_⟩
  · rw [h]
    exact Nat.zero_le 1
  · rw [h] at hx
    cases hx

/-- An errand that sets up no new user respects every PIN. -/
theorem respects_of_other (h : ¬e.attempt.Routes e.status .provisionNewUser) :
    e.Respects account c := by
  obtain ⟨calls, hcalls, hnone⟩ := Attempt.provision_sendsNone h e.platform c
  have hsent : e.sent c = [] := (sent_eq hcalls).trans (Platform.sent_eq_nil hnone)
  have hchanges : e.pinChanges account c = [] := by
    rw [pinChanges, hsent, List.filter_nil, ite_self]
  refine .of_eq_nil hchanges fun hset => ?_
  obtain ⟨calls, reports, r, c', hrun, -, hafter⟩ := Attempt.provision_other h e.platform c
  rw [run, hrun]
  obtain ⟨action, -, hafter⟩ | hafter := hafter
  · rw [hafter.preferences]
    exact Preferences.hasOldPin_settled hset e.attempt action
  · rwa [hafter.preferences]

/-- An errand that sets up a new user respects every PIN. -/
theorem respects_of_newUser (h : e.attempt.Routes e.status .provisionNewUser) :
    e.Respects account c := by
  obtain ⟨calls, reports, r, c₁, c', hrun, hcourse, hcalls, -, hpreferences⟩ :=
    Attempt.provision_course h e.platform c
  obtain ⟨new, reports', horder, hpin⟩ := hcourse.followsPin
  rw [← hpreferences] at hpin
  have hsent : e.sent c = e.platform.sent c.transcript.calls calls :=
    sent_eq (by rw [run, hrun, hcalls])
  have hkeeps : c.preferences.hasOldPin account = true → c'.preferences.hasOldPin account = true :=
    fun hset => by
      rw [hpin.preferences]
      exact Preferences.hasOldPin_adopting (Preferences.hasOldPin_putStatus hset _ _) _ _
  rw [← (show (e.run c).2 = c' by rw [run, hrun])] at hkeeps hpin
  by_cases haccount : e.account = account
  · subst haccount
    have hchanges : e.pinChanges e.account c =
        (e.platform.sent c.transcript.calls calls).filter Sent.changesPin := by
      rw [pinChanges, if_pos rfl, hsent]
    obtain ⟨hnone, hone, hstores⟩ := hpin.changes horder
    rw [← hchanges] at hnone hone hstores
    refine ⟨fun hset => hnone ?_, hkeeps, hone, hstores⟩
    exact Preferences.hasOldPin_putStatus hset ..
  · exact .of_eq_nil (if_neg haccount) hkeeps

/-- Every errand respects every PIN. -/
theorem respects (account : String) (e : Errand) (c : Client) : e.Respects account c := by
  by_cases h : e.attempt.Routes e.status .provisionNewUser
  · exact respects_of_newUser h
  · exact respects_of_other h

/-! ## Runs of errands -/

variable {es : List Errand}

/-- Where there is a PIN, there is one after any errands. -/
theorem hasOldPin_runAll (h : c.preferences.hasOldPin account = true) :
    (runAll es c).preferences.hasOldPin account = true := by
  induction es generalizing c with
  | nil => exact h
  | cons e es ih => exact ih ((respects account e c).keeps h)

/-- Where there is a PIN, no errand sends a change of it. -/
theorem allPinChanges_eq_nil (h : c.preferences.hasOldPin account = true) :
    allPinChanges account es c = [] := by
  induction es generalizing c with
  | nil => rfl
  | cons e es ih =>
    rw [allPinChanges, (respects account e c).sendsNone h, ih ((respects account e c).keeps h)]
    rfl

/-- Where a change of the PIN is accepted, there is a PIN after the errands. -/
theorem hasOldPin_of_accepted {x : Sent} (h : x ∈ allPinChanges account es c)
    (hacceptance : accepts x.answer = true) :
    (runAll es c).preferences.hasOldPin account = true := by
  induction es generalizing c with
  | nil => cases h
  | cons e es ih =>
    show (runAll es (e.run c).2).preferences.hasOldPin account = true
    obtain h | h := List.mem_append.1 h
    · exact hasOldPin_runAll ((respects account e c).stores x h hacceptance)
    · exact ih h

/-- Whatever errands are made, one change of an account's PIN is accepted at most. -/
theorem countP_accepted_le (account : String) (es : List Errand) (c : Client) :
    (allPinChanges account es c).countP (accepts ·.answer) ≤ 1 := by
  induction es generalizing c with
  | nil => exact Nat.zero_le 1
  | cons e es ih =>
    rw [allPinChanges, List.countP_append]
    by_cases hsome : ∃ x ∈ e.pinChanges account c, accepts x.answer = true
    · -- the PIN that is stored keeps every later errand from sending a change
      obtain ⟨x, hx, hacceptance⟩ := hsome
      rw [allPinChanges_eq_nil ((respects account e c).stores x hx hacceptance), List.countP_nil]
      exact Nat.le_trans List.countP_le_length (respects account e c).once
    · have hnone : (e.pinChanges account c).countP (accepts ·.answer) = 0 :=
        List.countP_eq_zero.2 fun x hx hacceptance => hsome ⟨x, hx, hacceptance⟩
      rw [hnone, Nat.zero_add]
      exact ih (e.run c).2

/-! ## Recovery -/

/-- A status that reports a subscriber as new leads to the setup of a new user. -/
theorem routes_new (h : e.status.provisioningStatus = ProvisioningStatus.new.letter) :
    e.attempt.Routes e.status .provisionNewUser := by
  refine ⟨rfl, ?_⟩
  have hstatus : ProvisioningStatus.ofLetter? e.status.provisioningStatus = some .new := by
    rw [h]
    rfl
  show Router.route .standard e.status = _
  rw [Router.route, Router.route?, hstatus]
  rfl

/-- A cooperating platform takes the message that asks for the status. -/
theorem send_status (hp : e.platform.Cooperates) (c : Client) :
    (e.attempt.send e.platform .status c).1 = .ok () := by
  have hsends : e.attempt.protocol.sender.sends .status = true := rfl
  rw [Attempt.send, if_pos hsends, bind_ok (get_apply c), perform_apply, hp.sendMessage]
  rfl

/-- On a cooperating platform an errand for a new subscriber succeeds in every state of the client,
and there is a PIN afterwards. -/
theorem run_cooperates (h : e.status.provisioningStatus = ProvisioningStatus.new.letter)
    (hd : (Pin.derive? e.status.subscriberIdentifier).isSome) (hp : e.platform.Cooperates)
    (c : Client) :
    (e.run c).1 = .ok .newUserSetupOk ∧
      (e.run c).2.preferences.hasOldPin e.account = true := by
  let a := e.attempt
  obtain ⟨c₀, -, hrun⟩ := Attempt.provision_carryOut (routes_new h) e.platform c
  obtain ⟨c₁, hput, hafter⟩ := After.putPreferences a.account
    (e.status.rawFields.map fun field => (field.1, some field.2)) c₀
  change After (a.storing e.status c₀) [] [] c₁ at hafter
  have hset : a.isPinSet e.status c₀ = true → c₁.preferences.hasOldPin a.account = true :=
    fun hset => by rwa [hafter.preferences]
  obtain ⟨c₂, hsetup, hpin⟩ :=
    Bootstrap.run_cooperates (b := a.bootstrap e.platform c₀.settings.provisioning) hp
      writesAll_vvm3 (Reporter.toBus_isQuiet a.protocol a.account)
      (Attempt.bootstrap_asksBy e.platform a c₀.settings.provisioning) (send_status hp) hd
      (a.isSpanish c₀) hset
  have hcarry : a.carryOut e.platform e.status .provisionNewUser c₀ = (.ok .newUserSetupOk, c₂) :=
    Attempt.setUpNewUser_handle hput hafter hsetup
  obtain ⟨c₃, hprovision, hafter₃⟩ := hrun hcarry
  have hpreferences : (e.run c).2.preferences = c₂.preferences := by
    rw [run, hprovision, ← hafter₃.preferences]
  rw [hpreferences]
  exact ⟨by rw [run, hprovision], hpin⟩

end Errand

/-! ## Safety -/

/-- Errands can be made again and again without harm to an account. -/
structure SafeToRerun (account : String) (es : List Errand) (c : Client) : Prop where
  /-- One change of the PIN is accepted at most. -/
  acceptedOnce : (Errand.allPinChanges account es c).countP (accepts ·.answer) ≤ 1
  /-- No errand sends a change after one that was accepted. -/
  noneAfterAccepted : ∀ earlier later, es = earlier ++ later →
    (Errand.allPinChanges account earlier c).any (accepts ·.answer) = true →
      Errand.allPinChanges account later (Errand.runAll earlier c) = []
  /-- No errand sends a change from when there is a PIN. -/
  noneIfSet : ∀ earlier later, es = earlier ++ later →
    (Errand.runAll earlier c).preferences.hasOldPin account = true →
      Errand.allPinChanges account later (Errand.runAll earlier c) = []
  /-- After the errands a new subscriber with a default PIN can be set up, and has a PIN then. -/
  recoverable : ∀ e : Errand, e.account = account →
    e.status.provisioningStatus = ProvisioningStatus.new.letter →
      (Pin.derive? e.status.subscriberIdentifier).isSome → e.platform.Cooperates →
        (e.run (Errand.runAll es c)).1 = .ok .newUserSetupOk ∧
          (e.run (Errand.runAll es c)).2.preferences.hasOldPin account = true

/-- Whatever errands are made for whatever accounts, and however each of them ends, they can be made
again without harm. -/
theorem safeToRerun (account : String) (es : List Errand) (c : Client) :
    SafeToRerun account es c where
  acceptedOnce := Errand.countP_accepted_le account es c
  noneAfterAccepted := by
    rintro earlier later - haccepted
    obtain ⟨x, hx, hacceptance⟩ := List.any_eq_true.1 haccepted
    exact Errand.allPinChanges_eq_nil (Errand.hasOldPin_of_accepted hx hacceptance)
  noneIfSet := by
    rintro earlier later - hset
    exact Errand.allPinChanges_eq_nil hset
  recoverable := by
    rintro e rfl hnew hd hp
    exact Errand.run_cooperates hnew hd hp (Errand.runAll es c)

end Voicemail
