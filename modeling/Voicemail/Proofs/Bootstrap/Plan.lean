import Mathlib.Data.List.Forall2
import Voicemail.Proofs.Bootstrap.Scope
import Voicemail.Proofs.Session.Dialogue

/-!
# The plan of the setup

Before a session opens it is settled which commands a setup may send, and in which order
(`Bootstrap.plan`). What it sends is the beginning of the plan, and it goes on after a command only
if the answer allows that (`InOrder`). A plan that leads to the end of the tutorial and was carried
through (`Carried`), a session and a network that were given up without a failure, and a request
for the status are together what a setup needs to succeed (`Bootstrap.run_planned`).
-/

namespace Voicemail

open Client

/-! ## Steps -/

/-- A command of the setup. -/
inductive Step where
  | setLanguage (code : String)
  | changePin (new old : String)
  | closeTutorial
  deriving DecidableEq, Repr

namespace Step

/-- The text of a command, if the table can write it. -/
def text (table : CommandTable) : Step → Except CommandError String
  | setLanguage code => table.render .changeLanguage [("language", .str code)]
  | changePin new old =>
    table.render .changeTuiPassword [("new_pin", .str new), ("old_pin", .str old)]
  | closeTutorial => table.render .closeNewUserTutorial []

/-- Whether a command may be rejected. -/
def isTolerant : Step → Bool
  | changePin _ _ => true
  | setLanguage _ | closeTutorial => false

/-- Whether an answer lets the setup go on after a command: every response does if the command may
be rejected, else only one that accepts. -/
def goesOn (step : Step) (answer : Except Fault String) : Bool :=
  if step.isTolerant then answer.isOk else accepts answer

end Step

/-- The commands that were sent are the first ones of a plan. -/
structure InOrder (table : CommandTable) (plan : List Step) (sent : List Sent) : Prop where
  /-- They have the texts of the plan, in its order. -/
  texts : sent.map (.ok ·.text) <+: plan.map (Step.text table)
  /-- All but the last were answered such that the setup goes on. -/
  goesOn : ∀ x ∈ (plan.zip sent).dropLast, x.1.goesOn x.2.answer

/-- All commands of a plan that closes the tutorial were sent, and those that may not be rejected
were accepted. -/
structure Carried (plan : List Step) (sent : List Sent) : Prop where
  tutorial : .closeTutorial ∈ plan
  all : plan.Forall₂ (fun step x => step.isTolerant = false → accepts x.answer) sent

namespace InOrder

variable {table : CommandTable} {step : Step} {plan : List Step} {x : Sent} {xs : List Sent}

/-- Nothing sent is the beginning of every plan. -/
theorem nil : InOrder table plan [] := ⟨List.nil_prefix, by simp⟩

/-- A command is sent, and others after it if it goes on. -/
theorem cons (written : step.text table = .ok x.text) (on : xs ≠ [] → step.goesOn x.answer)
    (h : InOrder table plan xs) : InOrder table (step :: plan) (x :: xs) where
  texts := by simpa [written] using h.texts
  goesOn := by
    intro y hy
    rw [List.zip_cons_cons] at hy
    by_cases hrest : plan.zip xs = []
    · simp [hrest] at hy
    · rw [List.dropLast_cons_of_ne_nil hrest] at hy
      cases hy with
      | head => exact on fun hxs => hrest (by rw [hxs, List.zip_nil_right])
      | tail _ hy => exact h.goesOn y hy

/-- One command is sent. -/
theorem single (written : step.text table = .ok x.text) :
    InOrder table (step :: plan) [x] :=
  cons written (absurd rfl) nil

end InOrder

namespace Carried

variable {step : Step} {plan : List Step} {x : Sent} {xs : List Sent}

/-- A plan is not carried through by sending nothing. -/
theorem not_nil : ¬Carried plan [] := by
  rintro ⟨hmem, hall⟩
  rw [List.forall₂_nil_right_iff.1 hall] at hmem
  cases hmem

/-- After a command that went on, the rest of the plan is left. -/
theorem cons_iff (hstep : step ≠ .closeTutorial) (on : step.goesOn x.answer) :
    Carried (step :: plan) (x :: xs) ↔ Carried plan xs := by
  have hx : step.isTolerant = false → accepts x.answer = true := fun ht => by
    simpa [Step.goesOn, ht] using on
  refine ⟨fun h => ⟨?_, (List.forall₂_cons.1 h.all).2⟩, fun h => ⟨.tail _ h.tutorial, ?_⟩⟩
  · exact (List.mem_cons.1 h.tutorial).resolve_left hstep.symm
  · exact .cons hx h.all

end Carried

/-! ## Replies in a plan -/

namespace Client.Reply

variable {p : Platform} {table : CommandTable} {command : Command}
  {params : List (String × Json)} {history calls : List Call} {r : Except Failure String}
  {step : Step} {plan : List Step}

/-- A reply is about the next command of a plan. -/
theorem inOrder (h : Reply p table command params history calls r)
    (written : step.text table = table.render command params) :
    InOrder table (step :: plan) (p.sent history calls) := by
  obtain ⟨hsent, -⟩ | ⟨text, hwritten, hsent, -⟩ := h.sent_cases
  · rw [hsent]
    exact .nil
  · rw [hsent]
    exact .single (written.trans hwritten)

/-- Where a command may not be rejected, a plan that begins with it is not carried through unless
the verdict on its reply is good. -/
theorem verdict_of_carried {rejected : String → Failure}
    (h : Reply p table command params history calls r) (strict : step.isTolerant = false)
    (hc : Carried (step :: plan) (p.sent history calls)) : verdict rejected r = .ok () := by
  obtain ⟨hsent, -⟩ | ⟨text, -, hsent, rfl⟩ := h.sent_cases
  · rw [hsent] at hc
    exact absurd hc Carried.not_nil
  · rw [hsent] at hc
    exact (verdict_mapError rejected _).2 ((List.forall₂_cons.1 hc.all).1 strict)

/-- The tutorial is the last of a plan, which its verdict decides. -/
theorem carried_tutorial {rejected : String → Failure}
    (h : Reply p table command params history calls r) :
    verdict rejected r = .ok () ↔ Carried [.closeTutorial] (p.sent history calls) := by
  refine ⟨fun hv => ?_, verdict_of_carried h rfl⟩
  obtain ⟨response, rfl, ha⟩ := verdict_ok hv
  obtain ⟨text, -, hsent⟩ := h.sent_of_ok
  rw [hsent]
  exact ⟨.head _, .cons (fun _ => ha) .nil⟩

end Client.Reply

namespace Bootstrap

variable {p : Platform} {b : Bootstrap} {identifier : String} {spanish pinSet : Bool}
  {c c' : Client} {calls : List Call} {reports : List String} {r : Except Failure Bool}

/-! ## The plan -/

/-- What is to be sent after the language was set. Without a default PIN there is nothing. -/
def pinPlan (identifier : String) (pinSet : Bool) (new : String) : List Step :=
  if pinSet then [.closeTutorial]
  else match Pin.derive? identifier with
    | none => []
    | some old => [.changePin new old, .closeTutorial]

/-- What a setup is to send. -/
def plan (b : Bootstrap) (identifier : String) (spanish pinSet : Bool) (new : String) :
    List Step :=
  .setLanguage (b.protocol.languageCode spanish) :: pinPlan identifier pinSet new

/-- Only the tutorial is left of a plan with a PIN from an earlier run. -/
theorem pinPlan_kept (set : pinSet = true) (new : String) :
    pinPlan identifier pinSet new = [.closeTutorial] := by
  simp [pinPlan, set]

/-- Nothing is left of a plan without a default PIN. -/
theorem pinPlan_underivable (set : pinSet = false) (derived : Pin.derive? identifier = none)
    (new : String) : pinPlan identifier pinSet new = [] := by
  simp [pinPlan, set, derived]

/-- A default PIN is replaced before the tutorial is closed. -/
theorem pinPlan_derived {old : String} (set : pinSet = false)
    (derived : Pin.derive? identifier = some old) (new : String) :
    pinPlan identifier pinSet new = [.changePin new old, .closeTutorial] := by
  simp [pinPlan, set, derived]

/-- No command is planned twice. -/
theorem plan_nodup (b : Bootstrap) (identifier : String) (spanish pinSet : Bool) (new : String) :
    (b.plan identifier spanish pinSet new).Nodup := by
  unfold plan pinPlan
  split
  · simp
  · split <;> simp

/-- Steps that leave draws and preferences as they are do not change which PIN is drawn. -/
theorem drawnPin_after {calls : List Call} {reports : List String}
    (h : After c calls reports c') : b.drawnPin c' = b.drawnPin c := by
  rw [drawnPin, drawnPin, h.preferences, h.draws]

/-! ## The commands -/

/-- A PIN step that does not lead to the tutorial is in order, and leaves the plan unfinished. -/
theorem PinStep.ends (h : PinStep p b identifier pinSet c calls reports r c')
    (hne : r ≠ .ok true) :
    InOrder b.protocol.commands (pinPlan identifier pinSet (b.drawnPin c))
        (p.sent c.transcript.calls calls) ∧
      ¬Carried (pinPlan identifier pinSet (b.drawnPin c)) (p.sent c.transcript.calls calls) := by
  cases h with
  | kept | rejected | replaced => exact absurd rfl hne
  | underivable => exact ⟨.nil, Carried.not_nil⟩
  | unanswered set derived reply after =>
    rw [pinPlan_derived set derived]
    refine ⟨reply.inOrder rfl, fun hc => ?_⟩
    have hlength := hc.all.length_eq
    obtain hsent | ⟨text, f, hsent⟩ := reply.sent_of_error <;> simp [hsent] at hlength

/-- After a PIN step that leads to the tutorial only the tutorial is left of the plan: the change of
the PIN was planned and answered, or it was not planned. -/
theorem PinStep.leads (h : PinStep p b identifier pinSet c calls reports (.ok true) c') :
    pinPlan identifier pinSet (b.drawnPin c) = [.closeTutorial] ∧
        p.sent c.transcript.calls calls = [] ∨
      ∃ old text response, pinPlan identifier pinSet (b.drawnPin c) =
          [.changePin (b.drawnPin c) old, .closeTutorial] ∧
        (Step.changePin (b.drawnPin c) old).text b.protocol.commands = .ok text ∧
        p.sent c.transcript.calls calls = [⟨text, .ok response⟩] := by
  cases h with
  | kept set after => exact .inl ⟨pinPlan_kept set _, rfl⟩
  | @rejected old response _ _ set derived reply | @replaced old response _ _ set derived reply =>
    obtain ⟨text, written, hsent⟩ := reply.sent_of_ok
    exact .inr ⟨old, text, response, pinPlan_derived set derived _, written, hsent⟩

/-- What is sent from the PIN step on is in order, and the verdict on the tutorial decides whether
the plan is carried through. -/
theorem PinStep.tutorial {last : List Call} {reply : Except Failure String}
    (h : PinStep p b identifier pinSet c calls reports (.ok true) c')
    (ht : Reply p b.protocol.commands .closeNewUserTutorial [] (c.transcript.calls ++ calls) last
      reply) :
    InOrder b.protocol.commands (pinPlan identifier pinSet (b.drawnPin c))
        (p.sent c.transcript.calls (calls ++ last)) ∧
      (verdict .tutorialRejected reply = .ok () ↔
        Carried (pinPlan identifier pinSet (b.drawnPin c))
          (p.sent c.transcript.calls (calls ++ last))) := by
  rw [Platform.sent_append]
  obtain ⟨hplan, hsent⟩ | ⟨old, text, response, hplan, written, hsent⟩ := h.leads
  · rw [hplan, hsent]
    exact ⟨ht.inOrder rfl, ht.carried_tutorial⟩
  · rw [hplan, hsent]
    refine ⟨.cons written (fun _ => rfl) (ht.inOrder rfl), ?_⟩
    rw [ht.carried_tutorial]
    exact (Carried.cons_iff (by simp) rfl).symm

/-- The commands of the setup are in order, and the setup goes through exactly if the plan is
carried through. -/
theorem Commands.planned (h : Commands p b identifier spanish pinSet c calls reports r c') :
    InOrder b.protocol.commands (b.plan identifier spanish pinSet (b.drawnPin c))
        (p.sent c.transcript.calls calls) ∧
      (r = .ok true ↔ Carried (b.plan identifier spanish pinSet (b.drawnPin c))
        (p.sent c.transcript.calls calls)) := by
  cases h with
  | language language judged =>
    refine ⟨language.inOrder rfl, by simp, fun hc => ?_⟩
    cases judged.symm.trans (language.verdict_of_carried rfl hc)
  | @stopped _ _ _ response _ _ _ language acceptance after pin ends =>
    have on : (Step.setLanguage (b.protocol.languageCode spanish)).goesOn (.ok response) = true :=
      acceptance
    obtain ⟨text, written, hsent⟩ := language.sent_of_ok
    obtain ⟨horder, hcarried⟩ := pin.ends ends
    rw [drawnPin_after after, after.calls] at horder hcarried
    rw [Platform.sent_append, hsent]
    refine ⟨.cons written (fun _ => on) horder, fun hr => absurd hr ends, fun hc => ?_⟩
    exact absurd ((Carried.cons_iff (by simp) on).1 hc) hcarried
  | @tutorial _ more _ _ response reply c₁ c₂ _ language acceptance after pin tutorial _ =>
    have on : (Step.setLanguage (b.protocol.languageCode spanish)).goesOn (.ok response) = true :=
      acceptance
    obtain ⟨text, written, hsent⟩ := language.sent_of_ok
    have hcalls : c₂.transcript.calls = c₁.transcript.calls ++ more := pin.follows.calls
    rw [hcalls] at tutorial
    obtain ⟨horder, hcarried⟩ := pin.tutorial tutorial
    rw [drawnPin_after after, after.calls] at horder hcarried
    rw [List.append_assoc, Platform.sent_append, hsent]
    refine ⟨.cons written (fun _ => on) horder, ?_⟩
    refine Iff.trans ?_ (hcarried.trans (Carried.cons_iff (by simp) on).symm)
    cases verdict Failure.tutorialRejected reply <;> simp [Except.map]

/-! ## The session -/

/-- Only the calls in an open session are commands. -/
theorem sent_worked (past texts : List Call) (account network token : String) :
    p.sent past (.requestNetwork account :: .openSession network account ::
        (texts ++ [.closeSession, .releaseNetwork token])) =
      p.sent (past ++ [.requestNetwork account, .openSession network account]) texts := by
  have hbefore : p.sent past [.requestNetwork account, .openSession network account] = [] := rfl
  have hafter (past) : p.sent past [.closeSession, .releaseNetwork token] = [] := rfl
  have hcalls : .requestNetwork account :: .openSession network account ::
      (texts ++ [.closeSession, .releaseNetwork token]) =
        [.requestNetwork account, .openSession network account] ++
          (texts ++ [.closeSession, .releaseNetwork token]) := rfl
  rw [hcalls, Platform.sent_append, Platform.sent_append, hbefore, hafter, List.nil_append,
    List.append_nil]

/-- Closing a session is one of the calls that can fail to give up. -/
theorem failsRelease_closeSession (past : List Call) :
    Exchange.failsRelease ⟨.closeSession, p.respond past .closeSession⟩ = false ↔
      p.closed past = .ok () := by
  unfold Platform.closed
  cases p.respond past .closeSession with
  | ok => exact ⟨fun _ => rfl, fun _ => rfl⟩
  | error f => exact ⟨nofun, nofun⟩

/-- Releasing a network is the other. -/
theorem failsRelease_releaseNetwork (past : List Call) (token : String) :
    Exchange.failsRelease ⟨.releaseNetwork token, p.respond past (.releaseNetwork token)⟩ = false ↔
      p.released past token = .ok () := by
  unfold Platform.released
  cases p.respond past (.releaseNetwork token) with
  | ok => exact ⟨fun _ => rfl, fun _ => rfl⟩
  | error f => exact ⟨nofun, nofun⟩

/-- What was acquired for some commands is given up without a failure exactly if neither of the two
last calls fails. -/
theorem failsRelease_worked (past : List Call) (texts : List String)
    (account network token : String) :
    (p.dialogue past (.requestNetwork account :: .openSession network account ::
        (texts.map .execute ++ [.closeSession, .releaseNetwork token]))).any
          Exchange.failsRelease = false ↔
      p.closed (past ++ [.requestNetwork account, .openSession network account] ++
        texts.map .execute) = .ok () ∧
      p.released (past ++ [.requestNetwork account, .openSession network account] ++
        texts.map .execute ++ [.closeSession]) token = .ok () := by
  have hrequest (answer) : Exchange.failsRelease ⟨.requestNetwork account, answer⟩ = false := rfl
  have hopen (answer) : Exchange.failsRelease ⟨.openSession network account, answer⟩ = false := rfl
  simp only [Platform.dialogue, Platform.dialogue_append, List.any_cons, List.any_append,
    List.any_nil, hrequest, hopen, Platform.failsRelease_execute, Bool.false_or, Bool.or_false,
    Bool.or_eq_false_iff, failsRelease_closeSession, failsRelease_releaseNetwork,
    List.append_assoc, List.cons_append, List.nil_append]

/-- What a session sends is in order, and it gives `true` exactly if its plan is carried through
and nothing fails in giving up what it acquired. -/
theorem Session.planned (h : Session p b identifier spanish pinSet c calls reports r c') :
    InOrder b.protocol.commands (b.plan identifier spanish pinSet (b.drawnPin c))
        (p.sent c.transcript.calls calls) ∧
      (r = .ok true ↔
        Carried (b.plan identifier spanish pinSet (b.drawnPin c))
          (p.sent c.transcript.calls calls) ∧
        (p.dialogue c.transcript.calls calls).any Exchange.failsRelease = false) := by
  cases h with
  | refused =>
    rw [Platform.sent_eq_nil (by simp)]
    exact ⟨.nil, by simp [Carried.not_nil]⟩
  | noNetwork =>
    rw [Platform.sent_eq_nil (by simp)]
    refine ⟨.nil, fun hr => ?_, fun hc => absurd hc.1 Carried.not_nil⟩
    cases (seq_ok hr).2
  | notOpened =>
    rw [Platform.sent_eq_nil (by simp)]
    refine ⟨.nil, fun hr => ?_, fun hc => absurd hc.1 Carried.not_nil⟩
    cases (seq_ok hr).2
  | @worked grant network cs _ r c₁ c₂ _ request first opening before work after =>
    obtain ⟨horder, hcarried⟩ := work.2.planned
    have hcalls : c₂.transcript.calls = c₁.transcript.calls ++ cs := work.2.follows.calls
    have hbefore : c₁.transcript.calls =
        c.transcript.calls ++ [.requestNetwork b.account, .openSession network b.account] :=
      before.calls
    have hpin : b.drawnPin c₁ = b.drawnPin c := (drawnPin_after before :)
    rw [hbefore, hpin] at horder hcarried
    obtain ⟨texts, rfl⟩ := work.2.calls_execute
    rw [sent_worked, failsRelease_worked, hcalls, hbefore]
    refine ⟨horder, ?_⟩
    rw [← hcarried]
    generalize p.closed _ = closed
    generalize p.released _ _ = released
    cases released <;> cases closed <;> simp [bind, Except.bind]

/-- In a session the status is not asked for. -/
theorem Session.requestStatus_not_mem
    (h : Session p b identifier spanish pinSet c calls reports r c') : .requestStatus ∉ calls := by
  cases h with
  | refused | noNetwork | notOpened => simp
  | worked _ _ _ _ work =>
    obtain ⟨texts, rfl⟩ := work.2.calls_execute
    simp

/-! ## The setup -/

/-- A setup succeeds exactly if it is what is concluded from a session that gave `true`. -/
theorem conclude_ok_iff (b : Bootstrap) (r : Except Failure Bool) (c : Client) :
    (b.conclude r c).1 = .ok .newUserSetupOk ↔ r = .ok true ∧ (b.confirm c).1 = .ok () := by
  match r with
  | .ok true =>
    rw [conclude, bind_apply]
    obtain ⟨_ | _, _⟩ := b.confirm c <;> simp
  | .ok false => simp [conclude]
  | .error e =>
    by_cases he : e.isNetworkUnavailable = true
    · simp only [conclude, he, if_true, bind_ok (log_apply _ _ _ _ c), bind_apply]
      obtain ⟨_ | _, _⟩ := b.reporter.report .newUserSetupFailed (c.noting _) <;> simp
    · simp [conclude, he]

/-- The request for the status after a setup goes well exactly if no failure comes of it but one of
input or output. -/
theorem confirm_ok_iff (hs : b.requestStatus = perform p .requestStatus) (c : Client) :
    (b.confirm c).1 = .ok () ↔
      Exchange.confirms ⟨.requestStatus, p.respond c.transcript.calls .requestStatus⟩ = true := by
  rw [confirm, bind_ok (attempt_apply _ c), hs, perform_apply]
  cases p.respond c.transcript.calls .requestStatus with
  | ok => exact ⟨fun _ => rfl, fun _ => rfl⟩
  | error f =>
    have hfault : (Except.error f : Except Fault Unit).mapError Failure.fault =
        .error (.fault f) := rfl
    cases hio : f.kind.isIo <;> simp [hfault, Exchange.confirms, Failure.isIo, hio, log_apply]

/-- A setup succeeds exactly if its session gives `true` and the request for the status that follows
goes well. -/
theorem run_ok_iff (hs : b.requestStatus = perform p .requestStatus)
    (h : runSession p b identifier spanish pinSet c = (r, c')) :
    (run p b identifier spanish pinSet c).1 = .ok .newUserSetupOk ↔
      r = .ok true ∧
        Exchange.confirms
          ⟨.requestStatus, p.respond c'.transcript.calls .requestStatus⟩ = true := by
  rw [run_conclude h, conclude_ok_iff, confirm_ok_iff hs]

/-- After its session a setup asks for the status if the session gave `true`, and calls nothing
else. -/
theorem run_asking (hr : b.reporter.IsQuiet) (hs : b.requestStatus = perform p .requestStatus)
    (h : runSession p b identifier spanish pinSet c = (r, c')) :
    ∃ asked more, After c' asked more (run p b identifier spanish pinSet c).2 ∧
      Ending r more (run p b identifier spanish pinSet c).1 ∧
      (r = .ok true ∧ asked = [.requestStatus] ∨ r ≠ .ok true ∧ asked = []) := by
  have ha : b.AsksBy (· = [.requestStatus]) := fun c₁ => by
    obtain ⟨c₂, hask, hafter⟩ := After.perform p .requestStatus c₁
    exact ⟨_, _, c₂, by rw [hs, hask], rfl, hafter⟩
  obtain ⟨r', asked, more, c₂, hrun, hafter, hending, hasked⟩ := conclude_ending ha hr r c'
  rw [run_conclude h, hrun]
  exact ⟨asked, more, hafter, hending, hasked⟩

/-- A request for the status sends no command. -/
theorem sent_asked {past asked : List Call}
    (h : r = .ok true ∧ asked = [.requestStatus] ∨ r ≠ .ok true ∧ asked = []) :
    p.sent past (calls ++ asked) = p.sent past calls := by
  have hnone : ∀ text, .execute text ∉ asked := by
    obtain ⟨-, rfl⟩ | ⟨-, rfl⟩ := h <;> simp
  rw [Platform.sent_append, Platform.sent_eq_nil hnone, List.append_nil]

/-- A setup with a plan did what it takes to succeed: the plan was carried through, what was
acquired was given up without a failure, and the request for the status went well. -/
structure Completed (plan : List Step) (dialogue : List Exchange) : Prop where
  carried : Carried plan (dialogue.filterMap Exchange.sent?)
  released : dialogue.any Exchange.failsRelease = false
  confirmed : dialogue.any Exchange.confirms = true

/-- What calls after others are to a setup with a plan, and to its result. -/
structure Planned (p : Platform) (table : CommandTable) (plan : List Step) (past calls : List Call)
    (result : Except Failure Outcome) : Prop where
  /-- No command is planned twice. -/
  once : plan.Nodup
  /-- The commands among the calls are the first ones of the plan. -/
  inOrder : InOrder table plan (p.sent past calls)
  /-- They completed the plan exactly if the setup succeeded. -/
  completed : result = .ok .newUserSetupOk ↔ Completed plan (p.dialogue past calls)

/-- After a session that gave `true` the answer to the request for the status decides. -/
theorem completed_asked {plan : List Step} {past calls : List Call}
    (h : .requestStatus ∉ calls) :
    Completed plan (p.dialogue past (calls ++ [.requestStatus])) ↔
      (Carried plan (p.sent past calls) ∧
          (p.dialogue past calls).any Exchange.failsRelease = false) ∧
        Exchange.confirms
          ⟨.requestStatus, p.respond (past ++ calls) .requestStatus⟩ = true := by
  have hsent : (p.dialogue past (calls ++ [.requestStatus])).filterMap Exchange.sent? =
      p.sent past calls := by
    rw [Platform.dialogue_append, List.filterMap_append]
    exact List.append_nil _
  have hreleased : (p.dialogue past (calls ++ [.requestStatus])).any Exchange.failsRelease =
      (p.dialogue past calls).any Exchange.failsRelease := by
    rw [Platform.dialogue_append, List.any_append]
    exact Bool.or_false _
  have hconfirmed : (p.dialogue past (calls ++ [.requestStatus])).any Exchange.confirms =
      Exchange.confirms ⟨.requestStatus, p.respond (past ++ calls) .requestStatus⟩ := by
    rw [Platform.dialogue_append, List.any_append, Platform.confirms_eq_false h]
    exact Bool.or_false _
  refine ⟨fun hc => ⟨⟨hsent ▸ hc.carried, hreleased ▸ hc.released⟩, hconfirmed ▸ hc.confirmed⟩,
    fun hc => ⟨?_, ?_, ?_⟩⟩
  · rw [hsent]
    exact hc.1.1
  · rw [hreleased]
    exact hc.1.2
  · rw [hconfirmed]
    exact hc.2

/-- Where the request for the status sends no commands, a setup sends those of its session. -/
theorem run_sends (p : Platform) (identifier : String) (spanish pinSet : Bool) (c : Client)
    {asked : List Call → Prop} (ha : b.AsksBy asked)
    (hnone : ∀ calls, asked calls → ∀ text, .execute text ∉ calls) (hr : b.reporter.IsQuiet) :
    ∃ calls more reports r c₁, Session p b identifier spanish pinSet c calls reports r c₁ ∧
      (run p b identifier spanish pinSet c).2.transcript.calls =
        c.transcript.calls ++ (calls ++ more) ∧
      p.sent c.transcript.calls (calls ++ more) = p.sent c.transcript.calls calls := by
  obtain ⟨calls, reports, r, c₁, hsession, r', more, reports', c₂, hrun, hafter, -, hasked⟩ :=
    run_ending p identifier spanish pinSet c ha hr
  have hcalls : c₁.transcript.calls = c.transcript.calls ++ calls := hsession.follows.calls
  have hmore : ∀ text, .execute text ∉ more := by
    obtain ⟨-, hasked⟩ | ⟨-, rfl⟩ := hasked
    · exact hnone more hasked
    · simp
  refine ⟨calls, more, reports, r, c₁, hsession, ?_, ?_⟩
  · rw [hrun, hafter.calls, hcalls, List.append_assoc]
  · rw [Platform.sent_append, Platform.sent_eq_nil hmore, List.append_nil]

/-- They are the first ones of its plan. -/
theorem run_inOrder (p : Platform) (identifier : String) (spanish pinSet : Bool) (c : Client)
    {asked : List Call → Prop} (ha : b.AsksBy asked)
    (hnone : ∀ calls, asked calls → ∀ text, .execute text ∉ calls) (hr : b.reporter.IsQuiet) :
    ∃ calls, (run p b identifier spanish pinSet c).2.transcript.calls =
        c.transcript.calls ++ calls ∧
      InOrder b.protocol.commands (b.plan identifier spanish pinSet (b.drawnPin c))
        (p.sent c.transcript.calls calls) := by
  obtain ⟨calls, more, reports, r, c₁, hsession, hcalls, hsent⟩ :=
    run_sends p identifier spanish pinSet c ha hnone hr
  refine ⟨calls ++ more, hcalls, ?_⟩
  rw [hsent]
  exact hsession.planned.1

/-- Whatever the platform does, a setup keeps to its plan, and it succeeds exactly if it completes
it. -/
theorem run_planned (p : Platform) (b : Bootstrap) (identifier : String) (spanish pinSet : Bool)
    (c : Client) (hr : b.reporter.IsQuiet) (hs : b.requestStatus = perform p .requestStatus) :
    ∃ calls, (run p b identifier spanish pinSet c).2.transcript.calls =
        c.transcript.calls ++ calls ∧
      Planned p b.protocol.commands (b.plan identifier spanish pinSet (b.drawnPin c))
        c.transcript.calls calls (run p b identifier spanish pinSet c).1 := by
  obtain ⟨calls, reports, r, c₁, hsession, h⟩ :=
    runSession_visit p identifier spanish pinSet c hr
  have hcalls : c₁.transcript.calls = c.transcript.calls ++ calls := h.follows.calls
  obtain ⟨horder, hcarried⟩ := h.planned
  have hok := run_ok_iff (b := b) hs hsession
  obtain ⟨asked, more, hafter, -, hasked⟩ := run_asking hr hs hsession
  refine ⟨calls ++ asked, by rw [hafter.calls, hcalls, List.append_assoc], plan_nodup .., ?_, ?_⟩
  · rw [sent_asked hasked]
    exact horder
  · rw [hok]
    obtain ⟨rfl, rfl⟩ | ⟨hne, rfl⟩ := hasked
    · rw [completed_asked h.requestStatus_not_mem, hcarried, hcalls]
    · refine ⟨fun hr => absurd hr.1 hne, fun hc => ?_⟩
      rw [List.append_nil] at hc
      have hfalse := Platform.confirms_eq_false (p := p)
        h.requestStatus_not_mem c.transcript.calls
      exact absurd (hfalse.symm.trans hc.confirmed) Bool.false_ne_true

/-- The plan of a setup on a platform on which everything succeeds. -/
theorem run_planned_obliging :
    ∃ calls, (run .obliging (forAccount "a") "2065551234@x" true false
        (.new { root := ⟨.root, []⟩, configPath := none } none [1234567890])).2.transcript.calls =
          [] ++ calls ∧
      Planned .obliging Protocol.vvm3.commands
        [.setLanguage "6", .changePin "123456" "11234", .closeTutorial] [] calls
        (run .obliging (forAccount "a") "2065551234@x" true false
          (.new { root := ⟨.root, []⟩, configPath := none } none [1234567890])).1 :=
  run_planned .obliging (forAccount "a") "2065551234@x" true false _
    (Reporter.toBus_isQuiet .vvm3 "a") rfl

end Bootstrap

end Voicemail
