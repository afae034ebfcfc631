import Voicemail.Proofs.Bootstrap.Faultless
import Voicemail.Proofs.Except

/-!
# A closed session stays closed

A session is used by giving commands and by closing it, in any order and also after a use that
failed (`Use`). What the server is told is settled by the uses alone, however it answers: the
commands that have a text, up to the first closing, and that closing (`Use.calls`). An open session
stays open under every command (`Step.goes`) and a closed one is not touched by anything
(`Use.run_closed`), so a run follows the session through its uses (`Client.after_open`).
-/

namespace Voicemail

open Client

/-! ## Accepting responses -/

/-- Whether a response, without the blanks around it and in capitals, begins with `OK`. Only `o` and
`k` have these letters as their capitals. -/
def Client.beginsWithOk (response : String) : Bool :=
  ['O', 'K'].isPrefixOf ((Text.trim response.toList).map Char.toUpper)

/-- The capitals of the letters from `a` to `z`, and no others, are 32 code points before them. -/
theorem Client.toUpper_toNat (c : Char) :
    c.toUpper.toNat = if 97 ≤ c.toNat ∧ c.toNat ≤ 122 then c.toNat - 32 else c.toNat := by
  have hlower : 'a'.val ≤ c.val ∧ c.val ≤ 'z'.val ↔ 97 ≤ c.toNat ∧ c.toNat ≤ 122 := Iff.rfl
  unfold Char.toUpper
  simp only [hlower]
  split
  · -- The difference is taken by adding its complement, in 32 bits.
    rename_i h
    have hval : c.toNat = c.val.toNat := rfl
    show (c.val + 4294967264).toNat = c.val.toNat - 32
    have hcomplement : (4294967264 : UInt32).toNat = 4294967264 := rfl
    rw [UInt32.toNat_add, hcomplement]
    omega
  · rfl

/-- The letters with a certain capital. -/
theorem Client.toUpper_eq_iff {c upper lower : Char} (hu : 65 ≤ upper.toNat ∧ upper.toNat ≤ 90)
    (hl : lower.toNat = upper.toNat + 32) : c.toUpper = upper ↔ c = upper ∨ c = lower := by
  rw [← Char.toNat_inj, ← Char.toNat_inj, ← Char.toNat_inj, hl, toUpper_toNat]
  split <;> omega

/-- A response is accepted if it begins with `OK`. -/
theorem Client.isAccepted_eq (response : String) : isAccepted response = beginsWithOk response := by
  have hO (c : Char) : 'O' = c.toUpper ↔ c = 'O' ∨ c = 'o' :=
    eq_comm.trans (toUpper_eq_iff (by decide) (by decide))
  have hK (c : Char) : 'K' = c.toUpper ↔ c = 'K' ∨ c = 'k' :=
    eq_comm.trans (toUpper_eq_iff (by decide) (by decide))
  rw [Bool.eq_iff_iff]
  unfold isAccepted beginsWithOk
  rcases Text.trim response.toList with _ | ⟨a, _ | ⟨b, rest⟩⟩
  · simp
  · simp
  · simp only [List.map_cons, List.isPrefixOf_cons_cons, Bool.and_eq_true, beq_iff_eq, hO, hK,
      List.isPrefixOf_nil_left, and_true]
    split
    case h_5 hOK hOk hoK hok =>
      simp only [Bool.false_eq_true, false_iff]
      rintro ⟨rfl | rfl, rfl | rfl⟩
      · exact hOK _ rfl
      · exact hOk _ rfl
      · exact hoK _ rfl
      · exact hok _ rfl
    all_goals simp_all

/-! ## Uses -/

/-- What is asked of a session. -/
inductive Use where
  | command (step : Step)
  | close
  deriving DecidableEq, Repr

namespace Step

/-- The command that a step gives. -/
def command : Step → Command
  | setLanguage _ => .changeLanguage
  | changePin _ _ => .changeTuiPassword
  | closeTutorial => .closeNewUserTutorial

/-- Gives a command. A change of the PIN has an outcome. -/
def run (p : Platform) : Step → ClientM (Option PinChange)
  | setLanguage code => do
    Client.setLanguage p code
    return none
  | changePin new old => return some (← Client.changePin p new old)
  | closeTutorial => do
    Client.closeTutorial p
    return none

end Step

namespace Use

/-- Does what is asked of the session. -/
def run (p : Platform) : Use → ClientM (Option PinChange)
  | command step => step.run p
  | close => do
    closeSession p
    return none

/-- What a closed session makes of a use. -/
def refusal : Use → Except Failure (Option PinChange)
  | command step => .error (.sessionClosed step.command)
  | close => .ok none

/-- What the server is told by the uses of a session. -/
def calls (table : CommandTable) : List Use → List Call
  | [] => []
  | close :: _ => [.closeSession]
  | command step :: rest =>
    match step.text table with
    | .ok text => .execute text :: calls table rest
    | .error _ => calls table rest

end Use

/-- The client after uses of its session, whatever became of each of them. -/
def Client.afterUses (p : Platform) (uses : List Use) (c : Client) : Client :=
  uses.foldl (fun c use => (use.run p c).2) c

/-! ## What the server is told -/

namespace Use

variable {table : CommandTable}

/-- The server is told of a closing once if there is one, and else not at all. -/
theorem calls_countP (uses : List Use) :
    (calls table uses).countP Call.isClose = if .close ∈ uses then 1 else 0 := by
  induction uses with
  | nil => rfl
  | cons use rest ih =>
    cases use with
    | close => simp [calls, Call.isClose]
    | command step =>
      have hmem : .close ∈ command step :: rest ↔ .close ∈ rest := by simp
      simp only [calls, hmem, ← ih]
      cases step.text table with
      | error => rfl
      | ok text => simp [Call.isClose]

/-- The server is told nothing after a closing. -/
theorem calls_last {uses : List Use} {before later : List Call}
    (h : calls table uses = before ++ .closeSession :: later) : later = [] := by
  induction uses generalizing before with
  | nil => simp [calls] at h
  | cons use rest ih =>
    cases use with
    | close =>
      cases before with
      | nil => exact (List.cons.inj h).2.symm
      | cons => simp [calls] at h
    | command step =>
      unfold calls at h
      split at h
      · cases before with
        | nil => cases h
        | cons first before => exact ih (List.cons.inj h).2
      · exact ih h

end Use

/-! ## Commands of an open session -/

/-- What a command of an open session does: its result, and the client afterwards. -/
structure Step.Goes (p : Platform) (table : CommandTable) (step : Step) (c : Client)
    (result : Except Failure (Option PinChange)) (c' : Client) : Prop where
  /-- The session stays open, whatever happens. -/
  isOpen : c'.session = some table
  /-- A command that has no text is not sent. -/
  unwritten : ∀ e, step.text table = .error e →
    result = .error (.command e) ∧ c'.transcript.calls = c.transcript.calls
  /-- A command that has a text is sent, and nothing else. -/
  sent : ∀ text, step.text table = .ok text →
    c'.transcript.calls = c.transcript.calls ++ [.execute text]
  /-- A fault passes through unchanged. -/
  faulted : ∀ text f, step.text table = .ok text →
    p.respond c.transcript.calls (.execute text) = .error f → result = .error (.fault f)
  /-- What is responded makes a command fail that may not be rejected, if it does not begin with
  `OK`, and no other. -/
  rejected : ∀ text response, step.text table = .ok text →
    p.respond c.transcript.calls (.execute text) = .ok response →
    ((∃ e, result = .error e) ↔ step.isTolerant = false ∧ beginsWithOk response = false)
  /-- It is then a failure of the session. -/
  isSession : ∀ text response e, step.text table = .ok text →
    p.respond c.transcript.calls (.execute text) = .ok response → result = .error e →
    e.isSession = true

namespace Client.Reply

variable {p : Platform} {table : CommandTable} {command : Command}
  {params : List (String × Json)} {history calls : List Call} {r : Except Failure String}

/-- A command without a text is not sent. -/
theorem eq_of_unwritten {e : CommandError} (h : Reply p table command params history calls r)
    (unwritten : table.render command params = .error e) :
    calls = [] ∧ r = .error (.command e) := by
  cases h with
  | unwritten text =>
    obtain rfl := Except.error.inj (text.symm.trans unwritten)
    exact ⟨rfl, rfl⟩
  | faulted written | answered written => cases written.symm.trans unwritten

/-- A command with a text is sent, and its answer is the reply. -/
theorem eq_of_written {text : String} (h : Reply p table command params history calls r)
    (written : table.render command params = .ok text) :
    calls = [.execute text] ∧ r = (p.respond history (.execute text)).mapError .fault := by
  cases h with
  | unwritten unwritten => cases unwritten.symm.trans written
  | faulted written' answer | answered written' answer =>
    obtain rfl := Except.ok.inj (written'.symm.trans written)
    exact ⟨rfl, by rw [answer]; rfl⟩

end Client.Reply

namespace Step

variable {p : Platform} {table : CommandTable} {c : Client}

/-- The parameters of a command. -/
def params : Step → List (String × Json)
  | setLanguage code => [("language", .str code)]
  | changePin new old => [("new_pin", .str new), ("old_pin", .str old)]
  | closeTutorial => []

/-- What a command makes of a reply. -/
def outcome : Step → Except Failure String → Except Failure (Option PinChange)
  | setLanguage _, r => (verdict .languageRejected r).map fun _ => none
  | changePin _ _, r => (r.map pinVerdict).map some
  | closeTutorial, r => (verdict .tutorialRejected r).map fun _ => none

/-- The text of a command is its template with its parameters. -/
theorem text_eq_render (table : CommandTable) (step : Step) :
    step.text table = table.render step.command step.params := by
  cases step <;> rfl

/-- A failure to get a response is the failure of the command. -/
theorem outcome_error (step : Step) (e : Failure) : step.outcome (.error e) = .error e := by
  cases step <;> rfl

/-- The responses that make a command fail. -/
theorem outcome_isError_iff (step : Step) (response : String) :
    (∃ e, step.outcome (.ok response) = .error e) ↔
      step.isTolerant = false ∧ beginsWithOk response = false := by
  rw [← isAccepted_eq]
  cases step with
  | changePin => simp [outcome, Except.map, isTolerant]
  | setLanguage | closeTutorial =>
    cases ha : isAccepted response <;> simp [outcome, verdict, ha, Except.map, isTolerant]

/-- A response can only make a command fail as a failure of the session. -/
theorem outcome_isSession {step : Step} {response : String} {e : Failure}
    (h : step.outcome (.ok response) = .error e) : e.isSession = true := by
  cases step with
  | changePin => cases h
  | setLanguage | closeTutorial => exact verdict_error (fun _ => rfl) (error_of_map h)

/-- A command in an open session has the outcome of its reply. -/
theorem run_reply (h : c.session = some table) (step : Step) :
    ∃ calls r c', step.run p c = (step.outcome r, c') ∧
      Reply p table step.command step.params c.transcript.calls calls r ∧ After c calls [] c' := by
  have hbind {α β : Type} {m : ClientM α} {x : Except Failure α} {c' : Client} {f : α → β}
      (hm : m c = (x, c')) : (do return f (← m) : ClientM β) c = (x.map f, c') := by
    rw [bind_pure_apply, hm]
  cases step with
  | setLanguage code =>
    obtain ⟨calls, r, c', hrun, hreply, hafter⟩ := setLanguage_reply (p := p) h code
    exact ⟨calls, r, c', hbind hrun, hreply, hafter⟩
  | changePin new old =>
    obtain ⟨calls, r, c', hrun, hreply, hafter⟩ := changePin_reply (p := p) h new old
    exact ⟨calls, r, c', hbind hrun, hreply, hafter⟩
  | closeTutorial =>
    obtain ⟨calls, r, c', hrun, hreply, hafter⟩ := closeTutorial_reply (p := p) h
    exact ⟨calls, r, c', hbind hrun, hreply, hafter⟩

/-- What a command does while the session is open. -/
theorem goes (p : Platform) (h : c.session = some table) (step : Step) :
    step.Goes p table c (step.run p c).1 (step.run p c).2 := by
  obtain ⟨calls, r, c', hrun, hreply, hafter⟩ := run_reply (p := p) h step
  rw [hrun]
  refine ⟨hafter.session.trans h, ?_, ?_, ?_, ?_, ?_⟩ <;> rw [text_eq_render]
  · intro e unwritten
    obtain ⟨rfl, rfl⟩ := hreply.eq_of_unwritten unwritten
    exact ⟨step.outcome_error _, by simpa using hafter.calls⟩
  · intro text written
    obtain ⟨rfl, -⟩ := hreply.eq_of_written written
    exact hafter.calls
  · intro text f written answer
    obtain ⟨-, rfl⟩ := hreply.eq_of_written written
    rw [answer]
    exact step.outcome_error _
  · intro text response written answer
    obtain ⟨-, rfl⟩ := hreply.eq_of_written written
    rw [answer]
    exact step.outcome_isError_iff response
  · intro text response e written answer failed
    obtain ⟨-, rfl⟩ := hreply.eq_of_written written
    rw [answer] at failed
    exact outcome_isSession failed

end Step

/-! ## Runs -/

namespace Client

variable {p : Platform} {table : CommandTable} {c : Client}

/-- A closed session is not touched by what is asked of it. -/
theorem run_closed (p : Platform) (h : c.session = none) (use : Use) :
    use.run p c = (use.refusal, c) := by
  have hexecute (command : Command) (params : List (String × Json)) :
      execute p command params c = (.error (.sessionClosed command), c) := by
    simp only [execute, bind_ok (get_apply c), h, throw_apply]
  cases use with
  | close =>
    simp only [Use.run, closeSession, bind_apply, get_apply, h]
    rfl
  | command step =>
    cases step with
    | setLanguage code => exact bind_error (bind_error (hexecute ..))
    | changePin new old => exact bind_error (bind_error (hexecute ..))
    | closeTutorial => exact bind_error (bind_error (hexecute ..))

/-- Closing an open session is one call whose answer it passes on, and the session counts as closed
whatever that is. -/
theorem run_close (p : Platform) (h : c.session = some table) :
    (Use.close.run p c).1 = (p.closed c.transcript.calls).map (fun _ => none) ∧
      (Use.close.run p c).2.transcript.calls = c.transcript.calls ++ [.closeSession] ∧
      (Use.close.run p c).2.session = none := by
  obtain ⟨c', hclose, hafter⟩ := After.closeSession p (c := c) (by rw [h]; rfl)
  simp only [Use.run, bind_apply, hclose]
  cases p.closed c.transcript.calls with
  | error | ok => exact ⟨rfl, hafter.calls, hafter.session⟩

/-- A closed session stays as it is. -/
theorem after_closed (h : c.session = none) (uses : List Use) : afterUses p uses c = c := by
  induction uses with
  | nil => rfl
  | cons use rest ih =>
    rw [afterUses, List.foldl_cons, run_closed p h]
    exact ih

/-- An open session tells the server what its uses are about, and is open as long as none of them
closed it. -/
theorem after_open (h : c.session = some table) (uses : List Use) :
    (afterUses p uses c).transcript.calls = c.transcript.calls ++ Use.calls table uses ∧
      (afterUses p uses c).session = if .close ∈ uses then none else some table := by
  induction uses generalizing c with
  | nil => simp [afterUses, Use.calls, h]
  | cons use rest ih =>
    cases use with
    | close =>
      obtain ⟨-, hcalls, hclosed⟩ := run_close p h
      have hrest : afterUses p (.close :: rest) c = (Use.close.run p c).2 :=
        after_closed hclosed rest
      rw [hrest]
      exact ⟨hcalls, by simpa using hclosed⟩
    | command step =>
      have hgoes := step.goes p h
      have hrest : afterUses p (.command step :: rest) c = afterUses p rest (step.run p c).2 := rfl
      obtain ⟨hcalls, hsession⟩ := ih hgoes.isOpen
      rw [hrest, hcalls, Use.calls]
      refine ⟨?_, by simpa using hsession⟩
      cases ht : step.text table with
      | error e => rw [(hgoes.unwritten e ht).2]
      | ok text => rw [hgoes.sent text ht, List.append_assoc, List.singleton_append]

/-- How the uses of a session go that is open at first. -/
structure Closing (p : Platform) (table : CommandTable) (c : Client) (uses : List Use) : Prop where
  /-- The server is told of the commands that have a text, up to the first closing, and of that. -/
  calls : (afterUses p uses c).transcript.calls = c.transcript.calls ++ Use.calls table uses
  /-- It is told of one closing if there is one, and else of none. -/
  once : (Use.calls table uses).countP Call.isClose = if .close ∈ uses then 1 else 0
  /-- It is told nothing after the closing. -/
  last : ∀ before later, Use.calls table uses = before ++ .closeSession :: later → later = []
  /-- Before the first closing a next command goes as its text and the answer have it. -/
  goes : .close ∉ uses → ∀ step : Step, step.Goes p table (afterUses p uses c)
    (step.run p (afterUses p uses c)).1 (step.run p (afterUses p uses c)).2
  /-- The first closing passes the answer on. -/
  closes : .close ∉ uses → (Use.close.run p (afterUses p uses c)).1 =
    (p.closed (afterUses p uses c).transcript.calls).map fun _ => none
  /-- After a closing, whatever its answer was, commands are refused and closing again does
  nothing. -/
  refuses : .close ∈ uses → ∀ use : Use, use.run p (afterUses p uses c) =
    (use.refusal, afterUses p uses c)

/-- A session that was closed stays closed, for every way to use it and every server. -/
theorem session_stays_closed (p : Platform) (table : CommandTable) (c : Client) (uses : List Use) :
    Closing p table { c with session := some table } uses := by
  obtain ⟨hcalls, hsession⟩ := after_open (p := p) (c := { c with session := some table }) rfl uses
  refine ⟨hcalls, Use.calls_countP uses, fun _ _ => Use.calls_last, ?_, ?_, ?_⟩
  · intro hnot step
    rw [if_neg hnot] at hsession
    exact step.goes p hsession
  · intro hnot
    rw [if_neg hnot] at hsession
    exact (run_close p hsession).1
  · intro hmem
    rw [if_pos hmem] at hsession
    exact run_closed p hsession

end Client

end Voicemail
