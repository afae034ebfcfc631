import Voicemail.Proofs.Bootstrap.Setup

/-!
# What the setup acquires and releases

The calls of a setup in their order (`Bootstrap.Scoped`): what was acquired is released exactly once
and in the reverse order, commands are sent in between, and the status is asked for at the very end
and only after a setup that was carried through. This holds for every behaviour of the platform
(`Bootstrap.run_scoped`), because each of the four courses of a visit has such calls.
-/

namespace Voicemail

namespace Call

/-- How far a setup has come with a call. -/
def stage : Call → Nat
  | .requestNetwork _ => 0
  | .openSession _ _ => 1
  | .execute _ => 2
  | .closeSession => 3
  | .releaseNetwork _ => 4
  | .requestStatus | .sendMessage _ _ _ | .subscribe _ _ => 5

/-- The account for which a call requests a network. -/
def requested? : Call → Option String
  | .requestNetwork account => some account
  | _ => none

/-- The token that a call releases. -/
def released? : Call → Option String
  | .releaseNetwork token => some token
  | _ => none

/-- The network on which a call opens a session, and the account. -/
def opened? : Call → Option (String × String)
  | .openSession network account => some (network, account)
  | _ => none

/-- Whether a call closes a session. -/
def isClose : Call → Bool
  | .closeSession => true
  | _ => false

/-- Whether a call asks for the status. -/
def isStatusRequest : Call → Bool
  | .requestStatus => true
  | _ => false

end Call

namespace Bootstrap

open Client

/-- Whether a session opens on a network that was offered. -/
def opens (p : Platform) (account : String) (past : List Call) : Prop :=
  ∃ network ∈ p.offered account past,
    p.respond (past ++ [.requestNetwork account]) (.openSession network account) = .ok ()

/-- The session ran to its end: the commands were carried through in it, and closing it and
releasing its network did not fail. -/
def CarriedThrough (p : Platform) (b : Bootstrap) (identifier : String) (spanish pinSet : Bool)
    (c : Client) : Prop :=
  ∃ network ∈ p.offered b.account c.transcript.calls,
    ∃ token ∈ p.granted b.account c.transcript.calls, ∃ inside done,
      After { c with session := some b.protocol.commands }
          [.requestNetwork b.account, .openSession network b.account] [] inside ∧
        runCommands p b identifier spanish pinSet inside = (.ok true, done) ∧
        p.closed done.transcript.calls = .ok () ∧
        p.released (done.transcript.calls ++ [.closeSession]) token = .ok ()

/-- The calls that a setup makes for a client respect what they acquire. -/
structure Scoped (p : Platform) (b : Bootstrap) (identifier : String) (spanish pinSet : Bool)
    (c : Client) (calls : List Call) : Prop where
  /-- A session is opened after its network came, commands are sent while it is open, it is closed
  before the network is released, and only the status is asked for after that. -/
  staged : (calls.map Call.stage).Pairwise (· ≤ ·)
  /-- A network is requested once. -/
  requested : calls.filterMap Call.requested? = [b.account]
  /-- It is released exactly if the platform took the request, once and with its token. -/
  released : calls.filterMap Call.released? = p.granted b.account c.transcript.calls
  /-- A session is opened on the network that is offered first, and on no other. -/
  opened : calls.filterMap Call.opened? =
    (p.offered b.account c.transcript.calls).map fun network => (network, b.account)
  /-- It is closed once if it opened, -/
  closed : opens p b.account c.transcript.calls → calls.countP Call.isClose = 1
  /-- and not at all otherwise, -/
  unopened : ¬opens p b.account c.transcript.calls → calls.countP Call.isClose = 0
  /-- when no command is sent either. -/
  executed : ∀ text, .execute text ∈ calls → opens p b.account c.transcript.calls
  /-- The status is asked for at most once, -/
  askedOnce : calls.countP Call.isStatusRequest ≤ 1
  /-- and only after a session that ran to its end. -/
  asked : .requestStatus ∈ calls → CarriedThrough p b identifier spanish pinSet c

variable {p : Platform} {b : Bootstrap} {identifier : String} {spanish pinSet : Bool}
  {c c' : Client} {calls : List Call} {reports : List String} {r : Except Failure Bool}

/-! ## Where nothing opens -/

/-- Nothing opens where no network is offered. -/
theorem not_opens {account : String} {past : List Call} (h : p.offered account past = []) :
    ¬opens p account past := by
  rintro ⟨network, hmem, -⟩
  rw [h] at hmem
  cases hmem

/-! ## The layout of the calls -/

/-- Calls of a setup, stage by stage. -/
def layout (account : String) (networks texts : List String) (closings : Nat)
    (tokens : List String) (requests : Nat) : List Call :=
  .requestNetwork account :: (networks.map (.openSession · account) ++ (texts.map .execute ++
    (List.replicate closings .closeSession ++ (tokens.map .releaseNetwork ++
      List.replicate requests .requestStatus))))

section
variable (account : String) (networks texts : List String) (closings : Nat)
  (tokens : List String) (requests : Nat)

/-- The stages of a layout do not go back. -/
theorem layout_staged :
    ((layout account networks texts closings tokens requests).map Call.stage).Pairwise (· ≤ ·) := by
  have hstages : (layout account networks texts closings tokens requests).map Call.stage =
      0 :: (List.replicate networks.length 1 ++ (List.replicate texts.length 2 ++
        (List.replicate closings 3 ++ (List.replicate tokens.length 4 ++
          List.replicate requests 5)))) := by
    simp [layout, Call.stage, Function.comp_def, List.map_const']
  rw [hstages]
  simp only [List.pairwise_cons, List.pairwise_append, List.pairwise_replicate, List.mem_append,
    List.mem_replicate]
  grind

@[simp] theorem layout_requested :
    (layout account networks texts closings tokens requests).filterMap Call.requested? =
      [account] := by
  simp [layout, Call.requested?, Function.comp_def]

@[simp] theorem layout_released :
    (layout account networks texts closings tokens requests).filterMap Call.released? =
      tokens := by
  have hnone : ∀ xs : List String, xs.filterMap (fun _ => (none : Option String)) = [] :=
    fun xs => List.filterMap_eq_nil_iff.2 fun _ _ => rfl
  simp [layout, Call.released?, Function.comp_def, List.filterMap_cons, List.filterMap_replicate,
    hnone]

@[simp] theorem layout_opened :
    (layout account networks texts closings tokens requests).filterMap Call.opened? =
      networks.map fun network => (network, account) := by
  simp [layout, Call.opened?, Function.comp_def, List.filterMap_cons, List.filterMap_replicate]

@[simp] theorem layout_closings :
    (layout account networks texts closings tokens requests).countP Call.isClose = closings := by
  simp [layout, Call.isClose, Function.comp_def, List.countP_replicate]

@[simp] theorem layout_requests :
    (layout account networks texts closings tokens requests).countP Call.isStatusRequest =
      requests := by
  simp [layout, Call.isStatusRequest, Function.comp_def, List.countP_replicate]

/-- The commands of a layout are those whose texts it has. -/
theorem mem_layout_execute (text : String) :
    .execute text ∈ layout account networks texts closings tokens requests ↔ text ∈ texts := by
  simp [layout, List.mem_replicate]

/-- The status is asked for in a layout exactly if it is asked for at its end. -/
theorem mem_layout_requestStatus :
    .requestStatus ∈ layout account networks texts closings tokens requests ↔ requests ≠ 0 := by
  simp [layout, List.mem_replicate]

end

/-! ## The calls of the four courses -/

/-- The calls of a setup in which no session opens. -/
theorem scoped_unopened {networks tokens : List String}
    (hgranted : p.granted b.account c.transcript.calls = tokens)
    (hoffered : p.offered b.account c.transcript.calls = networks)
    (h : ¬opens p b.account c.transcript.calls) :
    Scoped p b identifier spanish pinSet c (layout b.account networks [] 0 tokens 0) where
  staged := layout_staged ..
  requested := layout_requested ..
  released := by rw [hgranted, layout_released]
  opened := by rw [hoffered, layout_opened]
  closed := fun ho => absurd ho h
  unopened := fun _ => layout_closings ..
  executed := fun text hmem => by
    rw [mem_layout_execute] at hmem
    cases hmem
  askedOnce := by rw [layout_requests]; exact Nat.zero_le 1
  asked := fun hmem => absurd rfl ((mem_layout_requestStatus ..).1 hmem)

/-- The calls of a setup in which a session opens. -/
theorem scoped_opened {network token : String}
    (hgranted : p.granted b.account c.transcript.calls = [token])
    (hoffered : p.offered b.account c.transcript.calls = [network])
    (h : opens p b.account c.transcript.calls) (texts : List String) {requests : Nat}
    (hle : requests ≤ 1)
    (hasked : requests ≠ 0 → CarriedThrough p b identifier spanish pinSet c) :
    Scoped p b identifier spanish pinSet c
      (layout b.account [network] texts 1 [token] requests) where
  staged := layout_staged ..
  requested := layout_requested ..
  released := by rw [hgranted, layout_released]
  opened := by rw [hoffered, layout_opened]
  closed := fun _ => layout_closings ..
  unopened := fun hn => absurd h hn
  executed := fun _ _ => h
  askedOnce := by rwa [layout_requests]
  asked := fun hmem => hasked ((mem_layout_requestStatus ..).1 hmem)

/-- The calls of a session, and the request for the status if it was carried through, respect what
they acquire. -/
theorem Session.scoped (h : Session p b identifier spanish pinSet c calls reports r c')
    {asked : List Call} (ha : asked = [] ∨ r = .ok true ∧ asked = [.requestStatus]) :
    Scoped p b identifier spanish pinSet c (calls ++ asked) := by
  cases h with
  | refused request after =>
    obtain rfl | ⟨⟨⟩, -⟩ := ha
    have hoffered := Platform.offered_refused request
    exact scoped_unopened (Platform.granted_nil request) hoffered (not_opens hoffered)
  | noNetwork request first after =>
    obtain rfl | ⟨hok, -⟩ := ha
    · have hoffered := Platform.offered_nil request first
      exact scoped_unopened (Platform.granted_singleton request) hoffered (not_opens hoffered)
    · cases (seq_ok hok).2
  | notOpened request first opening after =>
    obtain rfl | ⟨hok, -⟩ := ha
    · have hoffered := Platform.offered_singleton request first
      refine scoped_unopened (Platform.granted_singleton request) hoffered ?_
      rintro ⟨network, hmem, hopened⟩
      rw [hoffered, List.mem_singleton] at hmem
      rw [hmem, opening] at hopened
      cases hopened
    · cases (seq_ok hok).2
  | worked request first opening before work after =>
    have hgranted := Platform.granted_singleton request
    have hoffered := Platform.offered_singleton request first
    have hopens : opens p b.account c.transcript.calls := ⟨_, by rw [hoffered]; simp, opening⟩
    obtain ⟨texts, rfl⟩ := work.2.calls_execute
    obtain rfl | ⟨hok, rfl⟩ := ha
    · have : Scoped p b identifier spanish pinSet c _ :=
        scoped_opened hgranted hoffered hopens texts (Nat.zero_le 1) (absurd rfl)
      simpa [layout] using this
    · obtain ⟨hreleased, hok⟩ := seq_ok hok
      obtain ⟨hclosed, rfl⟩ := seq_ok hok
      have hcarried : CarriedThrough p b identifier spanish pinSet c :=
        ⟨_, by rw [hoffered]; exact .head _, _, by rw [hgranted]; exact .head _, _, _, before,
          work.1, hclosed, hreleased⟩
      have := scoped_opened hgranted hoffered hopens texts (Nat.le_refl 1) fun _ => hcarried
      simpa [layout] using this

/-- Whatever the platform does, the calls of a setup respect what they acquire. -/
theorem run_scoped (p : Platform) (b : Bootstrap) (identifier : String) (spanish pinSet : Bool)
    (c : Client) (hr : b.reporter.IsQuiet)
    (hs : b.requestStatus = Client.perform p .requestStatus) :
    ∃ calls, (run p b identifier spanish pinSet c).2.transcript.calls =
        c.transcript.calls ++ calls ∧
      Scoped p b identifier spanish pinSet c calls := by
  have ha : b.AsksBy (· = [.requestStatus]) := by
    intro c
    obtain ⟨c', h, hafter⟩ := After.perform p .requestStatus c
    exact ⟨_, _, c', by rw [hs, h], rfl, hafter⟩
  obtain ⟨calls, reports, r, c₁, hsession, r', more, reports', c₂, hrun, hafter, -, hmore⟩ :=
    run_ending p identifier spanish pinSet c ha hr
  have hvisit : c₁.transcript.calls = c.transcript.calls ++ calls := hsession.follows.calls
  refine ⟨calls ++ more, ?_, hsession.scoped ?_⟩
  · rw [hrun, hafter.calls, hvisit, List.append_assoc]
  · exact hmore.elim (fun h => .inr h) fun h => .inl h.2

/-- The setup of an account that reports to the client's bus. -/
def forAccount (account : String) : Bootstrap where
  protocol := .vvm3
  account := account
  reporter := .toBus .vvm3 account
  requestStatus := Client.perform .obliging .requestStatus
  networkTimeout := .real (.ofInt 60)
  defaultPinLength := 6

/-- The calls of a setup on a platform on which everything succeeds. -/
theorem run_scoped_obliging :
    ∃ calls, (run .obliging (forAccount "a") "2065551234@x" false false
        (.new { root := ⟨.root, []⟩, configPath := none } none [])).2.transcript.calls =
          [] ++ calls ∧
      Scoped .obliging (forAccount "a") "2065551234@x" false false
        (.new { root := ⟨.root, []⟩, configPath := none } none []) calls :=
  run_scoped .obliging (forAccount "a") "2065551234@x" false false _
    (Reporter.toBus_isQuiet .vvm3 "a") rfl

end Bootstrap

end Voicemail
