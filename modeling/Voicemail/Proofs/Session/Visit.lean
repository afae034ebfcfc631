import Voicemail.Proofs.Client.After
import Voicemail.Session

/-!
# Visits to the carrier's server

A visit is the work in a session on a network. It goes one of four ways (`Client.Visit`): the
request for a network is refused, the network does not come, the session does not open, or the
client works in it. What was acquired is released in each of them, the session before the network,
and a failure of a release takes the place of what the visit would have given.
-/

namespace Voicemail

/-- A network that is there is the one that the first reply offers. -/
theorem Client.firstNetwork_ok {account : String} {limit : TimeLimit}
    {replies : List NetworkReply} {network : String}
    (h : Client.firstNetwork account limit replies = .ok network) :
    ∃ rest, replies = .available network :: rest := by
  cases replies with
  | nil => cases h
  | cons reply rest =>
    cases reply with
    | available => cases h; exact ⟨rest, rfl⟩
    | unavailable => cases h

namespace Platform

variable {p : Platform}

/-- What closing the session gives. -/
def closed (p : Platform) (history : List Call) : Except Failure Unit :=
  (p.respond history .closeSession).mapError .fault

/-- What releasing the network gives. -/
def released (p : Platform) (history : List Call) (token : String) : Except Failure Unit :=
  (p.respond history (.releaseNetwork token)).mapError .fault

/-- The tokens of a request for a network: one if the platform takes it, else none. -/
def granted (p : Platform) (account : String) (past : List Call) : List String :=
  match p.respond past (.requestNetwork account) with
  | .ok grant => [grant.token]
  | .error _ => []

/-- The network that the platform offers first, if it offers one. -/
def offered (p : Platform) (account : String) (past : List Call) : List String :=
  match p.respond past (.requestNetwork account) with
  | .ok ⟨_, .available network :: _⟩ => [network]
  | _ => []

/-- A refused request offers no network. -/
theorem offered_refused {account : String} {past : List Call} {f : Fault}
    (request : p.respond past (.requestNetwork account) = .error f) :
    p.offered account past = [] := by
  simp only [offered, request]

/-- A request that is refused has no token. -/
theorem granted_nil {account : String} {past : List Call} {f : Fault}
    (request : p.respond past (.requestNetwork account) = .error f) :
    p.granted account past = [] := by
  simp only [granted, request]

/-- A request that is taken has its token. -/
theorem granted_singleton {account : String} {past : List Call} {grant : NetworkGrant}
    (request : p.respond past (.requestNetwork account) = .ok grant) :
    p.granted account past = [grant.token] := by
  simp only [granted, request]

/-- A grant whose first reply has no network offers none. -/
theorem offered_nil {account : String} {past : List Call} {limit : TimeLimit}
    {grant : NetworkGrant} {e : Failure}
    (request : p.respond past (.requestNetwork account) = .ok grant)
    (first : Client.firstNetwork account limit grant.replies = .error e) :
    p.offered account past = [] := by
  obtain ⟨token, replies⟩ := grant
  unfold offered
  rw [request]
  match replies, first with
  | [], _ | .unavailable :: _, _ => rfl

/-- A grant whose first reply has a network offers it. -/
theorem offered_singleton {account : String} {past : List Call} {limit : TimeLimit}
    {grant : NetworkGrant} {network : String}
    (request : p.respond past (.requestNetwork account) = .ok grant)
    (first : Client.firstNetwork account limit grant.replies = .ok network) :
    p.offered account past = [network] := by
  obtain ⟨token, replies⟩ := grant
  obtain ⟨rest, rfl⟩ := Client.firstNetwork_ok first
  simp only [offered, request]

/-- A platform on which everything succeeds. -/
def obliging : Platform where
  respond _
    | .requestNetwork _ => .ok ⟨"token", [.available "network"]⟩
    | .execute _ => .ok "OK"
    | .releaseNetwork _ | .openSession _ _ | .closeSession | .sendMessage _ _ _ | .subscribe _ _
    | .requestStatus => .ok ()

/-- A platform on which everything succeeds but certain calls. -/
def faulting (faults : Call → Option Fault) : Platform where
  respond past call :=
    match faults call with
    | some f => .error f
    | none => obliging.respond past call

end Platform

namespace Client

variable {α : Type} {p : Platform} {c : Client} {account : String} {table : CommandTable}

/-! ## Networks -/

/-- The failure that a refused request is. A fault of input or output means that there is no
network. -/
def refusal (account : String) (f : Fault) : Failure :=
  if (Failure.fault f).isIo then .networkRefused account f.message else .fault f

/-- Replies after the first are passed over. -/
theorem After.ignoreReplies (account : String) (replies : List NetworkReply) (c : Client) :
    ∃ c', Client.ignoreReplies account replies c = (.ok (), c') ∧ After c [] [] c' := by
  induction replies generalizing c with
  | nil => exact ⟨c, rfl, .refl c⟩
  | cons reply rest ih =>
    have hone : ∃ c', ignoreReply account reply c = (.ok (), c') ∧ After c [] [] c' := by
      cases reply <;> exact After.say .network (by decide) .debug _ c
    obtain ⟨c₁, h₁, hafter₁⟩ := hone
    obtain ⟨c₂, h₂, hafter₂⟩ := ih c₁
    exact ⟨c₂, by rw [Client.ignoreReplies, bind_ok h₁, h₂], hafter₁.quietly hafter₂⟩

/-- A request that the platform takes. -/
theorem requestNetwork_granted {grant : NetworkGrant}
    (h : p.respond c.transcript.calls (.requestNetwork account) = .ok grant) :
    ∃ c', requestNetwork p account c = (.ok grant, c') ∧
      After c [.requestNetwork account] [] c' := by
  obtain ⟨c₁, h₁, hafter₁⟩ := After.perform p (.requestNetwork account) c
  rw [h] at h₁
  have hattempt : attempt (perform p (.requestNetwork account)) c = (.ok (.ok grant), c₁) := by
    rw [attempt_apply, h₁]
    rfl
  obtain ⟨c₂, h₂, hafter₂⟩ := After.ignoreReplies account grant.replies.tail c₁
  refine ⟨c₂, ?_, hafter₁.quietly hafter₂⟩
  rw [requestNetwork, bind_ok hattempt]
  simp only [bind_ok h₂]
  rfl

/-- A request that the platform does not take. -/
theorem requestNetwork_refused {f : Fault}
    (h : p.respond c.transcript.calls (.requestNetwork account) = .error f) :
    ∃ c', requestNetwork p account c = (.error (refusal account f), c') ∧
      After c [.requestNetwork account] [] c' := by
  obtain ⟨c₁, h₁, hafter₁⟩ := After.perform p (.requestNetwork account) c
  rw [h] at h₁
  have hattempt : attempt (perform p (.requestNetwork account)) c =
      (.ok (.error (.fault f)), c₁) := by
    rw [attempt_apply, h₁]
    rfl
  refine ⟨c₁, ?_, hafter₁⟩
  rw [requestNetwork, bind_ok hattempt]
  rfl

/-- Releasing is one call, whatever its answer. -/
theorem After.releaseNetwork (p : Platform) (account token : String) (c : Client) :
    ∃ c', Client.releaseNetwork p account token c = (p.released c.transcript.calls token, c') ∧
      After c [.releaseNetwork token] [] c' := by
  obtain ⟨c₁, h₁, hafter₁⟩ := After.perform p (.releaseNetwork token) c
  unfold Platform.released
  cases hr : p.respond c.transcript.calls (.releaseNetwork token) with
  | error f =>
    rw [hr] at h₁
    exact ⟨c₁, bind_error h₁, hafter₁⟩
  | ok =>
    rw [hr] at h₁
    obtain ⟨c₂, h₂, hafter₂⟩ := After.say .network (by decide) .debug
      s!"Network released for {account}" c₁
    exact ⟨c₂, (bind_ok h₁).trans h₂, hafter₁.quietly hafter₂⟩

/-! ## Sessions -/

/-- Closing an open session is one call, after which the session counts as closed whatever the
answer was. -/
theorem After.closeSession (p : Platform) (h : c.session.isSome) :
    ∃ c', Client.closeSession p c = (p.closed c.transcript.calls, c') ∧
      After { c with session := none } [.closeSession] [] c' := by
  obtain ⟨c₁, h₁, hafter₁⟩ := After.perform p .closeSession { c with session := none }
  refine ⟨c₁, ?_, hafter₁⟩
  simp only [Client.closeSession, bind_ok (get_apply c), h, if_true]
  rw [bind_ok (modify_apply _ c), h₁]
  rfl

/-- The cleanup is done, and its failure takes the place of what the body gave. -/
theorem ensuring_apply {body : ClientM α} {cleanup : ClientM Unit} {r : Except Failure α}
    {cleaned : Except Failure Unit} {c₁ c₂ : Client} (hbody : body c = (r, c₁))
    (hcleanup : cleanup c₁ = (cleaned, c₂)) :
    ensuring body cleanup c = (cleaned >>= fun _ => r, c₂) := by
  simp only [ensuring, hbody, hcleanup]
  cases cleaned <;> rfl

/-- Where a cleanup and then something else succeed, both do. -/
theorem seq_ok {cleaned : Except Failure Unit} {r : Except Failure α} {a : α}
    (h : (cleaned >>= fun _ => r) = .ok a) : cleaned = .ok () ∧ r = .ok a := by
  cases cleaned with
  | error => cases h
  | ok => exact ⟨rfl, h⟩

/-! ## Visits -/

/-- How some work on a network goes: for the client before it the calls and reports that it makes,
its result, and the client afterwards. -/
abbrev Work (α : Type) : Type :=
  String → Client → List Call → List String → Except Failure α → Client → Prop

/-- How a visit goes in which some work is done: its calls and reports, its result, and the client
afterwards. -/
inductive Visit (p : Platform) (table : CommandTable) (account : String) (limit : TimeLimit)
    (W : Work α) (c : Client) : List Call → List String → Except Failure α → Client → Prop
  /-- The platform does not take the request for a network. -/
  | refused {f : Fault} {c' : Client}
      (request : p.respond c.transcript.calls (.requestNetwork account) = .error f)
      (after : After c [.requestNetwork account] [] c') :
      Visit p table account limit W c [.requestNetwork account] [] (.error (refusal account f)) c'
  /-- No network is offered first. -/
  | noNetwork {grant : NetworkGrant} {e : Failure} {c' : Client}
      (request : p.respond c.transcript.calls (.requestNetwork account) = .ok grant)
      (first : firstNetwork account limit grant.replies = .error e)
      (after : After c [.requestNetwork account, .releaseNetwork grant.token] [] c') :
      Visit p table account limit W c
        [.requestNetwork account, .releaseNetwork grant.token] []
        (p.released (c.transcript.calls ++ [.requestNetwork account]) grant.token >>= fun _ =>
          .error e) c'
  /-- The session does not open. -/
  | notOpened {grant : NetworkGrant} {network : String} {f : Fault} {c' : Client}
      (request : p.respond c.transcript.calls (.requestNetwork account) = .ok grant)
      (first : firstNetwork account limit grant.replies = .ok network)
      (opening : p.respond (c.transcript.calls ++ [.requestNetwork account])
        (.openSession network account) = .error f)
      (after : After c [.requestNetwork account, .openSession network account,
        .releaseNetwork grant.token] [] c') :
      Visit p table account limit W c
        [.requestNetwork account, .openSession network account, .releaseNetwork grant.token] []
        (p.released (c.transcript.calls ++
            [.requestNetwork account, .openSession network account]) grant.token >>= fun _ =>
          .error (.fault f)) c'
  /-- The client works in the session, which is then closed and the network released. -/
  | worked {grant : NetworkGrant} {network : String} {calls : List Call} {reports : List String}
      {r : Except Failure α} {c₁ c₂ c' : Client}
      (request : p.respond c.transcript.calls (.requestNetwork account) = .ok grant)
      (first : firstNetwork account limit grant.replies = .ok network)
      (opening : p.respond (c.transcript.calls ++ [.requestNetwork account])
        (.openSession network account) = .ok ())
      (before : After { c with session := some table }
        [.requestNetwork account, .openSession network account] [] c₁)
      (work : W network c₁ calls reports r c₂)
      (after : After { c₂ with session := none }
        [.closeSession, .releaseNetwork grant.token] [] c') :
      Visit p table account limit W c
        (.requestNetwork account :: .openSession network account ::
          (calls ++ [.closeSession, .releaseNetwork grant.token])) reports
        (p.released (c₂.transcript.calls ++ [.closeSession]) grant.token >>= fun _ =>
          p.closed c₂.transcript.calls >>= fun _ => r) c'

/-- Work on a network that was granted ends with its release. -/
theorem withNetwork_granted (limit : TimeLimit) (body : String → ClientM α) {grant : NetworkGrant}
    (request : p.respond c.transcript.calls (.requestNetwork account) = .ok grant) :
    ∃ c₁, After c [.requestNetwork account] [] c₁ ∧
      withNetwork p account limit body c = ensuring
        (do
          let network ← firstNetwork account limit grant.replies
          say .network .debug s!"Network available for {account}"
          body network)
        (releaseNetwork p account grant.token) c₁ := by
  obtain ⟨c₁, h₁, hafter₁⟩ := requestNetwork_granted request
  exact ⟨c₁, hafter₁, by rw [withNetwork, bind_ok h₁]⟩

/-- Where no network is offered first, the network is released without any work. -/
theorem withNetwork_noNetwork (limit : TimeLimit) (body : String → ClientM α)
    {grant : NetworkGrant} {e : Failure}
    (request : p.respond c.transcript.calls (.requestNetwork account) = .ok grant)
    (first : firstNetwork account limit grant.replies = .error e) :
    ∃ c', withNetwork p account limit body c =
        (p.released (c.transcript.calls ++ [.requestNetwork account]) grant.token >>= fun _ =>
          .error e, c') ∧
      After c [.requestNetwork account, .releaseNetwork grant.token] [] c' := by
  obtain ⟨c₁, hafter₁, hrun⟩ := withNetwork_granted limit body request
  obtain ⟨c₂, h₂, hafter₂⟩ := After.releaseNetwork p account grant.token c₁
  rw [hafter₁.calls] at h₂
  refine ⟨c₂, ?_, hafter₁.trans hafter₂⟩
  rw [hrun, first, ensuring_apply (bind_error (lift_apply _ c₁)) h₂]

/-- Where a network is offered first, the work is done on it and the network released. -/
theorem withNetwork_available (limit : TimeLimit) (body : String → ClientM α)
    {grant : NetworkGrant} {network : String}
    (request : p.respond c.transcript.calls (.requestNetwork account) = .ok grant)
    (first : firstNetwork account limit grant.replies = .ok network) :
    ∃ c₁, After c [.requestNetwork account] [] c₁ ∧
      ∀ {r : Except Failure α} {c₂ : Client}, body network c₁ = (r, c₂) →
        ∃ c', withNetwork p account limit body c =
            (p.released c₂.transcript.calls grant.token >>= fun _ => r, c') ∧
          After c₂ [.releaseNetwork grant.token] [] c' := by
  obtain ⟨c₁, hafter₁, hrun⟩ := withNetwork_granted limit body request
  obtain ⟨c₂, h₂, hafter₂⟩ := After.say .network (by decide) .debug
    s!"Network available for {account}" c₁
  refine ⟨c₂, hafter₁.quietly hafter₂, fun {r c₃} hbody => ?_⟩
  obtain ⟨c₄, h₄, hafter₄⟩ := After.releaseNetwork p account grant.token c₃
  refine ⟨c₄, ?_, hafter₄⟩
  rw [hrun, first, ensuring_apply (by rw [bind_ok (lift_apply _ c₁), bind_ok h₂, hbody]) h₄]

/-- A session that does not open. -/
theorem openSession_failed (table : CommandTable) {network : String} {f : Fault}
    (opening : p.respond c.transcript.calls (.openSession network account) = .error f) :
    ∃ c', openSession p table network account c = (.error (.fault f), c') ∧
      After c [.openSession network account] [] c' := by
  obtain ⟨c₁, h₁, hafter₁⟩ := After.perform p (.openSession network account) c
  rw [opening] at h₁
  exact ⟨c₁, bind_error h₁, hafter₁⟩

/-- A session that opens. -/
theorem openSession_opened (table : CommandTable) {network : String}
    (opening : p.respond c.transcript.calls (.openSession network account) = .ok ()) :
    ∃ c', openSession p table network account c = (.ok (), c') ∧
      After { c with session := some table } [.openSession network account] [] c' := by
  obtain ⟨c₁, h₁, hafter₁⟩ := After.perform p (.openSession network account) c
  rw [opening] at h₁
  exact ⟨_, bind_ok h₁, hafter₁.withSession (some table)⟩

/-- Every visit goes one of the four ways. The body may do what it likes, as long as it leaves the
session open. -/
theorem withSession_visit (p : Platform) (table : CommandTable) (account : String)
    (limit : TimeLimit) (body : String → ClientM α) (W : Work α) (c : Client)
    (hbody : ∀ network c₁, c₁.session = some table → ∃ c₂ calls reports r c₃,
      After c₁ [] [] c₂ ∧ body network c₁ = (r, c₃) ∧ W network c₂ calls reports r c₃ ∧
        c₃.session = some table) :
    ∃ calls reports r c', withSession p table account limit body c = (r, c') ∧
      Visit p table account limit W c calls reports r c' := by
  let work (network : String) : ClientM α := do
    openSession p table network account
    ensuring (body network) (closeSession p)
  cases request : p.respond c.transcript.calls (.requestNetwork account) with
  | error f =>
    obtain ⟨c₁, h₁, hafter₁⟩ := requestNetwork_refused request
    exact ⟨_, _, _, c₁, by rw [withSession, withNetwork, bind_error h₁], .refused request hafter₁⟩
  | ok grant =>
    cases first : firstNetwork account limit grant.replies with
    | error e =>
      obtain ⟨c', hrun, hafter⟩ := withNetwork_noNetwork limit work request first
      exact ⟨_, _, _, c', hrun, .noNetwork request first hafter⟩
    | ok network =>
      obtain ⟨c₁, hafter₁, hrun⟩ := withNetwork_available limit work request first
      cases opening : p.respond c₁.transcript.calls (.openSession network account) with
      | error f =>
        obtain ⟨c₂, h₂, hafter₂⟩ := openSession_failed table opening
        obtain ⟨c', hrelease, hafter'⟩ := hrun (bind_error h₂)
        rw [(hafter₁.trans hafter₂).calls] at hrelease
        rw [hafter₁.calls] at opening
        exact ⟨_, _, _, c', hrelease, .notOpened request first opening
          ((hafter₁.trans hafter₂).trans hafter')⟩
      | ok =>
        obtain ⟨c₂, h₂, hafter₂⟩ := openSession_opened table opening
        obtain ⟨c₃, calls, reports, r, c₄, hafter₃, hwork, hW, hopen⟩ :=
          hbody network c₂ hafter₂.session
        obtain ⟨c₅, hclose, hafter₅⟩ := After.closeSession p (c := c₄) (by rw [hopen]; rfl)
        obtain ⟨c', hrelease, hafter'⟩ := hrun ((bind_ok h₂).trans (ensuring_apply hwork hclose))
        rw [hafter₅.calls] at hrelease
        dsimp only at hrelease
        rw [hafter₁.calls] at opening
        exact ⟨_, _, _, c', hrelease, .worked request first opening
          (((hafter₁.withSession _).trans hafter₂).quietly hafter₃) hW (hafter₅.trans hafter')⟩

/-- A visit changes no more than its work, and whether a session is open. -/
theorem Visit.follows {limit : TimeLimit} {W : Work α} {calls : List Call} {reports : List String}
    {r : Except Failure α} {c' : Client}
    (hW : ∀ {network c₁ calls reports r c₂}, W network c₁ calls reports r c₂ →
      Follows c₁ calls reports c₂)
    (h : Visit p table account limit W c calls reports r c') :
    Follows { c with session := c'.session } calls reports c' := by
  cases h with
  | refused _ after => exact (after.withSession _).follows
  | noNetwork _ _ after => exact (after.withSession _).follows
  | notOpened _ _ _ after => exact (after.withSession _).follows
  | @worked grant network _ _ _ c₁ c₂ _ _ _ _ before work after =>
    have hall := ((before.follows.trans (hW work)).withSession none).trans after.follows
    have hnone : c'.session = none := after.session
    rw [hnone]
    simpa using hall

end Client

end Voicemail
