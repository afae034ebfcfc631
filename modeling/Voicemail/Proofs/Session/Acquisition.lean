import Voicemail.Proofs.Client.Congruence
import Voicemail.Proofs.Client.Muted
import Voicemail.Proofs.Session.Visit

/-!
# Scoped acquisition

What a block on a network comes to, whatever the platform does and whatever is done in the block.
A request that is refused is all there is. After one that is taken the first reply decides, the
network is released, and the failure that leaves the block is that of the release, else that of the
closing of the session, else that of what was done (`Client.Acquired`, `Client.InSession`). Replies
after the first change nothing. All of that holds of a block exactly if the clock can count its time
limit (`Client.scoped_iff`).
-/

namespace Voicemail

namespace Client

variable {α : Type} {p p' : Platform} {account : String} {limit : TimeLimit} {c c' : Client}

/-! ## What leaves a block -/

/-- What leaves a block: the failure of its cleanup if that fails, else what the block gives. -/
def leaving (cleaned : Except Failure Unit) (r : Except Failure α) : Except Failure α :=
  match cleaned with
  | .ok () => r
  | .error e => .error e

/-- What is done in a block on a network: its result, and the client afterwards. -/
abbrev Block (α : Type) : Type := String → Client → Except Failure α → Client → Prop

/-- How a block on a network goes. Clients are told apart by all but what the network logs. -/
inductive Acquired (p : Platform) (account : String) (limit : TimeLimit) (W : Block α)
    (c : Client) : Except Failure α → Client → Prop
  /-- The request is refused. A fault of input or output means that there is no network, every other
  fault is passed on, and nothing is released. -/
  | refused {f : Fault} {c' : Client}
      (request : p.respond c.transcript.calls (.requestNetwork account) = .error f)
      (after : c'.muted = (c.noting [.call (.requestNetwork account)]).muted) :
      Acquired p account limit W c (.error (refusal account f)) c'
  /-- The first reply is that there is no network. -/
  | unavailable {grant : NetworkGrant} {rest : List NetworkReply} {c' : Client}
      (request : p.respond c.transcript.calls (.requestNetwork account) = .ok grant)
      (first : grant.replies = .unavailable :: rest)
      (after : c'.muted = (c.noting
        [.call (.requestNetwork account), .call (.releaseNetwork grant.token)]).muted) :
      Acquired p account limit W c
        (leaving (p.released (c.transcript.calls ++ [.requestNetwork account]) grant.token)
          (.error (.noNetwork account))) c'
  /-- There is no reply in time. -/
  | silent {grant : NetworkGrant} {c' : Client}
      (request : p.respond c.transcript.calls (.requestNetwork account) = .ok grant)
      (noReply : grant.replies = [])
      (after : c'.muted = (c.noting
        [.call (.requestNetwork account), .call (.releaseNetwork grant.token)]).muted) :
      Acquired p account limit W c
        (leaving (p.released (c.transcript.calls ++ [.requestNetwork account]) grant.token)
          (.error (.networkTimedOut account limit))) c'
  /-- The first reply offers a network, on which the block runs. -/
  | worked {grant : NetworkGrant} {network : String} {rest : List NetworkReply}
      {r : Except Failure α} {c₁ c₂ c' : Client}
      (request : p.respond c.transcript.calls (.requestNetwork account) = .ok grant)
      (first : grant.replies = .available network :: rest)
      (before : c₁.muted = (c.noting [.call (.requestNetwork account)]).muted)
      (work : W network c₁ r c₂)
      (after : c'.muted = (c₂.noting [.call (.releaseNetwork grant.token)]).muted) :
      Acquired p account limit W c (leaving (p.released c₂.transcript.calls grant.token) r) c'

/-- How a session on a network goes. -/
inductive InSession (p : Platform) (table : CommandTable) (account : String)
    (body : String → ClientM α) (network : String) (c : Client) : Except Failure α → Client → Prop
  /-- The session does not open. -/
  | notOpened {f : Fault}
      (opening : p.respond c.transcript.calls (.openSession network account) = .error f) :
      InSession p table account body network c (.error (.fault f))
        (c.noting [.call (.openSession network account)])
  /-- The body ends with the session open, which is then closed. -/
  | closed {r : Except Failure α} {c₁ : Client}
      (opening : p.respond c.transcript.calls (.openSession network account) = .ok ())
      (work : body network { c.noting [.call (.openSession network account)] with
        session := some table } = (r, c₁))
      (left : c₁.session.isSome) :
      InSession p table account body network c (leaving (p.closed c₁.transcript.calls) r)
        (noting [.call .closeSession] { c₁ with session := none })
  /-- The body closes the session itself. -/
  | gone {r : Except Failure α} {c₁ : Client}
      (opening : p.respond c.transcript.calls (.openSession network account) = .ok ())
      (work : body network { c.noting [.call (.openSession network account)] with
        session := some table } = (r, c₁))
      (left : c₁.session = none) :
      InSession p table account body network c r c₁

/-! ## Blocks on a network -/

/-- What leaves a block is its result after its cleanup. -/
theorem bind_eq_leaving (cleaned : Except Failure Unit) (r : Except Failure α) :
    (cleaned >>= fun _ => r) = leaving cleaned r := by
  cases cleaned <;> rfl

/-- A request that is refused is all that is done. -/
theorem requestNetwork_error {f : Fault}
    (request : p.respond c.transcript.calls (.requestNetwork account) = .error f) :
    requestNetwork p account c =
      (.error (refusal account f), c.noting [.call (.requestNetwork account)]) := by
  rw [requestNetwork, bind_ok (attempt_apply _ c), perform_apply, request]
  rfl

/-- A request that is taken gives its grant. -/
theorem requestNetwork_ok {grant : NetworkGrant}
    (request : p.respond c.transcript.calls (.requestNetwork account) = .ok grant) :
    ∃ c₁, requestNetwork p account c = (.ok grant, c₁) ∧
      c₁.muted = (c.noting [.call (.requestNetwork account)]).muted := by
  obtain ⟨c₁, hlate, hsame⟩ :=
    ignoreReplies_muted account grant.replies.tail (c.noting [.call (.requestNetwork account)])
  refine ⟨c₁, ?_, hsame⟩
  rw [requestNetwork, bind_ok (attempt_apply _ c), perform_apply, request]
  exact bind_ok hlate

/-- A release is one call. -/
theorem releaseNetwork_muted (p : Platform) (account token : String) (c : Client) :
    ∃ c', releaseNetwork p account token c = (p.released c.transcript.calls token, c') ∧
      c'.muted = (c.noting [.call (.releaseNetwork token)]).muted := by
  rw [releaseNetwork, bind_apply, perform_apply, Platform.released]
  cases p.respond c.transcript.calls (.releaseNetwork token) with
  | error f => exact ⟨_, rfl, rfl⟩
  | ok => exact say_network_muted ..

/-- A block on a network that was asked for. -/
theorem withNetwork_ok (limit : TimeLimit) (body : String → ClientM α) {grant : NetworkGrant}
    (request : p.respond c.transcript.calls (.requestNetwork account) = .ok grant) :
    ∃ c₁, c₁.muted = (c.noting [.call (.requestNetwork account)]).muted ∧
      withNetwork p account limit body c = ensuring
        (do
          let network ← firstNetwork account limit grant.replies
          say .network .debug s!"Network available for {account}"
          body network)
        (releaseNetwork p account grant.token) c₁ := by
  obtain ⟨c₁, hrequest, hsame⟩ := requestNetwork_ok request
  exact ⟨c₁, hsame, by rw [withNetwork, bind_ok hrequest]⟩

/-- Without a network there is nothing but the release. -/
theorem withNetwork_none (limit : TimeLimit) (body : String → ClientM α) {grant : NetworkGrant}
    {e : Failure} (request : p.respond c.transcript.calls (.requestNetwork account) = .ok grant)
    (first : firstNetwork account limit grant.replies = .error e) :
    ∃ c', withNetwork p account limit body c =
        (leaving (p.released (c.transcript.calls ++ [.requestNetwork account]) grant.token)
          (.error e), c') ∧
      c'.muted = (c.noting
        [.call (.requestNetwork account), .call (.releaseNetwork grant.token)]).muted := by
  obtain ⟨c₁, hsame₁, hrun⟩ := withNetwork_ok limit body request
  obtain ⟨c₂, hrelease, hsame₂⟩ := releaseNetwork_muted p account grant.token c₁
  have hcalls : c₁.transcript.calls = c.transcript.calls ++ [.requestNetwork account] := by
    rw [calls_of_muted hsame₁]
    exact Transcript.calls_append ..
  rw [hcalls] at hrelease
  refine ⟨c₂, ?_, ?_⟩
  · rw [hrun, first, ensuring_apply (bind_error (lift_apply _ c₁)) hrelease, bind_eq_leaving]
  · rw [hsame₂, noting_of_muted hsame₁, noting, noting, noting, List.append_assoc]
    rfl

/-- A block on a network goes as it should, if the clock can count its time limit. -/
theorem withNetwork_acquired (hl : limit.isBeyondClock = false) {W : Block α}
    {body : String → ClientM α}
    (hbody : ∀ network c, W network c (body network c).1 (body network c).2) (p : Platform)
    (account : String) (c : Client) :
    Acquired p account limit W c (withNetwork p account limit body c).1
      (withNetwork p account limit body c).2 := by
  cases request : p.respond c.transcript.calls (.requestNetwork account) with
  | error f =>
    rw [withNetwork, bind_error (requestNetwork_error request)]
    exact .refused request rfl
  | ok grant =>
    rcases hreplies : grant.replies with _ | ⟨network | _, rest⟩
    · obtain ⟨c', hrun, hsame⟩ := withNetwork_none limit body request (by rw [hreplies]; rfl)
      rw [hrun, hl]
      exact .silent request hreplies hsame
    · obtain ⟨c₁, hsame₁, hrun⟩ := withNetwork_ok limit body request
      obtain ⟨c₂, hsay, hsame₂⟩ :=
        say_network_muted .debug s!"Network available for {account}" c₁
      obtain ⟨c₃, hrelease, hsame₃⟩ :=
        releaseNetwork_muted p account grant.token (body network c₂).2
      have hblock : (do
          let network ← liftM (firstNetwork account limit grant.replies)
          say .network .debug s!"Network available for {account}"
          body network : ClientM α) c₁ = body network c₂ := by
        rw [hreplies]
        exact (bind_ok (lift_apply (.ok network) c₁)).trans (bind_ok hsay)
      rw [hrun, ensuring_apply hblock hrelease, bind_eq_leaving]
      exact .worked request hreplies (hsame₂.trans hsame₁) (hbody network c₂) hsame₃
    · obtain ⟨c', hrun, hsame⟩ := withNetwork_none limit body request (by rw [hreplies]; rfl)
      rw [hrun]
      exact .unavailable request hreplies hsame

/-! ## Blocks in a session -/

/-- A block in a session opens and closes it. -/
theorem inSession (p : Platform) (table : CommandTable) (account : String)
    (body : String → ClientM α) (network : String) (c : Client) :
    InSession p table account body network c
      ((do
        openSession p table network account
        ensuring (body network) (closeSession p) : ClientM α) c).1
      ((do
        openSession p table network account
        ensuring (body network) (closeSession p) : ClientM α) c).2 := by
  cases opening : p.respond c.transcript.calls (.openSession network account) with
  | error f =>
    have hperform : perform p (.openSession network account) c =
        (.error (.fault f), c.noting [.call (.openSession network account)]) := by
      rw [perform_apply, opening]
      rfl
    have hopen : openSession p table network account c =
        (.error (.fault f), c.noting [.call (.openSession network account)]) :=
      bind_error hperform
    rw [bind_error hopen]
    exact .notOpened opening
  | ok =>
    have hperform : perform p (.openSession network account) c =
        (.ok (), c.noting [.call (.openSession network account)]) := by
      rw [perform_apply, opening]
      rfl
    have hopen : openSession p table network account c =
        (.ok (), { c.noting [.call (.openSession network account)] with session := some table }) :=
      bind_ok hperform
    rw [bind_ok hopen]
    cases hwork : body network { c.noting [.call (.openSession network account)] with
        session := some table } with
    | mk r c₁ =>
      cases hleft : c₁.session with
      | none =>
        have hclose : closeSession p c₁ = (.ok (), c₁) := by
          rw [closeSession, bind_ok (get_apply c₁), hleft]
          rfl
        rw [ensuring_apply hwork hclose]
        exact .gone opening hwork hleft
      | some =>
        have hclose : closeSession p c₁ = (p.closed c₁.transcript.calls,
            noting [.call .closeSession] { c₁ with session := none }) := by
          rw [closeSession, bind_ok (get_apply c₁), hleft]
          exact (bind_ok (modify_apply _ c₁)).trans (perform_apply ..)
        rw [ensuring_apply hwork hclose, bind_eq_leaving]
        exact .closed opening hwork (by rw [hleft]; rfl)

/-! ## Late replies -/

end Client

/-- A platform that takes a request for a network and does not reply in time. -/
def Platform.silent : Platform where
  respond past
    | .requestNetwork _ => .ok ⟨"token", []⟩
    | call => obliging.respond past call

/-- Two platforms give the same answers, but for the replies about a network after the first. -/
structure Platform.SameButLate (p p' : Platform) : Prop where
  request : ∀ past account,
    (p.respond past (.requestNetwork account)).map (fun g => (g.token, g.replies.head?)) =
      (p'.respond past (.requestNetwork account)).map (fun g => (g.token, g.replies.head?))
  others : ∀ past call, (∀ account, call ≠ .requestNetwork account) →
    p.respond past call = p'.respond past call

namespace Platform.SameButLate

variable {p p' : Platform} {past : List Call} {account : String}

/-- Both refuse a request, -/
theorem request_error (h : p.SameButLate p') {f : Fault}
    (request : p.respond past (.requestNetwork account) = .error f) :
    p'.respond past (.requestNetwork account) = .error f := by
  have hsame := h.request past account
  rw [request] at hsame
  cases request' : p'.respond past (.requestNetwork account) with
  | error f' =>
    rw [request'] at hsame
    obtain rfl : f = f' := Except.error.inj hsame
    rfl
  | ok grant =>
    rw [request'] at hsame
    cases hsame

/-- or take it with the same token and the same first reply. -/
theorem request_ok (h : p.SameButLate p') {grant : NetworkGrant}
    (request : p.respond past (.requestNetwork account) = .ok grant) :
    ∃ grant', p'.respond past (.requestNetwork account) = .ok grant' ∧
      grant.token = grant'.token ∧ grant.replies.head? = grant'.replies.head? := by
  have hsame := h.request past account
  rw [request] at hsame
  cases request' : p'.respond past (.requestNetwork account) with
  | error f =>
    rw [request'] at hsame
    cases hsame
  | ok grant' =>
    rw [request'] at hsame
    obtain ⟨htoken, hfirst⟩ := Prod.mk.inj (Except.ok.inj hsame)
    exact ⟨grant', rfl, htoken, hfirst⟩

end Platform.SameButLate

namespace Client

/-- Clients that are the same but for what the network logged look the same to every attempt. -/
theorem shared_of_muted {c₁ c₂ : Client} (h : c₁.muted = c₂.muted) (account : String) :
    Shared account c₁ c₂ := by
  have hshared : Shared account c₁.muted c₂.muted := h ▸ .refl account _
  exact ⟨hshared.provisioning, hshared.sms, hshared.systemLocale, hshared.context, hshared.session,
    hshared.hasOldPin, hshared.pinLength⟩

/-- To agree is a congruence. -/
theorem Agree.isCongruence (h : p.SameButLate p') (account : String) :
    IsCongruence p p' account fun m₁ m₂ => Agree m₁ m₂ where
  pure := .pure
  lift := .lift
  bind := .bind
  get_bind hf := .get_bind fun c₁ c₂ hsame => hf c₁ c₂ (shared_of_muted hsame account)
  attempt := .attempt
  perform call hcall := .perform fun past => h.others past call hcall
  log source _ level event fields _ := .log source level event fields
  say source _ level message := .say source level message
  putPreferences values := .putPreferences account values

/-- The first reply decides. -/
theorem firstNetwork_congr {replies replies' : List NetworkReply}
    (h : replies.head? = replies'.head?) (account : String) (limit : TimeLimit) :
    firstNetwork account limit replies = firstNetwork account limit replies' := by
  cases replies with
  | nil =>
    obtain rfl := List.head?_eq_none_iff.1 h.symm
    rfl
  | cons reply rest =>
    obtain ⟨rest', rfl⟩ := List.head?_eq_some_iff.1 h.symm
    cases reply <;> rfl

/-- Replies after the first change nothing about a block on a network, -/
theorem withNetwork_agree (h : p.SameButLate p') {body body' : String → ClientM α}
    (hbody : ∀ network, Agree (body network) (body' network)) :
    Agree (withNetwork p account limit body) (withNetwork p' account limit body') := by
  intro c₁ c₂ hsame
  have hcalls := calls_of_muted hsame
  cases request : p.respond c₁.transcript.calls (.requestNetwork account) with
  | error f =>
    have request' := h.request_error request
    rw [hcalls] at request'
    rw [withNetwork, withNetwork, bind_error (requestNetwork_error request),
      bind_error (requestNetwork_error request')]
    exact ⟨rfl, noting_of_muted hsame _⟩
  | ok grant =>
    obtain ⟨grant', request', htoken, hfirst⟩ := h.request_ok request
    rw [hcalls] at request'
    obtain ⟨c₁', hafter₁, hrun₁⟩ := withNetwork_ok limit body request
    obtain ⟨c₂', hafter₂, hrun₂⟩ := withNetwork_ok limit body' request'
    have hrelease : Agree (releaseNetwork p account grant.token)
        (releaseNetwork p' account grant.token) :=
      (Agree.perform fun past => h.others past _ (by simp)).bind fun _ => .say _ _ _
    rw [hrun₁, hrun₂, firstNetwork_congr hfirst, ← htoken]
    refine Agree.ensuring ?_ hrelease c₁' c₂' ?_
    · exact (Agree.lift _).bind fun network => (Agree.say _ _ _).bind fun _ => hbody network
    · rw [hafter₁, hafter₂, noting_of_muted hsame]

/-- and nothing about a block in a session. -/
theorem withSession_agree (h : p.SameButLate p') (table : CommandTable)
    {body body' : String → ClientM α} (hbody : ∀ network, Agree (body network) (body' network)) :
    Agree (withSession p table account limit body) (withSession p' table account limit body') := by
  refine withNetwork_agree h fun network => ?_
  have hopen : Agree (openSession p table network account) (openSession p' table network account) :=
    (Agree.perform fun past => h.others past _ (by simp)).bind fun _ => .setSession _
  have hclose : Agree (closeSession p) (closeSession p') :=
    (Agree.isCongruence h account).closeSession (.setSession none)
  exact hopen.bind fun _ => (hbody network).ensuring hclose

/-! ## Scopes -/

/-- What holds of every block on a network for an account, with a time limit. -/
structure Scoped (account : String) (limit : TimeLimit) : Prop where
  /-- The request and the first reply decide what a block comes to; -/
  network {α : Type} (p : Platform) (body : String → ClientM α) (c : Client) :
    Acquired p account limit (fun network c₁ r c₂ => body network c₁ = (r, c₂)) c
      (withNetwork p account limit body c).1 (withNetwork p account limit body c).2
  /-- in a session the opening does as well. -/
  session {α : Type} (p : Platform) (table : CommandTable) (body : String → ClientM α)
    (c : Client) :
    Acquired p account limit (InSession p table account body) c
      (withSession p table account limit body c).1 (withSession p table account limit body c).2
  /-- Replies after the first one that come during the request change nothing, -/
  late {α : Type} (p p' : Platform) (h : p.SameButLate p') (table : CommandTable)
    (body body' : String → ClientM α) (hbody : ∀ network, Agree (body network) (body' network)) :
    Agree (withNetwork p account limit body) (withNetwork p' account limit body') ∧
      Agree (withSession p table account limit body) (withSession p' table account limit body')
  /-- and so do those that come in a block, wherever they do. -/
  inside {α β : Type} (replies : List NetworkReply) (before : ClientM α) (after : α → ClientM β)
    (hbefore : Agree before before) (hafter : ∀ a, Agree (after a) (after a)) :
    Agree (do let a ← before; ignoreReplies account replies; after a)
      (do let a ← before; after a)

/-- Blocks go as they should if the clock can count their time limit. -/
theorem scoped_of_clock (account : String) (h : limit.isBeyondClock = false) :
    Scoped account limit where
  network p _ c := withNetwork_acquired h (fun _ _ => rfl) p account c
  session p table body c := withNetwork_acquired h (inSession p table account body) p account c
  late _ _ hsame table _ _ hbody :=
    ⟨withNetwork_agree hsame hbody, withSession_agree hsame table hbody⟩
  inside replies _ _ hbefore hafter := hbefore.bind fun a => (hafter a).late _ replies

/-- Where the clock cannot count the time limit, that there is no reply is not found out. -/
theorem not_scoped_of_clock (account : String) (h : limit.isBeyondClock = true) :
    ¬Scoped account limit := by
  intro hscoped
  let c : Client := .new { root := ⟨.root, []⟩, configPath := none } none []
  have hrequest : Platform.silent.respond c.transcript.calls (.requestNetwork account) =
      .ok ⟨"token", []⟩ := rfl
  obtain ⟨c', hrun, -⟩ :=
    withNetwork_none limit (fun _ => (pure () : ClientM Unit)) hrequest rfl
  have hacquired := hscoped.network .silent (fun _ => (pure () : ClientM Unit)) c
  rw [hrun, h] at hacquired
  generalize hr : leaving _ _ = r at hacquired
  cases hacquired with
  | refused request => cases request
  | unavailable request first =>
    obtain rfl := Except.ok.inj request
    cases first
  | silent request noReply after =>
    obtain rfl := Except.ok.inj request
    cases hr
  | worked request first before work after =>
    obtain rfl := Except.ok.inj request
    cases first

/-- Every block goes as it should exactly if the clock can count its time limit. -/
theorem scoped_iff (account : String) (limit : TimeLimit) :
    Scoped account limit ↔ limit.isBeyondClock = false := by
  refine ⟨fun hscoped => ?_, scoped_of_clock account⟩
  cases hclock : limit.isBeyondClock with
  | true => exact absurd hscoped (not_scoped_of_clock account hclock)
  | false => rfl

/-- Three centuries, `10 ^ 10` seconds, are too long for the clock. -/
theorem not_scoped_centuries : ¬Scoped "sim-1" (.real (.ofDecimal false 1 10)) :=
  not_scoped_of_clock "sim-1" (by decide)

end Client

end Voicemail
