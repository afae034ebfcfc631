import Voicemail.Diagnostics
import Voicemail.Proofs.Json.RoundTrip
import Voicemail.Proofs.Provisioning.Faultless
import Voicemail.Proofs.Provisioning.Journaling
import Voicemail.Proofs.Provisioning.Rerun

/-!
# What diagnostics foretell

The action that diagnostics name for a status is the one that an attempt to provision with the same
protocol tells the plugins of when it ends, and they refuse a status with the words with which the
attempt fails (`Diagnostics.Foretells`). A client tells of an end only if it has a bus
(`Attempt.tellsAction_iff`), and an attempt comes to one only if the platform does not
fault and the clock can count the time to wait. Asking changes nothing that is stored and calls
nobody (`Client.Unmoved`). `Diagnostics.route_foretells` puts this together.
-/

namespace Voicemail

open Client

/-! ## Words for reports and journals -/

/-- A report that succeeds and names an action. -/
def Report.Advises (r : Report) (action : String) : Prop :=
  r.ok = true ∧ r.data.lookup "action" = some (.str action)

/-- A report that fails with a code and a message. -/
def Report.FailsWith (r : Report) (code message : String) : Prop :=
  r.ok = false ∧ ∃ detail, r.error = some { code, message, detail }

/-- The action that the end of an attempt tells of, if an event is one. -/
def JournaledEvent.action? (e : JournaledEvent) : Option Json :=
  match Json.read? e.payload with
  | some (.obj members) =>
    if e.hook = Hook.postProvision.name then members.lookup "action" else none
  | _ => none

/-- The events that a client has appended to its journal. -/
def Client.appended (c c' : Client) : List JournaledEvent :=
  c'.journal.events.drop c.journal.events.length

/-- A client has appended the end of an attempt with an action to its journal. -/
def Client.TellsAction (c c' : Client) (action : String) : Prop :=
  ∃ e ∈ appended c c', e.action? = some (.str action)

/-- What is appended to a journal is what is journaled. -/
theorem Client.Journals.appended_eq {events : List JournaledEvent} {c c' : Client}
    (h : Journals events c c') : appended c c' = if c.bus.isSome then events else [] := by
  rw [appended, h.events, List.drop_left]

namespace Attempt

variable {p : Platform} {a : Attempt} {s : StatusResponse} {c : Client}

/-- The end of an attempt can be stored. -/
theorem closing_isStorable (a : Attempt) (action : Action) (outcome : Outcome) :
    (Json.obj (a.closing action outcome)).IsStorable := by
  have hkeys : (Assoc.keys (a.closing action outcome)).Nodup := by
    show ["account_id", "protocol", "action", "outcome"].Nodup
    decide
  simpa [closing, Json.IsStorable, Json.Fits, Json.MembersFit] using hkeys

/-- The end of an attempt tells of its action. -/
theorem journaledEnd_action? (a : Attempt) (action : Action) (outcome : Outcome) :
    (a.journaledEnd action outcome).action? = some (.str action.name) := by
  have hpayload : (a.journaledEnd action outcome).payload =
      (Json.obj (a.closing action outcome)).text := rfl
  rw [JournaledEvent.action?, hpayload, Json.read?_text (closing_isStorable a action outcome)]
  rfl

/-- A report of an event tells of no action. -/
theorem journaled_action? (protocol : Protocol) (account : String) (kind : EventKind) :
    (kind.journaled protocol account).action? = none := by
  have hhook : (kind.journaled protocol account).hook ≠ Hook.postProvision.name := by
    show Hook.vvmEvent.name ≠ _
    decide
  unfold JournaledEvent.action?
  split
  · rw [if_neg hhook]
  · rfl

/-- An attempt tells of an action exactly if the client has a bus and the attempt has the action and
an outcome. -/
theorem tellsAction_iff (p : Platform) (a : Attempt) (s : StatusResponse) (c : Client)
    (name : String) :
    TellsAction c (a.provision p s c).2 name ↔ c.bus.isSome = true ∧
      ∃ action, a.Routes s action ∧ action.name = name ∧ ∃ o, (a.provision p s c).1 = .ok o := by
  obtain ⟨kinds, hjournaled⟩ : ∃ kinds, a.Journaled s c (a.provision p s c) kinds := by
    by_cases hroute : ∃ action, a.Routes s action
    · exact journaled_of_routes hroute.choose_spec p c
    · exact ⟨[], journaled_of_not_routes (not_exists.1 hroute) p c⟩
  generalize a.provision p s c = run at hjournaled
  obtain ⟨r, c'⟩ := run
  have hreports : ∀ e ∈ kinds.map (EventKind.journaled a.protocol a.account), e.action? = none := by
    simp [journaled_action?]
  cases r with
  | error e =>
    have hnone : ¬TellsAction c c' name := by
      rintro ⟨event, hmem, haction⟩
      rw [(hjournaled.failure e rfl).appended_eq] at hmem
      split at hmem
      · cases (hreports event hmem).symm.trans haction
      · cases hmem
    exact iff_of_false hnone fun ⟨_, _, _, _, o, ho⟩ => nomatch ho
  | ok o =>
    obtain ⟨action, hroute, hjournals⟩ := hjournaled.outcome o rfl
    cases hbus : c.bus.isSome with
    | false =>
      simp [TellsAction, hjournals.appended_eq, hbus]
    | true =>
      simp only [TellsAction, hjournals.appended_eq, hbus, if_true, true_and]
      constructor
      · rintro ⟨event, hmem, haction⟩
        obtain hmem | hmem := List.mem_append.1 hmem
        · cases (hreports event hmem).symm.trans haction
        · obtain rfl := List.mem_singleton.1 hmem
          rw [journaledEnd_action?] at haction
          exact ⟨action, hroute, Json.str.inj (Option.some.inj haction), o, rfl⟩
      · rintro ⟨action', hroute', rfl, -⟩
        obtain rfl := hroute.unique hroute'
        exact ⟨_, List.mem_append_right _ (.head _), journaledEnd_action? ..⟩

end Attempt

/-! ## Protocols by name -/

/-- Looking a protocol up changes nothing. -/
theorem Client.protocolNamed_snd (name : Option String) (c : Client) :
    (protocolNamed name c).2 = c := by
  unfold protocolNamed
  rw [bind_ok (get_apply c)]
  rfl

/-- A protocol that is found and provisions is the one that does. -/
theorem Client.protocolNamed_supporting {name : Option String} {c : Client} {protocol : Protocol}
    (h : (protocolNamed name c).1 = .ok protocol) (hs : protocol.supportsProvisioning = true) :
    protocol = .vvm3 := by
  unfold protocolNamed at h
  rw [bind_ok (get_apply c)] at h
  change Protocol.find _ = .ok protocol at h
  unfold Protocol.find at h
  split at h
  next found hfound =>
    obtain rfl := Except.ok.inj h
    have hmem := List.mem_of_find?_eq_some hfound
    simp only [Protocol.all, List.mem_cons, List.not_mem_nil, or_false] at hmem
    obtain rfl | rfl := hmem
    · cases hs
    · rfl
  · cases h

namespace Client.Diagnostics

variable {c : Client} {s : StatusResponse} {name : Option String} {protocol : Protocol}
  {report : Report}

/-! ## The report about a status -/

/-- A status that has an action is reported with it. -/
theorem routed_ok {action : Action} (h : protocol.router.route s = .ok action) :
    routed s protocol = .success "route"
      [("protocol", .str protocol.name), ("status", .str s.provisioningStatus),
        ("return_code", .str s.returnCode), ("action", .str action.name)]
      (if protocol.supportsProvisioning then []
       else ["Protocol " ++ Text.quoted protocol.name ++ " does not run provisioning"]) := by
  simp only [routed, h]

/-- A status that has no action is reported as such. -/
theorem routed_error {e : Failure} (h : protocol.router.route s = .error e) :
    routed s protocol = .failure "route" "UNHANDLED_STATUS" e.message
      [("status", .str s.provisioningStatus)] := by
  simp only [routed, h]

/-- A router fails in one way only. -/
theorem route_error {r : Router} {e : Failure} (h : r.route s = .error e) :
    e = .unhandledStatus s.provisioningStatus := by
  unfold Router.route at h
  split at h
  · cases h
  · exact (Except.error.inj h).symm

/-- A report names the action of a status, if it has one. -/
theorem routed_advises (s : StatusResponse) (protocol : Protocol) (name : String) :
    (routed s protocol).Advises name ↔
      ∃ action, protocol.router.route s = .ok action ∧ action.name = name := by
  cases h : protocol.router.route s with
  | error e =>
    rw [routed_error h]
    simp [Report.Advises, Report.failure]
  | ok action =>
    rw [routed_ok h]
    simp [Report.Advises, Report.success, List.lookup_cons]

/-- A report refuses a status that has no action, with the words of the router. -/
theorem routed_failsWith (s : StatusResponse) (protocol : Protocol) (message : String) :
    (routed s protocol).FailsWith "UNHANDLED_STATUS" message ↔
      ∃ e, protocol.router.route s = .error e ∧ e.message = message := by
  cases h : protocol.router.route s with
  | error e =>
    rw [routed_error h]
    simp [Report.FailsWith, Report.failure]
  | ok action =>
    rw [routed_ok h]
    simp [Report.FailsWith, Report.success]

/-! ## What a report foretells -/

/-- What a report about a status says of attempts with a protocol that provisions. -/
structure Foretells (c : Client) (s : StatusResponse) (protocol : Protocol) (report : Report) :
    Prop where
  /-- Where the platform does not fault and the clock can count the time to wait, the end of an
  attempt tells a client with a bus of the action that the report names, and of no other. -/
  action : ∀ p : Platform, p.IsFaultless →
    (TimeLimit.real c.settings.provisioning.networkTimeout).isBeyondClock = false →
    ∀ account locale action,
      TellsAction c (Attempt.provision p ⟨account, protocol, locale⟩ s c).2 action ↔
        c.bus.isSome = true ∧ report.Advises action
  /-- A status is refused exactly where the attempt fails for it, in the same words. -/
  unhandled : ∀ p : Platform, p.IsFaultless → ∀ account locale message,
    report.FailsWith "UNHANDLED_STATUS" message ↔
      ∃ status, (Attempt.provision p ⟨account, protocol, locale⟩ s c).1 =
          .error (.unhandledStatus status) ∧
        Failure.message (.unhandledStatus status) = message

/-- What a report about a status says of attempts with a protocol that does not provision. -/
structure Warns (c : Client) (s : StatusResponse) (protocol : Protocol) (report : Report) :
    Prop where
  /-- They fail, whatever the platform does, and do nothing. -/
  fails : ∀ (p : Platform) (account : String) (locale : Option String),
    Attempt.provision p ⟨account, protocol, locale⟩ s c =
      (.error (.provisioningUnsupported protocol.name), c)
  /-- A report that succeeds says so in a warning. -/
  warned : report.ok = true → ∃ warning, report.warnings = [warning]

/-- What a report about a status says, by the protocol that is named. -/
structure Answers (c : Client) (s : StatusResponse) (name : Option String) (report : Report) :
    Prop where
  unknown : ∀ e, (protocolNamed name c).1 = .error e →
    report.FailsWith "UNKNOWN_PROTOCOL" e.message
  supported : ∀ protocol, (protocolNamed name c).1 = .ok protocol →
    protocol.supportsProvisioning = true → Foretells c s protocol report
  unsupported : ∀ protocol, (protocolNamed name c).1 = .ok protocol →
    protocol.supportsProvisioning = false → Warns c s protocol report

/-- The report about a status foretells attempts with the protocol that provisions. -/
theorem foretells_vvm3 (c : Client) (s : StatusResponse) :
    Foretells c s .vvm3 (routed s .vvm3) where
  action p hp hclock account locale name := by
    rw [routed_advises, Attempt.tellsAction_iff]
    refine and_congr_right fun _ => ⟨?_, ?_⟩
    · rintro ⟨action, hroutes, hname, -⟩
      exact ⟨action, hroutes.route, hname⟩
    · rintro ⟨action, hroute, hname⟩
      have hroutes : Attempt.Routes ⟨account, .vvm3, locale⟩ s action := ⟨rfl, hroute⟩
      refine ⟨action, hroutes, hname, ?_⟩
      cases hrun : (Attempt.provision p ⟨account, .vvm3, locale⟩ s c).1 with
      | ok o => exact ⟨o, rfl⟩
      | error e =>
        have hbeyond := (Attempt.provision_faultless hp writesAll_vvm3 hroutes hrun).2
        cases hclock.symm.trans hbeyond
  unhandled p hp account locale message := by
    rw [routed_failsWith]
    constructor
    · rintro ⟨e, hroute, hmessage⟩
      have hrun := Attempt.provision_unhandled (a := ⟨account, .vvm3, locale⟩) rfl hroute p c
      obtain rfl := route_error hroute
      exact ⟨s.provisioningStatus, congrArg Prod.fst hrun, hmessage⟩
    · rintro ⟨status, hrun, hmessage⟩
      cases hroute : Protocol.vvm3.router.route s with
      | error e =>
        have hrun' := Attempt.provision_unhandled (a := ⟨account, .vvm3, locale⟩) rfl hroute p c
        rw [hrun'] at hrun
        obtain rfl := Except.error.inj hrun
        exact ⟨_, rfl, hmessage⟩
      | ok action =>
        have hroutes : Attempt.Routes ⟨account, .vvm3, locale⟩ s action := ⟨rfl, hroute⟩
        cases (Attempt.provision_faultless hp writesAll_vvm3 hroutes hrun).1

/-- A protocol that does not provision is warned about. -/
theorem warns_of_unsupported (hs : protocol.supportsProvisioning = false) (c : Client)
    (s : StatusResponse) : Warns c s protocol (routed s protocol) where
  fails p account locale := by
    simp only [Attempt.provision, hs]
    rfl
  warned hok := by
    cases h : protocol.router.route s with
    | error e =>
      rw [routed_error h] at hok
      cases hok
    | ok action =>
      rw [routed_ok h]
      simp [Report.success, hs]

/-- What comes of a question about a status. -/
theorem route_apply (s : StatusResponse) (name : Option String) (c : Client) :
    Diagnostics.route s name c =
      (.ok (match (protocolNamed name c).1 with
        | .ok protocol => routed s protocol
        | .error e => .failure "route" "UNKNOWN_PROTOCOL" e.message
            [("status", .str s.provisioningStatus)]), c) := by
  unfold Diagnostics.route
  rw [bind_ok (attempt_apply _ c), protocolNamed_snd]
  cases (protocolNamed name c).1 <;> rfl

/-- A PIN of the length that was given, or else of the least length of the policy, is shown with the
next draw where PINs have that length; -/
theorem generatePin_of_isLength {policy : Option String} {length : Option Int} {c : Client}
    (h : Pin.isLength (length.getD
      (Pin.minimumLength policy c.settings.provisioning.defaultPinLength)) = true) :
    Diagnostics.generatePin policy length c =
      (.ok (.success "generate_pin"
        [("length", .int (length.getD
            (Pin.minimumLength policy c.settings.provisioning.defaultPinLength))),
          ("pin", .str (Pin.ofDraw (length.getD
            (Pin.minimumLength policy c.settings.provisioning.defaultPinLength)).toNat
              (c.draws.headD 0))),
          ("policy", policyJson
            (.parse policy c.settings.provisioning.defaultPinLength))]),
        { c with draws := c.draws.tail }) := by
  unfold Diagnostics.generatePin
  rw [bind_ok (get_apply c), bind_ok (attempt_apply _ c)]
  change Pin.isLength (length.getD (Pin.LengthPolicy.parse _ _).minimum) = true at h
  rw [drawPin_of_isLength h]
  rfl

/-- where they have not, that is said and nothing is drawn. -/
theorem generatePin_of_not_isLength {policy : Option String} {length : Option Int} {c : Client}
    (h : Pin.isLength (length.getD
      (Pin.minimumLength policy c.settings.provisioning.defaultPinLength)) = false) :
    Diagnostics.generatePin policy length c =
      (.ok (.failure "generate_pin" "INVALID_LENGTH" (Failure.message (.invalidPinLength
        (length.getD (Pin.minimumLength policy c.settings.provisioning.defaultPinLength))))),
        c) := by
  unfold Diagnostics.generatePin
  rw [bind_ok (get_apply c), bind_ok (attempt_apply _ c)]
  change Pin.isLength (length.getD (Pin.LengthPolicy.parse _ _).minimum) = false at h
  rw [drawPin_of_not_isLength h]
  rfl

/-! ## Questions change nothing -/

/-- A question that diagnostics answer without a network. -/
inductive Inquiry where
  | route (fields : List (String × String)) (protocol : Option String)
  | defaultPin (identifier : String)
  | generatePin (policy : Option String) (length : Option Int)
  | commands (protocol : Option String)
  | account (account : String)

/-- What a client does to answer a question. -/
def Inquiry.ask : Inquiry → ClientM Report
  | .route fields protocol => Diagnostics.route (.ofFields fields) protocol
  | .defaultPin identifier => pure (Diagnostics.defaultPin identifier)
  | .generatePin policy length => Diagnostics.generatePin policy length
  | .commands protocol => Diagnostics.commands protocol
  | .account name => Diagnostics.account name

end Client.Diagnostics

/-- Nothing that is stored has changed, and nobody was called. -/
structure Client.Unmoved (c c' : Client) : Prop where
  preferences : c'.preferences = c.preferences
  journal : c'.journal = c.journal
  calls : c'.transcript.calls = c.transcript.calls

namespace Client.Diagnostics

/-- A question changes nothing but the draws to come. -/
theorem Inquiry.ask_draws (q : Inquiry) (c : Client) :
    ∃ draws, (q.ask c).2 = { c with draws } := by
  cases q with
  | route fields protocol => exact ⟨c.draws, congrArg Prod.snd (route_apply ..)⟩
  | defaultPin identifier => exact ⟨c.draws, rfl⟩
  | generatePin policy length =>
    show ∃ draws, (Diagnostics.generatePin policy length c).2 = { c with draws }
    cases h : Pin.isLength (length.getD
        (Pin.minimumLength policy c.settings.provisioning.defaultPinLength)) with
    | true => exact ⟨c.draws.tail, by rw [generatePin_of_isLength h]⟩
    | false => exact ⟨c.draws, by rw [generatePin_of_not_isLength h]⟩
  | commands protocol =>
    refine ⟨c.draws, ?_⟩
    show (Diagnostics.commands protocol c).2 = c
    unfold Diagnostics.commands
    rw [bind_ok (attempt_apply _ c), protocolNamed_snd]
    cases (protocolNamed protocol c).1 with
    | error e => rfl
    | ok protocol =>
      dsimp only
      cases protocol.commands.toPairs <;> rfl
  | account account => exact ⟨c.draws, rfl⟩

/-- A question about a status is answered, and the answer foretells what attempts to provision do;
no question changes what is stored or calls anybody. -/
theorem route_foretells (c : Client) (fields : List (String × String)) (name : Option String) :
    (∃ report, Diagnostics.route (.ofFields fields) name c = (.ok report, c) ∧
        Answers c (.ofFields fields) name report) ∧
      ∀ q : Inquiry, Unmoved c (q.ask c).2 := by
  refine ⟨⟨_, route_apply _ _ c, ?_, ?_, ?_⟩, fun q => ?_⟩
  · intro e he
    rw [he]
    exact ⟨rfl, _, rfl⟩
  · intro protocol hprotocol hs
    rw [hprotocol]
    obtain rfl := protocolNamed_supporting hprotocol hs
    exact foretells_vvm3 c _
  · intro protocol hprotocol hs
    rw [hprotocol]
    exact warns_of_unsupported hs c _
  · obtain ⟨draws, h⟩ := q.ask_draws c
    rw [h]
    exact ⟨rfl, rfl, rfl⟩

/-! ## A client without a bus -/

/-- A client that is given no bus. -/
def busless : Client := .new { root := ⟨.root, []⟩, configPath := none } none []

/-- The status of a subscriber whom the carrier has set up. -/
def provisioned : StatusResponse := .ofFields [("st", "P")]

/-- Without a bus an attempt that comes to its outcome tells nobody of the action that was named. -/
theorem not_foretold_busless :
    Diagnostics.route provisioned none busless = (.ok (routed provisioned .vvm3), busless) ∧
      Platform.obliging.IsFaultless ∧
      ¬∀ action, (routed provisioned .vvm3).Advises action ↔
        TellsAction busless
          (Attempt.provision .obliging ⟨"sim-1", .vvm3, none⟩ provisioned busless).2 action := by
  refine ⟨rfl, Platform.obliging_faultless, fun h => ?_⟩
  have htells := (h "disable_service").1 ⟨rfl, rfl⟩
  have hbus := ((Attempt.tellsAction_iff ..).1 htells).1
  cases hbus

end Client.Diagnostics

end Voicemail
