import Voicemail.Network
import Voicemail.Proofs.Client.Run

/-!
# What the network logs

The network writes records about what it is told, and nobody reads them: they are for people. Two
clients are the same to an operation if they are the same without these records (`Client.muted`),
and two operations agree (`Client.Agree`) if on such clients they come to the same result and leave
such clients. To agree is closed under all that operations are built from, and what the network
does about a late reply agrees with nothing at all (`Client.Agree.late`).
-/

namespace Voicemail

/-! ## Clients without the network's records -/

/-- Whether an entry is a record of the network. -/
def Entry.isNetworkRecord : Entry → Bool
  | .record r => r.logger = LogSource.network.logger
  | _ => false

namespace Transcript

/-- A transcript without the records of the network. -/
def muted (t : Transcript) : Transcript := t.filter fun e => !e.isNetworkRecord

/-- What is left of a transcript and another one after it. -/
theorem muted_append (t u : Transcript) : muted (t ++ u) = muted t ++ muted u :=
  List.filter_append ..

/-- No call is a record. -/
theorem calls_muted (t : Transcript) : t.muted.calls = t.calls := by
  have hcalls : (fun e : Entry => if (!e.isNetworkRecord) = true then e.call? else none) =
      Entry.call? := by
    funext e
    cases e with
    | record r => exact ite_self none
    | call | hook | mark => rfl
  rw [muted, calls, calls, List.filterMap_filter, hcalls]

end Transcript

namespace Client

variable {c c₁ c₂ : Client}

/-- The client without what the network logged. -/
def muted (c : Client) : Client := { c with transcript := c.transcript.muted }

/-- More entries, without the network's records among them. -/
theorem muted_noting (entries : Transcript) (c : Client) :
    (c.noting entries).muted = c.muted.noting entries.muted := by
  rw [noting, noting, muted, muted, Transcript.muted_append]

/-- Clients that are the same without the records were asked the same. -/
theorem calls_of_muted (h : c₁.muted = c₂.muted) : c₁.transcript.calls = c₂.transcript.calls := by
  have htranscript : c₁.transcript.muted = c₂.transcript.muted := congrArg transcript h
  rw [← c₁.transcript.calls_muted, htranscript, Transcript.calls_muted]

/-- They are the same after the same entries. -/
theorem noting_of_muted (h : c₁.muted = c₂.muted) (entries : Transcript) :
    (c₁.noting entries).muted = (c₂.noting entries).muted := by
  rw [muted_noting, muted_noting, h]

/-- They have the same tags, -/
theorem context_of_muted (h : c₁.muted = c₂.muted) : c₁.context = c₂.context :=
  (congrArg context h : c₁.muted.context = c₂.muted.context)

/-- and the same outbox. -/
theorem outbox_of_muted (h : c₁.muted = c₂.muted) : c₁.journal = c₂.journal ∧ c₁.bus = c₂.bus :=
  ⟨(congrArg journal h : c₁.muted.journal = c₂.muted.journal),
    (congrArg bus h : c₁.muted.bus = c₂.muted.bus)⟩

/-- A record of the network is not there. -/
theorem say_network_muted (level : LogLevel) (message : String) (c : Client) :
    ∃ c', say .network level message c = (.ok (), c') ∧ c'.muted = c.muted := by
  refine ⟨_, say_apply .., ?_⟩
  rw [muted_noting]
  exact congrArg (fun t => { c.muted with transcript := t }) (List.append_nil _)

/-- Nothing is left of late replies. -/
theorem ignoreReplies_muted (account : String) (replies : List NetworkReply) (c : Client) :
    ∃ c', ignoreReplies account replies c = (.ok (), c') ∧ c'.muted = c.muted := by
  induction replies generalizing c with
  | nil => exact ⟨c, rfl, rfl⟩
  | cons reply rest ih =>
    have hone : ∃ c', ignoreReply account reply c = (.ok (), c') ∧ c'.muted = c.muted := by
      cases reply <;> exact say_network_muted ..
    obtain ⟨c₁, h₁, hsame₁⟩ := hone
    obtain ⟨c₂, h₂, hsame₂⟩ := ih c₁
    exact ⟨c₂, by rw [ignoreReplies, bind_ok h₁, h₂], hsame₂.trans hsame₁⟩

/-! ## Operations that agree -/

/-- Two runs came to the same, but for what the network logged. -/
structure SameButLog {α : Type} (run₁ run₂ : Except Failure α × Client) : Prop where
  result : run₁.1 = run₂.1
  client : run₁.2.muted = run₂.2.muted

/-- Two operations come to the same on clients that are the same, but for what the network logs.
An operation that agrees with itself does not read these records. -/
def Agree {α : Type} (m₁ m₂ : ClientM α) : Prop :=
  ∀ c₁ c₂ : Client, c₁.muted = c₂.muted → SameButLog (m₁ c₁) (m₂ c₂)

namespace Agree

variable {α β : Type} {m₁ m₂ : ClientM α}

/-- A result agrees with itself, -/
theorem pure (a : α) : Agree (pure a : ClientM α) (pure a) := fun _ _ h => ⟨rfl, h⟩

/-- and so does what is a value or a failure already, -/
theorem lift (r : Except Failure α) : Agree (liftM r : ClientM α) (liftM r) :=
  fun _ _ h => ⟨rfl, h⟩

/-- or a failure. -/
theorem throw (e : Failure) : Agree (throw e : ClientM α) (throw e) := lift (.error e)

/-- A change that does not look at the transcript. -/
theorem change {f : Client → Client} (hf : ∀ c, (f c).muted = f c.muted) :
    Agree (modify f) (modify f) := fun c₁ c₂ h =>
  ⟨rfl, (hf c₁).trans ((congrArg f h).trans (hf c₂).symm)⟩

/-- A session may be set or given up. -/
theorem setSession (session : Option CommandTable) :
    Agree (modify fun c => { c with session }) (modify fun c => { c with session }) :=
  change fun _ => rfl

/-- Both take the same draw. -/
theorem draw : Agree draw draw := by
  intro c₁ c₂ h
  have hdraws : c₁.draws = c₂.draws := (congrArg draws h : c₁.muted.draws = c₂.muted.draws)
  refine ⟨?_, congrArg (fun c : Client => { c with draws := c.draws.tail }) h⟩
  show Except.ok (c₁.draws.headD 0) = Except.ok (c₂.draws.headD 0)
  rw [hdraws]

/-- A look at the client shows the same of both, but for what the network logged. -/
theorem get_bind {f₁ f₂ : Client → ClientM α}
    (hf : ∀ c₁ c₂, c₁.muted = c₂.muted → Agree (f₁ c₁) (f₂ c₂)) :
    Agree (get >>= f₁) (get >>= f₂) := fun c₁ c₂ h => hf c₁ c₂ h c₁ c₂ h

/-- Sequences of operations that agree. -/
theorem bind {f₁ f₂ : α → ClientM β} (hm : Agree m₁ m₂) (hf : ∀ a, Agree (f₁ a) (f₂ a)) :
    Agree (m₁ >>= f₁) (m₂ >>= f₂) := by
  intro c₁ c₂ h
  obtain ⟨hresult, hclient⟩ := hm c₁ c₂ h
  rw [bind_apply, bind_apply]
  generalize m₁ c₁ = run₁ at *
  generalize m₂ c₂ = run₂ at *
  obtain ⟨r, c₁'⟩ := run₁
  obtain ⟨r₂, c₂'⟩ := run₂
  obtain rfl : r = r₂ := hresult
  cases r with
  | error e => exact ⟨rfl, hclient⟩
  | ok a => exact hf a c₁' c₂' hclient

/-- What became of operations that agree is the same. -/
theorem attempt (hm : Agree m₁ m₂) : Agree (attempt m₁) (attempt m₂) := fun c₁ c₂ h =>
  ⟨congrArg Except.ok (hm c₁ c₂ h).result, (hm c₁ c₂ h).client⟩

/-- Cleanups that agree may follow bodies that do. -/
theorem ensuring {cleanup₁ cleanup₂ : ClientM Unit} (hm : Agree m₁ m₂)
    (hcleanup : Agree cleanup₁ cleanup₂) :
    Agree (ensuring m₁ cleanup₁) (ensuring m₂ cleanup₂) := by
  rw [ensuring_eq, ensuring_eq]
  exact hm.attempt.bind fun result => hcleanup.bind fun _ => lift result

/-- A structured record is the same for both, -/
theorem log (source : LogSource) (level : LogLevel) (event : String)
    (fields : List (String × Json)) :
    Agree (log source level event fields) (log source level event fields) := by
  intro c₁ c₂ h
  rw [log_apply, log_apply, context_of_muted h]
  exact ⟨rfl, noting_of_muted h _⟩

/-- and so is a finished message. -/
theorem say (source : LogSource) (level : LogLevel) (message : String) :
    Agree (say source level message) (say source level message) := by
  intro c₁ c₂ h
  rw [say_apply, say_apply, context_of_muted h]
  exact ⟨rfl, noting_of_muted h _⟩

/-- Preferences are stored alike. -/
theorem putPreferences (account : String) (values : List (String × Option String)) :
    Agree (putPreferences account values) (putPreferences account values) := by
  have hstored : Agree (modifyPreferences (·.putMany account values))
      (modifyPreferences (·.putMany account values)) := change fun _ => rfl
  refine hstored.bind fun _ => ?_
  split
  · exact pure ()
  · exact say _ _ _

/-- Late replies may be there or not. -/
theorem late (account : String) (replies : List NetworkReply) (hm : Agree m₁ m₂) :
    Agree (do ignoreReplies account replies; m₁) m₂ := by
  intro c₁ c₂ h
  obtain ⟨c, hlate, hsame⟩ := ignoreReplies_muted account replies c₁
  rw [bind_ok hlate]
  exact hm c c₂ (hsame.trans h)

/-- Platforms that give the same answer to a call are asked alike. -/
theorem perform {p₁ p₂ : Platform} {call : Call}
    (h : ∀ past, p₁.respond past call = p₂.respond past call) :
    Agree (perform p₁ call) (perform p₂ call) := by
  intro c₁ c₂ hsame
  rw [perform_apply, perform_apply, calls_of_muted hsame, h]
  exact ⟨rfl, noting_of_muted hsame _⟩

/-! ## Events -/

/-- The outbox does not read what the network logs. -/
theorem onOutbox (member : String)
    (f : LogContext → Outbox → Outbox × Transcript × Except Failure α) :
    Agree (onOutbox member f) (onOutbox member f) := by
  intro c₁ c₂ h
  obtain ⟨hjournal, hbus⟩ := outbox_of_muted h
  cases hbus₂ : c₂.bus with
  | none =>
    rw [onOutbox_none hbus₂, onOutbox_none (hbus.trans hbus₂)]
    exact ⟨rfl, h⟩
  | some bus =>
    rw [onOutbox_some hbus₂, onOutbox_some (hbus.trans hbus₂), context_of_muted h, hjournal]
    generalize f c₂.context ⟨c₂.journal, bus⟩ = run
    obtain ⟨o, entries, result⟩ := run
    exact ⟨rfl, congrArg (fun c : Client => { c with journal := o.journal, bus := some o.bus })
      (noting_of_muted h entries)⟩

/-- Dispatching an event agrees with itself, whether it is delivered or ends in a warning. -/
theorem dispatchQuietly (hook : String) (payload : Json) (key : Option String) :
    Agree (dispatchQuietly hook payload key) (dispatchQuietly hook payload key) := by
  refine get_bind fun c₁ c₂ h => ?_
  rw [(outbox_of_muted h).2]
  split
  · exact pure _
  · refine (attempt (onOutbox _ _)).bind fun result => ?_
    cases result with
    | ok => exact pure _
    | error => exact (say _ _ _).bind fun _ => pure _

/-- A result may be thrown away. -/
theorem discard (hm : Agree m₁ m₂) : Agree (discard m₁ : ClientM PUnit) (discard m₂) :=
  hm.bind fun _ => pure _

/-- What agrees does so with the tags of an account too. -/
theorem within (account protocol : String) (hm : Agree m₁ m₂) :
    Agree (within account protocol m₁) (within account protocol m₂) := by
  intro c₁ c₂ h
  rw [within_apply, within_apply, context_of_muted h]
  have hrun := hm { c₁ with context := c₂.context.bind account protocol }
    { c₂ with context := c₂.context.bind account protocol }
    (congrArg (fun c : Client => { c with context := c₂.context.bind account protocol }) h)
  exact ⟨hrun.result, congrArg (fun c : Client => { c with context := c₂.context }) hrun.client⟩

end Agree

end Client

end Voicemail
