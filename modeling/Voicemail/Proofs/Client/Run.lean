import Voicemail.Client

/-!
# Running operations of a client

What the steps from which operations are built give when they run. Sequencing is read off the run of
its first part: where that gives a value the second part runs on (`bind_ok`), and where it stops the
second part is left out (`bind_error`).
-/

namespace Voicemail.Client

variable {α β : Type} {m : ClientM α} {f : α → ClientM β} {c c' : Client}

/-! ## Sequencing -/

/-- The run of a sequence, by the run of its first part. -/
theorem bind_apply (m : ClientM α) (f : α → ClientM β) (c : Client) :
    (m >>= f) c = match m c with
      | (.ok a, c') => f a c'
      | (.error e, c') => (.error e, c') := by
  show (ExceptT.bind m f : ExceptT Failure (StateM Client) β) c = _
  simp only [ExceptT.bind, ExceptT.mk, StateT.bind, bind, ExceptT.bindCont]
  generalize m c = r
  obtain ⟨_ | _, _⟩ := r <;> rfl

/-- After a first part that gives a value the second part runs on. -/
theorem bind_ok {a : α} (h : m c = (.ok a, c')) : (m >>= f) c = f a c' := by
  rw [bind_apply, h]

/-- A first part that stops is all of a sequence. -/
theorem bind_error {e : Failure} (h : m c = (.error e, c')) :
    (m >>= f) c = (.error e, c') := by
  rw [bind_apply, h]

@[simp] theorem pure_apply (a : α) (c : Client) : (pure a : ClientM α) c = (.ok a, c) := rfl

@[simp] theorem throw_apply (e : Failure) (c : Client) :
    (throw e : ClientM α) c = (.error e, c) := rfl

/-- A value or failure that is already there leaves the client as it is. -/
theorem lift_apply (r : Except Failure α) (c : Client) : (liftM r : ClientM α) c = (r, c) := rfl

/-- A look at the client shows it as it is. -/
theorem get_apply (c : Client) : (get : ClientM Client) c = (.ok c, c) := rfl

/-- A change changes the client and cannot fail. -/
theorem modify_apply (f : Client → Client) (c : Client) :
    (modify f : ClientM PUnit) c = (.ok ⟨⟩, f c) := rfl

/-- A second part that only makes another result of the first changes nothing else. -/
theorem bind_pure_apply (m : ClientM α) (f : α → β) (c : Client) :
    (m >>= fun a => pure (f a) : ClientM β) c = ((m c).1.map f, (m c).2) := by
  rw [bind_apply]
  obtain ⟨_ | _, _⟩ := m c <;> rfl

/-- A result that is thrown away is not missed. -/
theorem discard_apply (m : ClientM α) (c : Client) :
    (discard m : ClientM PUnit) c = ((m c).1.map fun _ => ⟨⟩, (m c).2) :=
  bind_pure_apply m (fun _ => PUnit.unit) c

/-! ## Steps -/

/-- The client with more entries in its transcript. -/
def noting (entries : Transcript) (c : Client) : Client :=
  { c with transcript := c.transcript ++ entries }

/-- Noting entries cannot fail. -/
theorem note_apply (entries : Transcript) (c : Client) :
    note entries c = (.ok (), c.noting entries) := rfl

/-- A structured record shows the tags that are bound, and cannot fail. -/
theorem log_apply (source : LogSource) (level : LogLevel) (event : String)
    (fields : List (String × Json)) (c : Client) :
    log source level event fields c = (.ok (), c.noting [.record {
      level, logger := source.logger, plain := false, event, fields, context := c.context }]) := rfl

/-- A message does so too. -/
theorem say_apply (source : LogSource) (level : LogLevel) (message : String) (c : Client) :
    say source level message c = (.ok (), c.noting [.record {
      level, logger := source.logger, plain := true, event := message, fields := []
      context := c.context }]) := rfl

/-- A call is answered by the calls before it and stands in the transcript, whatever the answer. -/
theorem perform_apply (p : Platform) (call : Call) (c : Client) :
    perform p call c =
      ((p.respond c.transcript.calls call).mapError .fault, c.noting [.call call]) := by
  simp only [perform, bind_ok (get_apply c), bind_ok (note_apply [.call call] c)]
  generalize p.respond c.transcript.calls call = r
  cases r <;> rfl

/-- A PIN of a length that PINs have takes a draw. -/
theorem drawPin_of_isLength {length : Int} (h : Pin.isLength length = true) (c : Client) :
    drawPin length c =
      (.ok (Pin.ofDraw length.toNat (c.draws.headD 0)), { c with draws := c.draws.tail }) := by
  rw [drawPin, if_pos h]
  rfl

/-- For another length there is no draw. -/
theorem drawPin_of_not_isLength {length : Int} (h : Pin.isLength length = false) (c : Client) :
    drawPin length c = (.error (.invalidPinLength length), c) := by
  rw [drawPin, if_neg (by simp [h]), throw_apply]

/-- What became of an operation is a value, whether it failed or not. -/
theorem attempt_apply (m : ClientM α) (c : Client) : attempt m c = (.ok (m c).1, (m c).2) := rfl

/-- A cleanup comes after the body, whatever became of it. -/
theorem ensuring_eq (body : ClientM α) (cleanup : ClientM Unit) :
    ensuring body cleanup =
      (do
        let result ← attempt body
        cleanup
        liftM result : ClientM α) := by
  funext c
  rw [bind_ok (attempt_apply body c), bind_apply, ensuring]
  generalize body c = run
  obtain ⟨result, c'⟩ := run
  dsimp only
  generalize cleanup c' = cleaned
  obtain ⟨_ | _, _⟩ := cleaned <;> rfl

/-- What is done with the tags of an account is done by a client with these tags. -/
theorem within_apply (account protocol : String) (m : ClientM α) (c : Client) :
    within account protocol m c =
      ((m { c with context := c.context.bind account protocol }).1,
        { (m { c with context := c.context.bind account protocol }).2 with
          context := c.context }) := rfl

/-! ## The outbox -/

/-- A client without a bus has no outbox. -/
theorem onOutbox_none (h : c.bus = none) (member : String)
    (f : LogContext → Outbox → Outbox × Transcript × Except Failure α) :
    onOutbox member f c = (.error (.noMember "NoneType" member), c) := by
  simp only [onOutbox, bind_ok (get_apply c), h, throw_apply]

/-- The client with another outbox, and what that did. -/
def withOutbox (o : Outbox) (entries : Transcript) (c : Client) : Client :=
  { c with journal := o.journal, bus := some o.bus, transcript := c.transcript ++ entries }

/-- Work on the outbox of a client with a bus changes the outbox and the transcript, nothing else.
-/
theorem onOutbox_some {bus : Bus} (h : c.bus = some bus) (member : String)
    (f : LogContext → Outbox → Outbox × Transcript × Except Failure α) :
    onOutbox member f c =
      ((f c.context ⟨c.journal, bus⟩).2.2,
        c.withOutbox (f c.context ⟨c.journal, bus⟩).1 (f c.context ⟨c.journal, bus⟩).2.1) := by
  simp only [onOutbox, bind_ok (get_apply c), h]
  rfl

end Voicemail.Client
