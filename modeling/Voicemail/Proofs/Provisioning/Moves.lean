import Mathlib.Logic.Relation
import Voicemail.Proofs.Provisioning.Congruence

/-!
# Moves of an attempt

Whatever an attempt does for its account, it does by moves of six kinds (`Client.Move`): it writes a
record, makes a call, stores preferences, takes a draw, opens or closes a session, or reports an
event. `Attempt.carryOut_moves` says so of every action; what each move preserves is therefore
preserved by carrying out an action.
-/

namespace Voicemail

open Client

/-- One move of a client that works for an account with a protocol. -/
inductive Client.Move (protocol : Protocol) (account : String) : Client → Client → Prop
  /-- A record of another part than the reporter, with the tags that are bound. -/
  | record (c : Client) (r : LogRecord) (hlogger : r.logger ≠ LogSource.reporting.logger)
      (hcontext : r.context = c.context) : Move protocol account c (c.noting [.record r])
  | call (c : Client) (call : Call) : Move protocol account c (c.noting [.call call])
  | store (c : Client) (preferences : Preferences) : Move protocol account c { c with preferences }
  | draw (c : Client) (draws : List Nat) : Move protocol account c { c with draws }
  | session (c : Client) (session : Option CommandTable) :
      Move protocol account c { c with session }
  | report (c : Client) (e : EventKind) :
      Move protocol account c ((Reporter.toBus protocol account).report e c).2

/-- An operation that is made of moves. -/
def Client.ByMoves {α : Type} (protocol : Protocol) (account : String) (m : ClientM α) : Prop :=
  ∀ c, Relation.ReflTransGen (Move protocol account) c (m c).2

namespace Client.ByMoves

variable {protocol : Protocol} {account : String} {α β : Type}

/-- An operation that is one move on every client is made of moves. -/
theorem of_move {m : ClientM α} (h : ∀ c, Move protocol account c (m c).2) :
    ByMoves protocol account m := fun c => .single (h c)

/-- A sequence is made of the moves of its parts. -/
theorem bind {m : ClientM α} {f : α → ClientM β} (hm : ByMoves protocol account m)
    (hf : ∀ a, ByMoves protocol account (f a)) : ByMoves protocol account (m >>= f) := by
  intro c
  have hfirst := hm c
  rw [bind_apply]
  generalize m c = run at *
  obtain ⟨_ | a, c'⟩ := run
  · exact hfirst
  · exact hfirst.trans (hf a c')

/-- A message of another part than the reporter is a record. -/
theorem say {source : LogSource} (h : source.logger ≠ LogSource.reporting.logger)
    (level : LogLevel) (message : String) :
    ByMoves protocol account (say source level message) :=
  of_move fun c => .record c _ h rfl

/-- Storing is a move, and the message about it is another one. -/
theorem putPreferences (name : String) (values : List (String × Option String)) :
    ByMoves protocol account (putPreferences name values) := by
  unfold Client.putPreferences
  refine bind (of_move fun c => .store c _) fun _ => ?_
  split
  · exact fun c => .refl
  · exact say (by decide) _ _

/-- A call is a move, whatever the answer. -/
theorem perform (p : Platform) (call : Call) : ByMoves protocol account (perform p call) :=
  of_move fun c => by
    rw [perform_apply]
    exact .call c call

/-- To be made of moves is a congruence. -/
theorem isCongruence (p : Platform) (protocol : Protocol) (account : String) :
    IsCongruence p p account fun m _ => ByMoves protocol account m where
  pure _ _ := .refl
  lift _ _ := .refl
  bind hm hf := hm.bind hf
  get_bind hf c := hf c c (.refl account c) c
  attempt hm := hm
  perform call _ := perform p call
  log _ h _ _ _ _ := of_move fun c => .record c _ h rfl
  say _ h _ _ := say h _ _
  putPreferences _ := putPreferences _ _

end Client.ByMoves

/-- Carrying out an action is made of moves. -/
theorem Attempt.carryOut_moves (p : Platform) (a : Attempt) (s : StatusResponse)
    (action : Action) : ByMoves a.protocol a.account (a.carryOut p s action) := by
  have hc := ByMoves.isCongruence p a.protocol a.account
  have hvisits := hc.visits (.perform p _) (fun session => .of_move fun c => .session c session)
    a.protocol.commands
  have h := a.confuses_self hc hvisits (fun e => .of_move fun c => .report c e)
    (.of_move fun c => .draw c _) s
  exact h.carryOut_congr action

end Voicemail
