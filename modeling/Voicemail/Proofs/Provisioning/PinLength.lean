import Voicemail.Proofs.Bootstrap.Faultless
import Voicemail.Proofs.Diagnostics
import Voicemail.Proofs.Pin.Draws
import Voicemail.Proofs.Pin.Policy
import Voicemail.Proofs.Provisioning.Confirmation

/-!
# The length of a new PIN

A stored policy and a default give the least length of a PIN. A setup brings it into the range of
lengths, so that drawing the PIN cannot fail, and diagnostics take it as it is and refuse what is
out of range. From the same draw both get the same PIN, where diagnostics get one at all
(`Attempt.keepsPinLength`).
-/

namespace Voicemail

open Client

/-! ## Policies of two lengths -/

namespace Pin

/-- Two numbers with a dash between them are a policy. -/
theorem isRange_numbers (low high : Nat) :
    IsRange s!"{low}-{high}" (Nat.toDigits 10 low) (Nat.toDigits 10 high) := by
  have hdash (n : Nat) : '-' ∉ Nat.toDigits 10 n := fun hmem =>
    absurd (Nat.isDigit_of_mem_toDigits (by norm_num) le_rfl hmem) (by decide)
  refine ⟨?_, hdash low, hdash high⟩
  rw [String.toList_append, String.toList_append, Nat.toString_eq_ofList_toDigits,
    Nat.toString_eq_ofList_toDigits, String.toList_ofList, String.toList_ofList,
    List.append_assoc]
  rfl

/-- The least length of a policy of two numbers is the first one. -/
theorem minimumLength_range {low : Nat} (hlow : low ≤ 10) (high : Nat) (default : Int) :
    minimumLength (some s!"{low}-{high}") default = low := by
  have hdigits : (Nat.toDigits 10 low).length ≤ Text.maxNumeralDigits :=
    (Nat.length_toDigits_le_iff (by norm_num) (by decide)).2
      (lt_of_le_of_lt hlow (by decide +kernel))
  rw [LengthPolicy.minimumLength_of_isRange (isRange_numbers low high),
    Text.readInt?_eq_some_iff.2 (Text.isSpelling_toDigits hdigits).isNumeral, Option.getD_some]

end Pin

/-! ## Failures that are about values -/

/-- Whether a failure is about a value that is of no use. -/
def Failure.isValue : Failure → Bool
  | .fault f => f.kind = .value
  | .command (.template e) => e.kind = .value
  | .invalidPinLength _ | .notAMember _ _ | .invalid _ | .nameTaken _ | .noWorkers
  | .environmentSection _ | .tooManyDigits _ | .nullInPath | .reportTooDeep | .undecodable _ => true
  | _ => false

/-- That there is no network is about no value. -/
theorem Failure.isValue_of_isNetworkUnavailable {e : Failure} (h : e.isNetworkUnavailable = true) :
    e.isValue = false := by
  cases e with
  | fault f =>
    have hkind : f.kind = .networkUnavailable := of_decide_eq_true h
    exact decide_eq_false (by simp [hkind])
  | noNetwork | networkTimedOut | networkRefused => rfl
  | _ => cases h

/-- No value is found to be of no use but by a collaborator. -/
def TakesValues {α : Type} (r : Except Failure α) : Prop :=
  ∀ e, r = .error e → e.isValue = true → ∃ f, e = .fault f

namespace TakesValues

variable {α : Type} {r : Except Failure α}

/-- What succeeds takes its values, -/
theorem ok (a : α) : TakesValues (.ok a) := nofun

/-- what a collaborator refuses is not the client's to take, -/
theorem fault (f : Fault) : TakesValues (.error (.fault f) : Except Failure α) := by
  rintro _ ⟨⟩ -
  exact ⟨f, rfl⟩

/-- and a failure about anything else says nothing of values. -/
theorem error {e : Failure} (he : e.isValue = false) :
    TakesValues (.error e : Except Failure α) := by
  rintro _ ⟨⟩ hvalue
  cases he.symm.trans hvalue

/-- A failure is about the same whatever it takes the place of. -/
theorem failed {β : Type} {e : Failure} (h : TakesValues (.error e : Except Failure β)) :
    TakesValues (.error e : Except Failure α) := by
  rintro _ ⟨⟩ hvalue
  exact h e rfl hvalue

/-- An answer is a collaborator's. -/
theorem answer (a : Except Fault α) : TakesValues (a.mapError .fault) := by
  cases a with
  | ok a => exact ok a
  | error f => exact fault f

/-- A failure of a cleanup takes the place of another. -/
theorem cleanup {cleaned : Except Failure Unit} (hcleaned : TakesValues cleaned)
    (h : TakesValues r) : TakesValues (cleaned >>= fun _ => r) := by
  cases cleaned with
  | ok => exact h
  | error => exact hcleaned.failed

/-- What is made of the value of a result. -/
theorem map {β : Type} {f : α → β} (h : TakesValues r) : TakesValues (r.map f) := by
  cases r with
  | ok a => exact ok _
  | error => exact h.failed

/-- A command is judged by its response. -/
theorem verdict {rejected : String → Failure} (hrejected : ∀ s, (rejected s).isValue = false)
    {reply : Except Failure String} (h : TakesValues reply) :
    TakesValues (verdict rejected reply) := by
  cases reply with
  | error => exact h.failed
  | ok response =>
    unfold Client.verdict
    dsimp only
    split
    · exact ok _
    · exact error (hrejected _)

end TakesValues

/-- A command that has a text is not about values. -/
theorem Client.Reply.takesValues {p : Platform} {table : CommandTable} {command : Command}
    {params : List (String × Json)} {history calls : List Call} {r : Except Failure String}
    (h : Reply p table command params history calls r)
    (written : ∃ text, table.render command params = .ok text) : TakesValues r := by
  cases h with
  | unwritten unwritten =>
    obtain ⟨text, written⟩ := written
    cases written.symm.trans unwritten
  | faulted => exact .fault _
  | answered => exact .ok _

/-- Every protocol can write every command of a setup. -/
theorem Protocol.writesAll {protocol : Protocol} (h : protocol ∈ Protocol.all) :
    protocol.commands.WritesAll := by
  intro step
  simp only [all, List.mem_cons, List.not_mem_nil, or_false] at h
  obtain rfl | rfl := h <;> cases step <;> exact ⟨_, rfl⟩

namespace Bootstrap

variable {p : Platform} {b : Bootstrap} {identifier : String} {spanish pinSet : Bool}
  {c c' : Client} {calls : List Call} {reports : List String} {r : Except Failure Bool}

/-- The PIN step takes the values that there are. -/
theorem PinStep.takesValues (h : PinStep p b identifier pinSet c calls reports r c')
    (hw : b.protocol.commands.WritesAll) : TakesValues r := by
  cases h with
  | @unanswered old _ _ _ set derived reply after =>
    exact (reply.takesValues (hw (.changePin (b.drawnPin c) old))).failed
  | kept | underivable | rejected | replaced => exact .ok _

/-- So do the commands of a setup, -/
theorem Commands.takesValues (h : Commands p b identifier spanish pinSet c calls reports r c')
    (hw : b.protocol.commands.WritesAll) : TakesValues r := by
  cases h with
  | language language judged =>
    have hlanguage : TakesValues (verdict .languageRejected _) :=
      .verdict (fun _ => rfl)
        (language.takesValues (hw (.setLanguage (b.protocol.languageCode spanish))))
    rw [judged] at hlanguage
    exact hlanguage.failed
  | stopped _ _ _ pin => exact pin.takesValues hw
  | tutorial _ _ _ _ tutorial =>
    exact .map (.verdict (fun _ => rfl) (tutorial.takesValues (hw .closeTutorial)))

/-- its session, -/
theorem Session.takesValues (h : Session p b identifier spanish pinSet c calls reports r c')
    (hw : b.protocol.commands.WritesAll) : TakesValues r := by
  cases h with
  | @refused f =>
    unfold refusal
    split
    · exact .error rfl
    · exact .fault f
  | noNetwork request first =>
    refine .cleanup (.answer _) (.error ?_)
    obtain hnone | ⟨rfl, -⟩ := firstNetwork_error first
    · exact Failure.isValue_of_isNetworkUnavailable hnone
    · rfl
  | notOpened => exact .cleanup (.answer _) (.fault _)
  | worked request first opening before work =>
    exact .cleanup (.answer _) (.cleanup (.answer _) (work.2.takesValues hw))

/-- the confirmation, where the request for the status does, -/
theorem confirm_takesValues (hs : ∀ c, TakesValues (b.requestStatus c).1) (c : Client) :
    TakesValues (b.confirm c).1 := by
  have hrequest := hs c
  rw [confirm, bind_ok (attempt_apply _ c)]
  cases hr : (b.requestStatus c).1 with
  | ok => exact .ok _
  | error e =>
    rw [hr] at hrequest
    cases hio : e.isIo with
    | true =>
      simp only [hio, if_true]
      exact .ok _
    | false =>
      simp only [hio]
      exact hrequest

/-- and the whole setup. -/
theorem run_takesValues (hw : b.protocol.commands.WritesAll) (hr : b.reporter.IsQuiet)
    (hs : ∀ c, TakesValues (b.requestStatus c).1) (p : Platform) (identifier : String)
    (spanish pinSet : Bool) (c : Client) :
    TakesValues (run p b identifier spanish pinSet c).1 := by
  obtain ⟨calls, reports, r, c₁, hsession, h⟩ :=
    runSession_visit p identifier spanish pinSet c hr
  rw [run_conclude hsession]
  match r, h.takesValues hw with
  | .ok false, _ => exact .ok _
  | .ok true, _ =>
    have hconfirm := confirm_takesValues hs c₁
    rw [conclude, bind_apply]
    generalize b.confirm c₁ = confirmed at hconfirm
    obtain ⟨_ | _, c₂⟩ := confirmed
    · exact hconfirm.failed
    · exact .ok _
  | .error e, he =>
    cases hnetwork : e.isNetworkUnavailable with
    | true =>
      obtain ⟨c₂, hreport, -⟩ := hr.report .newUserSetupFailed (c₁.noting _)
      simp only [conclude, hnetwork, if_true]
      rw [bind_ok (log_apply ..), bind_ok hreport]
      exact .ok _
    | false =>
      simp only [conclude, hnetwork, Bool.false_eq_true, if_false]
      exact he.failed

end Bootstrap

/-! ## New PINs -/

/-- A report shows a PIN. -/
def Report.Shows (r : Report) (pin : String) : Prop := r.data.lookup "pin" = some (.str pin)

namespace Attempt

/-- The policy for the PINs of an attempt's account, if the carrier has one. -/
def pinPolicy (a : Attempt) (c : Client) : Option String :=
  c.preferences.get? a.account StatusResponse.pinLengthField

/-- The least length of a PIN by the policy, or by the settings. -/
def leastPinLength (a : Attempt) (c : Client) : Int :=
  Pin.minimumLength (a.pinPolicy c) c.settings.provisioning.defaultPinLength

/-- What policy and settings make of the PINs of an account: the one that a setup sends, and the one
that diagnostics show. -/
structure KeepsPinLength (p : Platform) (a : Attempt) (c : Client) (new : String) : Prop where
  /-- The commands of a setup are the ones of a plan with the new PIN, in its order. -/
  sent : ∀ identifier spanish pinSet, ∃ calls,
    ((a.setup p c).run p identifier spanish pinSet c).2.transcript.calls =
        c.transcript.calls ++ calls ∧
      InOrder a.protocol.commands ((a.setup p c).plan identifier spanish pinSet new)
        (p.sent c.transcript.calls calls)
  /-- The new PIN has digits only, -/
  digits : new.toList.all Char.isDigit = true
  /-- and the least length, brought into the range of lengths. -/
  length : (new.length : Int) = min (max (a.leastPinLength c) 1) 10
  /-- So the setup does not fail for want of a usable value. -/
  takesValues : ∀ identifier spanish pinSet,
    TakesValues ((a.setup p c).run p identifier spanish pinSet c).1
  /-- A policy of two numbers bounds the length. -/
  bounded : ∀ low high : Nat, low ≤ high → low ≤ 10 → 1 ≤ high →
    a.pinPolicy c = some s!"{low}-{high}" → max low 1 ≤ new.length ∧ new.length ≤ min high 10
  /-- Diagnostics show the PIN for the same policy, settings and draw exactly if the least length is
  in range; otherwise they refuse it, and take no draw. -/
  diagnosed : ∀ d : Client,
    d.settings.provisioning.defaultPinLength = c.settings.provisioning.defaultPinLength →
    d.draws.headD 0 = c.draws.headD 0 →
      ∃ report d', Diagnostics.generatePin (a.pinPolicy c) none d = (.ok report, d') ∧
        (report.Shows new ↔ 1 ≤ a.leastPinLength c ∧ a.leastPinLength c ≤ 10) ∧
        (¬(1 ≤ a.leastPinLength c ∧ a.leastPinLength c ≤ 10) →
          report.error.map (·.code) = some "INVALID_LENGTH" ∧ d' = d)

/-- A setup sends the PIN that it draws. -/
theorem setup_sent (p : Platform) (a : Attempt) (c : Client) (identifier : String)
    (spanish pinSet : Bool) :
    ∃ calls, ((a.setup p c).run p identifier spanish pinSet c).2.transcript.calls =
        c.transcript.calls ++ calls ∧
      InOrder a.protocol.commands
        ((a.setup p c).plan identifier spanish pinSet ((a.setup p c).drawnPin c))
        (p.sent c.transcript.calls calls) :=
  Bootstrap.run_inOrder p identifier spanish pinSet c
    (bootstrap_asksBy p a c.settings.provisioning) (fun _ h => h)
    (Reporter.toBus_isQuiet a.protocol a.account)

/-- The request for the status asks a collaborator only. -/
theorem send_takesValues (p : Platform) (a : Attempt) (request : Request) (c : Client) :
    TakesValues (a.send p request c).1 := by
  unfold send
  split
  · rw [bind_ok (get_apply c), perform_apply]
    exact .answer _
  · exact .ok _

/-- Diagnostics show the PIN that a setup draws where the least length is in range. -/
theorem diagnosed (p : Platform) (a : Attempt) (c d : Client)
    (hdefault : d.settings.provisioning.defaultPinLength =
      c.settings.provisioning.defaultPinLength)
    (hdraw : d.draws.headD 0 = c.draws.headD 0) :
    ∃ report d', Diagnostics.generatePin (a.pinPolicy c) none d = (.ok report, d') ∧
      (report.Shows ((a.setup p c).drawnPin c) ↔
        1 ≤ a.leastPinLength c ∧ a.leastPinLength c ≤ 10) ∧
      (¬(1 ≤ a.leastPinLength c ∧ a.leastPinLength c ≤ 10) →
        report.error.map (·.code) = some "INVALID_LENGTH" ∧ d' = d) := by
  have hleast : (none : Option Int).getD
      (Pin.minimumLength (a.pinPolicy c) d.settings.provisioning.defaultPinLength) =
      a.leastPinLength c := by
    rw [hdefault]
    rfl
  cases h : Pin.isLength (a.leastPinLength c) with
  | true =>
    have hrange := Pin.isLength_iff.1 h
    have hclamp : Pin.clampLength (a.leastPinLength c) = (a.leastPinLength c).toNat := by
      have hclamp := Pin.natCast_clampLength (a.leastPinLength c)
      simp only [Pin.maxLength] at hclamp
      omega
    refine ⟨_, _, Diagnostics.generatePin_of_isLength (by rwa [hleast]), iff_of_true ?_ hrange,
      absurd hrange⟩
    show some (Json.str _) = some (Json.str _)
    rw [hleast, hdraw, ← hclamp]
    rfl
  | false =>
    have hrange := mt Pin.isLength_iff.2 (by simpa using h)
    refine ⟨_, _, Diagnostics.generatePin_of_not_isLength (by rwa [hleast]),
      iff_of_false ?_ hrange, fun _ => ⟨rfl, rfl⟩⟩
    intro hshows
    cases hshows

/-- Whatever the policy, the settings and the draw are, a setup sends a PIN of a length that they
allow. -/
theorem keepsPinLength {a : Attempt} (h : a.protocol ∈ Protocol.all) (p : Platform) (c : Client) :
    a.KeepsPinLength p c ((a.setup p c).drawnPin c) := by
  have hclamp := Pin.natCast_clampLength (a.leastPinLength c)
  simp only [Pin.maxLength] at hclamp
  have hpin : Pin.IsPin (Pin.clampLength (a.leastPinLength c)) ((a.setup p c).drawnPin c) :=
    Pin.isPin_ofDraw (by show _ ≤ 10; omega) _
  refine ⟨a.setup_sent p c, hpin.digits, ?_, ?_, ?_, a.diagnosed p c⟩
  · rw [hpin.length, hclamp]
    rfl
  · intro identifier spanish pinSet
    exact Bootstrap.run_takesValues (b := a.setup p c) (Protocol.writesAll h)
      (Reporter.toBus_isQuiet a.protocol a.account) (a.send_takesValues p .status) p identifier
      spanish pinSet c
  · intro low high hle hlow hhigh hpolicy
    have hleast : a.leastPinLength c = low := by
      rw [leastPinLength, hpolicy, Pin.minimumLength_range hlow]
    rw [hleast] at hclamp
    rw [hpin.length, hleast]
    omega

/-- The PIN of a setup under a policy that asks for more digits than PINs have. -/
theorem keepsPinLength_vvm3 :
    Protocol.vvm3 ∈ Protocol.all ∧
      KeepsPinLength .obliging ⟨"a", .vvm3, none⟩
        { Client.new { root := ⟨.root, []⟩, configPath := none } none [1234567890] with
          preferences := Preferences.empty.put "a" StatusResponse.pinLengthField (some "12-16") }
        "1234567890" :=
  ⟨by simp [Protocol.all], keepsPinLength (by simp [Protocol.all]) .obliging _⟩

end Attempt

end Voicemail
