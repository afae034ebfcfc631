import Voicemail.Proofs.Provisioning.PinLength
import Voicemail.Proofs.Provisioning.Rerun

/-!
# The words of a change of the PIN

A change of the PIN is written with the new PIN, which has digits only, and with the default PIN,
which is a one and the last four characters of the subscriber's number (`Pin.exists_of_derive?`).
The carrier takes the command apart at its spaces. It finds the command, a new PIN and an old one
there exactly if these four characters are digits (`Sent.isPlain_iff`): they are put into the
command as they are. So the identifiers for which every setup sends nothing else are those from
which no default PIN is derived, or one of digits (`Bootstrap.changesPlainly_iff`).
-/

namespace Voicemail

open Client

/-! ## Default PINs -/

/-- A default PIN is a one and four characters. -/
theorem Pin.exists_of_derive? {identifier old : String} (h : Pin.derive? identifier = some old) :
    ∃ last, last.length = 4 ∧ old.toList = '1' :: last := by
  unfold Pin.derive? at h
  dsimp only at h
  split at h
  · cases h
  next hlong =>
    refine ⟨_, ?_, by rw [← Option.some.inj h, String.toList_ofList]⟩
    rw [List.length_drop]
    simp only [Pin.identifierDigits] at hlong ⊢
    omega

/-! ## Words -/

/-- A text of digits has no space. -/
theorem Pin.space_not_mem {ds : List Char} (h : ds.all Char.isDigit = true) : ' ' ∉ ds :=
  fun hmem => absurd (List.all_eq_true.1 h ' ' hmem) (by decide)

/-- A change of the PIN that is no more than the carrier expects: the command, a new PIN and a
default PIN, which is a one and four digits. -/
def Sent.IsPlain (x : Sent) : Prop :=
  ∃ (n : Nat) (new last : String), 1 ≤ n ∧ n ≤ 10 ∧ Pin.IsPin n new ∧ Pin.IsPin 4 last ∧
    Pin.splitAt ' ' x.text.toList =
      ["CHANGE_TUI_PWD".toList, "PWD=".toList ++ new.toList, "OLD_PWD=1".toList ++ last.toList]

/-- The parts of a change of the PIN, of which the last may fall apart. -/
theorem Sent.splitAt_text {x : Sent} {new old : String} (hnew : ' ' ∉ new.toList)
    (htext : (Step.changePin new old).text Protocol.vvm3.commands = .ok x.text) :
    Pin.splitAt ' ' x.text.toList =
      "CHANGE_TUI_PWD".toList :: ("PWD=".toList ++ new.toList) ::
        ("OLD_PWD=".toList ++ old.toList).splitOn ' ' := by
  have hwords : x.text.toList = "CHANGE_TUI_PWD".toList ++ ' ' ::
      (("PWD=".toList ++ new.toList) ++ ' ' :: ("OLD_PWD=".toList ++ old.toList)) := by
    rw [← Except.ok.inj ((Step.text_changePin new old).symm.trans htext), String.toList_ofList]
    simp
  have hpassword : ' ' ∉ "PWD=".toList ++ new.toList := by
    rw [List.mem_append, not_or]
    exact ⟨by decide, hnew⟩
  rw [Pin.splitAt_eq_splitOn, hwords,
    List.splitOn_append_cons_self_of_not_mem (by decide),
    List.splitOn_append_cons_self_of_not_mem hpassword]

/-- A change of the PIN is plain exactly if the last four characters of the default PIN are
digits. -/
theorem Sent.isPlain_iff {x : Sent} {n : Nat} {new old : String} {last : List Char} (hpos : 1 ≤ n)
    (hn : n ≤ 10) (hnew : Pin.IsPin n new) (hlast : last.length = 4)
    (hold : old.toList = '1' :: last)
    (htext : (Step.changePin new old).text Protocol.vvm3.commands = .ok x.text) :
    x.IsPlain ↔ old.toList.all Char.isDigit = true := by
  have hparts := Sent.splitAt_text (Pin.space_not_mem hnew.digits) htext
  rw [hold] at hparts ⊢
  constructor
  · rintro ⟨_, _, last', -, -, -, hlast', hwords⟩
    rw [hparts] at hwords
    have hone : ("OLD_PWD=".toList ++ '1' :: last).splitOn ' ' =
        ["OLD_PWD=1".toList ++ last'.toList] := (List.cons.inj (List.cons.inj hwords).2).2
    have hjoin : "OLD_PWD=".toList ++ '1' :: last = "OLD_PWD=1".toList ++ last'.toList := by
      have hsplit : [' '].intercalate (("OLD_PWD=".toList ++ '1' :: last).splitOn ' ') =
          "OLD_PWD=".toList ++ '1' :: last := List.intercalate_splitOn ' '
      rw [hone] at hsplit
      simpa using hsplit.symm
    have heq : last = last'.toList := by simpa using hjoin
    rw [heq, List.all_cons, hlast'.digits]
    decide
  · intro hdigits
    have hlastDigits : last.all Char.isDigit = true := by
      rw [List.all_cons, Bool.and_eq_true] at hdigits
      exact hdigits.2
    have hspace : ' ' ∉ "OLD_PWD=".toList ++ '1' :: last := by
      rw [List.mem_append, not_or]
      exact ⟨by decide, Pin.space_not_mem hdigits⟩
    have htoList : (String.ofList last).toList = last := String.toList_ofList
    refine ⟨n, new, String.ofList last, hpos, hn, hnew, ⟨?_, ?_⟩, ?_⟩
    · rw [String.length_ofList, hlast]
    · rw [htoList, hlastDigits]
    · rw [hparts, List.splitOn_eq_singleton hspace, htoList]
      rfl

/-! ## Setups -/

namespace Bootstrap

/-- A setup under the protocol with provisioning, whose reports and whose request for the status
send no commands. -/
structure IsVvm3 (b : Bootstrap) : Prop where
  protocol : b.protocol = .vvm3
  quiet : b.reporter.IsQuiet
  asks : b.AsksBy Attempt.SendsNone

/-- The commands that a setup sends. -/
def sent (p : Platform) (b : Bootstrap) (identifier : String) (spanish pinSet : Bool) (c : Client) :
    List Sent :=
  p.sent c.transcript.calls
    ((run p b identifier spanish pinSet c).2.transcript.calls.drop c.transcript.calls.length)

/-- No setup for an identifier sends a change of the PIN that is more than the carrier expects. -/
def ChangesPlainly (identifier : String) : Prop :=
  ∀ (p : Platform) (b : Bootstrap), b.IsVvm3 → ∀ (spanish pinSet : Bool) (c : Client),
    ∀ x ∈ b.sent p identifier spanish pinSet c, x.changesPin = true → x.IsPlain

variable {p : Platform} {b : Bootstrap} {identifier : String} {spanish pinSet : Bool} {c : Client}

/-- The setup of an attempt is one. -/
theorem isVvm3_setup (p : Platform) (account : String) (locale : Option String) (c : Client) :
    (Attempt.setup p ⟨account, .vvm3, locale⟩ c).IsVvm3 :=
  ⟨rfl, Reporter.toBus_isQuiet .vvm3 account, Attempt.bootstrap_asksBy p _ _⟩

/-- What a setup sends is the beginning of its plan. -/
theorem sent_inOrder (hb : b.IsVvm3) (p : Platform) (identifier : String) (spanish pinSet : Bool)
    (c : Client) :
    InOrder Protocol.vvm3.commands (b.plan identifier spanish pinSet (b.drawnPin c))
      (b.sent p identifier spanish pinSet c) := by
  obtain ⟨calls, hcalls, horder⟩ :=
    run_inOrder p identifier spanish pinSet c hb.asks (fun _ h => h) hb.quiet
  rw [sent, hcalls, List.drop_left, ← hb.protocol]
  exact horder

/-- The PIN that a setup draws has from one to ten digits. -/
theorem exists_isPin_drawnPin (b : Bootstrap) (c : Client) :
    ∃ n, 1 ≤ n ∧ n ≤ 10 ∧ Pin.IsPin n (b.drawnPin c) := by
  have hlength := Pin.isLength_iff.1 (Pin.isLength_clampLength (Pin.minimumLength
    (c.preferences.get? b.account StatusResponse.pinLengthField) b.defaultPinLength))
  exact ⟨_, by omega, by omega, Pin.isPin_ofDraw (by show _ ≤ 10; omega) _⟩

/-- A change of the PIN that is sent has the drawn PIN and the default PIN. -/
theorem text_of_changesPin (hb : b.IsVvm3) {x : Sent}
    (hx : x ∈ b.sent p identifier spanish pinSet c) (hchange : x.changesPin = true) :
    ∃ old, Pin.derive? identifier = some old ∧
      (Step.changePin (b.drawnPin c) old).text Protocol.vvm3.commands = .ok x.text := by
  have horder := b.sent_inOrder hb p identifier spanish pinSet c
  obtain ⟨step, hstep, htext⟩ :=
    List.mem_map.1 (horder.texts.subset (List.mem_map_of_mem hx))
  rw [Sent.changesPin_of_text htext] at hchange
  cases step with
  | setLanguage | closeTutorial => cases hchange
  | changePin new old =>
    unfold plan pinPlan at hstep
    split at hstep
    · simp at hstep
    · split at hstep
      · simp at hstep
      next derived =>
        simp only [List.mem_cons, reduceCtorEq, Step.changePin.injEq, List.not_mem_nil, or_false,
          false_or] at hstep
        obtain ⟨rfl, rfl⟩ := hstep
        exact ⟨_, derived, htext⟩

/-- It is plain exactly if the default PIN has digits only. -/
theorem isPlain_of_changesPin (hb : b.IsVvm3) {x : Sent}
    (hx : x ∈ b.sent p identifier spanish pinSet c) (hchange : x.changesPin = true) :
    ∃ old, Pin.derive? identifier = some old ∧
      (Step.changePin (b.drawnPin c) old).text Protocol.vvm3.commands = .ok x.text ∧
      (x.IsPlain ↔ old.toList.all Char.isDigit = true) := by
  obtain ⟨old, derived, htext⟩ := text_of_changesPin hb hx hchange
  obtain ⟨last, hlast, hold⟩ := Pin.exists_of_derive? derived
  obtain ⟨n, hpos, hmax, hnew⟩ := b.exists_isPin_drawnPin c
  exact ⟨old, derived, htext, Sent.isPlain_iff hpos hmax hnew hlast hold htext⟩

/-- On a cooperating platform every setup changes a default PIN. -/
theorem exists_changesPin (hb : b.IsVvm3) (hp : p.Cooperates) {old : String}
    (derived : Pin.derive? identifier = some old) (spanish : Bool) (c : Client) :
    ∃ x ∈ b.sent p identifier spanish false c, x.changesPin = true := by
  obtain ⟨calls, more, reports, r, c₁, hsession, hcalls, hsent⟩ :=
    run_sends p identifier spanish false c hb.asks (fun _ h => h) hb.quiet
  have hwrites : b.protocol.commands.WritesAll := by
    rw [hb.protocol]
    exact writesAll_vvm3
  obtain ⟨rfl, -⟩ :=
    hsession.cooperates hp hwrites (by rw [derived]; rfl) (absurd · Bool.false_ne_true)
  obtain ⟨horder, hcarried⟩ := hsession.planned
  have hlength := (hcarried.1 rfl).1.all.length_eq
  have htexts := horder.texts.eq_of_length (by rw [List.length_map, List.length_map, hlength])
  have hplan : Step.changePin (b.drawnPin c) old ∈
      b.plan identifier spanish false (b.drawnPin c) := by
    rw [plan, pinPlan_derived rfl derived]
    exact .tail _ (.head _)
  have hmem := List.mem_map_of_mem (f := Step.text b.protocol.commands) hplan
  rw [← htexts] at hmem
  obtain ⟨x, hx, htext⟩ := List.mem_map.1 hmem
  rw [hb.protocol] at htext
  refine ⟨x, ?_, Sent.changesPin_of_text htext.symm⟩
  rw [sent, hcalls, List.drop_left, hsent]
  exact hx

/-- So the setups for an identifier send plain changes of the PIN only if no default PIN but one of
digits is derived from it, -/
theorem ChangesPlainly.digits (h : ChangesPlainly identifier) {old : String}
    (derived : Pin.derive? identifier = some old) : old.toList.all Char.isDigit = true := by
  let c : Client := .new { root := ⟨.root, []⟩, configPath := none } none []
  have hb := isVvm3_setup .obliging "a" none c
  obtain ⟨x, hx, hchange⟩ := exists_changesPin hb Platform.obliging_cooperates derived false c
  have hplain := h .obliging _ hb false false c x hx hchange
  obtain ⟨old', derived', -, hiff⟩ := isPlain_of_changesPin hb hx hchange
  obtain rfl : old' = old := Option.some.inj (derived'.symm.trans derived)
  exact hiff.1 hplain

/-- and if so, they do. -/
theorem changesPlainly_of_digits
    (h : ∀ old, Pin.derive? identifier = some old → old.toList.all Char.isDigit = true) :
    ChangesPlainly identifier := by
  intro p b hb spanish pinSet c x hx hchange
  obtain ⟨old, derived, -, hiff⟩ := isPlain_of_changesPin hb hx hchange
  exact hiff.2 (h old derived)

/-- Whatever the platform, the setup and the client are, a change of the PIN has the drawn PIN and
the default PIN as they are, and is plain exactly if the default PIN has digits only. So the setups
for an identifier send plain changes only, exactly if no other default PIN is derived from it. -/
theorem changesPlainly_iff (identifier : String) :
    (∀ (p : Platform) (b : Bootstrap), b.IsVvm3 → ∀ (spanish pinSet : Bool) (c : Client),
      ∀ x ∈ b.sent p identifier spanish pinSet c, x.changesPin = true →
        ∃ old, Pin.derive? identifier = some old ∧
          (Step.changePin (b.drawnPin c) old).text Protocol.vvm3.commands = .ok x.text ∧
          (x.IsPlain ↔ old.toList.all Char.isDigit = true)) ∧
      (ChangesPlainly identifier ↔
        ∀ old, Pin.derive? identifier = some old → old.toList.all Char.isDigit = true) :=
  ⟨fun _ _ hb _ _ _ _ hx hchange => isPlain_of_changesPin hb hx hchange,
    fun h _ => h.digits, changesPlainly_of_digits⟩

/-- From a number that is written with spaces a default PIN of two words is derived. -/
theorem not_changesPlainly_spaced : ¬ChangesPlainly "555 12 34@vzw.com" := by
  intro h
  have derived : Pin.derive? "555 12 34@vzw.com" = some "12 34" := by decide +kernel
  exact absurd (h.digits derived) (by decide)

end Bootstrap

end Voicemail
