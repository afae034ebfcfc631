import Voicemail.Proofs.Provisioning.Rerun

/-!
# What an attempt stores

An attempt stores for its own account only, and what it stores depends on its action alone, not on
how the platform lets it end (`Attempt.provision_stores`). Disabling the service stores that it is
disabled. The setup of a new user stores the fields of the status before it asks for a network, so
that they stay whatever comes of it; after that the only key that can change is the client's own one
for the PIN, from nothing to the new PIN that the server took (`Attempt.Course.stored`). All other
attempts store nothing.
-/

namespace Voicemail

open Client

/-! ## The PIN that the server took -/

/-- The command of a step has the text with which it was sent. -/
theorem InOrder.text_of_mem_zip {table : CommandTable} {plan : List Step} {sent : List Sent}
    (h : InOrder table plan sent) {step : Step} {x : Sent} (hmem : (step, x) ∈ plan.zip sent) :
    step.text table = .ok x.text := by
  have htexts := h.texts
  clear h
  induction plan generalizing sent with
  | nil => cases hmem
  | cons first rest ih =>
    cases sent with
    | nil => cases hmem
    | cons y ys =>
      rw [List.map_cons, List.map_cons, List.cons_prefix_cons] at htexts
      obtain heq | hmem := List.mem_cons.1 hmem
      · obtain ⟨rfl, rfl⟩ := Prod.mk.inj heq
        exact htexts.1.symm
      · exact ih hmem htexts.2

/-- A change of the PIN that was sent is a step of the plan. -/
theorem mem_zip_of_sentPin? {plan : List Step} {sent : List Sent} {change : SentPin}
    (h : sentPin? plan sent = some change) :
    ∃ old x, (.changePin change.new old, x) ∈ plan.zip sent ∧ x.answer = change.answer := by
  obtain ⟨⟨step, x⟩, hmem, hchange⟩ := List.exists_of_findSome?_eq_some h
  cases step with
  | changePin new old =>
    cases hchange
    exact ⟨old, x, hmem, rfl⟩
  | setLanguage | closeTutorial => cases hchange

/-- The server was sent a change to a new PIN by one of some calls, and accepted it. -/
def Platform.TakesPin (p : Platform) (table : CommandTable) (past calls : List Call)
    (new : String) : Prop :=
  ∃ old, ∃ x ∈ p.sent past calls,
    (Step.changePin new old).text table = .ok x.text ∧ accepts x.answer = true

/-- A change of the PIN is planned only where there is no PIN from an earlier run. -/
theorem Bootstrap.pinSet_of_changePin_mem {b : Bootstrap} {identifier new new' old : String}
    {spanish pinSet : Bool} (h : .changePin new' old ∈ b.plan identifier spanish pinSet new) :
    pinSet = false := by
  cases pinSet with
  | true => simp [plan, pinPlan] at h
  | false => rfl

namespace Attempt

variable {p : Platform} {a : Attempt} {s : StatusResponse} {c c' : Client} {calls : List Call}
  {reports : List String} {r : Except Failure Outcome}

/-- A course leaves the fields of the status in the preferences, and over them the new PIN if there
was none and the server took it. -/
theorem Course.stored (h : Course p a s c calls reports r c') :
    c'.preferences = c.preferences.putStatus a.account s.rawFields ∨
      ∃ new, a.isPinSet s c = false ∧
        p.TakesPin a.protocol.commands c.transcript.calls calls new ∧
        c'.preferences =
          (c.preferences.putStatus a.account s.rawFields).setOldPin a.account (some new) := by
  obtain ⟨drawn, reports', horder, hpin⟩ := h.followsPin
  have hpreferences := hpin.preferences
  rw [Preferences.adopting] at hpreferences
  cases hadopted : (sentPin? _ (p.sent c.transcript.calls calls)).bind SentPin.adopted? with
  | none =>
    rw [hadopted] at hpreferences
    exact .inl hpreferences
  | some new =>
    rw [hadopted] at hpreferences
    obtain ⟨change, hchange, hnew⟩ := Option.bind_eq_some_iff.1 hadopted
    obtain ⟨old, x, hmem, hanswer⟩ := mem_zip_of_sentPin? hchange
    obtain ⟨haccepts, rfl⟩ : accepts change.answer = true ∧ change.new = new := by
      simpa [SentPin.adopted?] using hnew
    refine .inr ⟨change.new, ?_, ⟨old, x, (List.of_mem_zip hmem).2, ?_, ?_⟩, hpreferences⟩
    · exact Bootstrap.pinSet_of_changePin_mem (List.of_mem_zip hmem).1
    · exact horder.text_of_mem_zip hmem
    · rw [hanswer, haccepts]

/-- Where no PIN counts as set, the fields of the status name none and none was stored before. -/
theorem unset_of_isPinSet (h : a.isPinSet s c = false) :
    Preferences.lastField s.rawFields Preferences.pinKey = none ∧
      c.preferences.get? a.account Preferences.pinKey = none := by
  have hold : (c.preferences.putStatus a.account s.rawFields).oldPin? a.account = none :=
    Option.isSome_eq_false_iff.1 h |> Option.isNone_iff_eq_none.1
  rw [Preferences.oldPin?_putStatus, Option.or_eq_none_iff] at hold
  exact hold

/-- After a course every key holds what it holds with the fields of the status, apart from that of
the PIN where there was none and the server took a new one. -/
theorem Course.find? (h : Course p a s c calls reports r c') (account key : String) :
    c'.preferences.find? account key =
        (c.preferences.putStatus a.account s.rawFields).find? account key ∨
      (account = a.account ∧ key = Preferences.pinKey) ∧ a.isPinSet s c = false ∧
        ∃ new, p.TakesPin a.protocol.commands c.transcript.calls calls new ∧
          c'.preferences.find? account key = some (some new) := by
  obtain hstored | ⟨new, hset, htaken, hstored⟩ := h.stored
  · exact .inl (by rw [hstored])
  · rw [hstored, Preferences.setOldPin, Preferences.find?_put]
    by_cases hkey : account = a.account ∧ key = Preferences.pinKey
    · exact .inr ⟨hkey, hset, new, htaken, if_pos hkey⟩
    · exact .inl (if_neg hkey)

/-- What an attempt that makes some calls leaves of the preferences and of the client. -/
structure Stores (p : Platform) (a : Attempt) (s : StatusResponse) (c : Client) (calls : List Call)
    (c' : Client) : Prop where
  /-- The preferences of other accounts stay. -/
  others : ∀ account ≠ a.account, ∀ key,
    c'.preferences.find? account key = c.preferences.find? account key
  /-- An attempt without an action changes nothing, calls nobody, and only writes to the log. -/
  unrouted : (∀ action, ¬a.Routes s action) →
    calls = [] ∧ ∃ entries, c' = c.noting entries ∧ ∀ entry ∈ entries, entry.isRecord = true
  /-- Three actions leave all preferences as they are. -/
  untouched : ∀ action ∈ [.selfProvision, .reportUnknownSubscriber, .reportBlocked],
    a.Routes s action → c'.preferences = c.preferences
  /-- Disabling the service stores that, and nothing else. -/
  disabled : a.Routes s .disableService → ∀ key,
    c'.preferences.find? a.account key =
      if key = Preferences.enabledKey then some (some "false")
      else c.preferences.find? a.account key
  /-- The setup of a new user stores every field of the status under its own key, -/
  fields : a.Routes s .provisionNewUser → ∀ key value,
    Preferences.lastField s.rawFields key = some value →
      c'.preferences.find? a.account key = some (some value)
  /-- leaves the other keys as they are apart from that of the PIN, -/
  rest : a.Routes s .provisionNewUser → ∀ key ≠ Preferences.pinKey,
    Preferences.lastField s.rawFields key = none →
      c'.preferences.find? a.account key = c.preferences.find? a.account key
  /-- and changes the PIN, where it is no field, only from nothing to a new one that the server
  took. -/
  pin : a.Routes s .provisionNewUser →
    Preferences.lastField s.rawFields Preferences.pinKey = none →
      c'.preferences.find? a.account Preferences.pinKey =
          c.preferences.find? a.account Preferences.pinKey ∨
        c.preferences.get? a.account Preferences.pinKey = none ∧
          ∃ new, p.TakesPin a.protocol.commands c.transcript.calls calls new ∧
            c'.preferences.find? a.account Preferences.pinKey = some (some new)

/-- The setup of a new user stores the fields of the status, and a PIN only where there is none. -/
theorem stores_of_newUser (h : a.Routes s .provisionNewUser) (p : Platform) (c : Client) :
    ∃ calls, (a.provision p s c).2.transcript.calls = c.transcript.calls ++ calls ∧
      Stores p a s c calls (a.provision p s c).2 := by
  obtain ⟨calls, reports, r, c₁, c', hrun, hcourse, hcalls, -, hpreferences⟩ :=
    provision_course h p c
  have hfind := hcourse.find?
  simp only [← hpreferences, Preferences.find?_putStatus] at hfind
  have honly {action : Action} (haction : a.Routes s action) : action = .provisionNewUser :=
    haction.unique h
  rw [hrun]
  refine ⟨calls, hcalls, ?_⟩
  constructor
  case others =>
    intro account haccount key
    obtain hkept | ⟨⟨rfl, -⟩, -⟩ := hfind account key
    · rwa [if_neg haccount] at hkept
    · exact absurd rfl haccount
  case unrouted => exact fun hnone => absurd h (hnone _)
  case untouched =>
    intro action hmem haction
    obtain rfl := honly haction
    simp at hmem
  case disabled => exact fun haction => nomatch honly haction
  case fields =>
    intro _ key value hfield
    obtain hkept | ⟨⟨-, rfl⟩, hset, -⟩ := hfind a.account key
    · rwa [if_pos rfl, hfield] at hkept
    · cases (unset_of_isPinSet hset).1.symm.trans hfield
  case rest =>
    intro _ key hkey hnone
    obtain hkept | ⟨⟨-, rfl⟩, -⟩ := hfind a.account key
    · rwa [if_pos rfl, hnone] at hkept
    · exact absurd rfl hkey
  case pin =>
    intro _ hnone
    obtain hkept | ⟨-, hset, htaken⟩ := hfind a.account Preferences.pinKey
    · rw [if_pos rfl, hnone] at hkept
      exact .inl hkept
    · exact .inr ⟨(unset_of_isPinSet hset).2, htaken⟩

/-- An attempt with another action stores at most that the service is disabled. -/
theorem stores_of_other {action : Action} (hroute : a.Routes s action)
    (h : action ≠ .provisionNewUser) (p : Platform) (c : Client) :
    ∃ calls, (a.provision p s c).2.transcript.calls = c.transcript.calls ++ calls ∧
      Stores p a s c calls (a.provision p s c).2 := by
  obtain ⟨calls, r, c', hrun, -, -, hafter⟩ := provision_settled hroute h p c
  have hpreferences : c'.preferences = a.settled action c.preferences := hafter.preferences
  have honly {action' : Action} (haction : a.Routes s action') : action' = action :=
    haction.unique hroute
  rw [hrun]
  refine ⟨calls, hafter.calls, ?_⟩
  constructor
  case others =>
    intro account haccount key
    rw [hpreferences, settled]
    split
    · rw [Preferences.setEnabled, Preferences.find?_put, if_neg fun heq => haccount heq.1]
    · rfl
  case unrouted => exact fun hnone => absurd hroute (hnone _)
  case untouched =>
    intro action' hmem haction
    obtain rfl := honly haction
    rw [hpreferences, settled, if_neg fun heq => by simp [heq] at hmem]
  case disabled =>
    intro haction key
    obtain rfl := honly haction
    rw [hpreferences, settled, if_pos rfl, Preferences.setEnabled, Preferences.find?_put]
    simp
  case fields => exact fun haction => absurd (honly haction).symm h
  case rest => exact fun haction => absurd (honly haction).symm h
  case pin => exact fun haction => absurd (honly haction).symm h

/-- An attempt without an action stores nothing. -/
theorem stores_of_unrouted (h : ∀ action, ¬a.Routes s action) (p : Platform) (c : Client) :
    ∃ calls, (a.provision p s c).2.transcript.calls = c.transcript.calls ++ calls ∧
      Stores p a s c calls (a.provision p s c).2 := by
  obtain ⟨e, entries, hrun, hsilent, hrecords⟩ :=
    provision_unrouted_records (p := p) (c := c) h
  rw [hrun]
  refine ⟨[], ?_, ?_⟩
  · exact (After.noting_silent hsilent c).calls
  constructor
  case others => exact fun _ _ _ => rfl
  case unrouted => exact fun _ => ⟨rfl, entries, rfl, hrecords⟩
  case untouched => exact fun _ _ haction => absurd haction (h _)
  case disabled => exact fun haction => absurd haction (h _)
  case fields => exact fun haction => absurd haction (h _)
  case rest => exact fun haction => absurd haction (h _)
  case pin => exact fun haction => absurd haction (h _)

/-- Whatever the platform does, and whether an attempt has an outcome or fails, it stores what its
action asks for and nothing else. -/
theorem provision_stores (p : Platform) (a : Attempt) (s : StatusResponse) (c : Client) :
    ∃ calls, (a.provision p s c).2.transcript.calls = c.transcript.calls ++ calls ∧
      Stores p a s c calls (a.provision p s c).2 := by
  by_cases hroute : ∃ action, a.Routes s action
  · obtain ⟨action, hroute⟩ := hroute
    by_cases h : action = .provisionNewUser
    · exact stores_of_newUser (h ▸ hroute) p c
    · exact stores_of_other hroute h p c
  · exact stores_of_unrouted (fun action haction => hroute ⟨action, haction⟩) p c

end Attempt

end Voicemail
