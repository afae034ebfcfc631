import Voicemail.Proofs.Client.Run
import Voicemail.Proofs.Preferences

/-!
# The history of the preferences

A client's preferences are what was written to them, in order (`Write`). What a history of writes
has left is a map from an account and a key to nothing, null or a text, in which later writes
replace earlier ones (`Contents.replay`); everything that can be asked of the preferences is an
answer about this map (`Preferences.Shows`). A write for one account changes no answer about another
(`Preferences.SameFor`). `Client.writeAll_holds` and `Client.writeAll_sameFor` say so of every
history, and `Client.lastWriteWins` puts them together.
-/

namespace Voicemail

open Preferences

/-! ## Writes -/

/-- A write to the preferences. -/
inductive Preferences.Write where
  | putMany (account : String) (values : List (String × Option String))
  | putStatus (account : String) (fields : List (String × String))
  | remove (account key : String)
  | setOldPin (account : String) (pin : Option String)
  | setEnabled (account : String) (enabled : Bool)

namespace Preferences.Write

/-- The account that a write is for. -/
def account : Write → String
  | putMany account _ | putStatus account _ | remove account _ | setOldPin account _
  | setEnabled account _ => account

/-- What a write stores under which keys, in order. Removing a key stores nothing there, and so does
null for the PIN. -/
def assigned : Write → List (String × Option (Option String))
  | putMany _ values => values.map fun kv => (kv.1, some kv.2)
  | putStatus _ fields => fields.map fun kv => (kv.1, some (some kv.2))
  | remove _ key => [(key, none)]
  | setOldPin _ pin => [(pinKey, pin.map some)]
  | setEnabled _ enabled => [(enabledKey, some (some (if enabled then "true" else "false")))]

/-- What a client does for a write. -/
def perform : Write → ClientM Unit
  | putMany account values => Client.putPreferences account values
  | putStatus account fields => Client.putStatus account fields
  | remove account key => Client.removePreference account key
  | setOldPin account pin => Client.setOldPin account pin
  | setEnabled account enabled => Client.setEnabled account enabled

/-- What the preferences are after a write. -/
def write (p : Preferences) : Write → Preferences
  | putMany account values => p.putMany account values
  | putStatus account fields => p.putStatus account fields
  | remove account key => p.remove account key
  | setOldPin account pin => p.setOldPin account pin
  | setEnabled account enabled => p.setEnabled account enabled

end Preferences.Write

/-- A client after a history of writes. -/
def Client.writeAll (ws : List Write) (c : Client) : Client :=
  ws.foldl (fun c w => (w.perform c).2) c

/-! ## The map that a history leaves -/

/-- What is stored for every account under every key: nothing, null or a text. -/
abbrev Preferences.Contents := String → String → Option (Option String)

namespace Preferences.Contents

/-- The map in which an account and a key hold something else. -/
def assign (m : Contents) (account key : String) (stored : Option (Option String)) : Contents :=
  fun a k => if a = account ∧ k = key then stored else m a k

/-- The map after a write: what is stored replaces what was there. -/
def after (m : Contents) (w : Write) : Contents :=
  w.assigned.foldl (fun m kv => m.assign w.account kv.1 kv.2) m

/-- The map that a history of writes leaves of nothing. -/
def replay (ws : List Write) : Contents := ws.foldl after fun _ _ => none

end Preferences.Contents

/-- What preferences hold is a map, and what they say of an account is an answer about it. -/
structure Preferences.Shows (p : Preferences) (m : Contents) : Prop where
  stored : ∀ account key, p.find? account key = m account key
  /-- A key that is absent or null reads as the other answer, every other key as its text. -/
  read : ∀ account key default, p.getOr account key default =
    match m account key with
    | none | some none => default
    | some (some value) => some value
  hasOldPin : ∀ account, p.hasOldPin account = true ↔ ∃ pin, m account pinKey = some (some pin)
  isEnabled : ∀ account, p.isEnabled account = true ↔
    m account enabledKey = none ∨ m account enabledKey = some none ∨
      m account enabledKey = some (some "true")
  /-- Every key that is stored is listed, the null ones too. -/
  listed : ∀ account key value, (key, value) ∈ p.items account ↔ m account key = some value
  /-- No key is listed twice, and the bytes of the keys rise. -/
  sorted : ∀ account, (p.items account).Pairwise fun x y => Text.bytes x.1 < Text.bytes y.1

/-- Two states of the preferences say the same of an account. -/
structure Preferences.SameFor (account : String) (p p' : Preferences) : Prop where
  find? : ∀ key, p'.find? account key = p.find? account key
  read : ∀ key default, p'.getOr account key default = p.getOr account key default
  hasOldPin : p'.hasOldPin account = p.hasOldPin account
  isEnabled : p'.isEnabled account = p.isEnabled account
  items : p'.items account = p.items account

/-! ## One write -/

namespace Preferences.Write

/-- A write is done by every client, and changes the preferences and the transcript. -/
theorem perform_eq (w : Write) (c : Client) :
    ∃ entries, w.perform c =
      (.ok (), { c with preferences := w.write c.preferences }.noting entries) := by
  have hput (account : String) (values : List (String × Option String)) :
      ∃ entries, Client.putPreferences account values c =
        (.ok (),
          { c with preferences := c.preferences.putMany account values }.noting entries) := by
    cases values with
    | nil => exact ⟨[], by simp [Client.putPreferences, Client.noting]; rfl⟩
    | cons kv rest => exact ⟨_, rfl⟩
  have hremove (account key : String) :
      ∃ entries, Client.removePreference account key c =
        (.ok (), { c with preferences := c.preferences.remove account key }.noting entries) :=
    ⟨[], by simp [Client.noting]; rfl⟩
  match w with
  | putMany account values => exact hput account values
  | putStatus account fields => exact hput account _
  | remove account key => exact hremove account key
  | setOldPin account (some pin) => exact hput account [(pinKey, some pin)]
  | setOldPin account none => exact hremove account pinKey
  | setEnabled account enabled => exact hput account [(enabledKey, _)]

/-- A client that performs a write leaves the preferences that it writes. -/
theorem perform_preferences (w : Write) (c : Client) :
    (w.perform c).2.preferences = w.write c.preferences := by
  obtain ⟨entries, h⟩ := w.perform_eq c
  rw [h]
  rfl

end Preferences.Write

namespace Preferences

variable {p : Preferences} {m : Contents}

/-- No write stores a key twice. -/
theorem Distinct.write (h : p.Distinct) : (w : Write) → (w.write p).Distinct
  | .putMany account values => h.putMany account values
  | .putStatus account _ => h.putMany account _
  | .remove account key => h.remove account key
  | .setOldPin account (some pin) => h.putMany account [(pinKey, some pin)]
  | .setOldPin account none => h.remove account pinKey
  | .setEnabled account _ => h.putMany account [(enabledKey, _)]

/-- Preferences hold a map. -/
def Holds (p : Preferences) (m : Contents) : Prop :=
  ∀ account key, p.find? account key = m account key

/-- Storing a value assigns it in the map, -/
theorem Holds.put (h : p.Holds m) (account key : String) (value : Option String) :
    (p.put account key value).Holds (m.assign account key (some value)) := by
  intro account' key'
  rw [find?_put, Contents.assign, h account' key']

/-- removing a key takes it out of the map, -/
theorem Holds.remove (h : p.Holds m) (account key : String) :
    (p.remove account key).Holds (m.assign account key none) := by
  intro account' key'
  rw [find?_remove, Contents.assign, h account' key']

/-- and storing several values assigns them one after another. -/
theorem Holds.putMany (h : p.Holds m) (account : String) (values : List (String × Option String)) :
    (p.putMany account values).Holds (m.after (.putMany account values)) := by
  rw [Contents.after, Write.assigned, List.foldl_map]
  induction values generalizing p m with
  | nil => exact h
  | cons kv rest ih => exact ih (h.put account kv.1 kv.2)

/-- A write leaves of the preferences what it leaves of their map. -/
theorem Holds.write (h : p.Holds m) : (w : Write) → (w.write p).Holds (m.after w)
  | .putMany account values => h.putMany account values
  | .putStatus account fields => by
    have := h.putMany account (fields.map fun kv => (kv.1, some kv.2))
    rwa [Contents.after, Write.assigned, List.map_map] at this
  | .remove account key => h.remove account key
  | .setOldPin account (some pin) => h.put account pinKey (some pin)
  | .setOldPin account none => h.remove account pinKey
  | .setEnabled account _ => h.put account enabledKey _

/-- What preferences without a key twice hold is all that they show. -/
theorem Holds.shows (h : p.Holds m) (hd : p.Distinct) : p.Shows m where
  stored := h
  read account key default := by
    rw [← h account key, getOr, get?]
    rcases p.find? account key with _ | _ | value <;> rfl
  hasOldPin account := by rw [hasOldPin_iff, h account pinKey]
  isEnabled account := by rw [isEnabled_iff, h account enabledKey]
  listed account key value := by rw [mem_items hd, h account key]
  sorted := items_sorted hd

/-- Preferences that hold and list the same for an account say the same of it. -/
theorem SameFor.of_find? {account : String} {p' : Preferences}
    (hfind : ∀ key, p'.find? account key = p.find? account key)
    (hitems : p'.items account = p.items account) : SameFor account p p' := by
  have hget (key : String) : p'.get? account key = p.get? account key :=
    congrArg Option.join (hfind key)
  refine ⟨hfind, fun key default => ?_, ?_, ?_, hitems⟩
  · exact congrArg (·.or default) (hget key)
  · exact congrArg Option.isSome (hget pinKey)
  · unfold Preferences.isEnabled
    rw [hget]

/-- What preferences without a key twice say of an account depends on what is stored for it. -/
theorem SameFor.of_distinct {account : String} {p' : Preferences} (hd : p.Distinct)
    (hd' : p'.Distinct) (hfind : ∀ key, p'.find? account key = p.find? account key) :
    SameFor account p p' := by
  refine .of_find? hfind (eq_of_keys_lt (items_lt hd' account) (items_lt hd account) ?_)
  rintro ⟨key, value⟩
  rw [mem_items hd', mem_items hd, hfind]

/-- What two changes leave as it was is the same after both. -/
theorem SameFor.trans {account : String} {p₁ p₂ p₃ : Preferences} (h : SameFor account p₁ p₂)
    (h' : SameFor account p₂ p₃) : SameFor account p₁ p₃ where
  find? key := (h'.find? key).trans (h.find? key)
  read key default := (h'.read key default).trans (h.read key default)
  hasOldPin := h'.hasOldPin.trans h.hasOldPin
  isEnabled := h'.isEnabled.trans h.isEnabled
  items := h'.items.trans h.items

/-- Storing values for one account changes nothing for another, -/
theorem SameFor.putMany (p : Preferences) {account account' : String} (h : account' ≠ account)
    (values : List (String × Option String)) :
    SameFor account' p (p.putMany account values) := by
  refine .of_find? (fun key => ?_) (p.items_putMany account values h)
  induction values generalizing p with
  | nil => rfl
  | cons kv rest ih => exact (ih _).trans (by rw [find?_put, if_neg fun ha => h ha.1])

/-- and neither does removing a key. -/
theorem SameFor.remove (p : Preferences) {account account' : String} (h : account' ≠ account)
    (key : String) : SameFor account' p (p.remove account key) :=
  .of_find? (fun key' => by rw [find?_remove, if_neg fun ha => h ha.1])
    (p.items_remove account key h)

/-- A write for one account changes nothing for another. -/
theorem SameFor.write (p : Preferences) {account : String} : (w : Write) → account ≠ w.account →
    SameFor account p (w.write p)
  | .putMany _ values, h => .putMany p h values
  | .putStatus _ _, h => .putMany p h _
  | .remove _ key, h => .remove p h key
  | .setOldPin _ (some pin), h => .putMany p h [(pinKey, some pin)]
  | .setOldPin _ none, h => .remove p h pinKey
  | .setEnabled _ _, h => .putMany p h [(enabledKey, _)]

end Preferences

/-! ## A history of writes -/

namespace Preferences.Contents

variable {m m' : Contents} {account : String}

/-- An assignment for another account changes nothing. -/
theorem assign_of_ne {account' : String} (h : account ≠ account') (key : String)
    (stored : Option (Option String)) : m.assign account' key stored account = m account :=
  funext fun _ => if_neg fun ha => h ha.1

/-- What an assignment leaves an account with depends on what that account held. -/
theorem assign_congr (h : m account = m' account) (account' key : String)
    (stored : Option (Option String)) :
    m.assign account' key stored account = m'.assign account' key stored account :=
  funext fun k => by rw [assign, assign, congrFun h k]

/-- A write for one account leaves what others hold. -/
theorem after_of_ne {w : Write} (h : account ≠ w.account) : m.after w account = m account := by
  unfold after
  induction w.assigned generalizing m with
  | nil => rfl
  | cons kv rest ih => exact ih.trans (assign_of_ne h kv.1 kv.2)

/-- What a write leaves an account with depends on what that account held. -/
theorem after_congr (h : m account = m' account) (w : Write) :
    m.after w account = m'.after w account := by
  unfold after
  induction w.assigned generalizing m m' with
  | nil => exact h
  | cons kv rest ih => exact ih (assign_congr h w.account kv.1 kv.2)

/-- What a history leaves an account with is what the writes for that account leave. -/
theorem foldl_filter (h : m account = m' account) (ws : List Write) :
    (ws.filter (·.account = account)).foldl after m account = ws.foldl after m' account := by
  induction ws generalizing m m' with
  | nil => exact h
  | cons w rest ih =>
    by_cases hw : w.account = account
    · rw [List.filter_cons_of_pos (by simpa using hw)]
      exact ih (after_congr h w)
    · rw [List.filter_cons_of_neg (by simpa using hw)]
      exact ih (h.trans (after_of_ne (Ne.symm hw)).symm)

end Preferences.Contents

namespace Client

/-- A history of writes leaves of preferences what it leaves of their map. -/
theorem writeAll_holds (ws : List Write) {c : Client} {m : Contents} (h : c.preferences.Holds m)
    (hd : c.preferences.Distinct) :
    (c.writeAll ws).preferences.Holds (ws.foldl Contents.after m) ∧
      (c.writeAll ws).preferences.Distinct := by
  induction ws generalizing c m with
  | nil => exact ⟨h, hd⟩
  | cons w rest ih =>
    refine ih (c := (w.perform c).2) ?_ ?_
    · rw [w.perform_preferences]
      exact h.write w
    · rw [w.perform_preferences]
      exact hd.write w

/-- Writes for other accounts change nothing for an account. -/
theorem writeAll_sameFor {account : String} (ws : List Write) {c : Client}
    (h : ∀ w ∈ ws, account ≠ w.account) :
    SameFor account c.preferences (c.writeAll ws).preferences := by
  induction ws generalizing c with
  | nil => exact .of_find? (fun _ => rfl) rfl
  | cons w rest ih =>
    have hw := SameFor.write c.preferences w (h w (.head _))
    rw [← w.perform_preferences] at hw
    exact hw.trans (ih fun w' hw' => h w' (.tail _ hw'))

/-- What a client with an empty store has after a history of writes. -/
theorem writeAll_empty (ws : List Write) (c : Client) :
    ({ c with preferences := .empty }.writeAll ws).preferences.Holds (.replay ws) ∧
      ({ c with preferences := .empty }.writeAll ws).preferences.Distinct :=
  writeAll_holds ws (fun _ _ => rfl) List.nodup_nil

/-- The preferences of a client are a map for each account in which the last write wins. -/
structure LastWriteWins (c : Client) : Prop where
  /-- Every write is done. -/
  done : ∀ w : Write, (w.perform c).1 = .ok ()
  /-- What a history has left of an empty store is the map that replaying it builds. -/
  replayed : ∀ ws, ({ c with preferences := .empty }.writeAll ws).preferences.Shows (.replay ws)
  /-- Storing nothing changes nothing. -/
  nothing : ∀ account, (Write.putMany account []).perform c = (.ok (), c)
  /-- Writes for other accounts change nothing for an account, whatever is stored. -/
  others : ∀ account ws, (∀ w ∈ ws, account ≠ w.account) →
    SameFor account c.preferences (c.writeAll ws).preferences
  /-- The writes for an account decide what is said of it, whichever others stand between them. -/
  own : ∀ account ws,
    SameFor account
      ({ c with preferences := .empty }.writeAll (ws.filter (·.account = account))).preferences
      ({ c with preferences := .empty }.writeAll ws).preferences

/-- The preferences of every client are a map for each account in which the last write wins. -/
theorem lastWriteWins (c : Client) : c.LastWriteWins where
  done w := by
    obtain ⟨entries, h⟩ := w.perform_eq c
    rw [h]
  replayed ws := (writeAll_empty ws c).1.shows (writeAll_empty ws c).2
  nothing account := rfl
  others account ws := writeAll_sameFor ws
  own account ws := by
    obtain ⟨hown, hdown⟩ := writeAll_empty (ws.filter (·.account = account)) c
    obtain ⟨hall, hdall⟩ := writeAll_empty ws c
    refine .of_distinct hdown hdall fun key => ?_
    rw [hown account key, hall account key]
    exact (congrFun (Contents.foldl_filter rfl ws) key).symm

end Client

end Voicemail
