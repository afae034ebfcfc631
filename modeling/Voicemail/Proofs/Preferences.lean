import Mathlib.Data.List.Nodup
import Mathlib.Data.String.Basic
import Voicemail.Preferences
import Voicemail.Proofs.Assoc
import Voicemail.Proofs.Text.ByteOrder

/-!
# What preferences hold

The preferences of an account are what was stored last under each key. A status response stores its
fields, so that a key reads as the last field of its name, or as before where there is none
(`get?_putStatus`); the client's own two keys are no exception. The listing of an account has each
of its keys once (`mem_items`), in the order of their bytes (`items_sorted`).
-/

namespace Voicemail.Preferences

variable (p : Preferences) (account key : String)

/-- A key that is stored holds its new value, every other key what it held. -/
theorem find?_put (value : Option String) (account' key' : String) :
    (p.put account key value).find? account' key' =
      if account' = account ∧ key' = key then some value else p.find? account' key' := by
  have hlookup := Assoc.lookup_set (account, key) value p.entries (account', key')
  unfold find? put
  simp only [hlookup, Prod.mk.injEq]

/-- A key that is stored reads as its new value, every other key as before. -/
theorem get?_put (value : Option String) (account' key' : String) :
    (p.put account key value).get? account' key' =
      if account' = account ∧ key' = key then value else p.get? account' key' := by
  unfold get?
  rw [find?_put]
  split <;> rfl

/-- The value of the last field of a name, if there is one. -/
def lastField (fields : List (String × String)) (key : String) : Option String :=
  fields.reverse.lookup key

/-- A later field wins over the first one. -/
theorem lastField_cons (name value : String) (rest : List (String × String)) :
    lastField ((name, value) :: rest) key =
      (lastField rest key).or (if key = name then some value else none) := by
  unfold lastField
  rw [List.reverse_cons, List.lookup_append]
  by_cases h : key = name
  · simp [h]
  · simp [h, List.lookup_cons, beq_eq_false_iff_ne.2 h]

/-- Storing the fields of a status response stores the last value of each name under that name, and
nothing else. -/
theorem find?_putStatus (fields : List (String × String)) (account' : String) :
    (p.putStatus account fields).find? account' key =
      if account' = account then ((lastField fields key).map some).or (p.find? account' key)
      else p.find? account' key := by
  induction fields generalizing p with
  | nil => simp [putStatus, putMany, lastField]
  | cons field rest ih =>
    obtain ⟨name, value⟩ := field
    have hcons : p.putStatus account ((name, value) :: rest) =
        (p.put account name (some value)).putStatus account rest := rfl
    rw [hcons, ih, lastField_cons, find?_put]
    by_cases ha : account' = account
    · by_cases hk : key = name
      · cases lastField rest key <;> simp [ha, hk]
      · simp [ha, hk]
    · simp [ha]

/-- Storing the fields of a status response changes the keys that they name, to the last value of
each, and nothing else. -/
theorem get?_putStatus (fields : List (String × String)) (account' : String) :
    (p.putStatus account fields).get? account' key =
      if account' = account then (lastField fields key).or (p.get? account' key)
      else p.get? account' key := by
  unfold get?
  rw [find?_putStatus]
  split
  · cases lastField fields key <;> rfl
  · rfl

/-! ## The client's own keys -/

/-- The PIN after the fields of a status response are stored. -/
theorem oldPin?_putStatus (fields : List (String × String)) :
    (p.putStatus account fields).oldPin? account =
      (lastField fields pinKey).or (p.oldPin? account) := by
  simp [oldPin?, get?_putStatus]

/-- Whether the service is enabled after the fields of a status response are stored. -/
theorem isEnabled_putStatus (fields : List (String × String)) :
    (p.putStatus account fields).isEnabled account =
      match lastField fields enabledKey with
      | some value => decide (value = "true")
      | none => p.isEnabled account := by
  unfold isEnabled
  rw [get?_putStatus, if_pos rfl]
  cases lastField fields enabledKey with
  | none => rfl
  | some value => rfl

/-- Recording a PIN enables and disables nothing. -/
theorem isEnabled_setOldPin (pin : String) :
    (p.setOldPin account (some pin)).isEnabled account = p.isEnabled account := by
  have hkey : enabledKey ≠ pinKey := by decide
  simp [isEnabled, setOldPin, get?_put, hkey]

/-- A PIN that is recorded is the PIN of its account, and of no other. -/
theorem oldPin?_setOldPin (pin account' : String) :
    (p.setOldPin account (some pin)).oldPin? account' =
      if account' = account then some pin else p.oldPin? account' := by
  simp [oldPin?, setOldPin, get?_put]

/-- Enabling and disabling the service leaves the PIN as it is. -/
theorem oldPin?_setEnabled (enabled : Bool) :
    (p.setEnabled account enabled).oldPin? account = p.oldPin? account := by
  have hkey : pinKey ≠ enabledKey := by decide
  simp [oldPin?, setEnabled, get?_put, hkey]

/-- Whether a PIN is set is whether one is stored; null is none. -/
theorem hasOldPin_iff :
    p.hasOldPin account = true ↔ ∃ pin, p.find? account pinKey = some (some pin) := by
  unfold hasOldPin oldPin? get?
  rcases p.find? account pinKey with _ | _ | pin <;> simp

/-- The service is enabled unless a text other than `true` is stored. -/
theorem isEnabled_iff :
    p.isEnabled account = true ↔ p.find? account enabledKey = none ∨
      p.find? account enabledKey = some none ∨
      p.find? account enabledKey = some (some "true") := by
  unfold isEnabled get?
  rcases p.find? account enabledKey with _ | _ | value <;> simp

/-! ## Removed keys -/

/-- A key that is removed holds nothing, every other key what it held. -/
theorem find?_remove (account' key' : String) :
    (p.remove account key).find? account' key' =
      if account' = account ∧ key' = key then none else p.find? account' key' := by
  have hlookup := Assoc.lookup_erase (account, key) p.entries (account', key')
  unfold find? remove
  simp only [hlookup, Prod.mk.injEq]

/-! ## The listing of an account -/

/-- No key of an account is stored twice. -/
def Distinct : Prop := (Assoc.keys p.entries).Nodup

/-- Storing values makes no key twice, -/
theorem Distinct.putMany {p : Preferences} (h : p.Distinct) (account : String)
    (values : List (String × Option String)) : (p.putMany account values).Distinct := by
  induction values generalizing p with
  | nil => exact h
  | cons kv rest ih => exact ih (Assoc.nodup_keys_set h (account, kv.1) kv.2)

/-- and neither does removing one. -/
theorem Distinct.remove {p : Preferences} (h : p.Distinct) (account key : String) :
    (p.remove account key).Distinct :=
  Assoc.nodup_keys_erase h (account, key)

/-- The entries of an account, in the order in which their keys were first stored. -/
def entriesOf : List (String × Option String) :=
  p.entries.filterMap fun e => if e.1.1 = account then some (e.1.2, e.2) else none

/-- The items of an account are its entries, ordered by their keys. -/
theorem items_eq :
    p.items account = (p.entriesOf account).mergeSort fun a b => decide (a.1 ≤ b.1) := rfl

/-- An account has the entries that are stored under its name. -/
theorem mem_entriesOf {value : Option String} :
    (key, value) ∈ p.entriesOf account ↔ ((account, key), value) ∈ p.entries := by
  unfold entriesOf
  rw [List.mem_filterMap]
  constructor
  · rintro ⟨⟨⟨a, k⟩, v⟩, hmem, h⟩
    split at h
    next ha =>
      obtain ⟨rfl, rfl⟩ := Prod.mk.inj (Option.some.inj h)
      exact ha ▸ hmem
    · cases h
  · exact fun hmem => ⟨_, hmem, if_pos rfl⟩

/-- An account is listed with what is stored for it. -/
theorem mem_items {p : Preferences} (h : p.Distinct) {account key : String}
    {value : Option String} :
    (key, value) ∈ p.items account ↔ p.find? account key = some value := by
  rw [items_eq, List.mem_mergeSort, mem_entriesOf, Assoc.mem_iff_lookup h]
  rfl

/-- No key of an account is listed twice. -/
theorem nodup_entriesOf {p : Preferences} (h : p.Distinct) (account : String) :
    (Assoc.keys (p.entriesOf account)).Nodup := by
  have hkeys : Assoc.keys (p.entriesOf account) = (Assoc.keys p.entries).filterMap
      fun k => if k.1 = account then some k.2 else none := by
    unfold entriesOf Assoc.keys
    rw [List.map_filterMap, List.filterMap_map]
    refine List.filterMap_congr fun e _ => ?_
    by_cases ha : e.1.1 = account <;> simp [ha]
  rw [hkeys]
  refine List.Nodup.filterMap (fun k k' b hb hb' => ?_) h
  obtain ⟨ha, hk⟩ := Option.ite_none_right_eq_some.1 hb
  obtain ⟨ha', hk'⟩ := Option.ite_none_right_eq_some.1 hb'
  exact Prod.ext (ha.trans ha'.symm) (Option.some.inj (hk.trans hk'.symm))

/-- The keys of an account are listed in order. -/
theorem items_lt {p : Preferences} (h : p.Distinct) (account : String) :
    (p.items account).Pairwise fun x y => x.1 < y.1 := by
  have hle : (p.items account).Pairwise fun x y => x.1 ≤ y.1 := by
    refine (List.pairwise_mergeSort (fun a b c hab hbc => ?_) (fun a b => ?_)
      (p.entriesOf account)).imp of_decide_eq_true
    · exact decide_eq_true (le_trans (of_decide_eq_true hab) (of_decide_eq_true hbc))
    · simpa using le_total a.1 b.1
  have hne : (p.items account).Pairwise fun x y => x.1 ≠ y.1 :=
    ((List.mergeSort_perm _ _).pairwise_iff Ne.symm).2
      (List.pairwise_map.1 (nodup_entriesOf h account))
  exact (hle.and hne).imp fun ⟨hle, hne⟩ => lt_of_le_of_ne hle hne

/-- Lists in which the keys rise are the same if they hold the same. -/
theorem eq_of_keys_lt {β : Type} {xs ys : List (String × β)}
    (hx : xs.Pairwise fun x y => x.1 < y.1) (hy : ys.Pairwise fun x y => x.1 < y.1)
    (h : ∀ x, x ∈ xs ↔ x ∈ ys) : xs = ys := by
  have hnodup {zs : List (String × β)} (hz : zs.Pairwise fun x y => x.1 < y.1) : zs.Nodup :=
    hz.imp fun {x y} (hlt : x.1 < y.1) heq => lt_irrefl x.1 (heq ▸ hlt)
  have hperm : xs.Perm ys := (List.perm_ext_iff_of_nodup (hnodup hx) (hnodup hy)).2 h
  exact hperm.eq_of_pairwise (fun x y _ _ hxy hyx => absurd hyx (lt_asymm hxy)) hx hy

/-- The keys of an account are listed in the order of their bytes. -/
theorem items_sorted {p : Preferences} (h : p.Distinct) (account : String) :
    (p.items account).Pairwise fun x y => Text.bytes x.1 < Text.bytes y.1 :=
  (items_lt h account).imp Text.bytes_lt

/-- Storing for one account changes the listing of no other. -/
theorem items_putMany (values : List (String × Option String)) {account' : String}
    (h : account' ≠ account) : (p.putMany account values).items account' = p.items account' := by
  induction values generalizing p with
  | nil => rfl
  | cons kv rest ih =>
    have hput : (p.put account kv.1 kv.2).entriesOf account' = p.entriesOf account' :=
      Assoc.filterMap_set _ (fun _ => if_neg h.symm) kv.2 p.entries
    exact (ih _).trans (by rw [items_eq, items_eq, hput])

/-- Removing a key of one account changes the listing of no other. -/
theorem items_remove {account' : String} (h : account' ≠ account) :
    (p.remove account key).items account' = p.items account' := by
  have hremove : (p.remove account key).entriesOf account' = p.entriesOf account' :=
    Assoc.filterMap_erase _ (fun _ => if_neg h.symm) p.entries
  rw [items_eq, items_eq, hremove]

end Voicemail.Preferences
