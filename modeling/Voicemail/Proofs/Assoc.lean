import Mathlib.Data.List.Induction
import Voicemail.Assoc

/-!
# What ordered dictionaries hold

Looking a key up sees the last value that was set for it, and other keys are not touched
(`lookup_set`); a key that was erased is absent (`lookup_erase`). Pairs write a dictionary in which
no key stands twice (`ofPairs_spec`) and keys keep the order in which they are first written
(`keys_ofPairs`); where no key stands twice among the pairs they are that dictionary
(`ofPairs_of_nodup`).
-/

namespace Voicemail.Assoc

variable {κ α β : Type} [BEq κ] [LawfulBEq κ]

/-- A key that is set reads as its new value, every other key as before. -/
theorem lookup_set [DecidableEq κ] (key : κ) (value : α) (d : List (κ × α)) (k : κ) :
    (set key value d).lookup k = if k = key then some value else d.lookup k := by
  induction d with
  | nil => by_cases h : k = key <;> simp [set, h, List.lookup_cons, beq_eq_false_iff_ne.2]
  | cons p rest ih =>
    obtain ⟨k', v⟩ := p
    by_cases hset : k' = key
    · subst hset
      by_cases h : k = k' <;> simp [set, h, List.lookup_cons, beq_eq_false_iff_ne.2]
    · by_cases h : k = k'
      · subst h
        simp [set, hset]
      · simp [set, hset, List.lookup_cons, beq_eq_false_iff_ne.2 h, ih]

/-- A key that is not contained reads as absent. -/
theorem lookup_of_not_contains {key : κ} {d : List (κ × α)} (h : contains key d = false) :
    d.lookup key = none := by
  rw [List.lookup_eq_none_iff]
  intro p hp
  have := List.any_eq_false.1 h p hp
  simp only [beq_iff_eq] at this
  exact bne_iff_ne.2 (Ne.symm this)

/-- A key that stands nowhere reads as absent. -/
theorem lookup_of_not_mem {key : κ} {d : List (κ × α)} (h : key ∉ keys d) :
    d.lookup key = none := by
  rw [List.lookup_eq_none_iff]
  exact fun p hp => bne_iff_ne.2 fun heq => h (heq ▸ List.mem_map_of_mem hp)

/-- A key reads as something exactly if it stands somewhere. -/
theorem isSome_lookup_iff {key : κ} {d : List (κ × α)} :
    (d.lookup key).isSome = true ↔ key ∈ keys d := by
  rw [List.lookup_isSome_iff, keys, List.mem_map]
  simp only [beq_iff_eq, eq_comm (a := key)]

/-- A new key is set at the end. -/
theorem set_of_not_mem {key : κ} {d : List (κ × α)} (h : key ∉ keys d) (value : α) :
    set key value d = d ++ [(key, value)] := by
  induction d with
  | nil => rfl
  | cons p rest ih =>
    obtain ⟨k, v⟩ := p
    simp only [keys, List.map_cons, List.mem_cons, not_or] at h
    have hne : (k == key) = false := beq_eq_false_iff_ne.2 (Ne.symm h.1)
    rw [set, hne, if_neg Bool.false_ne_true, ih h.2]
    rfl

/-- A key that is there keeps its place. -/
theorem keys_set_of_mem {key : κ} {d : List (κ × α)} (h : key ∈ keys d) (value : α) :
    keys (set key value d) = keys d := by
  induction d with
  | nil => cases h
  | cons p rest ih =>
    obtain ⟨k, v⟩ := p
    rw [set]
    split
    · rfl
    next hne =>
      have hrest : key ∈ keys rest := by
        obtain rfl | hrest := List.mem_cons.1 h
        · exact absurd (beq_self_eq_true key) hne
        · exact hrest
      exact congrArg (k :: ·) (ih hrest)

/-- Setting a key adds it to the keys. -/
theorem mem_keys_set {key k : κ} {value : α} {d : List (κ × α)} :
    k ∈ keys (set key value d) ↔ k = key ∨ k ∈ keys d := by
  by_cases hmem : key ∈ keys d
  · rw [keys_set_of_mem hmem]
    exact ⟨.inr, fun h => h.elim (fun heq => heq ▸ hmem) id⟩
  · rw [set_of_not_mem hmem, keys, List.map_append, List.mem_append, or_comm]
    simp [keys]

/-- Setting a key leaves no key twice. -/
theorem nodup_keys_set {d : List (κ × α)} (h : (keys d).Nodup) (key : κ) (value : α) :
    (keys (set key value d)).Nodup := by
  by_cases hmem : key ∈ keys d
  · rwa [keys_set_of_mem hmem]
  · rw [set_of_not_mem hmem, keys, List.map_append, List.nodup_append]
    refine ⟨h, List.pairwise_singleton _ _, fun k hk k' hk' heq => hmem ?_⟩
    obtain rfl := List.mem_singleton.1 hk'
    exact heq ▸ hk

/-- What a dictionary holds after a key was set is what it held, or the key with its new value. -/
theorem mem_set {key : κ} {value : α} {d : List (κ × α)} {p : κ × α}
    (hp : p ∈ set key value d) : p ∈ d ∨ p = (key, value) := by
  induction d with
  | nil => exact .inr (List.mem_singleton.1 hp)
  | cons q rest ih =>
    obtain ⟨k, v⟩ := q
    rw [set] at hp
    split at hp
    next hk =>
      obtain rfl := eq_of_beq hk
      obtain rfl | hp := List.mem_cons.1 hp
      · exact .inr rfl
      · exact .inl (.tail _ hp)
    · obtain rfl | hp := List.mem_cons.1 hp
      · exact .inl (.head _)
      · exact (ih hp).imp_left (.tail _)

/-- Pairs write a dictionary without a key twice, which holds nothing but their values. -/
theorem ofPairs_spec (pairs : List (κ × α)) :
    (keys (ofPairs pairs)).Nodup ∧ ∀ p ∈ ofPairs pairs, ∃ q ∈ pairs, p.2 = q.2 := by
  have hset (d : List (κ × α)) (hd : (keys d).Nodup) : (keys (setAll d pairs)).Nodup ∧
      ∀ p ∈ setAll d pairs, p ∈ d ∨ ∃ q ∈ pairs, p.2 = q.2 := by
    induction pairs generalizing d with
    | nil => exact ⟨hd, fun _ hp => .inl hp⟩
    | cons q rest ih =>
      obtain ⟨hnodup, hmem⟩ := ih (set q.1 q.2 d) (nodup_keys_set hd q.1 q.2)
      refine ⟨hnodup, fun p hp => ?_⟩
      obtain hp | ⟨q', hq', hp⟩ := hmem p hp
      · exact (mem_set hp).imp_right fun hp => ⟨q, .head _, by rw [hp]⟩
      · exact .inr ⟨q', .tail _ hq', hp⟩
  obtain ⟨hnodup, hmem⟩ := hset [] .nil
  exact ⟨hnodup, fun p hp => (hmem p hp).resolve_left List.not_mem_nil⟩

/-- What a dictionary holds after keys were set is what it held, or one of the pairs. -/
theorem mem_setAll {d pairs : List (κ × α)} {p : κ × α} (hp : p ∈ setAll d pairs) :
    p ∈ d ∨ p ∈ pairs := by
  induction pairs generalizing d with
  | nil => exact .inl hp
  | cons q rest ih =>
    obtain hp | hp := ih hp
    · exact (mem_set hp).imp_right fun h => by rw [h]; exact .head _
    · exact .inr (.tail _ hp)

/-- A key keeps its value if it is set to nothing else. -/
theorem lookup_setAll_of_agree [DecidableEq κ] {d pairs : List (κ × α)} {key : κ} {value : α}
    (h : d.lookup key = some value) (hp : ∀ v, (key, v) ∈ pairs → v = value) :
    (setAll d pairs).lookup key = some value := by
  induction pairs generalizing d with
  | nil => exact h
  | cons q rest ih =>
    obtain ⟨k, v⟩ := q
    refine ih ?_ fun v hv => hp v (.tail _ hv)
    show (set k v d).lookup key = some value
    rw [lookup_set]
    split
    next heq =>
      subst heq
      rw [hp v (.head _)]
    next => exact h

/-- A key reads as the value of the last pair that writes it. -/
theorem lookup_ofPairs [DecidableEq κ] (pairs : List (κ × α)) (key : κ) :
    (ofPairs pairs).lookup key = pairs.reverse.lookup key := by
  have hset (d : List (κ × α)) :
      (setAll d pairs).lookup key = (pairs.reverse.lookup key).or (d.lookup key) := by
    induction pairs generalizing d with
    | nil => rfl
    | cons p rest ih =>
      obtain ⟨k, v⟩ := p
      rw [show setAll d ((k, v) :: rest) = setAll (set k v d) rest from rfl, ih, lookup_set,
        List.reverse_cons, List.lookup_append, Option.or_assoc, List.lookup_cons, List.lookup_nil]
      by_cases h : key = k
      · rw [if_pos h, beq_iff_eq.2 h, Option.some_or]
      · rw [if_neg h, beq_eq_false_iff_ne.2 h, Option.none_or]
  rw [ofPairs, hset, List.lookup_nil, Option.or_none]

/-- Pairs write the keys that stand among them. -/
theorem mem_keys_ofPairs [DecidableEq κ] {pairs : List (κ × α)} {key : κ} :
    key ∈ keys (ofPairs pairs) ↔ key ∈ keys pairs := by
  rw [← isSome_lookup_iff, lookup_ofPairs, isSome_lookup_iff, keys, List.map_reverse,
    List.mem_reverse]
  rfl

/-- Pairs write a key where it stands first among them. -/
theorem keys_ofPairs [DecidableEq κ] (pairs : List (κ × α)) :
    keys (ofPairs pairs) = (keys pairs).eraseDups := by
  induction pairs using List.reverseRecOn with
  | nil => rfl
  | append_singleton pairs p ih =>
    have hstep : ofPairs (pairs ++ [p]) = set p.1 p.2 (ofPairs pairs) := by
      rw [ofPairs, setAll, List.foldl_append]
      rfl
    have hkeys : keys (pairs ++ [p]) = keys pairs ++ [p.1] := List.map_append
    rw [hstep, hkeys, List.eraseDups_append]
    by_cases h : p.1 ∈ keys pairs
    · rw [keys_set_of_mem (mem_keys_ofPairs.2 h), ih]
      simp [List.removeAll, h]
    · rw [set_of_not_mem (mt mem_keys_ofPairs.1 h), keys, List.map_append, ← keys, ih]
      simp [List.removeAll, h, List.eraseDups_cons]

/-- New keys are set at the end. -/
theorem setAll_of_nodup {d pairs : List (κ × α)} (h : (keys (d ++ pairs)).Nodup) :
    setAll d pairs = d ++ pairs := by
  induction pairs generalizing d with
  | nil => exact (List.append_nil d).symm
  | cons p rest ih =>
    have hnew : p.1 ∉ keys d := by
      rw [keys, List.map_append, List.map_cons, List.nodup_append] at h
      exact fun hmem => h.2.2 _ hmem _ (.head _) rfl
    have hset := set_of_not_mem hnew p.2
    rw [show d ++ p :: rest = d ++ [p] ++ rest by simp] at h ⊢
    rw [← ih h, ← hset]
    rfl

/-- Pairs whose keys differ write themselves. -/
theorem ofPairs_of_nodup {pairs : List (κ × α)} (h : (keys pairs).Nodup) :
    ofPairs pairs = pairs :=
  setAll_of_nodup h

/-- What is read off the other keys is the same after a key was set. -/
theorem filterMap_set (g : κ × α → Option β) {key : κ} (h : ∀ v, g (key, v) = none) (value : α)
    (d : List (κ × α)) : (set key value d).filterMap g = d.filterMap g := by
  induction d with
  | nil => simp [set, h]
  | cons p rest ih =>
    obtain ⟨k, v⟩ := p
    rw [set]
    split
    next hk =>
      obtain rfl := beq_iff_eq.1 hk
      rw [List.filterMap_cons_none (h value), List.filterMap_cons_none (h v)]
    · rw [List.filterMap_cons, List.filterMap_cons, ih]

omit [LawfulBEq κ] in
/-- A key reads as its changed value after all values were changed. -/
theorem lookup_map (f : α → β) (d : List (κ × α)) (k : κ) :
    (d.map fun p => (p.1, f p.2)).lookup k = (d.lookup k).map f := by
  induction d with
  | nil => rfl
  | cons p rest ih =>
    rw [List.map_cons, List.lookup_cons, List.lookup_cons, ih]
    cases k == p.1 <;> rfl

/-- A key of a class reads as before after the keys out of the class were dropped. -/
theorem lookup_filter {q : κ → Bool} {k : κ} (hk : q k = true) (d : List (κ × α)) :
    (d.filter fun p => q p.1).lookup k = d.lookup k := by
  induction d with
  | nil => rfl
  | cons p rest ih =>
    obtain ⟨k', v⟩ := p
    rw [List.filter_cons, List.lookup_cons]
    split
    next => rw [List.lookup_cons, ih]
    next hdropped =>
      have hne : k ≠ k' := by
        rintro rfl
        exact hdropped hk
      rw [beq_eq_false_iff_ne.2 hne, ih]

/-! ## Erased keys -/

/-- An entry under a key goes when the key is erased. -/
theorem erase_cons_self (key : κ) (value : α) (rest : List (κ × α)) :
    erase key ((key, value) :: rest) = erase key rest := by
  simp [erase]

/-- An entry under another key stays. -/
theorem erase_cons_of_ne {key k : κ} (h : k ≠ key) (value : α) (rest : List (κ × α)) :
    erase key ((k, value) :: rest) = (k, value) :: erase key rest := by
  simp [erase, h]

/-- What is read off the other keys is the same after a key was erased. -/
theorem filterMap_erase (g : κ × α → Option β) {key : κ} (h : ∀ v, g (key, v) = none)
    (d : List (κ × α)) : (erase key d).filterMap g = d.filterMap g := by
  induction d with
  | nil => rfl
  | cons p rest ih =>
    obtain ⟨k, v⟩ := p
    by_cases hk : k = key
    · subst hk
      rw [erase_cons_self, ih, List.filterMap_cons_none (h v)]
    · rw [erase_cons_of_ne hk, List.filterMap_cons, List.filterMap_cons, ih]

/-- A key that is erased reads as absent, every other key as before. -/
theorem lookup_erase [DecidableEq κ] (key : κ) (d : List (κ × α)) (k : κ) :
    (erase key d).lookup k = if k = key then none else d.lookup k := by
  induction d with
  | nil => simp [erase]
  | cons p rest ih =>
    obtain ⟨k', v⟩ := p
    by_cases hkey : k' = key
    · subst hkey
      rw [erase_cons_self, ih]
      split
      · rfl
      next hk => rw [List.lookup_cons, beq_eq_false_iff_ne.2 hk]
    · rw [erase_cons_of_ne hkey, List.lookup_cons, List.lookup_cons, ih]
      by_cases hk : k = k'
      · subst hk
        simp [hkey]
      · rw [beq_eq_false_iff_ne.2 hk]

omit [LawfulBEq κ] in
/-- Erasing a key leaves no other key twice. -/
theorem nodup_keys_erase {d : List (κ × α)} (h : (keys d).Nodup) (key : κ) :
    (keys (erase key d)).Nodup :=
  h.sublist (List.filter_sublist.map _)

/-- A dictionary in which no key stands twice holds the pairs that looking a key up gives. -/
theorem mem_iff_lookup {d : List (κ × α)} (h : (keys d).Nodup) {k : κ} {v : α} :
    (k, v) ∈ d ↔ d.lookup k = some v := by
  induction d with
  | nil => simp
  | cons p rest ih =>
    obtain ⟨k', v'⟩ := p
    obtain ⟨hnew, hrest⟩ := List.nodup_cons.1 h
    rw [List.mem_cons, Prod.mk.injEq, ih hrest, List.lookup_cons]
    by_cases hk : k = k'
    · subst hk
      have habsent : rest.lookup k = none := lookup_of_not_mem hnew
      simp [habsent, eq_comm]
    · simp [hk, beq_eq_false_iff_ne.2 hk]

end Voicemail.Assoc
