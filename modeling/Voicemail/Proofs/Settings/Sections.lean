import Voicemail.Proofs.Json.RoundTrip
import Voicemail.Proofs.Settings.Precedence
import Voicemail.Proofs.Settings.Variables

/-!
# Sections in the environment

The variable of a section holds an object, over which the variables of its options are put. What the
environment says of an option is what the last member of the section says that means it
(`Environment.mention?`). So it mentions an option exactly if a variable leads to it or below it, or
a member of the object means it; the option's own variable wins over the member under the option's
name; and without variables the object decides (`Environment.Decided`). The settings out of the
environment have each option as it is mentioned (`Environment.lookup_option`).
-/

namespace Voicemail

namespace Environment

variable {env : Environment} {name option k : String} {t : List (String × Setting)}

/-! ## Members that mean an option -/

/-- The members of the object that the variable of a section holds, if it holds one. -/
def object? (env : Environment) (name : String) : Option (List (String × Json)) :=
  match (env.folded.lookup (mark ++ name)).bind Json.read? with
  | some (.obj ms) => some ms
  | _ => none

/-- What the environment says of a section: the members of its object, over which the variables of
its options are put. -/
def members (env : Environment) (name : String) : List (String × Setting) :=
  match env.object? name with
  | some ms => Setting.merge (Setting.ofMembers ms) (env.sectionOptions name)
  | none => env.sectionOptions name

/-- What a member says of an option that it means. -/
def meaning {α : Type} (option : String) (member : String × α) : Option α :=
  if foldName member.1 = option then some member.2 else none

/-- A member under a spelling of an option says something of it. -/
theorem meaning_of_eq {α : Type} (h : foldName k = option) (v : α) :
    meaning option (k, v) = some v :=
  if_pos h

/-- Any other member says nothing of it. -/
theorem meaning_of_ne {α : Type} (h : foldName k ≠ option) (v : α) :
    meaning option (k, v) = none :=
  if_neg h

/-- What the environment says of an option of a section: what the last member says that means
it. -/
def mention? (env : Environment) (name option : String) : Option Setting :=
  ((env.members name).filterMap (meaning option)).getLast?

/-- An option is meant by members under its name and under other spellings of it. -/
theorem mem_filterMap_meaning {α : Type} {ms : List (String × α)} {v : α} :
    v ∈ ms.filterMap (meaning option) ↔ ∃ k, (k, v) ∈ ms ∧ foldName k = option := by
  simp [meaning]

/-- Something is said last of an option exactly if some key is a spelling of it. -/
theorem isSome_getLast?_meaning {α : Type} {ms : List (String × α)} :
    (ms.filterMap (meaning option)).getLast?.isSome = true ↔
      ∃ k ∈ Assoc.keys ms, foldName k = option := by
  rw [List.getLast?_isSome]
  constructor
  · intro h
    obtain ⟨v, hv⟩ := List.exists_mem_of_ne_nil _ h
    obtain ⟨k, hk, hmeans⟩ := mem_filterMap_meaning.1 hv
    exact ⟨k, List.mem_map_of_mem hk, hmeans⟩
  · rintro ⟨k, hk, hmeans⟩
    obtain ⟨⟨_, v⟩, hmem, rfl⟩ := List.mem_map.1 hk
    exact List.ne_nil_of_mem (mem_filterMap_meaning.2 ⟨_, hmem, hmeans⟩)

/-- Where no other spelling of an option is used, the last member that means it is the one under its
name. -/
theorem getLast?_meaning {v : Setting} (ht : (Assoc.keys t).Nodup)
    (hspelling : ∀ k ∈ Assoc.keys t, foldName k = option → k = option)
    (hoption : foldName option = option) (h : t.lookup option = some v) :
    (t.filterMap (meaning option)).getLast? = some v := by
  have hmem := (Assoc.mem_iff_lookup ht).2 h
  have hsome : (t.filterMap (meaning option)).getLast?.isSome = true :=
    isSome_getLast?_meaning.2 ⟨option, List.mem_map_of_mem hmem, hoption⟩
  obtain ⟨w, hw⟩ := Option.isSome_iff_exists.1 hsome
  obtain ⟨k, hk, hmeans⟩ := mem_filterMap_meaning.1 (List.mem_of_getLast? hw)
  rw [hspelling k (List.mem_map_of_mem hk) hmeans, Assoc.mem_iff_lookup ht, h] at hk
  rw [hw, hk]

/-- The members of an object as settings mean what they mean. -/
theorem filterMap_ofMembers (ms : List (String × Json)) :
    (Setting.ofMembers ms).filterMap (meaning option) =
      (ms.filterMap (meaning option)).map Setting.ofJson := by
  induction ms with
  | nil => rfl
  | cons m ms ih =>
    obtain ⟨k, v⟩ := m
    rw [Setting.ofMembers]
    by_cases hk : foldName k = option <;> simp [meaning, hk, ih]

/-- An object as settings has the keys of the object. -/
theorem keys_ofMembers (ms : List (String × Json)) :
    Assoc.keys (Setting.ofMembers ms) = Assoc.keys ms := by
  induction ms with
  | nil => rfl
  | cons m ms ih => exact congrArg (m.1 :: ·) ih

end Environment

namespace Setting

variable {low high : List (String × Setting)} {key : String}

/-- A merged table has the keys of both. -/
theorem mem_keys_merge :
    key ∈ Assoc.keys (merge low high) ↔ key ∈ Assoc.keys low ∨ key ∈ Assoc.keys high := by
  induction high generalizing low with
  | nil => rw [merge]; simp [Assoc.keys]
  | cons m high ih =>
    rw [merge, ih, Assoc.mem_keys_set]
    simp only [Assoc.keys, List.map_cons, List.mem_cons, or_left_comm, or_assoc]

/-- Merging into a table without a key twice makes no key twice. -/
theorem nodup_merge (h : (Assoc.keys low).Nodup) : (Assoc.keys (merge low high)).Nodup := by
  induction high generalizing low with
  | nil => rwa [merge]
  | cons m high ih =>
    rw [merge]
    exact ih (Assoc.nodup_keys_set h _ _)

/-- What is read off other keys than those of the higher table is read off the lower one. -/
theorem filterMap_merge {β : Type} {g : String × Setting → Option β}
    (h : ∀ m ∈ high, ∀ v, g (m.1, v) = none) : (merge low high).filterMap g = low.filterMap g := by
  induction high generalizing low with
  | nil => rw [merge]
  | cons m high ih =>
    obtain ⟨hm, hhigh⟩ := List.forall_mem_cons.1 h
    rw [merge, ih hhigh]
    exact Assoc.filterMap_set _ hm _ _

end Setting

namespace Environment

variable {env : Environment} {name option k : String}

/-- The object of a section has no key twice, since a reader gave it. -/
theorem nodup_object {ms : List (String × Json)} (h : env.object? name = some ms) :
    (Assoc.keys ms).Nodup := by
  unfold object? at h
  split at h
  next hread =>
    cases h
    obtain ⟨text, -, hread⟩ := Option.bind_eq_some_iff.1 hread
    exact Json.nodup_of_read? hread
  · cases h

/-- What the environment says of a section has no key twice either. -/
theorem nodup_members (env : Environment) (name : String) :
    (Assoc.keys (env.members name)).Nodup := by
  unfold members
  split
  next ms hobject =>
    refine Setting.nodup_merge ?_
    rw [keys_ofMembers]
    exact nodup_object hobject
  · exact nodup_sectionOptions env name

/-- The environment says something of what a variable or the object of the section mentions. -/
theorem mem_keys_members : k ∈ Assoc.keys (env.members name) ↔
    (∃ x ∈ env.folded, (way name x.1).head? = some k) ∨
      ∃ ms, env.object? name = some ms ∧ k ∈ Assoc.keys ms := by
  rw [← mem_sectionOptions]
  unfold members
  cases env.object? name with
  | none => simp
  | some ms => simp [Setting.mem_keys_merge, keys_ofMembers, or_comm]

/-- Which options of a section the environment mentions, and what it says of them. -/
structure Decided (env : Environment) (name option : String) : Prop where
  /-- An option is mentioned by a variable that leads to it or below it, and by a member of the
  section's object that means it. -/
  isSome_iff : (env.mention? name option).isSome = true ↔
    (∃ x ∈ env.folded, (way name x.1).head? = some option) ∨
      ∃ ms, env.object? name = some ms ∧ ∃ k ∈ Assoc.keys ms, foldName k = option
  /-- The option's own variable wins over the member under the option's name. -/
  own : ∀ text, env.folded.lookup (mark ++ name ++ "__" ++ option) = some text →
    (∀ ms, env.object? name = some ms → ∀ k ∈ Assoc.keys ms, foldName k = option → k = option) →
      env.mention? name option = some (.value (.str text))
  /-- Without variables the last member counts. -/
  object : (∀ x ∈ env.folded, (way name x.1).head? ≠ some option) →
    env.mention? name option =
      (((env.object? name).getD []).filterMap (meaning option)).getLast?.map Setting.ofJson

/-- Every option is decided to whose variable its name leads. -/
theorem decided (hway : way name (mark ++ name ++ "__" ++ option) = [option]) :
    env.Decided name option where
  isSome_iff := by
    rw [mention?, isSome_getLast?_meaning]
    constructor
    · rintro ⟨k, hk, rfl⟩
      obtain ⟨x, hx, h⟩ | ⟨ms, hms, hk⟩ := mem_keys_members.1 hk
      · refine .inl ⟨x, hx, ?_⟩
        rw [foldName_of_mem_way (foldName_of_mem_folded hx) (List.mem_of_mem_head? h), h]
      · exact .inr ⟨ms, hms, k, hk, rfl⟩
    · rintro (⟨x, hx, h⟩ | ⟨ms, hms, k, hk, h⟩)
      · exact ⟨option, mem_keys_members.2 (.inl ⟨x, hx, h⟩),
          foldName_of_mem_way (foldName_of_mem_folded hx) (List.mem_of_mem_head? h)⟩
      · exact ⟨k, mem_keys_members.2 (.inr ⟨ms, hms, hk⟩), h⟩
  own text htext hspelling := by
    have hfolded : (Assoc.keys env.folded).Nodup := (Assoc.ofPairs_spec _).1
    have hown : (env.sectionOptions name).lookup option = some (.value (.str text)) := by
      rw [sectionOptions_eq]
      exact lookup_foldl_own hfolded hway htext []
    have hlookup : (env.members name).lookup option = some (.value (.str text)) := by
      unfold members
      split
      · rw [Setting.lookup_merge (nodup_sectionOptions env name), hown, Option.map_some,
          Option.some_or]
        rfl
      · exact hown
    have hoption : foldName option = option :=
      foldName_of_mem_sectionOptions (Assoc.isSome_lookup_iff.1 (by rw [hown]; rfl))
    refine getLast?_meaning (nodup_members env name) (fun k hk hmeans => ?_) hoption hlookup
    obtain ⟨x, hx, h⟩ | ⟨ms, hms, hk⟩ := mem_keys_members.1 hk
    · rw [← hmeans,
        foldName_of_mem_way (foldName_of_mem_folded hx) (List.mem_of_mem_head? h)]
    · exact hspelling ms hms k hk hmeans
  object hnone := by
    have hother : ∀ m ∈ env.sectionOptions name, foldName m.1 ≠ option := by
      intro m hm hmeans
      have hkey : m.1 ∈ Assoc.keys (env.sectionOptions name) := List.mem_map_of_mem hm
      rw [foldName_of_mem_sectionOptions hkey] at hmeans
      obtain ⟨x, hx, h⟩ := mem_sectionOptions.1 hkey
      exact hnone x hx (hmeans ▸ h)
    have hnothing : (env.sectionOptions name).filterMap (meaning option) = [] :=
      List.filterMap_eq_nil_iff.2 fun m hm => meaning_of_ne (hother m hm) m.2
    unfold mention? members
    cases env.object? name with
    | none =>
      dsimp only
      rw [hnothing]
      rfl
    | some ms =>
      dsimp only [Option.getD_some]
      rw [Setting.filterMap_merge fun m hm => meaning_of_ne (hother m hm), filterMap_ofMembers,
        List.getLast?_map]

/-! ## Sections of the settings -/

/-- The sections whose variables are set hold objects. -/
def GivesTables (env : Environment) (names : List String) : Prop :=
  ∀ name ∈ names, ∀ text, env.folded.lookup (mark ++ name) = some text →
    ∃ ms, Json.read? text = some (.obj ms)

/-- Members stand under the names of the options that they mean. -/
theorem lookup_named {options : List String} (hoptions : ∀ o ∈ options, foldName o = o)
    (h : option ∈ options) (t : List (String × Setting)) :
    (Assoc.ofPairs (t.map fun (k, v) => (memberName options k, v))).lookup option =
      (t.filterMap (meaning option)).getLast? := by
  have hname (k : String) : memberName options k = option ↔ foldName k = option := by
    unfold memberName
    cases hfind : options.find? (fun o => foldName o = foldName k) with
    | none =>
      have hnone : foldName k ≠ option := fun hk =>
        List.find?_eq_none.1 hfind option h (by simp [hoptions option h, hk])
      refine ⟨fun hk => absurd ?_ hnone, fun hk => absurd hk hnone⟩
      rw [Option.getD_none] at hk
      rw [hk, hoptions option h]
    | some o =>
      have ho : foldName o = foldName k := by simpa using List.find?_some hfind
      rw [Option.getD_some, ← ho, hoptions o (List.mem_of_find?_eq_some hfind)]
  rw [Assoc.lookup_ofPairs, ← List.map_reverse, List.getLast?_eq_head?_reverse,
    ← List.filterMap_reverse]
  induction t.reverse with
  | nil => rfl
  | cons m rest ih =>
    obtain ⟨k, v⟩ := m
    rw [List.map_cons, List.lookup_cons]
    by_cases hk : foldName k = option
    · rw [beq_iff_eq.2 ((hname k).2 hk).symm, List.filterMap_cons_some (meaning_of_eq hk v)]
      rfl
    · rw [beq_eq_false_iff_ne.2 (mt (fun h => (hname k).1 h.symm) hk),
        List.filterMap_cons_none (meaning_of_ne hk v)]
      exact ih

/-- A section of the environment is a table of what is said of its options. -/
theorem sectionSetting_eq {names options : List String} {v : Option Setting}
    (htables : env.GivesTables names) (hname : name ∈ names)
    (h : env.sectionSetting name options = .ok v) :
    (v = none ∧ env.members name = []) ∨
      v = some (.table (Assoc.ofPairs
        ((env.members name).map fun (k, v) => (memberName options k, v)))) := by
  unfold sectionSetting at h
  unfold members object?
  cases hvariable : env.folded.lookup (mark ++ name) with
  | none =>
    rw [hvariable] at h
    dsimp only [Option.bind_none] at h ⊢
    split at h
    next hempty =>
      cases h
      exact .inl ⟨rfl, List.isEmpty_iff.1 hempty⟩
    · cases h
      exact .inr rfl
  | some text =>
    obtain ⟨ms, hms⟩ := htables name hname text hvariable
    rw [hvariable] at h
    dsimp only [Option.bind_some] at h ⊢
    rw [hms] at h ⊢
    cases hdeep : Json.tooDeep? text.toList with
    | some => rw [hdeep] at h; cases h
    | none =>
      rw [hdeep] at h
      cases h
      exact .inr rfl

/-- What the environment says of a name comes from the section of the name. -/
theorem lookup_sections {sections : List (String × List String)} {options : List String}
    {found : List (Option (String × Setting))}
    (h : (sections.mapM fun (name, options) => do
      return (← env.sectionSetting name options).map (name, ·) :
        Except Failure (List (Option (String × Setting)))) = .ok found)
    (hnames : (Assoc.keys sections).Nodup) (hmem : (name, options) ∈ sections) :
    env.sectionSetting name options = .ok ((found.filterMap id).lookup name) := by
  induction sections generalizing found with
  | nil => cases hmem
  | cons entry rest ih =>
    obtain ⟨first, firstOptions⟩ := entry
    obtain ⟨hnew, hrest⟩ := List.nodup_cons.1 hnames
    rw [List.mapM_cons] at h
    obtain ⟨setting, hfirst, h⟩ := exists_of_bind_ok h
    obtain ⟨more, hmore, h⟩ := exists_of_bind_ok h
    obtain ⟨v, hv, hsetting⟩ := exists_of_bind_ok hfirst
    cases h
    cases hsetting
    obtain heq | hmem := List.mem_cons.1 hmem
    · obtain ⟨rfl, rfl⟩ := Prod.mk.inj heq
      have hnone : (more.filterMap id).lookup name = none :=
        Assoc.lookup_of_not_mem fun h => hnew ((keys_sections hmore).subset h)
      cases v with
      | none => exact hv.trans (congrArg Except.ok hnone.symm)
      | some v => simpa using hv
    · have hne : name ≠ first := fun heq =>
        hnew (heq ▸ List.mem_map.2 ⟨_, hmem, rfl⟩)
      rw [ih hmore hrest hmem]
      cases v with
      | none => rfl
      | some v => simp [List.lookup_cons, beq_eq_false_iff_ne.2 hne]

end Environment

namespace Setting

/-- What a setting, if there is one, says of an option, if it is a table. -/
def member? (option : String) : Option Setting → Option Setting
  | some (.table ms) => ms.lookup option
  | _ => none

end Setting

namespace Environment

variable {env : Environment} {name option : String} {switches options : List String}
  {sections : List (String × List String)} {table : List (String × Setting)}

/-- The environment says of a section what its variables say, and it says that in a table. -/
theorem lookup_option (h : env.settings switches sections = .ok table)
    (hnames : (switches ++ Assoc.keys sections).Nodup)
    (htables : env.GivesTables (Assoc.keys sections)) (hmem : (name, options) ∈ sections)
    (hoptions : ∀ o ∈ options, foldName o = o) :
    (table.lookup name = none ∨
      ∃ ms, table.lookup name = some (.table ms) ∧ (Assoc.keys ms).Nodup) ∧
    ∀ option ∈ options, Setting.member? option (table.lookup name) = env.mention? name option := by
  obtain ⟨found, hfound, h⟩ := exists_of_bind_ok h
  cases h
  obtain ⟨-, hsections, hdisjoint⟩ := List.nodup_append.1 hnames
  have hname : name ∈ Assoc.keys sections := List.mem_map.2 ⟨_, hmem, rfl⟩
  have hswitch : (env.ownSettings switches).lookup name = none := Assoc.lookup_of_not_mem fun h =>
    hdisjoint _ ((keys_ownSettings env switches).subset h) _ hname rfl
  have hlookup : (env.ownSettings switches ++ found.filterMap id).lookup name =
      (found.filterMap id).lookup name := by
    rw [List.lookup_append, hswitch, Option.none_or]
  rw [show (switches.filterMap fun name => (env.switchSetting name).map (name, ·)) =
    env.ownSettings switches from rfl, hlookup]
  obtain ⟨hnone, hempty⟩ | htable :=
    sectionSetting_eq htables hname (lookup_sections hfound hsections hmem)
  · rw [hnone]
    exact ⟨.inl rfl, fun option _ => by rw [mention?, hempty]; rfl⟩
  · rw [htable]
    exact ⟨.inr ⟨_, rfl, (Assoc.ofPairs_spec _).1⟩,
      fun option hoption => lookup_named hoptions hoption _⟩

end Environment

end Voicemail
