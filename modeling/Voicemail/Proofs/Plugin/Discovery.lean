import Voicemail.Proofs.Assoc
import Voicemail.Proofs.Plugin.Calls

/-!
# Loading the installed plugins

The first entry point of each name that is free is registered (`Registry.lookup_loadAll`), and then
every class is taken out again and replaced by the plugin that it makes, if it makes one
(`Registry.lookup_settle`). So a registry of plugins stays one, and for each name it is known what
is registered under it (`Registry.Discovers`). Classes that make no plugin leave their names free.
When the entry points are loaded once more they are the only ones whose names are free, and they are
taken out again: nothing has changed.
-/

namespace Voicemail

/-! ## What entry points and classes give -/

namespace Loaded

/-- The member that is registered for what an entry point gave. -/
def member : Loaded → Member
  | .instance p => .plugin p
  | .class c => .class c

/-- The plugin that comes of it, which is the one that a class makes, if it makes one. -/
def plugin? : Loaded → Option Plugin
  | .instance p => some p
  | .class c => c.make.toOption

end Loaded

/-- What is left of a member when classes are replaced by the plugins that they make. -/
def Member.settled? : Member → Option Member
  | .class c => c.make.toOption.map .plugin
  | m => some m

/-- A member that is no class is left as it is. -/
theorem Member.settled?_of_not_isClass {m : Member} (h : m.isClass = false) :
    m.settled? = some m := by
  cases m with
  | eventLog | plugin => rfl
  | «class» => cases h

/-- What is left of members are no classes. -/
theorem Member.isClass_of_settled? {m m' : Member} (h : m.settled? = some m') :
    m'.isClass = false := by
  cases m with
  | eventLog | plugin => cases h; rfl
  | «class» c =>
    obtain ⟨p, -, rfl⟩ := Option.map_eq_some_iff.1 h
    rfl

/-- What is left of what was loaded is the plugin that comes of it. -/
theorem Loaded.settled?_member (l : Loaded) : l.member.settled? = l.plugin?.map .plugin := by
  cases l <;> rfl

namespace Registry

variable {installed : List EntryPoint} {r : Registry} {members : List (String × Member)}
  {name : String}

/-! ## Loading entry points -/

/-- What the first of the plugin group's entry points with a name gives, if there is one. -/
def provided (installed : List EntryPoint) (name : String) : Option Loaded :=
  (installed.find? fun e => e.group = group ∧ e.name = name).bind (·.load.toOption)

/-- The first entry point decides about its own name and about no other. -/
theorem provided_cons (e : EntryPoint) (rest : List EntryPoint) (name : String) :
    provided (e :: rest) name =
      if e.group = group ∧ e.name = name then e.load.toOption else provided rest name := by
  unfold provided
  by_cases h : e.group = group ∧ e.name = name
  · rw [if_pos h, List.find?_cons_of_pos (by simpa using h), Option.bind_some]
  · rw [if_neg h, List.find?_cons_of_neg (by simpa using h)]

/-- What an entry point gave is registered under its name. -/
theorem addLoaded_of_free {l : Loaded} (hname : name ≠ "") (hfree : name ∉ r.names) :
    r.addLoaded name l = .ok { r with members := r.members ++ [(name, l.member)] } := by
  have hadd (m : Member) : r.add name m = .ok { r with members := r.members ++ [(name, m)] } := by
    rw [add, if_neg (mt List.contains_iff_mem.1 hfree)]
  have hempty : ¬name.isEmpty = true := by simpa using hname
  cases l with
  | «instance» p => exact hadd _
  | «class» c =>
    rw [addLoaded, if_neg hempty]
    exact hadd _

/-- Entry points of other groups, and those whose names are taken, are passed over. -/
theorem loadAll_skip {e : EntryPoint} (h : e.group = group → e.name ∈ r.names)
    (rest : List EntryPoint) : loadAll (e :: rest) r = loadAll rest r := by
  rw [loadAll, if_pos]
  by_cases hgroup : e.group = group
  · rw [List.contains_iff_mem.2 (h hgroup), Bool.or_true]
  · rw [decide_eq_true hgroup, Bool.true_or]

/-- Every other entry point is registered. -/
theorem loadAll_load {e : EntryPoint} {l : Loaded} (hgroup : e.group = group)
    (hname : e.name ≠ "") (hfree : e.name ∉ r.names) (hload : e.load = .ok l)
    {rest : List EntryPoint} {r' : Registry} {found : Nat}
    (hrest : loadAll rest { r with members := r.members ++ [(e.name, l.member)] } =
      (r', found, none)) :
    loadAll (e :: rest) r = (r', found + 1, none) := by
  have hadded : (Except.mapError .fault (.ok l) >>= r.addLoaded e.name) =
      .ok { r with members := r.members ++ [(e.name, l.member)] } := addLoaded_of_free hname hfree
  rw [loadAll, if_neg (by simp [hgroup, hfree]), hload, hadded]
  simp only [hrest]

/-- Entry points that can be loaded are loaded to the end, and under each name there is what was
there before, or else what the first entry point of the name gives. -/
theorem lookup_loadAll (hnames : ∀ e ∈ installed, e.name ≠ "")
    (hloads : ∀ e ∈ installed, ∃ l, e.load = .ok l) (r : Registry) :
    ∃ added found,
      loadAll installed r = ({ r with members := r.members ++ added }, found, none) ∧
      ∀ name, (r.members ++ added).lookup name =
        (r.members.lookup name).or ((provided installed name).map Loaded.member) := by
  induction installed generalizing r with
  | nil => exact ⟨[], 0, by rw [List.append_nil]; rfl, fun name => by simp [provided]⟩
  | cons e rest ih =>
    have ih := ih (fun e' he' => hnames e' (.tail _ he')) fun e' he' => hloads e' (.tail _ he')
    by_cases hfresh : e.group = group ∧ e.name ∉ r.names
    · obtain ⟨hgroup, hfree⟩ := hfresh
      obtain ⟨l, hload⟩ := hloads e (.head _)
      obtain ⟨added, found, hrest, hlookup⟩ :=
        ih { r with members := r.members ++ [(e.name, l.member)] }
      refine ⟨(e.name, l.member) :: added, found + 1, ?_, fun name => ?_⟩
      · refine loadAll_load hgroup (hnames e (.head _)) hfree hload (hrest.trans ?_)
        rw [List.append_assoc, List.singleton_append]
      · rw [List.append_cons, hlookup, List.lookup_append, provided_cons, hload]
        by_cases hname : e.name = name
        · subst hname
          have hnone : r.members.lookup e.name = none := Assoc.lookup_of_not_mem hfree
          simp [hnone, hgroup, Except.toOption]
        · simp [List.lookup_cons, beq_eq_false_iff_ne.2 (Ne.symm hname), hname]
    · have hskip : e.group = group → e.name ∈ r.names := by simpa using hfresh
      obtain ⟨added, found, hrest, hlookup⟩ := ih r
      refine ⟨added, found, (loadAll_skip hskip rest).trans hrest, fun name => ?_⟩
      rw [hlookup, provided_cons]
      split
      next he =>
        -- What it gives is not asked for: its name is taken.
        have htaken := Assoc.isSome_lookup_iff.2 (hskip he.1)
        rw [he.2] at htaken
        rw [Option.or_of_isSome htaken, Option.or_of_isSome htaken]
      · rfl

/-! ## Taking classes out -/

/-- What is left of members when classes are replaced is what is left of each of them. -/
theorem mem_settle {m : Member} :
    (name, m) ∈ settle members ↔ ∃ m₀, (name, m₀) ∈ members ∧ m₀.settled? = some m := by
  rw [settle, List.mem_append, List.mem_filter, List.mem_filterMap]
  constructor
  · rintro (⟨hmem, hm⟩ | ⟨⟨name', m₀⟩, hmem, h⟩)
    · exact ⟨m, hmem, Member.settled?_of_not_isClass (by simpa using hm)⟩
    · cases m₀ with
      | eventLog | plugin => cases h
      | «class» c =>
        cases hmake : c.make with
        | error => simp [hmake] at h
        | ok p =>
          simp only [hmake, Option.some.injEq, Prod.mk.injEq] at h
          obtain ⟨rfl, rfl⟩ := h
          exact ⟨_, hmem, by simp [Member.settled?, hmake, Except.toOption]⟩
  · rintro ⟨m₀, hmem, h⟩
    cases m₀ with
    | eventLog | plugin =>
      obtain rfl := Option.some.inj h
      exact .inl ⟨hmem, rfl⟩
    | «class» c =>
      refine .inr ⟨_, hmem, ?_⟩
      cases hmake : c.make with
      | error => simp [Member.settled?, hmake, Except.toOption] at h
      | ok p =>
        simp only [Member.settled?, hmake, Except.toOption, Option.map_some, Option.some.injEq] at h
        simp only [hmake, h]

/-- Under each name there is what is left of the member that had it. -/
theorem lookup_settle (hm : (Assoc.keys members).Nodup) (name : String) :
    (settle members).lookup name = (members.lookup name).bind Member.settled? := by
  refine Option.ext fun m => ?_
  rw [← Assoc.mem_iff_lookup (nodup_settle hm), mem_settle, Option.bind_eq_some_iff]
  simp only [Assoc.mem_iff_lookup hm]

/-- Members of which none is a class stay as they are and where they are. -/
theorem settle_append (h : ∀ x ∈ members, x.2.isClass = false)
    (more : List (String × Member)) : settle (members ++ more) = members ++ settle more := by
  unfold settle
  rw [List.filter_append, List.filterMap_append, (List.filter_eq_self (l := members)).2,
    (List.filterMap_eq_nil_iff (l := members)).2, List.nil_append, List.append_assoc]
  · rintro ⟨name, m⟩ hx
    cases m with
    | eventLog | plugin => rfl
    | «class» => cases h _ hx
  · intro x hx
    simp [h x hx]

/-- Nothing is left of classes that make no plugin. -/
theorem settle_eq_nil (h : ∀ x ∈ members, x.2.settled? = none) : settle members = [] := by
  refine List.eq_nil_iff_forall_not_mem.2 fun ⟨name, m⟩ hmem => ?_
  obtain ⟨m₀, hmem₀, hm₀⟩ := mem_settle.1 hmem
  cases (h _ hmem₀).symm.trans hm₀

/-! ## Registries of plugins -/

/-- A registry in which no name is taken twice and no member is a class. -/
structure Settled (r : Registry) : Prop where
  keyed : r.IsKeyed
  instances : ∀ x ∈ r.members, x.2.isClass = false

/-- A registry without members is settled. -/
theorem settled_empty (front : LogFront) : Settled { front } :=
  ⟨isKeyed_empty front, fun _ h => nomatch h⟩

/-- Another plugin may be registered in it. -/
theorem Settled.add {r' : Registry} {m : Member} (hr : r.Settled) (hm : m.isClass = false)
    (h : r.add name m = .ok r') : r'.Settled := by
  refine ⟨hr.keyed.add h, ?_⟩
  unfold Registry.add at h
  split at h
  · cases h
  · cases h
    exact List.forall_mem_append.2 ⟨hr.instances, by simpa using hm⟩

/-- A plugin may be registered in it under a name of its own. -/
theorem Settled.register {r' : Registry} {p : Plugin} (hr : r.Settled)
    (h : r.register p name = .ok r') : r'.Settled :=
  hr.add rfl h

/-- Its members are what is left of them. -/
theorem Settled.settled?_of_lookup {m : Member} (hr : r.Settled)
    (h : r.members.lookup name = some m) : m.settled? = some m :=
  Member.settled?_of_not_isClass (hr.instances _ ((Assoc.mem_iff_lookup hr.keyed).2 h))

/-! ## Discovering plugins -/

/-- The event log is registered beside members that do not take its name. -/
def withEventLog (front : LogFront) (members : List (String × Member)) : List (String × Member) :=
  if (Assoc.keys members).contains eventLogName then members
  else members ++ [(eventLogName, .eventLog front)]

/-- The event log is found under its name, if no other member has it. -/
theorem lookup_withEventLog (front : LogFront) (members : List (String × Member)) (name : String) :
    (withEventLog front members).lookup name =
      (members.lookup name).or (if name = eventLogName then some (.eventLog front) else none) := by
  unfold withEventLog
  split
  next htaken =>
    split
    next hname =>
      rw [hname, Option.or_of_isSome (Assoc.isSome_lookup_iff.2 (List.contains_iff_mem.1 htaken))]
    · rw [Option.or_none]
  · rw [List.lookup_append, List.lookup_cons]
    by_cases hname : name = eventLogName
    · simp [hname]
    · simp [hname, beq_eq_false_iff_ne.2 hname]

/-- The event log is no class. -/
theorem isClass_withEventLog {front : LogFront} (h : ∀ x ∈ members, x.2.isClass = false) :
    ∀ x ∈ withEventLog front members, x.2.isClass = false := by
  unfold withEventLog
  split
  · exact h
  · exact List.forall_mem_append.2 ⟨h, by simp [Member.isClass]⟩

/-- Loading entry points takes no name twice. -/
theorem nodup_of_loadAll {found : Nat} (hr : r.IsKeyed)
    (h : loadAll installed r = ({ r with members }, found, none)) :
    (Assoc.keys members).Nodup := by
  have hloaded := hr.loadAll installed
  rwa [h] at hloaded

/-- Where all entry points are loaded, classes are taken out and the event log is registered. -/
theorem discover_of_loadAll {found : Nat}
    (h : loadAll installed r = ({ r with members }, found, none)) :
    (discover installed r).stopped = none ∧
      (discover installed r).registry =
        { r with members := withEventLog r.front (settle members), isLoaded := true } := by
  rw [discover, h]
  exact ⟨rfl, rfl⟩

/-- The plugin that comes of the first entry point of a name, if one comes of it. -/
def contributed (installed : List EntryPoint) (name : String) : Option Plugin :=
  (provided installed name).bind Loaded.plugin?

/-- What is registered under a name after plugins were discovered: what there was before, or else
the plugin that comes of the entry points, or else the event log under its own name. -/
def discovered (installed : List EntryPoint) (r : Registry) (name : String) : Option Member :=
  ((r.members.lookup name).or ((contributed installed name).map .plugin)).or
    (if name = eventLogName then some (.eventLog r.front) else none)

/-- Which names are then taken. -/
theorem isSome_discovered : (discovered installed r name).isSome = true ↔
    name ∈ r.names ∨ (contributed installed name).isSome = true ∨ name = eventLogName := by
  have hbefore : (r.members.lookup name).isSome = true ↔ name ∈ r.names := Assoc.isSome_lookup_iff
  have hlog : (if name = eventLogName then some (Member.eventLog r.front) else none).isSome = true ↔
      name = eventLogName := by
    split <;> simp [*]
  simp only [discovered, Option.isSome_or, Option.isSome_map, Bool.or_eq_true, hbefore, hlog,
    or_assoc]

variable (hnames : ∀ e ∈ installed, e.name ≠ "") (hloads : ∀ e ∈ installed, ∃ l, e.load = .ok l)
include hnames hloads

/-- Discovering plugins completes in a registry of plugins, which it leaves one, and for each name
it is known what is registered under it. -/
theorem Settled.discover (hr : r.Settled) :
    (r.discover installed).stopped = none ∧ (r.discover installed).registry.Settled ∧
      (r.discover installed).registry.isLoaded = true ∧
      ∀ name, (r.discover installed).registry.members.lookup name =
        discovered installed r name := by
  obtain ⟨added, found, hload, hlookup⟩ := lookup_loadAll hnames hloads r
  obtain ⟨hcompleted, hregistry⟩ := discover_of_loadAll hload
  have hkeyed : (Assoc.keys (r.members ++ added)).Nodup := nodup_of_loadAll hr.keyed hload
  refine ⟨hcompleted, ⟨hr.keyed.discover installed, ?_⟩, by rw [hregistry], fun name => ?_⟩
  · rw [hregistry]
    refine isClass_withEventLog fun ⟨name, m⟩ hmem => ?_
    obtain ⟨m₀, -, hm₀⟩ := mem_settle.1 hmem
    exact Member.isClass_of_settled? hm₀
  · rw [hregistry, lookup_withEventLog, lookup_settle hkeyed, hlookup, discovered, contributed]
    cases hbefore : r.members.lookup name with
    | some m => simp [hr.settled?_of_lookup hbefore]
    | none =>
      cases provided installed name with
      | none => rfl
      | some l => simp [l.settled?_member]

/-- Where all that can be discovered has its names already, members stay as they are: only classes
that make no plugin are loaded, and taken out again. -/
theorem Settled.discover_of_taken (hr : r.Settled)
    (htaken : ∀ name, (contributed installed name).isSome = true ∨ name = eventLogName →
      name ∈ r.names) :
    (r.discover installed).stopped = none ∧
      (r.discover installed).registry = { r with isLoaded := true } := by
  obtain ⟨added, found, hload, hlookup⟩ := lookup_loadAll hnames hloads r
  obtain ⟨hcompleted, hregistry⟩ := discover_of_loadAll hload
  have hkeyed : (Assoc.keys (r.members ++ added)).Nodup := nodup_of_loadAll hr.keyed hload
  have hbarren : settle added = [] := by
    refine settle_eq_nil fun ⟨name, m⟩ hmem => ?_
    have hm := (Assoc.mem_iff_lookup hkeyed).1 (List.mem_append_right r.members hmem)
    have hfree : name ∉ r.names := by
      rw [Assoc.keys, List.map_append, List.nodup_append] at hkeyed
      exact fun h => hkeyed.2.2 _ h _ (List.mem_map_of_mem hmem) rfl
    rw [hlookup, Assoc.lookup_of_not_mem hfree, Option.none_or] at hm
    obtain ⟨l, hl, rfl⟩ := Option.map_eq_some_iff.1 hm
    have hnothing : contributed installed name = none := by
      simpa using fun h => hfree (htaken name (.inl h))
    rw [contributed, hl, Option.bind_some] at hnothing
    rw [l.settled?_member, hnothing, Option.map_none]
  have hlog : (Assoc.keys r.members).contains eventLogName = true :=
    List.contains_iff_mem.2 (htaken _ (.inr rfl))
  refine ⟨hcompleted, hregistry.trans ?_⟩
  rw [settle_append hr.instances, hbarren, List.append_nil, withEventLog, if_pos hlog]

omit hnames hloads

/-- How plugins are discovered. -/
structure Discovers (installed : List EntryPoint) (r : Registry) (d : Discovery) : Prop where
  completed : d.stopped = none
  /-- No name is taken twice, and no member is a class. -/
  settled : d.registry.Settled
  /-- The names are those from before, those for which a plugin comes of the entry points, and that
  of the event log. -/
  names : ∀ name, name ∈ d.registry.names ↔
    name ∈ r.names ∨ (contributed installed name).isSome = true ∨ name = eventLogName
  members : ∀ name, d.registry.members.lookup name = discovered installed r name
  /-- Discovering them once more changes nothing. -/
  again : (d.registry.discover installed).stopped = none ∧
    (d.registry.discover installed).registry = d.registry
  /-- It does not look at what stands under the names either: whatever plugins there are by then,
  they stay. -/
  kept : ∀ r' : Registry, r'.Settled → r'.names = d.registry.names →
    (r'.discover installed).registry.members = r'.members

/-- Discovering plugins in a registry of plugins leaves a registry of plugins, in which is what was
there before, what the first entry point of each other name gives, and the event log; and once that
is done, doing it again changes nothing. -/
theorem discover_discovers (hr : r.Settled) (hnames : ∀ e ∈ installed, e.name ≠ "")
    (hloads : ∀ e ∈ installed, ∃ l, e.load = .ok l) :
    Discovers installed r (r.discover installed) := by
  obtain ⟨hcompleted, hsettled, hloaded, hmembers⟩ := hr.discover hnames hloads
  have hiff (name : String) : name ∈ (r.discover installed).registry.names ↔
      name ∈ r.names ∨ (contributed installed name).isSome = true ∨ name = eventLogName := by
    rw [← isSome_discovered, ← hmembers]
    exact Assoc.isSome_lookup_iff.symm
  have htaken (name : String) (h : (contributed installed name).isSome = true ∨
      name = eventLogName) : name ∈ (r.discover installed).registry.names :=
    (hiff name).2 (.inr h)
  refine ⟨hcompleted, hsettled, hiff, hmembers, ?_, fun r' hr' hsame => ?_⟩
  · obtain ⟨hagain, hregistry⟩ := hsettled.discover_of_taken hnames hloads htaken
    refine ⟨hagain, hregistry.trans ?_⟩
    rw [← hloaded]
  · rw [(hr'.discover_of_taken hnames hloads fun name h => hsame ▸ htaken name h).2]

/-- Of the entry points here one comes too late, one is of another group, one has the name of a
plugin that is there, and one that makes nothing has the name of the event log. -/
theorem discover_discovers_clashing :
    let plugin (label : String) : Plugin :=
      { label, className := "Plugin", hooks := [], respond := fun _ _ _ => none, calls := 0 }
    let maker (make : Except Fault Plugin) : PluginClass :=
      { name := "Plugin", owner := "Plugin", hooks := [], make }
    let broken := Loaded.class (maker (.error { kind := .runtime, text := "no" }))
    let r : Registry := { members := [("mine", .plugin (plugin "a"))] }
    let installed : List EntryPoint := [
      { group, name := "late", load := .ok broken },
      { group, name := "made", load := .ok (.class (maker (.ok (plugin "b")))) },
      { group, name := "late", load := .ok (.instance (plugin "c")) },
      { group := "console_scripts", name := "script", load := .ok (.instance (plugin "d")) },
      { group, name := "mine", load := .ok (.instance (plugin "e")) },
      { group, name := eventLogName, load := .ok broken }]
    empty.register (plugin "a") "mine" = .ok r ∧ r.Settled ∧
      (∀ e ∈ installed, e.name ≠ "") ∧ (∀ e ∈ installed, ∃ l, e.load = .ok l) ∧
      Discovers installed r (r.discover installed) ∧
      (r.discover installed).registry.names = ["mine", "made", eventLogName] := by
  intro plugin maker broken r installed
  have hregister : empty.register (plugin "a") "mine" = .ok r := rfl
  have hr : r.Settled := (settled_empty .bare).register hregister
  have hnames : ∀ e ∈ installed, e.name ≠ "" := by simp [installed, eventLogName]
  have hloads : ∀ e ∈ installed, ∃ l, e.load = .ok l := by simp [installed]
  exact ⟨hregister, hr, hnames, hloads, discover_discovers hr hnames hloads, by decide +kernel⟩

end Registry

end Voicemail
