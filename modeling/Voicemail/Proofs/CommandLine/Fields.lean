import Mathlib.Data.List.TakeWhile
import Voicemail.CommandLine.Query
import Voicemail.Proofs.Assoc
import Voicemail.Proofs.Except

/-!
# Fields on the command line

An operand writes a field by a key, an equals sign and a value. The key ends at the first equals
sign, so that an operand writes one field at most (`Query.field?_eq_some_iff`). Operands are refused
with the first of them that writes none; otherwise a key has its last value and its first place
among them, and an ordered map whose keys can be written is read back (`Query.readsFields`).
-/

namespace Voicemail.CommandLine

/-- A text without an equals sign has no value. -/
theorem Arguments.splitValue_of_not_mem {s : List Char} (h : '=' ∉ s) :
    splitValue s = (String.ofList s, none) := by
  have hall : ∀ c ∈ s, decide (c ≠ '=') = true :=
    fun c hc => decide_eq_true fun heq => h (heq ▸ hc)
  have hname : s.takeWhile (· ≠ '=') = s := List.takeWhile_eq_self_iff.2 hall
  simp only [splitValue, hname, List.drop_length]

/-- What stands before the first equals sign of a text is the name, and what stands after it the
value. -/
theorem Arguments.splitValue_append {name : List Char} (h : '=' ∉ name) (value : List Char) :
    splitValue (name ++ '=' :: value) = (String.ofList name, some (String.ofList value)) := by
  have hall : ∀ c ∈ name, decide (c ≠ '=') = true :=
    fun c hc => decide_eq_true fun heq => h (heq ▸ hc)
  have hname : (name ++ '=' :: value).takeWhile (· ≠ '=') = name := by
    rw [List.takeWhile_append_of_pos hall, List.takeWhile_cons_of_neg (by simp), List.append_nil]
  simp only [splitValue, hname, List.drop_left]

namespace Query

/-- An operand that writes a field: a key that is not empty and has no equals sign, an equals sign,
and a value. -/
structure IsField (item : String) (field : String × String) : Prop where
  text : item = field.1 ++ "=" ++ field.2
  nonempty : field.1 ≠ ""
  unmarked : '=' ∉ field.1.toList

/-- An operand without an equals sign, or with nothing before the first one. -/
def IsMalformed (item : String) : Prop :=
  '=' ∉ item.toList ∨ ∃ value, item.toList = '=' :: value

variable {item : String} {field : String × String} {items : List String}

/-- An operand is read as the field that it writes, -/
theorem field?_of_isField (h : IsField item field) : field? item = some field := by
  have htext : item.toList = field.1.toList ++ '=' :: field.2.toList := by
    rw [h.text, String.toList_append, String.toList_append, List.append_assoc]
    rfl
  have hkey : field.1.isEmpty = false := by simpa using h.nonempty
  rw [field?, htext, Arguments.splitValue_append h.unmarked, String.ofList_toList,
    String.ofList_toList]
  simp [hkey]

/-- as none if it is malformed, -/
theorem field?_of_isMalformed (h : IsMalformed item) : field? item = none := by
  obtain h | ⟨value, h⟩ := h
  · rw [field?, Arguments.splitValue_of_not_mem h]
    simp
  · rw [field?, h, ← List.nil_append ('=' :: value),
      Arguments.splitValue_append List.not_mem_nil value]
    rfl

/-- and writes one if it is not. -/
theorem exists_isField (h : ¬IsMalformed item) : ∃ field, IsField item field := by
  rw [IsMalformed, not_or, not_not] at h
  obtain ⟨key, value, htext, hkey⟩ := List.eq_append_cons_of_mem h.1
  refine ⟨(String.ofList key, String.ofList value), ?_, ?_, ?_⟩
  · rw [← String.ofList_toList (s := item), htext]
    simp [String.ofList_append, String.append_assoc]
  · intro hempty
    obtain rfl : key = [] := by simpa using hempty
    exact h.2 ⟨value, htext⟩
  · rwa [String.toList_ofList]

/-- What is read off an operand is what it writes. -/
theorem field?_eq_some_iff : field? item = some field ↔ IsField item field := by
  refine ⟨fun h => ?_, field?_of_isField⟩
  obtain ⟨field', hfield⟩ := exists_isField fun hmalformed =>
    Option.some_ne_none field (h.symm.trans (field?_of_isMalformed hmalformed))
  obtain rfl : field' = field :=
    Option.some.inj ((field?_of_isField hfield).symm.trans h)
  exact hfield

/-- Nothing is read off the malformed operands only. -/
theorem field?_eq_none_iff : field? item = none ↔ IsMalformed item := by
  refine ⟨fun h => ?_, field?_of_isMalformed⟩
  by_contra hmalformed
  obtain ⟨field, hfield⟩ := exists_isField hmalformed
  cases h.symm.trans (field?_of_isField hfield)

/-- The field that an operand writes, or what is wrong with the operand. -/
def checkedField (item : String) : Except UsageError (String × String) :=
  match field? item with
  | some field => .ok field
  | none => .error (.notField Manual.fieldsLabel item)

/-- An operand gives a field exactly if it writes the field. -/
theorem checkedField_eq_ok_iff : checkedField item = .ok field ↔ IsField item field := by
  rw [← field?_eq_some_iff, checkedField]
  cases field? item <;> simp

/-- Otherwise it is malformed, and the complaint names the operand. -/
theorem checkedField_eq_error_iff {e : UsageError} :
    checkedField item = .error e ↔
      IsMalformed item ∧ e = .notField Manual.fieldsLabel item := by
  rw [← field?_eq_none_iff, checkedField]
  cases field? item <;> simp [eq_comm]

/-- Operands are read one after another, and their fields are set one after another. -/
theorem fields_eq (items : List String) :
    fields items = (items.mapM checkedField).map Assoc.ofPairs := by
  show (items.mapM checkedField >>= fun pairs => pure (Assoc.ofPairs pairs)) = _
  cases items.mapM checkedField <;> rfl

/-- Fields are read exactly where every operand writes one. -/
theorem fields_eq_ok_iff {d : List (String × String)} :
    fields items = .ok d ↔ ∃ pairs, List.Forall₂ IsField items pairs ∧ d = Assoc.ofPairs pairs := by
  rw [fields_eq]
  constructor
  · intro h
    cases hpairs : items.mapM checkedField with
    | error => rw [hpairs] at h; cases h
    | ok pairs =>
      rw [hpairs] at h
      obtain rfl := Except.ok.inj h
      exact ⟨pairs, (forall₂_of_mapM hpairs).imp fun _ _ => checkedField_eq_ok_iff.1, rfl⟩
  · rintro ⟨pairs, hpairs, rfl⟩
    rw [mapM_of_forall₂ (hpairs.imp fun _ _ => checkedField_eq_ok_iff.2)]
    rfl

/-- They are refused with the first operand that writes none. -/
theorem fields_eq_error_iff {e : UsageError} :
    fields items = .error e ↔ ∃ before item after, items = before ++ item :: after ∧
      (∀ i ∈ before, ¬IsMalformed i) ∧ IsMalformed item ∧
      e = .notField Manual.fieldsLabel item := by
  have hmap : (items.mapM checkedField).map Assoc.ofPairs = .error e ↔
      items.mapM checkedField = .error e := by
    refine ⟨error_of_map, fun h => ?_⟩
    rw [h]
    rfl
  have hok (i : String) : (∃ field, checkedField i = .ok field) ↔ ¬IsMalformed i := by
    simp only [checkedField_eq_ok_iff]
    refine ⟨fun ⟨field, hfield⟩ hmalformed => ?_, exists_isField⟩
    cases (field?_of_isField hfield).symm.trans (field?_of_isMalformed hmalformed)
  rw [fields_eq, hmap, mapM_eq_error_iff]
  simp only [hok, checkedField_eq_error_iff]

/-! ## Ordered maps -/

/-- How the fields of operands are read. -/
structure ReadsFields (items : List String) : Prop where
  /-- Operands are refused if one of them writes no field, and only then; -/
  fails : (∃ e, fields items = .error e) ↔ ∃ item ∈ items, IsMalformed item
  /-- the first such operand is named. -/
  refused : ∀ e, fields items = .error e ↔ ∃ before item after, items = before ++ item :: after ∧
    (∀ i ∈ before, ¬IsMalformed i) ∧ IsMalformed item ∧
    e = .notField Manual.fieldsLabel item
  /-- Otherwise the operands have a field each, and keys stand in the order of their first fields,
  with the values of their last ones. -/
  accepted : (∀ item ∈ items, ¬IsMalformed item) → ∃ pairs d,
    List.Forall₂ IsField items pairs ∧ fields items = .ok d ∧
      Assoc.keys d = (Assoc.keys pairs).eraseDups ∧ (Assoc.keys d).Nodup ∧
      ∀ key, d.lookup key = pairs.reverse.lookup key

/-- An ordered map whose keys operands can write. -/
structure FieldMap where
  pairs : List (String × String)
  distinct : (Assoc.keys pairs).Nodup
  writable : ∀ key ∈ Assoc.keys pairs, key ≠ "" ∧ '=' ∉ key.toList

/-- The operands that write an ordered map. -/
def FieldMap.operands (d : FieldMap) : List String := d.pairs.map fun p => p.1 ++ "=" ++ p.2

/-- Every operand of an ordered map writes its field. -/
theorem FieldMap.forall₂_isField (d : FieldMap) : List.Forall₂ IsField d.operands d.pairs := by
  rw [FieldMap.operands, List.forall₂_map_left_iff, List.forall₂_same]
  intro p hp
  obtain ⟨hnonempty, hunmarked⟩ := d.writable p.1 (List.mem_map_of_mem hp)
  exact ⟨rfl, hnonempty, hunmarked⟩

/-- Operands that all write a field have one each. -/
theorem exists_forall₂_isField (h : ∀ item ∈ items, ¬IsMalformed item) :
    ∃ pairs, List.Forall₂ IsField items pairs := by
  induction items with
  | nil => exact ⟨[], .nil⟩
  | cons item rest ih =>
    obtain ⟨field, hfield⟩ := exists_isField (h item (.head _))
    obtain ⟨pairs, hpairs⟩ := ih fun i hi => h i (.tail _ hi)
    exact ⟨field :: pairs, .cons hfield hpairs⟩

/-- Of operands of which one is malformed, one is the first. -/
theorem exists_first (h : ∃ item ∈ items, IsMalformed item) :
    ∃ before item after, items = before ++ item :: after ∧
      (∀ i ∈ before, ¬IsMalformed i) ∧ IsMalformed item := by
  induction items with
  | nil => simp at h
  | cons item rest ih =>
    by_cases hitem : IsMalformed item
    · exact ⟨[], item, rest, rfl, nofun, hitem⟩
    · obtain ⟨before, first, after, rfl, hbefore, hfirst⟩ := ih (by simpa [hitem] using h)
      exact ⟨item :: before, first, after, rfl, by simpa [hitem] using hbefore, hfirst⟩

/-- Operands are read as fields, and an ordered map is read back. -/
theorem readsFields :
    (∀ items, ReadsFields items) ∧ ∀ d : FieldMap, fields d.operands = .ok d.pairs := by
  constructor
  · intro items
    refine ⟨⟨?_, ?_⟩, fun e => fields_eq_error_iff, ?_⟩
    · rintro ⟨e, h⟩
      obtain ⟨before, item, after, rfl, -, hmalformed, -⟩ := fields_eq_error_iff.1 h
      exact ⟨item, by simp, hmalformed⟩
    · intro h
      obtain ⟨before, item, after, hitems, hbefore, hmalformed⟩ := exists_first h
      exact ⟨_, fields_eq_error_iff.2 ⟨before, item, after, hitems, hbefore, hmalformed, rfl⟩⟩
    · intro h
      obtain ⟨pairs, hpairs⟩ := exists_forall₂_isField h
      exact ⟨pairs, _, hpairs, fields_eq_ok_iff.2 ⟨pairs, hpairs, rfl⟩, Assoc.keys_ofPairs pairs,
        (Assoc.ofPairs_spec pairs).1, Assoc.lookup_ofPairs pairs⟩
  · intro d
    exact fields_eq_ok_iff.2
      ⟨d.pairs, d.forall₂_isField, (Assoc.ofPairs_of_nodup d.distinct).symm⟩

/-- A key that is written again keeps its place, and a value may hold equals signs. -/
example : fields ["u=a=b", "st=N", "u=c="] = .ok [("u", "c="), ("st", "N")] := by decide +kernel

end Query

end Voicemail.CommandLine
