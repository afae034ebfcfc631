import Voicemail.Pin
import Voicemail.Proofs.Text.Numeral

/-!
# Policies of two lengths

A policy is two numerals with a dash between them, and nothing else in it is a dash
(`IsRange`). What the first one is decides the least length alone: where there is no policy or its
first numeral is none, the least length is the default, and where the second is none, the greatest
length is that of all PINs (`LengthPolicy.parse_followsGrammar`). Numerals are those of
`Text.IsNumeral`, of which no one before or after the only dash is negative.
-/

namespace Voicemail.Pin

/-- The parts of a text are the ones that the library finds. -/
theorem splitAt_eq_splitOn (mark : Char) (cs : List Char) : splitAt mark cs = cs.splitOn mark := by
  induction cs with
  | nil => rfl
  | cons c cs ih =>
    have hne := List.splitOn_ne_nil mark cs
    rw [splitAt, ih, List.splitOn_cons_eq_if_modifyHead]
    by_cases hc : c = mark
    · rw [if_pos hc, if_pos (beq_iff_eq.2 hc)]
    · rw [if_neg hc, if_neg (by simpa using hc)]
      generalize cs.splitOn mark = parts at hne
      cases parts with
      | nil => exact absurd rfl hne
      | cons part parts => rfl

/-- A text with one dash, which stands between two others. -/
structure IsRange (raw : String) (low high : List Char) : Prop where
  text : raw.toList = low ++ '-' :: high
  low : '-' ∉ low
  high : '-' ∉ high

/-- A text with one dash is one. -/
theorem exists_isRange {raw : String} (h : raw.toList.count '-' = 1) :
    ∃ low high, IsRange raw low high := by
  have hmem : '-' ∈ raw.toList := List.count_pos_iff.1 (by omega)
  obtain ⟨low, high, htext, hlow⟩ := List.eq_append_cons_of_mem hmem
  refine ⟨low, high, htext, hlow, List.count_eq_zero.1 ?_⟩
  rw [htext, List.count_append, List.count_cons_self, List.count_eq_zero.2 hlow] at h
  omega

variable {raw : String} {low high : List Char} {default : Int}

/-- Its parts are the texts before and after the dash. -/
theorem IsRange.splitAt_eq (h : IsRange raw low high) :
    splitAt '-' raw.toList = [low, high] := by
  rw [splitAt_eq_splitOn, h.text, List.splitOn_append_cons_self_of_not_mem h.low,
    List.splitOn_eq_singleton h.high]

/-- A text without a dash, or with several, has another number of parts than two. -/
theorem splitAt_ne_pair (h : raw.toList.count '-' ≠ 1) (low high : List Char) :
    splitAt '-' raw.toList ≠ [low, high] := by
  rw [splitAt_eq_splitOn]
  by_cases hmem : '-' ∈ raw.toList
  · obtain ⟨first, rest, htext, hfirst⟩ := List.eq_append_cons_of_mem hmem
    rw [htext, List.count_append, List.count_cons_self, List.count_eq_zero.2 hfirst] at h
    have hrest : '-' ∈ rest := List.count_pos_iff.1 (by omega)
    obtain ⟨second, last, rfl, hsecond⟩ := List.eq_append_cons_of_mem hrest
    rw [htext, List.splitOn_append_cons_self_of_not_mem hfirst,
      List.splitOn_append_cons_self_of_not_mem hsecond]
    intro hparts
    exact List.splitOn_ne_nil '-' last (List.cons.inj (List.cons.inj hparts).2).2
  · rw [List.splitOn_eq_singleton hmem]
    nofun

namespace LengthPolicy

/-- Without two parts there is no policy. -/
theorem parse_of_count (h : raw.toList.count '-' ≠ 1) :
    parse (some raw) default = ⟨default, maxLength⟩ := by
  unfold parse
  split
  next hparts => exact absurd hparts (splitAt_ne_pair h _ _)
  next => rfl

/-- Two parts are read as numerals, the second one only if the first one is. -/
theorem parse_of_isRange (h : IsRange raw low high) :
    parse (some raw) default = match Text.readInt? low with
      | none => ⟨default, maxLength⟩
      | some minimum => ⟨minimum, (Text.readInt? high).getD maxLength⟩ := by
  cases hlow : Text.readInt? low <;> simp only [parse, Option.getD_some, h.splitAt_eq, hlow]

/-- How policies are read, with a default for the least length. -/
structure FollowsGrammar (default : Int) : Prop where
  /-- A text without a dash, or with several, is no policy. -/
  undashed : ∀ raw : String, raw.toList.count '-' ≠ 1 → parse (some raw) default = ⟨default, 10⟩
  /-- A text with one dash stands between two others, -/
  dashed : ∀ raw : String, raw.toList.count '-' = 1 → ∃ low high, IsRange raw low high
  /-- and is no policy where the first of them is no numeral. -/
  unread : ∀ raw low high, IsRange raw low high → (∀ a, ¬Text.IsNumeral low a) →
    parse (some raw) default = ⟨default, 10⟩
  /-- Two numerals are the two lengths, which are not negative, -/
  both : ∀ raw low high a b, IsRange raw low high → Text.IsNumeral low a → Text.IsNumeral high b →
    parse (some raw) default = ⟨a, b⟩ ∧ 0 ≤ a ∧ 0 ≤ b
  /-- and the first of them is the least length where the second one is none. -/
  first : ∀ raw low high a, IsRange raw low high → Text.IsNumeral low a →
    (∀ b, ¬Text.IsNumeral high b) → parse (some raw) default = ⟨a, 10⟩ ∧ 0 ≤ a
  /-- So the least length is the same whatever stands after the dash. -/
  least : ∀ raw raw' low high high', IsRange raw low high → IsRange raw' low high' →
    minimumLength (some raw) default = minimumLength (some raw') default
  /-- Two natural numbers are read back, in whatever way they are spelled. -/
  spelled : ∀ (a b : Nat) (low high : List Char), Text.IsSpelling a low → Text.IsSpelling b high →
    parse (some (String.ofList (low ++ '-' :: high))) default = ⟨a, b⟩

/-- The first numeral alone decides the least length. -/
theorem minimumLength_of_isRange (h : IsRange raw low high) :
    minimumLength (some raw) default = (Text.readInt? low).getD default := by
  rw [minimumLength, parse_of_isRange h]
  cases Text.readInt? low <;> rfl

/-- Policies are read by their grammar, whatever the default is. -/
theorem parse_followsGrammar (default : Int) : FollowsGrammar default := by
  have hnone {s : List Char} (hs : ∀ n, ¬Text.IsNumeral s n) : Text.readInt? s = none :=
    Option.eq_none_iff_forall_ne_some.2 fun n hn => hs n (Text.readInt?_eq_some_iff.1 hn)
  have hboth {raw : String} {low high : List Char} {a b : Int} (h : IsRange raw low high)
      (ha : Text.IsNumeral low a) (hb : Text.IsNumeral high b) :
      parse (some raw) default = ⟨a, b⟩ := by
    rw [parse_of_isRange h, Text.readInt?_eq_some_iff.2 ha, Text.readInt?_eq_some_iff.2 hb]
    rfl
  refine ⟨fun raw => parse_of_count, fun raw => exists_isRange, ?_, ?_, ?_, ?_, ?_⟩
  · intro raw low high h hlow
    rw [parse_of_isRange h, hnone hlow]
    rfl
  · intro raw low high a b h ha hb
    exact ⟨hboth h ha hb, ha.nonneg h.low, hb.nonneg h.high⟩
  · intro raw low high a h ha hhigh
    refine ⟨?_, ha.nonneg h.low⟩
    rw [parse_of_isRange h, Text.readInt?_eq_some_iff.2 ha, hnone hhigh]
    rfl
  · intro raw raw' low high high' h h'
    rw [minimumLength_of_isRange h, minimumLength_of_isRange h']
  · intro a b low high ha hb
    exact hboth ⟨String.toList_ofList, ha.dash_not_mem, hb.dash_not_mem⟩ ha.isNumeral hb.isNumeral

/-- Digits of two scripts, with underscores and white space. -/
example : parse (some "\u20031_0 -\t+\u0661\u0662") 6 = ⟨10, 12⟩ := by decide

end LengthPolicy

end Voicemail.Pin
