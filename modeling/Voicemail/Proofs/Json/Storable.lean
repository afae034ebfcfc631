import Voicemail.Proofs.Json.RoundTrip

/-!
# The values of texts

What is read from a text can be read back (`fits_of_readValue`): integers are no longer than the
numeral that was read, doubles come out of rounding, and members are put together under distinct
keys. So the values that can be stored are exactly those of texts (`isStorable_iff`).
-/

namespace Voicemail.Json

variable {limited : Bool} {s rest : List Char} {v : Json}

/-! ## Numbers and words -/

/-- A numeral is below the power of ten that its length says. -/
theorem ofDigitChars_lt {ds : List Char} (hds : ds.all Char.isDigit) (n : Nat) :
    Nat.ofDigitChars 10 ds n < (n + 1) * 10 ^ ds.length := by
  induction ds generalizing n with
  | nil => simp
  | cons c cs ih =>
    rw [List.all_cons, Bool.and_eq_true] at hds
    have hc : c.toNat - '0'.toNat < 10 := by
      have hdigit := hds.1
      simp only [Char.isDigit, Bool.and_eq_true, decide_eq_true_eq] at hdigit
      have hle : c.val.toNat ≤ 57 := hdigit.2
      show c.val.toNat - 48 < 10
      omega
    have hstep := ih hds.2 (10 * n + (c.toNat - '0'.toNat))
    rw [Nat.ofDigitChars_cons, List.length_cons, Nat.pow_succ]
    calc Nat.ofDigitChars 10 cs (10 * n + (c.toNat - '0'.toNat))
        < (10 * n + (c.toNat - '0'.toNat) + 1) * 10 ^ cs.length := hstep
      _ ≤ (n + 1) * 10 * 10 ^ cs.length := Nat.mul_le_mul_right _ (by omega)
      _ = (n + 1) * (10 ^ cs.length * 10) := by ring

/-- What is read as a number is digits, with what follows them. -/
theorem readNumber_eq (limited negative : Bool) (s : List Char) :
    ∃ whole rest fraction? exponent?, whole.all Char.isDigit = true ∧
      readNumber limited negative s =
        if whole.isEmpty then none
        else numberOf limited negative whole rest fraction? exponent? := by
  have hspan : (spanDigits s).1.all Char.isDigit = true := by
    rw [spanDigits, List.span_eq_takeWhile_dropWhile]
    exact List.all_takeWhile
  by_cases hzero : ∃ r, s = '0' :: r
  · obtain ⟨r, rfl⟩ := hzero
    rcases hfraction : readFraction r with ⟨fraction?, rest₁⟩
    rcases hexponent : readExponent rest₁ with ⟨exponent?, rest₂⟩
    refine ⟨['0'], rest₂, fraction?, exponent?, rfl, ?_⟩
    rw [readNumber.eq_1]
    simp only [hfraction, hexponent]
    cases fraction? <;> cases exponent? <;> rfl
  · rcases hwhole : spanDigits s with ⟨whole, rest₀⟩
    rcases hfraction : readFraction rest₀ with ⟨fraction?, rest₁⟩
    rcases hexponent : readExponent rest₁ with ⟨exponent?, rest₂⟩
    rw [hwhole] at hspan
    refine ⟨whole, rest₂, fraction?, exponent?, hspan, ?_⟩
    rw [readNumber.eq_2 _ _ _ fun r hr => hzero ⟨r, hr⟩]
    simp only [hwhole, hfraction, hexponent]
    cases fraction? <;> cases exponent? <;> rfl

/-- A number that is read can be read back. -/
theorem fits_of_readNumber {negative : Bool} (h : readNumber limited negative s = some (v, rest)) :
    v.Fits limited := by
  obtain ⟨whole, rest', fraction?, exponent?, hwhole, hread⟩ := readNumber_eq limited negative s
  rw [hread] at h
  unfold numberOf at h
  split at h
  · cases h
  · split at h
    · split at h
      · cases h
      next hlength =>
        cases h
        intro hlimited
        rw [hlimited, Bool.true_and, decide_eq_true_eq, not_lt] at hlength
        have hlt := ofDigitChars_lt hwhole 0
        have hpow : 10 ^ whole.length ≤ 10 ^ Text.maxNumeralDigits :=
          Nat.pow_le_pow_right (by decide) hlength
        split <;> simp only [Int.natAbs_neg, Int.ofNat_eq_natCast, Int.natAbs_natCast] <;> omega
    · cases h
      exact Binary64.isDouble_ofDecimal ..

/-- So can a word. -/
theorem fits_of_readWord (h : readWord s = some (v, rest)) : v.Fits limited := by
  have hword {word : String} {w : Json} (hw : w.Fits limited)
      (h : (afterWord? word s).map (w, ·) = some (v, rest)) : v.Fits limited := by
    obtain ⟨_, -, heq⟩ := Option.map_eq_some_iff.1 h
    cases heq
    exact hw
  simp only [readWord, Option.orElse_eq_some] at h
  obtain h | ⟨-, h | ⟨-, h | ⟨-, h | ⟨-, h | ⟨-, h⟩⟩⟩⟩⟩ := h
  all_goals
    refine hword ?_ h
    trivial

/-! ## Values -/

/-- A reader can give members exactly if it can give all their values. -/
theorem membersFit_iff (ms : List (String × Json)) :
    MembersFit limited ms ↔ ∀ m ∈ ms, m.2.Fits limited := by
  induction ms with
  | nil => simp [MembersFit]
  | cons m ms ih => simp [MembersFit, ih]

/-- Members that hold what can be read back make an object that can be. -/
theorem fits_ofPairs {ms : List (String × Json)} (h : MembersFit limited ms) :
    (ofPairs ms).Fits limited := by
  obtain ⟨hnodup, hmem⟩ := Assoc.ofPairs_spec ms
  refine ⟨hnodup, (membersFit_iff _).2 fun m hm => ?_⟩
  obtain ⟨q, hq, heq⟩ := hmem m hm
  rw [heq]
  exact (membersFit_iff ms).1 h q hq

mutual
/-- A value that was read is one that the reader can give. -/
theorem fits_of_readValue : ∀ {fuel : Nat} {s rest : List Char} {v : Json},
    readValue limited fuel s = some (v, rest) → v.Fits limited
  | 0, _, _, _, h => nomatch h
  | fuel + 1, s, rest, v, h => by
    unfold readValue at h
    split at h
    · cases h
    · obtain ⟨_, -, heq⟩ := Option.map_eq_some_iff.1 h
      cases heq
      trivial
    · split at h
      · cases h
        trivial
      · obtain ⟨⟨xs, rest'⟩, hread, heq⟩ := Option.map_eq_some_iff.1 h
        cases heq
        exact allFit_of_readItems hread
    · split at h
      · cases h
        exact ⟨.nil, trivial⟩
      · obtain ⟨⟨ms, rest'⟩, hread, heq⟩ := Option.map_eq_some_iff.1 h
        cases heq
        exact fits_ofPairs (membersFit_of_readMembers hread)
    · split at h
      · exact fits_of_readNumber h
      · split at h
        · split at h
          · exact fits_of_readNumber h
          · exact fits_of_readWord h
        · exact fits_of_readWord h

/-- Items that were read are items that the reader can give, -/
theorem allFit_of_readItems : ∀ {fuel : Nat} {s rest : List Char} {xs : List Json},
    readItems limited fuel s = some (xs, rest) → AllFit limited xs
  | 0, _, _, _, h => nomatch h
  | fuel + 1, s, rest, xs, h => by
    unfold readItems at h
    obtain ⟨⟨x, rest₁⟩, hx, h⟩ := Option.bind_eq_some_iff.1 h
    dsimp only at h
    split at h
    · cases h
      exact ⟨fits_of_readValue hx, trivial⟩
    · obtain ⟨⟨xs, rest₂⟩, hxs, h⟩ := Option.bind_eq_some_iff.1 h
      cases h
      exact ⟨fits_of_readValue hx, allFit_of_readItems hxs⟩
    · cases h

/-- and members that were read are members that it can give. -/
theorem membersFit_of_readMembers : ∀ {fuel : Nat} {s rest : List Char}
    {ms : List (String × Json)},
    readMembers limited fuel s = some (ms, rest) → MembersFit limited ms
  | 0, _, _, _, h => nomatch h
  | fuel + 1, s, rest, ms, h => by
    unfold readMembers at h
    split at h
    · obtain ⟨⟨key, rest₁⟩, -, h⟩ := Option.bind_eq_some_iff.1 h
      dsimp only at h
      split at h
      · obtain ⟨⟨x, rest₂⟩, hx, h⟩ := Option.bind_eq_some_iff.1 h
        dsimp only at h
        split at h
        · cases h
          exact ⟨fits_of_readValue hx, trivial⟩
        · obtain ⟨⟨ms, rest₃⟩, hms, h⟩ := Option.bind_eq_some_iff.1 h
          cases h
          exact ⟨fits_of_readValue hx, membersFit_of_readMembers hms⟩
        · cases h
      · cases h
    · cases h
end

/-- What is read from a text can be stored. -/
theorem isStorable_of_read? {s : String} (h : read? s = some v) : v.IsStorable := by
  rw [read?, readChars?] at h
  split at h
  next hread =>
    split at h
    · cases h
      exact fits_of_readValue hread
    · cases h
  next => cases h

/-- The values that can be stored are those of texts. -/
theorem isStorable_iff : v.IsStorable ↔ ∃ s, read? s = some v :=
  ⟨fun h => ⟨v.text, read?_text h⟩, fun ⟨_, h⟩ => isStorable_of_read? h⟩

end Voicemail.Json
