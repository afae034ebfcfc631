import Voicemail.Diagnostics
import Voicemail.Proofs.Bootstrap.Secrets
import Voicemail.Proofs.Report

/-!
# Secrets in what diagnostics show

Diagnostics list what is stored for an account, each key once and in the order of the bytes
(`Diagnostics.Lists`), with a mask in the place of every secret. What else they say of the account
is about other keys, or about whether there is a PIN at all. So two stores that differ in secrets
only have one report (`Diagnostics.account_discreet`), and that is flat enough to be written in
every form.
-/

namespace Voicemail

open Preferences

/-! ## Listings of stores that differ in secrets -/

namespace Preferences

variable {account key : String} {p p₁ p₂ : Preferences} {β : Type}

/-- What is made of two values of which one may be another secret is the same, if secrets are made
the same. -/
theorem SameButSecrets.map_find? (h : SameButSecrets account p₁ p₂) {g : Option String → β}
    (hg : ∀ value₁ value₂, SameButSecret key value₁ value₂ → g value₁ = g value₂) :
    (p₁.find? account key).map g = (p₂.find? account key).map g := by
  obtain hsame | ⟨-, value₁, value₂, hsame, hfind₁, hfind₂⟩ := h account key
  · rw [hsame]
  · rw [hfind₁, hfind₂, Option.map_some, Option.map_some, hg value₁ value₂ hsame]

/-- The listing of an account, with something made of each value. -/
def itemsBy (g : String → Option String → β) (p : Preferences) (account : String) :
    List (String × β) :=
  (p.items account).map fun x => (x.1, g x.1 x.2)

/-- What is listed for an account under a key is made of what is stored for it under the key. -/
theorem mem_itemsBy (hd : p.Distinct) (g : String → Option String → β) {b : β} :
    (key, b) ∈ p.itemsBy g account ↔ (p.find? account key).map (g key) = some b := by
  rw [itemsBy, List.mem_map, Option.map_eq_some_iff]
  constructor
  · rintro ⟨⟨key', value⟩, hmem, h⟩
    obtain ⟨rfl, rfl⟩ := Prod.mk.inj h
    exact ⟨value, (mem_items hd).1 hmem, rfl⟩
  · rintro ⟨value, hfind, rfl⟩
    exact ⟨(key, value), (mem_items hd).2 hfind, rfl⟩

/-- Its keys rise. -/
theorem itemsBy_lt (hd : p.Distinct) (g : String → Option String → β) (account : String) :
    (p.itemsBy g account).Pairwise fun x y => x.1 < y.1 :=
  List.pairwise_map.2 (items_lt hd account)

/-- Each key that is stored stands in it once. -/
theorem count_keys_itemsBy (hd : p.Distinct) (g : String → Option String → β)
    (account key : String) :
    (Assoc.keys (p.itemsBy g account)).count key =
      if (p.find? account key).isSome then 1 else 0 := by
  have hnodup : (Assoc.keys (p.itemsBy g account)).Nodup :=
    List.pairwise_map.2 ((itemsBy_lt hd g account).imp fun h => ne_of_lt h)
  have hmem : key ∈ Assoc.keys (p.itemsBy g account) ↔ (p.find? account key).isSome = true := by
    constructor
    · intro h
      obtain ⟨⟨key', b⟩, hb, rfl⟩ := List.mem_map.1 h
      obtain ⟨value, hfind, -⟩ := Option.map_eq_some_iff.1 ((mem_itemsBy hd g).1 hb)
      rw [hfind]
      rfl
    · intro h
      obtain ⟨value, hfind⟩ := Option.isSome_iff_exists.1 h
      exact List.mem_map_of_mem ((mem_itemsBy hd g).2 (congrArg (Option.map (g key)) hfind))
  rw [hnodup.count, if_congr hmem rfl rfl]

/-- The listing is the same if the same is made of what is stored under each key. -/
theorem itemsBy_congr {g : String → Option String → β} (hd₁ : p₁.Distinct) (hd₂ : p₂.Distinct)
    (h : ∀ key, (p₁.find? account key).map (g key) = (p₂.find? account key).map (g key)) :
    p₁.itemsBy g account = p₂.itemsBy g account := by
  refine eq_of_keys_lt (itemsBy_lt hd₁ g account) (itemsBy_lt hd₂ g account) ?_
  rintro ⟨key, b⟩
  rw [mem_itemsBy hd₁, mem_itemsBy hd₂, h]

end Preferences

/-! ## Levels -/

/-- Members are no deeper than the deepest of their values. -/
theorem Json.depthOfMembers_le {ms : List (String × Json)} {n : Nat}
    (h : ∀ x ∈ ms, x.2.depth ≤ n) : depthOfMembers ms ≤ n := by
  induction ms with
  | nil => exact Nat.zero_le n
  | cons x rest ih =>
    rw [depthOfMembers]
    exact Nat.max_le.2 ⟨h x (.head _), ih fun y hy => h y (.tail _ hy)⟩

namespace Client.Diagnostics

variable {account : String} {p p₁ p₂ : Preferences}

/-! ## The report about an account -/

/-- Secrets are not shown. -/
theorem shown_congr {key : String} {value₁ value₂ : Option String}
    (h : SameButSecret key value₁ value₂) : shown key value₁ = shown key value₂ := by
  obtain rfl | ⟨hkey, hsome₁, hsome₂⟩ := h
  · rfl
  · obtain ⟨text₁, rfl⟩ := Option.isSome_iff_exists.1 hsome₁
    obtain ⟨text₂, rfl⟩ := Option.isSome_iff_exists.1 hsome₂
    have hcontains : secretKeys.contains key = true := List.contains_iff_mem.2 hkey
    simp only [shown, hcontains, if_true]

/-- A value is shown as it is stored, unless it is a secret. -/
theorem shown_of_not_mem {key : String} (h : key ∉ Preferences.secretKeys)
    (value : Option String) : shown key value = .ofString? value := by
  have hcontains : secretKeys.contains key = false :=
    Bool.eq_false_iff.2 fun hc => h (List.contains_iff_mem.1 hc)
  cases value with
  | none => rfl
  | some text => simp only [shown, hcontains, Bool.false_eq_true, if_false, Json.ofString?]

/-- A value is shown as one level. -/
theorem depth_shown (key : String) (value : Option String) : (shown key value).depth = 1 := by
  cases value <;> rfl

/-- Members list what is stored for an account. -/
structure Lists (p : Preferences) (account : String) (members : List (String × Json)) : Prop where
  /-- Every key that is stored stands there once, and no other. -/
  once : ∀ key, (Assoc.keys members).count key = if (p.find? account key).isSome then 1 else 0
  /-- The bytes of the keys rise. -/
  sorted : members.Pairwise fun x y => Text.bytes x.1 < Text.bytes y.1
  /-- What is no secret stands there as it is stored, -/
  plain : ∀ key value, key ∉ Preferences.secretKeys → p.find? account key = some value →
    (key, .ofString? value) ∈ members
  /-- and a mask in the place of a secret; null is none. -/
  masked : ∀ key value, key ∈ Preferences.secretKeys → p.find? account key = some value →
    (key, .ofString? (value.map fun _ => "****")) ∈ members

/-- Diagnostics list what is stored for an account. -/
theorem lists_itemsBy (hd : p.Distinct) (account : String) :
    Lists p account (p.itemsBy shown account) where
  once := count_keys_itemsBy hd shown account
  sorted := (itemsBy_lt hd shown account).imp Text.bytes_lt
  plain key value hkey hfind := by
    rw [mem_itemsBy hd, hfind, Option.map_some, shown_of_not_mem hkey]
  masked key value hkey hfind := by
    have hcontains : secretKeys.contains key = true := List.contains_iff_mem.2 hkey
    rw [mem_itemsBy hd, hfind, Option.map_some]
    cases value with
    | none => rfl
    | some text => simp only [shown, hcontains, if_true]; rfl

/-- The report about an account is the same for stores that differ in its secrets only. -/
theorem accountReport_congr (h : Preferences.SameButSecrets account p₁ p₂) (hd₁ : p₁.Distinct)
    (hd₂ : p₂.Distinct) : accountReport p₁ account = accountReport p₂ account := by
  have henabled : p₁.isEnabled account = p₂.isEnabled account := by
    unfold isEnabled
    rw [h.get?_eq (by decide)]
  have hset : p₁.hasOldPin account = p₂.hasOldPin account := h.isSome_get? pinKey
  have hpolicy : p₁.get? account StatusResponse.pinLengthField =
      p₂.get? account StatusResponse.pinLengthField := h.get?_eq (by decide)
  have hitems : p₁.itemsBy shown account = p₂.itemsBy shown account :=
    itemsBy_congr hd₁ hd₂ fun key => h.map_find? fun _ _ => shown_congr
  show Report.success "prefs" [_, _, _, _, ("preferences", .obj (p₁.itemsBy shown account))] = _
  rw [henabled, hset, hpolicy, hitems]
  rfl

/-- It is flat. -/
theorem depth_accountReport (p : Preferences) (account : String) :
    ∀ x ∈ (accountReport p account).data, x.2.depth ≤ 2 := by
  have hitems : Json.depthOfMembers (p.itemsBy shown account) ≤ 1 := by
    refine Json.depthOfMembers_le fun x hx => ?_
    obtain ⟨item, -, rfl⟩ := List.mem_map.1 hx
    exact (depth_shown item.1 item.2).le
  have hpolicy (value : Option String) : (Json.ofString? value).depth ≤ 2 := by
    cases value <;> exact Nat.le_succ 1
  intro x hx
  simp only [accountReport, Report.success, List.mem_cons, List.not_mem_nil, or_false] at hx
  obtain rfl | rfl | rfl | rfl | rfl := hx
  · exact Nat.le_succ 1
  · exact Nat.le_succ 1
  · exact Nat.le_succ 1
  · exact hpolicy _
  · exact Nat.succ_le_succ hitems

/-- Of an account diagnostics say the same whatever its secrets are: the report is one, and so is
its text in each form. All else that is stored is listed as it is. No key is stored twice, in any
store that was written (`Client.writeAll_empty`). -/
theorem account_discreet {c₁ c₂ : Client}
    (h : Preferences.SameButSecrets account c₁.preferences c₂.preferences)
    (hd₁ : c₁.preferences.Distinct) (hd₂ : c₂.preferences.Distinct) :
    ∃ report members,
      Diagnostics.account account c₁ = (.ok report, c₁) ∧
      Diagnostics.account account c₂ = (.ok report, c₂) ∧
      (∀ json quiet, ∃ text, report.format json quiet = .ok text) ∧
      report.ok = true ∧ report.data.lookup "preferences" = some (.obj members) ∧
      Lists c₁.preferences account members := by
  refine ⟨accountReport c₁.preferences account, _, rfl, ?_, ?_, rfl, rfl,
    lists_itemsBy hd₁ account⟩
  · rw [accountReport_congr h hd₁ hd₂]
    rfl
  · have hshallow : (accountReport c₁.preferences account).IsShallow := by
      refine ⟨fun x hx => (depth_accountReport _ _ x hx).trans (by decide), ?_⟩
      rintro _ ⟨⟩
    exact Report.exists_format hshallow

/-- A client that has stored a password, a server and a PIN for an account. -/
def storing (password pin : String) : Client :=
  { Client.new { root := ⟨.root, []⟩, configPath := none } none [] with
    preferences := Preferences.empty.putMany "a"
      [(StatusResponse.passwordField, some password), ("srv", some "imap.example"),
        (pinKey, some pin)] }

/-- One password is shown like another, and one PIN like another. -/
theorem account_discreet_storing :
    ∃ report members,
      Diagnostics.account "a" (storing "x" "1") = (.ok report, storing "x" "1") ∧
      Diagnostics.account "a" (storing "hunter2" "918273") =
        (.ok report, storing "hunter2" "918273") ∧
      (∀ json quiet, ∃ text, report.format json quiet = .ok text) ∧
      report.ok = true ∧ report.data.lookup "preferences" = some (.obj members) ∧
      Lists (storing "x" "1").preferences "a" members := by
  have hempty : Preferences.empty.Distinct := List.nodup_nil
  refine account_discreet ?_ (hempty.putMany "a" _) (hempty.putMany "a" _)
  refine (Preferences.SameButSecrets.refl "a" .empty).putMany (.cons ⟨rfl, .inr ?_⟩
    (.cons ⟨rfl, .inl rfl⟩ (.cons ⟨rfl, .inr ?_⟩ .nil)))
  · exact ⟨.head _, rfl, rfl⟩
  · exact ⟨.tail _ (.head _), rfl, rfl⟩

end Client.Diagnostics

end Voicemail
