import Voicemail.Proofs.Assoc
import Voicemail.Settings.Environment

/-!
# Variables of options

The name of a variable leads a way from a section (`Environment.way`): the variable of an option to
the option, others below it or nowhere. Taking the variables one after another, a section gets the
options that are first on their ways (`Environment.mem_sectionOptions`), and the variable of an
option decides it wherever it stands (`Environment.lookup_foldl_own`). Variables are known in small
letters, and so are the options.
-/

namespace Voicemail

namespace Environment

variable {env : Environment} {name option k : String} {t : List (String × Setting)}

/-! ## Ways -/

/-- Every name has a part, if only an empty one. -/
theorem nameParts_ne_nil (letters : List Char) : nameParts letters ≠ [] := by
  fun_cases nameParts letters <;> simp [*]

/-- A name without pairs of underscores is its only part. -/
theorem eq_of_nameParts {letters part : List Char} (h : nameParts letters = [part]) :
    letters = part := by
  induction letters using nameParts.induct generalizing part with
  | case1 => simpa [nameParts] using h
  | case2 rest => exact absurd (List.cons.inj h).2 (nameParts_ne_nil rest)
  | case3 c rest _ hnil => exact absurd hnil (nameParts_ne_nil rest)
  | case4 c rest hc p ps hrest ih =>
    rw [nameParts.eq_3 c rest hc, hrest] at h
    obtain ⟨rfl, rfl⟩ := List.cons.inj h
    rw [ih hrest]

/-- The letters of a part are letters of the name. -/
theorem mem_of_nameParts {letters part : List Char} (h : part ∈ nameParts letters) {c : Char}
    (hc : c ∈ part) : c ∈ letters := by
  induction letters using nameParts.induct generalizing part with
  | case1 =>
    obtain rfl := List.mem_singleton.1 h
    exact hc
  | case2 rest ih =>
    obtain rfl | h := List.mem_cons.1 h
    · cases hc
    · exact .tail _ (.tail _ (ih h hc))
  | case3 c rest _ hnil => exact absurd hnil (nameParts_ne_nil rest)
  | case4 c' rest hne p ps hrest ih =>
    rw [nameParts.eq_3 c' rest hne, hrest] at h
    rw [hrest] at ih
    obtain rfl | h := List.mem_cons.1 h
    · obtain rfl | hc := List.mem_cons.1 hc
      · exact .head _
      · exact .tail _ (ih (.head _) hc)
    · exact .tail _ (ih (.tail _ h) hc)

/-- The way that a variable leads from a section: the parts of its name after that of the section.
A variable of something else leads nowhere. -/
def way (name variableName : String) : List String :=
  let start := (mark ++ name ++ "__").toList
  if start.isPrefixOf variableName.toList then
    (nameParts (variableName.toList.drop start.length)).map String.ofList
  else []

/-- Only one variable leads to an option itself. -/
theorem eq_of_way {variableName : String} (h : way name variableName = [option]) :
    variableName = mark ++ name ++ "__" ++ option := by
  unfold way at h
  dsimp only at h
  split at h
  next hstart =>
    obtain ⟨part, hpart, rfl⟩ := List.map_eq_singleton_iff.1 h
    have hdrop := eq_of_nameParts hpart
    obtain ⟨rest, hrest⟩ := List.isPrefixOf_iff_prefix.1 hstart
    rw [← hrest, List.drop_left] at hdrop
    rw [← String.toList_inj, ← hrest, hdrop]
    simp
  · cases h

/-- The options of a section with variables of their own are those to which the variables lead. -/
theorem sectionOptions_eq (env : Environment) (name : String) :
    env.sectionOptions name =
      env.folded.foldl (fun t x => place (way name x.1) x.2 t) [] := by
  unfold sectionOptions
  refine congrArg (List.foldl · [] env.folded) (funext fun t => funext fun x => ?_)
  unfold way
  dsimp only
  split <;> rfl

/-! ## Names in small letters -/

/-- Letters that are no capitals stay as they are, except for the sign for the kelvin. -/
theorem foldLetter_eq_self {c : Char} (hsign : c ≠ '\u212a') (h : c.toNat < 65 ∨ 90 < c.toNat) :
    foldLetter c = c := by
  rw [foldLetter, if_neg hsign]
  refine dif_neg ?_
  rintro ⟨hlow, hhigh⟩
  have hlow : 65 ≤ c.toNat := UInt32.le_iff_toNat_le.1 hlow
  have hhigh : c.toNat ≤ 90 := UInt32.le_iff_toNat_le.1 hhigh
  omega

/-- Folding a letter again changes nothing, -/
theorem foldLetter_foldLetter (c : Char) : foldLetter (foldLetter c) = foldLetter c := by
  by_cases hsign : c = '\u212a'
  · rw [hsign]
    decide
  by_cases hcapital : 65 ≤ c.toNat ∧ c.toNat ≤ 90
  · obtain ⟨hlow, hhigh⟩ := hcapital
    have hsmall : (foldLetter c).toNat = c.toNat + 32 := by
      rw [foldLetter, if_neg hsign]
      unfold Char.toLower
      rw [dif_pos ⟨UInt32.le_iff_toNat_le.2 hlow, UInt32.le_iff_toNat_le.2 hhigh⟩]
      show (c.val + 32).toNat = c.val.toNat + 32
      have hbound : c.val.toNat ≤ 90 := hhigh
      rw [UInt32.toNat_add]
      exact Nat.mod_eq_of_lt (by show c.val.toNat + 32 < 2 ^ 32; omega)
    refine foldLetter_eq_self (fun heq => ?_) (by omega)
    have hnat : '\u212a'.toNat = 8490 := by decide
    rw [heq] at hsmall
    omega
  · rw [foldLetter_eq_self hsign (by omega), foldLetter_eq_self hsign (by omega)]

/-- and neither does folding a name again. -/
theorem foldName_foldName (s : String) : foldName (foldName s) = foldName s := by
  simp [foldName, Function.comp_def, foldLetter_foldLetter]

/-- The variables are known under names in small letters. -/
theorem foldName_of_mem_folded {x : String × String} (h : x ∈ env.folded) :
    foldName x.1 = x.1 := by
  have hkey : x.1 ∈ Assoc.keys env.folded := List.mem_map_of_mem h
  rw [folded, Assoc.mem_keys_ofPairs, Assoc.keys, List.map_map] at hkey
  obtain ⟨y, -, hy⟩ := List.mem_map.1 hkey
  rw [← hy]
  exact foldName_foldName y.1

/-- So their ways are in small letters, too. -/
theorem foldName_of_mem_way {variableName part : String} (h : foldName variableName = variableName)
    (hpart : part ∈ way name variableName) : foldName part = part := by
  have hletters : ∀ c ∈ variableName.toList, foldLetter c = c := by
    have hmap := congrArg String.toList h
    rw [foldName, String.toList_ofList] at hmap
    exact List.map_inj_left.1 (hmap.trans (List.map_id _).symm)
  unfold way at hpart
  dsimp only at hpart
  split at hpart
  · obtain ⟨letters, hmem, rfl⟩ := List.mem_map.1 hpart
    have hmap : letters.map foldLetter = letters.map id := List.map_inj_left.2 fun c hc =>
      hletters c (List.mem_of_mem_drop (mem_of_nameParts hmem hc))
    rw [foldName, String.toList_ofList, hmap, List.map_id]
  · cases hpart

/-! ## Options with variables of their own -/

/-- A value whose way goes on is put into the table under the first name; where a value stands there
already, it stays. -/
theorem place_below (k k' : String) (ks : List String) (v : String) (t : List (String × Setting)) :
    place (k :: k' :: ks) v t =
      match t.lookup k with
      | none => Assoc.set k (.table (place (k' :: ks) v [])) t
      | some (.table sub) => Assoc.set k (.table (place (k' :: ks) v sub)) t
      | some _ => t := rfl

/-- A value is put under the name that the way consists of. -/
theorem lookup_place_self (k v : String) (t : List (String × Setting)) :
    (place [k] v t).lookup k = some (.value (.str v)) := by
  rw [place, Assoc.lookup_set, if_pos rfl]

/-- Nothing is put under other names than the first of the way. -/
theorem lookup_place_of_ne {first : String} (h : k ≠ first) (rest : List String) (v : String)
    (t : List (String × Setting)) : (place (first :: rest) v t).lookup k = t.lookup k := by
  cases rest with
  | nil => rw [place, Assoc.lookup_set, if_neg h]
  | cons =>
    rw [place_below]
    split
    · rw [Assoc.lookup_set, if_neg h]
    · rw [Assoc.lookup_set, if_neg h]
    · rfl

/-- Under that name there is something then. -/
theorem isSome_lookup_place (k : String) (rest : List String) (v : String)
    (t : List (String × Setting)) : ((place (k :: rest) v t).lookup k).isSome = true := by
  cases rest with
  | nil => rw [lookup_place_self, Option.isSome_some]
  | cons =>
    rw [place_below]
    split
    · rw [Assoc.lookup_set, if_pos rfl, Option.isSome_some]
    · rw [Assoc.lookup_set, if_pos rfl, Option.isSome_some]
    next v _ h => rw [h, Option.isSome_some]

/-- A value that is there bars every longer way. -/
theorem lookup_place_of_value {ks : List String} {v : String} {x : Json} (hks : ks ≠ [k])
    (h : t.lookup k = some (.value x)) : (place ks v t).lookup k = some (.value x) := by
  match ks with
  | [] => exact h
  | first :: rest =>
    by_cases hk : k = first
    · subst hk
      cases rest with
      | nil => exact absurd rfl hks
      | cons => rwa [place_below, h]
    · rwa [lookup_place_of_ne hk]

/-- Putting a value under its way makes no key twice. -/
theorem nodup_place (ks : List String) (v : String) (h : (Assoc.keys t).Nodup) :
    (Assoc.keys (place ks v t)).Nodup := by
  match ks with
  | [] => exact h
  | [k] => exact Assoc.nodup_keys_set h k _
  | k :: _ :: _ =>
    rw [place_below]
    split
    · exact Assoc.nodup_keys_set h k _
    · exact Assoc.nodup_keys_set h k _
    · exact h

/-- The variables mention what their ways lead to. -/
theorem isSome_lookup_foldl (name k : String) (pairs : Environment)
    (t : List (String × Setting)) :
    ((pairs.foldl (fun t x => place (way name x.1) x.2 t) t).lookup k).isSome = true ↔
      (t.lookup k).isSome = true ∨ ∃ x ∈ pairs, (way name x.1).head? = some k := by
  induction pairs generalizing t with
  | nil => simp
  | cons x rest ih =>
    simp only [List.foldl_cons, ih, List.mem_cons, exists_eq_or_imp, ← or_assoc]
    refine or_congr_left ?_
    match way name x.1 with
    | [] => simp [place]
    | first :: more =>
      by_cases hk : k = first
      · subst hk
        simp [isSome_lookup_place]
      · simp [lookup_place_of_ne hk, Ne.symm hk]

/-- A value stays if no variable leads to it. -/
theorem lookup_foldl_of_value {pairs : Environment} {x : Json}
    (hways : ∀ y ∈ pairs, way name y.1 ≠ [k]) (h : t.lookup k = some (.value x)) :
    (pairs.foldl (fun t x => place (way name x.1) x.2 t) t).lookup k = some (.value x) := by
  induction pairs generalizing t with
  | nil => exact h
  | cons y rest ih =>
    obtain ⟨hy, hrest⟩ := List.forall_mem_cons.1 hways
    exact ih hrest (lookup_place_of_value hy h)

/-- The variable of an option decides it, wherever it stands among the variables. -/
theorem lookup_foldl_own {pairs : Environment} {own v : String}
    (hvariables : (Assoc.keys pairs).Nodup) (hown : way name own = [k])
    (h : pairs.lookup own = some v) (t : List (String × Setting)) :
    (pairs.foldl (fun t x => place (way name x.1) x.2 t) t).lookup k =
      some (.value (.str v)) := by
  induction pairs generalizing t with
  | nil => cases h
  | cons x rest ih =>
    obtain ⟨other, w⟩ := x
    obtain ⟨hnew, hrest⟩ := List.nodup_cons.1 hvariables
    rw [List.foldl_cons]
    rw [List.lookup_cons] at h
    split at h
    next heq =>
      obtain rfl := Option.some.inj h
      obtain rfl := beq_iff_eq.1 heq
      refine lookup_foldl_of_value (fun y hy hway => hnew ?_) ?_
      · have heq : y.1 = own := (eq_of_way hway).trans (eq_of_way hown).symm
        exact List.mem_map.2 ⟨y, hy, heq⟩
      · dsimp only
        rw [hown]
        exact lookup_place_self k _ t
    next => exact ih hrest h _

/-- The options that variables lead to have no key twice. -/
theorem nodup_sectionOptions (env : Environment) (name : String) :
    (Assoc.keys (env.sectionOptions name)).Nodup := by
  rw [sectionOptions_eq]
  generalize env.folded = pairs
  suffices h : ∀ t : List (String × Setting), (Assoc.keys t).Nodup →
      (Assoc.keys (pairs.foldl (fun t x => place (way name x.1) x.2 t) t)).Nodup from h [] .nil
  intro t ht
  induction pairs generalizing t with
  | nil => exact ht
  | cons x rest ih => exact ih _ (nodup_place _ _ ht)

/-- A section has the options to which or below which a variable leads. -/
theorem mem_sectionOptions : k ∈ Assoc.keys (env.sectionOptions name) ↔
    ∃ x ∈ env.folded, (way name x.1).head? = some k := by
  rw [← Assoc.isSome_lookup_iff, sectionOptions_eq, isSome_lookup_foldl]
  simp

/-- They are named in small letters. -/
theorem foldName_of_mem_sectionOptions (h : k ∈ Assoc.keys (env.sectionOptions name)) :
    foldName k = k := by
  obtain ⟨x, hx, hway⟩ := mem_sectionOptions.1 h
  exact foldName_of_mem_way (foldName_of_mem_folded hx) (List.mem_of_mem_head? hway)

end Environment

end Voicemail
