import Mathlib.Data.List.Basic
import Voicemail.FileTree
import Voicemail.Proofs.Assoc

/-!
# Reading a store back

A store that is kept in a file is found there again: making the directories above it touches no
file, and a place without double dots is walked to the very names under which the store was kept.
So whatever opening a store gives, it is what the files hold at its place (`openStore_ok`), and what
was kept there last is read (`storeIn_keep`).
-/

namespace Voicemail

/-! ## Places -/

/-- An absolute path without double dots. -/
structure Path.IsResolved (p : Path) : Prop where
  anchor : p.anchor ≠ .relative
  names : ".." ∉ p.names

/-- Undoing the double dots leaves none. -/
theorem Path.not_mem_resolveNames (names : List String) : ".." ∉ Path.resolveNames names := by
  have hfold : ∀ seen : List String, ".." ∉ seen →
      ".." ∉ names.foldl (fun seen n => if n = ".." then seen.tail else n :: seen) seen := by
    induction names with
    | nil => exact fun _ h => h
    | cons n rest ih =>
      intro seen h
      rw [List.foldl_cons]
      by_cases hn : n = ".."
      · rw [if_pos hn]
        exact ih _ fun hmem => h (List.mem_of_mem_tail hmem)
      · rw [if_neg hn]
        exact ih _ (by simp [Ne.symm hn, h])
  rw [Path.resolveNames, List.mem_reverse]
  exact hfold [] (by simp)

/-- From an absolute directory a store's file has an absolute place without double dots. -/
theorem Store.Place.isResolved_of_ofPath {directory p q : Path} (hd : directory.anchor ≠ .relative)
    (h : Store.Place.ofPath directory p = .file q) : q.IsResolved := by
  simp only [Store.Place.ofPath] at h
  split at h
  · cases h
  · cases h
    refine ⟨?_, Path.not_mem_resolveNames _⟩
    generalize Path.ofString (Store.Place.namePart p) = r
    obtain ⟨anchor, names⟩ := r
    cases anchor with
    | relative => exact hd
    | root | doubleRoot => simp [Path.resolve, Path.under]

namespace FileTree

variable {t t' : FileTree} {here found names : List String} {p q directory : Path}

/-! ## Walking -/

/-- A walk that ends at a file has taken every name. -/
theorem walk_file (hn : ".." ∉ names) (h : t.walk here names = (found, .file)) :
    found = here ++ names := by
  induction names generalizing here with
  | nil => cases h
  | cons n rest ih =>
    obtain ⟨hne, hrest⟩ := not_or.1 (mt List.mem_cons.2 hn)
    simp only [walk, Ne.symm hne, if_false] at h
    split at h
    · rw [ih hrest h, List.append_assoc, List.singleton_append]
    · split at h
      · cases h
      · split at h
        · cases rest with
          | nil => cases h; rfl
          | cons => cases h
        · cases h

/-- A walk that fails at its last name has taken every name, and no file has the name. -/
theorem walk_missing {n : String} (hn : ".." ∉ names ++ [n])
    (hd : (t.walk here names).2 = .directory) (h : t.walk here (names ++ [n]) = (found, .missing)) :
    found = here ++ (names ++ [n]) ∧ Assoc.contains found t.files = false := by
  induction names generalizing here with
  | nil =>
    have hne : n ≠ ".." := fun he => hn (by simp [he])
    simp only [List.nil_append, walk, hne, if_false, List.isEmpty_nil, if_true] at h
    split at h
    · cases h
    · split at h
      · cases h
      · split at h
        · cases h
        · rename_i hfree
          cases h
          exact ⟨rfl, by simpa using hfree⟩
  | cons m rest ih =>
    obtain ⟨hne, hrest⟩ := not_or.1 (mt List.mem_cons.2 hn)
    simp only [List.cons_append, walk, Ne.symm hne, if_false] at h hd
    split at hd
    · rename_i hdir
      rw [if_pos hdir] at h
      obtain ⟨rfl, hfree⟩ := ih hrest hd h
      exact ⟨by simp, hfree⟩
    · split at hd
      · cases hd
      · split at hd
        · cases rest <;> cases hd
        · cases hd

/-- An absolute path is walked from the root, wherever it is read. -/
theorem find_absolute (hp : p.anchor ≠ .relative) {kind : Kind} (hk : kind ≠ .tooLong)
    (h : t.find directory p = (found, kind)) : t.walk [] p.names = (found, kind) := by
  have hunder : directory.under p = p := by
    cases hanchor : p.anchor with
    | relative => exact absurd hanchor hp
    | root | doubleRoot => simp [Path.under, hanchor]
  rw [find, hunder] at h
  split at h
  · cases h
    exact absurd rfl hk
  · exact h

/-! ## What is kept in a file -/

/-- The store among the files at a place; a new one if there is none. -/
def storeIn (t : FileTree) (names : List String) : Store :=
  match t.files.lookup names with
  | some (.store s) => s
  | _ => .empty

/-- A store that is kept is what the files hold at its place. -/
theorem storeIn_keep (t : FileTree) (s : Store) (p : Path) :
    (t.keep s (.file p)).storeIn p.names = s := by
  simp [storeIn, keep, Assoc.lookup_set]

/-- What is read at a place is the store among the files. -/
theorem storeAt_ok {s : Store} (hp : p.IsResolved) (h : t.storeAt p = .ok s) :
    s = t.storeIn p.names := by
  simp only [storeAt] at h
  split at h
  · cases h
  match hf : t.find p p with
  | (names, .file) =>
    have hnames := walk_file hp.names (find_absolute hp.anchor (by decide) hf)
    rw [List.nil_append] at hnames
    subst hnames
    simp only [hf] at h
    unfold storeIn
    split at h
    · cases h; simp [*]
    · cases h; simp [*]
    · cases h
  | (names, .missing) =>
    simp only [hf] at h
    split at h
    · rename_i hd
      cases h
      have hwalk := find_absolute hp.anchor (by decide) hf
      obtain hnil | ⟨init, n, hsnoc⟩ := p.names.eq_nil_or_concat'
      · rw [hnil] at hwalk
        cases hwalk
      · have hparent : (t.walk [] init).2 = .directory := by
          match hg : t.find p p.parent with
          | (above, kind) =>
            rw [hg] at hd
            subst hd
            have := find_absolute (p := p.parent) hp.anchor (by decide) hg
            rw [show p.parent.names = init by simp [Path.parent, hsnoc]] at this
            rw [this]
        rw [hsnoc] at hwalk
        obtain ⟨rfl, hfree⟩ := walk_missing (hsnoc ▸ hp.names) hparent hwalk
        rw [List.nil_append] at hfree
        simp only [storeIn, hsnoc, Assoc.lookup_of_not_contains hfree]
    · cases h
  | (names, .directory) | (names, .barred) | (names, .tooLong) =>
    simp only [hf] at h
    cases h

/-! ## Making directories -/

/-- Making a directory touches no file. -/
theorem makeDirectory_files (h : t.makeDirectory directory p = .ok t') : t'.files = t.files := by
  unfold makeDirectory at h
  split at h
  · cases h; rfl
  · cases h
  · cases h
  · cases h
  · split at h
    · cases h; rfl
    · cases h

/-- Making a directory and those above it touches no file, also where one cannot be made. -/
theorem makeDirectories_files (n : Nat) (t : FileTree) (directory p : Path) :
    (makeDirectories n t directory p).1.files = t.files := by
  induction n generalizing p with
  | zero => rfl
  | succ n ih =>
    have habove := ih p.parent
    unfold makeDirectories
    split
    · rename_i hmade
      exact makeDirectory_files hmade
    · split
      · rename_i hparents
        rwa [hparents] at habove
      · rename_i hparents
        rw [hparents] at habove
        split
        · rename_i hmade
          exact (makeDirectory_files hmade).trans habove
        · exact habove
        · exact habove
    · rfl

/-! ## Opening -/

/-- A store that is opened is what the files hold at its place. -/
theorem openStore_ok {o : OpenStore} (hp : p.IsResolved)
    (hplace : Store.Place.ofPath directory q = .file p)
    (h : t.openStore directory q = (t', .ok o)) :
    o.place = .file p ∧ o.store = t.storeIn p.names := by
  have hfiles := makeDirectories_files (q.names.length + 1) t directory q.parent
  simp only [openStore, hplace] at h
  split at h
  · cases h
  · split at h
    · cases h
    · rename_i u hmade
      rw [hmade] at hfiles
      split at h
      · cases h
      · rename_i s hs
        cases h
        refine ⟨rfl, ?_⟩
        rw [storeAt_ok hp hs, storeIn, hfiles]
        rfl

end FileTree

end Voicemail
