import Voicemail.Proofs.Installation.Reopen
import Voicemail.Proofs.Settings.Precedence

/-!
# The nearest configuration document

Where no document is named, it is the one in the deepest directory, among that where the search
starts and those above it, that has a document (`FileTree.IsNearest`). The places are tried from the
inside out, and a place that is too long for the system stops the search with a fault; since the
places get shorter on the way out, it is the first one that decides whether that happens
(`FileTree.isTooLong_below`). So the search finds what it should exactly for the starts whose
own place is not too long, and likewise a document that is named (`FileTree.finds_iff`).
-/

namespace Voicemail

/-- The place of a configuration document in the directory to which names lead from the root. -/
def Path.document (dir : List String) : Path := Path.join ⟨.root, dir⟩ Surroundings.configName

namespace FileTree

/-! ## What is among the files -/

section
variable (t : FileTree)

/-- Whether a path leads to a file. -/
def IsFile (d p : Path) : Prop := (t.find d p).2 = .file

/-- Whether the system refuses a path for its length, or for that of a name in it. -/
def IsTooLong (d p : Path) : Prop := (t.find d p).2 = .tooLong

instance (d p : Path) : Decidable (t.IsFile d p) :=
  inferInstanceAs (Decidable ((t.find d p).2 = .file))

/-- Whether a directory is there and has a configuration document. A directory with the name of a
document is none. -/
structure HasDocument (dir : List String) : Prop where
  directory : ∀ above, above <+: dir → t.isDirectory above = true
  file : Assoc.contains (dir ++ [Surroundings.configName]) t.files = true
  not_directory : t.isDirectory (dir ++ [Surroundings.configName]) = false

/-- The deepest directory with a document among one and those above it. -/
structure IsNearest (start dir : List String) : Prop where
  above : dir <+: start
  document : t.HasDocument dir
  deepest : ∀ other, other <+: start → t.HasDocument other → other <+: dir

end

variable {t : FileTree} {d : Path} {n : String} {here dir rest : List String}

/-! ## Walking -/

/-- A walk goes on in a directory. -/
theorem walk_directory (hn : n ≠ "..") (h : t.isDirectory (here ++ [n]) = true) :
    t.walk here (n :: rest) = t.walk (here ++ [n]) rest := by
  rw [walk, if_neg hn]
  exact if_pos h

/-- A walk ends where there is no directory. -/
theorem walk_no_directory (hn : n ≠ "..") (h : t.isDirectory (here ++ [n]) = false) :
    (t.walk here (n :: rest)).2 =
      if maxName < n.utf8ByteSize then .tooLong
      else if Assoc.contains (here ++ [n]) t.files = true then
        if rest.isEmpty = true then .file else .barred
      else .missing := by
  simp only [walk, if_neg hn, h, Bool.false_eq_true, if_false]
  split
  · rfl
  · split <;> rfl

/-- The directories on the way of a walk are its first one and those after it. -/
theorem above_cons_iff (here : List String) (n : String) (dir : List String)
    (hhere : t.isDirectory here = true) :
    (∀ above, above <+: n :: dir → t.isDirectory (here ++ above) = true) ↔
      t.isDirectory (here ++ [n]) = true ∧
        ∀ above, above <+: dir → t.isDirectory (here ++ [n] ++ above) = true := by
  constructor
  · intro h
    refine ⟨h [n] ((List.prefix_cons_inj n).2 List.nil_prefix), fun above habove => ?_⟩
    rw [← List.append_cons]
    exact h (n :: above) ((List.prefix_cons_inj n).2 habove)
  · rintro ⟨hfirst, hlater⟩ above habove
    obtain rfl | ⟨later, rfl, houter⟩ := List.prefix_cons_iff.1 habove
    · rwa [List.append_nil]
    · rw [List.append_cons]
      exact hlater later houter

/-- A walk ends at a file if all names but the last are those of directories, and the last is that
of a file. -/
theorem walk_file_iff (hn : n ≠ "..") (hsize : n.utf8ByteSize ≤ maxName) (hdir : ".." ∉ dir)
    (hhere : t.isDirectory here = true) :
    (t.walk here (dir ++ [n])).2 = .file ↔
      (∀ above, above <+: dir → t.isDirectory (here ++ above) = true) ∧
        Assoc.contains (here ++ (dir ++ [n])) t.files = true ∧
          t.isDirectory (here ++ (dir ++ [n])) = false := by
  induction dir generalizing here with
  | nil =>
    rw [List.nil_append]
    cases hnext : t.isDirectory (here ++ [n]) with
    | true =>
      rw [walk_directory hn hnext, walk]
      simp
    | false => simp [walk_no_directory hn hnext, Nat.not_lt.2 hsize, hhere]
  | cons m dir ih =>
    rw [List.mem_cons, not_or] at hdir
    rw [above_cons_iff here m dir hhere, List.cons_append,
      List.append_cons here m (dir ++ [n])]
    cases hnext : t.isDirectory (here ++ [m]) with
    | true =>
      rw [walk_directory (Ne.symm hdir.1) hnext, ih hdir.2 hnext, eq_self, true_and]
    | false =>
      have hrest : (dir ++ [n]).isEmpty = false := by simp
      rw [walk_no_directory (Ne.symm hdir.1) hnext, hrest]
      refine iff_of_false (fun h => ?_) (fun h => Bool.false_ne_true h.1.1)
      split at h
      · cases h
      · split at h <;> cases h

/-- A walk that meets a name that is too long does so also where it is to go on further. -/
theorem walk_tooLong_append {m : String} (hsize : n.utf8ByteSize ≤ maxName) (hn : n ≠ "..")
    (hdir : ".." ∉ dir) (more : List String) (h : (t.walk here (dir ++ [n])).2 = .tooLong) :
    (t.walk here (dir ++ more ++ [m])).2 = .tooLong := by
  induction dir generalizing here with
  | nil =>
    exfalso
    rw [List.nil_append] at h
    cases hnext : t.isDirectory (here ++ [n]) with
    | true =>
      rw [walk_directory hn hnext, walk] at h
      cases h
    | false =>
      rw [walk_no_directory hn hnext, if_neg (Nat.not_lt.2 hsize)] at h
      split at h <;> cases h
  | cons k dir ih =>
    rw [List.mem_cons, not_or] at hdir
    rw [List.cons_append] at h
    rw [List.cons_append, List.cons_append]
    cases hnext : t.isDirectory (here ++ [k]) with
    | true =>
      rw [walk_directory (Ne.symm hdir.1) hnext] at h ⊢
      exact ih hdir.2 h
    | false =>
      rw [walk_no_directory (Ne.symm hdir.1) hnext] at h ⊢
      split at h
      next hlong => rw [if_pos hlong]
      next =>
        split at h
        · simp at h
        · cases h

/-! ## Places of documents -/

/-- The text of the place of a document gets longer further down. -/
theorem document_text_le (dir more : List String) :
    (Path.document dir).text.utf8ByteSize ≤ (Path.document (dir ++ more)).text.utf8ByteSize := by
  have hsize (names : List String) : (Path.document names).text.utf8ByteSize =
      1 + ("/".intercalate (names ++ [Surroundings.configName])).utf8ByteSize :=
    String.utf8ByteSize_append
  rw [hsize, hsize]
  cases more with
  | nil => simp
  | cons first more =>
    have hne : first :: more ≠ [] := List.cons_ne_nil _ _
    have hlast : [Surroundings.configName] ≠ [] := List.cons_ne_nil _ _
    have happend := String.intercalate_append_of_ne_nil (s := "/") hne hlast
    by_cases hdir : dir = []
    · subst hdir
      rw [List.nil_append, List.nil_append, happend]
      simp only [String.utf8ByteSize_append, String.intercalate_singleton]
      omega
    · rw [List.append_assoc, String.intercalate_append_of_ne_nil hdir hlast,
        String.intercalate_append_of_ne_nil hdir (by simp), happend]
      simp only [String.utf8ByteSize_append, String.intercalate_singleton]
      omega

/-- Finding a document is a walk to it, unless its place is too long. -/
theorem find_document (d : Path) (dir : List String) :
    t.find d (.document dir) =
      if maxPath < (Path.document dir).text.utf8ByteSize then ([], .tooLong)
      else t.walk [] (dir ++ [Surroundings.configName]) := rfl

/-- If the place of a document in a directory is too long, so is that in every one below it. -/
theorem isTooLong_below (hdir : ".." ∉ rest) (h : dir <+: rest)
    (hlong : t.IsTooLong d (.document dir)) : t.IsTooLong d (.document rest) := by
  obtain ⟨more, rfl⟩ := h
  unfold IsTooLong at hlong ⊢
  rw [find_document] at hlong ⊢
  split at hlong
  next hsize => rw [if_pos (Nat.lt_of_lt_of_le hsize (document_text_le dir more))]
  next =>
    split
    · rfl
    · refine walk_tooLong_append (by decide) (by decide) (fun hmem => hdir ?_) more hlong
      exact List.mem_append_left more hmem

/-- Where its place is not too long, the document of a directory is a file at its place. -/
theorem isFile_document_iff (hdir : ".." ∉ dir) (hshort : ¬t.IsTooLong d (.document dir)) :
    t.IsFile d (.document dir) ↔ t.HasDocument dir := by
  unfold IsTooLong at hshort
  unfold IsFile
  rw [find_document] at hshort ⊢
  split at hshort
  · exact absurd rfl hshort
  next hsize =>
    rw [if_neg hsize, walk_file_iff (by decide) (by decide) hdir rfl]
    exact ⟨fun ⟨hdirectory, hfile, hnot⟩ => ⟨hdirectory, hfile, hnot⟩,
      fun h => ⟨h.directory, h.file, h.not_directory⟩⟩

/-! ## Looking for documents -/

variable {env : Environment} {p : Path}

/-- Looking for a file, by what is at its path. -/
theorem ifFile_eq (env : Environment) (d p : Path) :
    (t.surroundings d env).ifFile p =
      match (t.find d p).2 with
      | .file => .ok (some p)
      | .tooLong => .error (.badPath .nameTooLong p.text)
      | .directory | .missing | .barred => .ok none := by
  show ((t.look d p).mapError _).bind _ = _
  unfold look
  generalize t.find d p = found
  obtain ⟨names, kind⟩ := found
  cases kind with
  | file =>
    dsimp only
    split <;> rfl
  | directory | missing | barred | tooLong => rfl

/-- A path that is not too long is the result if it leads to a file. -/
theorem ifFile_of_not_tooLong (env : Environment) (hshort : ¬t.IsTooLong d p) :
    (t.surroundings d env).ifFile p = .ok (if t.IsFile d p then some p else none) := by
  rw [ifFile_eq]
  unfold IsTooLong at hshort
  cases hkind : (t.find d p).2 with
  | tooLong => exact absurd hkind hshort
  | file | directory | missing | barred => simp [IsFile, hkind]

/-- A path that is too long is a fault. -/
theorem ifFile_of_tooLong (env : Environment) (hlong : t.IsTooLong d p) :
    (t.surroundings d env).ifFile p = .error (.badPath .nameTooLong p.text) := by
  rw [ifFile_eq, hlong]

/-- Where the innermost directory has a document, it is the nearest one. -/
theorem isNearest_self (h : t.HasDocument rest) : t.IsNearest rest dir ↔ dir = rest := by
  constructor
  · intro hnearest
    exact hnearest.above.eq_of_length_le (hnearest.deepest rest (List.prefix_refl rest) h).length_le
  · rintro rfl
    exact ⟨List.prefix_refl dir, h, fun _ hother _ => hother⟩

/-- Where the innermost directory has none, a directory with a document is one above it. -/
theorem prefix_concat_iff_of_document (h : ¬t.HasDocument (rest ++ [n]))
    (hdocument : t.HasDocument dir) : dir <+: rest ++ [n] ↔ dir <+: rest := by
  rw [List.prefix_concat_iff]
  exact or_iff_right fun heq => h (heq ▸ hdocument)

/-- So the nearest document is then that of the directories above it. -/
theorem isNearest_concat (h : ¬t.HasDocument (rest ++ [n])) :
    t.IsNearest (rest ++ [n]) dir ↔ t.IsNearest rest dir := by
  constructor
  · intro hnearest
    exact ⟨(prefix_concat_iff_of_document h hnearest.document).1 hnearest.above, hnearest.document,
      fun other hother hdocument => hnearest.deepest other
        ((prefix_concat_iff_of_document h hdocument).2 hother) hdocument⟩
  · intro hnearest
    exact ⟨(prefix_concat_iff_of_document h hnearest.document).2 hnearest.above, hnearest.document,
      fun other hother hdocument => hnearest.deepest other
        ((prefix_concat_iff_of_document h hdocument).1 hother) hdocument⟩

/-- What a search among a directory and those above it is to give. -/
structure Finding (t : FileTree) (start : List String) (found : Option Path) : Prop where
  /-- A document that is found is the nearest one. -/
  nearest : ∀ p, found = some p ↔ ∃ dir, t.IsNearest start dir ∧ p = .document dir
  /-- None is found if there is none. -/
  none : found = none ↔ ∀ dir, dir <+: start → ¬t.HasDocument dir

/-- The document of the innermost directory is to be found if it has one. -/
theorem Finding.self (h : t.HasDocument rest) : Finding t rest (some (.document rest)) where
  nearest p := by
    simp only [isNearest_self h, Option.some.injEq, exists_eq_left]
    exact eq_comm
  none := iff_of_false nofun fun hnone => hnone rest (List.prefix_refl rest) h

/-- If it has none, what is to be found above it is to be found. -/
theorem Finding.concat {found : Option Path} (h : ¬t.HasDocument (rest ++ [n]))
    (hfinding : Finding t rest found) : Finding t (rest ++ [n]) found where
  nearest p := by simp only [isNearest_concat h, hfinding.nearest]
  none := by
    rw [hfinding.none]
    constructor
    · intro hnone dir hdir hdocument
      exact hnone dir ((prefix_concat_iff_of_document h hdocument).1 hdir) hdocument
    · intro hnone dir hdir hdocument
      exact hnone dir ((prefix_concat_iff_of_document h hdocument).2 hdir) hdocument

/-- In the root there is nothing else to be found. -/
theorem Finding.root (h : ¬t.HasDocument []) : Finding t [] Option.none where
  nearest p := by
    refine iff_of_false nofun ?_
    rintro ⟨dir, hnearest, -⟩
    obtain rfl := List.prefix_nil.1 hnearest.above
    exact h hnearest.document
  none := by
    refine iff_of_true rfl fun dir hdir => ?_
    rwa [List.prefix_nil.1 hdir]

/-- What the search sees in one directory. -/
theorem here_eq (env : Environment) {inner : List String} (hdir : ".." ∉ inner.reverse)
    (hshort : ¬t.IsTooLong d (.document inner.reverse)) :
    (t.HasDocument inner.reverse ∧ Surroundings.nearest.here (t.surroundings d env) inner =
        .ok (some (.document inner.reverse))) ∨
      ¬t.HasDocument inner.reverse ∧
        Surroundings.nearest.here (t.surroundings d env) inner = .ok none := by
  have hone : Surroundings.nearest.here (t.surroundings d env) inner =
      .ok (if t.IsFile d (.document inner.reverse) then some (.document inner.reverse) else none) :=
    ifFile_of_not_tooLong env hshort
  by_cases hfile : t.IsFile d (.document inner.reverse)
  · rw [if_pos hfile] at hone
    exact .inl ⟨(isFile_document_iff hdir hshort).1 hfile, hone⟩
  · rw [if_neg hfile] at hone
    exact .inr ⟨fun h => hfile ((isFile_document_iff hdir hshort).2 h), hone⟩

/-- The search from a directory finds what is to be found, unless the place of a document in that
directory is too long. -/
theorem nearest_finding (env : Environment) (inner : List String) (hdir : ".." ∉ inner.reverse)
    (hshort : ¬t.IsTooLong d (.document inner.reverse)) :
    ∃ found, (t.surroundings d env).nearest inner = .ok found ∧
      Finding t inner.reverse found := by
  induction inner with
  | nil =>
    obtain ⟨hhere, hone⟩ | ⟨hhere, hone⟩ := here_eq env hdir hshort
    · exact ⟨_, hone, .self hhere⟩
    · exact ⟨_, hone, .root hhere⟩
  | cons n outer ih =>
    have houter : outer.reverse <+: (n :: outer).reverse := ⟨[n], List.reverse_cons.symm⟩
    obtain ⟨found, hnearest, hfinding⟩ := ih (fun hmem => hdir (houter.subset hmem))
      fun hlong => hshort (isTooLong_below hdir houter hlong)
    unfold Surroundings.nearest
    obtain ⟨hhere, hone⟩ | ⟨hhere, hone⟩ := here_eq env hdir hshort <;> rw [hone]
    · exact ⟨_, rfl, .self hhere⟩
    · rw [List.reverse_cons] at hhere ⊢
      exact ⟨found, hnearest, .concat hhere hfinding⟩

/-- A place that is too long stops the search. -/
theorem nearest_of_tooLong (env : Environment) (inner : List String)
    (hlong : t.IsTooLong d (.document inner.reverse)) :
    ∃ e, (t.surroundings d env).nearest inner = .error e := by
  have hone : Surroundings.nearest.here (t.surroundings d env) inner = _ :=
    ifFile_of_tooLong env hlong
  cases inner with
  | nil => exact ⟨_, hone⟩
  | cons n outer =>
    unfold Surroundings.nearest
    rw [hone]
    exact ⟨_, rfl⟩

/-! ## Discovery -/

/-- The environment names a document: the variable for it is set, and not empty. -/
def Names (env : Environment) (v : String) : Prop :=
  (Assoc.ofPairs env).lookup Surroundings.configVariable = some v ∧ v ≠ ""

/-- The directory from which documents are searched. -/
def startOf (d : Path) (start : Option Path) : List String :=
  (d.under (start.getD d)).resolve.names

/-- The document is discovered that is to be: the one that the environment names if it is a file,
and else none; or if it names none, the nearest one. -/
structure Finds (t : FileTree) (d : Path) (env : Environment) (start : Option Path) : Prop where
  named : ∀ v, Names env v → (t.surroundings d env).findConfig start =
    .ok (if t.IsFile d (.ofString v) then some (.ofString v) else none)
  walked : (∀ v, ¬Names env v) → ∃ found, (t.surroundings d env).findConfig start = .ok found ∧
    Finding t (startOf d start) found

/-- A discovery that the system does not refuse: the path that the environment names is not too
long; or if it names none, the start is a path and its own place of a document is not too long. -/
structure IsClear (t : FileTree) (d : Path) (env : Environment) (start : Option Path) : Prop where
  named : ∀ v, Names env v → ¬t.IsTooLong d (.ofString v)
  walked : (∀ v, ¬Names env v) → (d.under (start.getD d)).hasNull = false ∧
    ¬t.IsTooLong d (.document (startOf d start))

/-- The document with which settings are loaded is the one that is to be: the one that is given if
it is a file, and else none, whatever the environment and the directories have; or if none is given,
the one that is discovered. -/
structure Loads (t : FileTree) (d : Path) (env : Environment) (given : Option String)
    (root : Option Path) : Prop where
  explicit : ∀ n, given = some n → n ≠ "" → (t.surroundings d env).config given root =
    .ok (if t.IsFile d (.ofString n) then some (.ofString n) else none)
  discovered : (∀ n, given = some n → n = "") →
    (t.surroundings d env).config given root = (t.surroundings d env).findConfig root
  loaded : ∀ arguments settings,
    Settings.load (t.surroundings d env) given root arguments = .ok settings →
      (t.surroundings d env).config given root = .ok settings.configPath

/-- What is looked up is what the environment names. -/
theorem lookup?_eq_some_iff (t : FileTree) (d : Path) (env : Environment) (v : String) :
    (t.surroundings d env).lookup? Surroundings.configVariable = some v ↔ Names env v := by
  unfold Surroundings.lookup? Names
  rw [Option.filter_eq_some_iff]
  simp [surroundings]

/-- A named document is looked for, and no other. -/
theorem findConfig_named {v : String} (h : Names env v) (start : Option Path) :
    (t.surroundings d env).findConfig start = (t.surroundings d env).ifFile (.ofString v) := by
  unfold Surroundings.findConfig
  rw [(lookup?_eq_some_iff t d env v).2 h]

/-- Without a named document there is a search. -/
theorem findConfig_walked (h : ∀ v, ¬Names env v) (start : Option Path) :
    (t.surroundings d env).findConfig start =
      if (d.under (start.getD d)).hasNull then .error .nullInPath
      else (t.surroundings d env).nearest (startOf d start).reverse := by
  have hnone : (t.surroundings d env).lookup? Surroundings.configVariable = none := by
    rw [Option.eq_none_iff_forall_ne_some]
    exact fun v hv => h v ((lookup?_eq_some_iff t d env v).1 hv)
  unfold Surroundings.findConfig
  rw [hnone]
  rfl

/-- A path is the result of looking for it if it is not too long, and else there is none. -/
theorem ifFile_iff (t : FileTree) (d : Path) (env : Environment) (p : Path) :
    (t.surroundings d env).ifFile p = .ok (if t.IsFile d p then some p else none) ↔
      ¬t.IsTooLong d p := by
  refine ⟨fun h hlong => ?_, ifFile_of_not_tooLong env⟩
  rw [ifFile_of_tooLong env hlong] at h
  cases h

/-- Documents are discovered as they are to be exactly where the system refuses nothing. -/
theorem finds_iff_isClear (t : FileTree) (d : Path) (env : Environment) (start : Option Path) :
    Finds t d env start ↔ IsClear t d env start := by
  have hdots : ".." ∉ startOf d start := Path.not_mem_resolveNames _
  constructor
  · intro h
    refine ⟨fun v hv => ?_, fun hv => ?_⟩
    · rw [← ifFile_iff t d env, ← findConfig_named hv start]
      exact h.named v hv
    · obtain ⟨found, hfound, -⟩ := h.walked hv
      rw [findConfig_walked hv] at hfound
      split at hfound
      · cases hfound
      next hnull =>
        refine ⟨Bool.eq_false_iff.2 hnull, fun hlong => ?_⟩
        obtain ⟨e, herror⟩ := nearest_of_tooLong env (startOf d start).reverse
          (by rwa [List.reverse_reverse])
        cases herror.symm.trans hfound
  · intro h
    refine ⟨fun v hv => ?_, fun hv => ?_⟩
    · rw [findConfig_named hv start]
      exact ifFile_of_not_tooLong env (h.named v hv)
    · obtain ⟨hnull, hshort⟩ := h.walked hv
      have hfinding := nearest_finding env (startOf d start).reverse (d := d) (t := t)
      rw [List.reverse_reverse] at hfinding
      rw [findConfig_walked hv, hnull]
      exact hfinding hdots hshort

/-- Settings are loaded with the document that is to be exactly where the path that is given is not
too long. -/
theorem loads_iff (t : FileTree) (d : Path) (env : Environment) (given : Option String)
    (root : Option Path) :
    Loads t d env given root ↔ ∀ n, given = some n → n ≠ "" → ¬t.IsTooLong d (.ofString n) := by
  have hgiven {n : String} (hn : given = some n) (hne : n ≠ "") :
      (t.surroundings d env).config given root =
        (t.surroundings d env).ifFile (.ofString n) := by
    subst hn
    have hfilter : (some n).filter (fun n => !n.isEmpty) = some n := by simp [hne]
    unfold Surroundings.config
    rw [hfilter]
  constructor
  · intro h n hn hne
    rw [← ifFile_iff t d env, ← hgiven hn hne]
    exact h.explicit n hn hne
  · intro h
    refine ⟨fun n hn hne => ?_, fun hempty => ?_, fun arguments settings hload => ?_⟩
    · rw [hgiven hn hne]
      exact ifFile_of_not_tooLong env (h n hn hne)
    · cases given with
      | none => rfl
      | some n =>
        obtain rfl := hempty n rfl
        rfl
    · obtain ⟨_, _, config, _, hconfig, -, -, hread⟩ := Settings.load_eq hload
      obtain ⟨-, rfl⟩ := Reading.ofIssues_ok hread
      exact hconfig

/-- The document that is to be is discovered, and settings are loaded with it, exactly where the
system refuses no path for its length. -/
theorem finds_iff (t : FileTree) (d : Path) (env : Environment) :
    (∀ start, Finds t d env start ↔ IsClear t d env start) ∧
      ∀ given root, Loads t d env given root ↔
        ∀ n, given = some n → n ≠ "" → ¬t.IsTooLong d (.ofString n) :=
  ⟨finds_iff_isClear t d env, loads_iff t d env⟩

/-- A directory with the name of a document is passed over, and so is a document further out. -/
example :
    ((⟨[(["vvmprov.toml"], .bytes []), (["a", "vvmprov.toml"], .bytes [])],
      [["a"], ["a", "b"], ["a", "b", "vvmprov.toml"]]⟩ : FileTree).surroundings
        ⟨.root, ["a", "b"]⟩ []).findConfig none = .ok (some (.document ["a"])) := by
  cbv

/-- A text of letters `a` is a path of one name. -/
theorem ofString_replicate (k : Nat) :
    Path.ofString (String.ofList (List.replicate (k + 1) 'a')) =
      ⟨.relative, [String.ofList (List.replicate (k + 1) 'a')]⟩ := by
  have hparts : Path.parts (List.replicate (k + 1) 'a') = [List.replicate (k + 1) 'a'] := by
    induction k with
    | zero => rfl
    | succ k ih =>
      rw [List.replicate_succ, Path.parts, ih]
      nofun
  unfold Path.ofString
  rw [String.toList_ofList, hparts]
  rfl

/-- A name one byte longer than a name may be. -/
def longName : String := String.ofList (List.replicate 256 'a')

/-- A document is not absent but a fault if the environment names it so, without any file. -/
theorem not_finds_longName :
    ¬Finds ⟨[], []⟩ ⟨.root, []⟩ [(Surroundings.configVariable, longName)] none := by
  intro h
  have hnames : Names [(Surroundings.configVariable, longName)] longName :=
    ⟨rfl, by decide +kernel⟩
  have hlong : IsTooLong ⟨[], []⟩ ⟨.root, []⟩ (.ofString longName) := by
    have hpath : Path.ofString longName = ⟨.relative, [longName]⟩ := ofString_replicate 255
    rw [hpath]
    unfold IsTooLong
    decide +kernel
  have hfound := h.named longName hnames
  rw [findConfig_named hnames, ifFile_of_tooLong _ hlong] at hfound
  cases hfound

end FileTree

end Voicemail
