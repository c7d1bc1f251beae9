import BulkIngest.Storage.Files

/-!
What happens to other paths when a file is put in its place. A path is followed through directories
only, so a file that is new or has new content is in the way of no path that led somewhere before,
and every path but its own leads to what it led to.
-/

namespace BulkIngest.Files

open FilePath (canonical name walk isAbsolute parts namesDirectory isTooLong fault?)

variable {files : Files} {path other : String} {node found : FileNode} {absolute : Bool}
  {taken reached : List String}

private theorem lookup_filter_ne {entries : List (String × FileNode)} {key hidden : String}
    (different : key ≠ hidden) :
    (entries.filter (·.1 ≠ hidden)).lookup key = entries.lookup key := by
  induction entries with
  | nil => rfl
  | cons entry rest ih =>
      by_cases here : entry.1 = hidden
      · rw [List.filter_cons_of_neg (by simpa using here), ih, List.lookup_cons,
          beq_eq_false_iff_ne.mpr (here ▸ different)]
      · rw [List.filter_cons_of_pos (by simpa using here), List.lookup_cons, List.lookup_cons, ih]

theorem named?_put_of_ne {key : String} (different : key ≠ canonical path) :
    (files.put path node).named? key = files.named? key := by
  simp only [named?, put, List.lookup_cons, beq_eq_false_iff_ne.mpr different,
    lookup_filter_ne different]

/-- A name that is not that of a directory, and so not one of those upward. -/
theorem named?_put_self (free : files.named? (canonical path) ≠ some .directory) :
    (files.put path node).named? (canonical path) = some node := by
  simp only [named?] at free
  simp only [named?, put, List.lookup_cons_self]
  split at free
  · contradiction
  · rename_i below
    rw [if_neg below]

theorem enter_put {step : String} (free : files.named? (canonical path) ≠ some .directory)
    (entered : files.enter absolute taken step = .ok reached) :
    (files.put path node).enter absolute taken step = .ok reached := by
  simp only [enter] at entered ⊢
  split at entered
  · rename_i directory
    have elsewhere : name absolute taken.reverse ≠ canonical path := fun same =>
      free (same ▸ directory)
    rw [named?_put_of_ne elsewhere, directory]
    split at entered
    · contradiction
    · rename_i short
      simp only [if_neg short]
      split at entered
      · rename_i there
        rw [if_pos ?_]
        · exact entered
        · by_cases same : name absolute (walk absolute taken step).reverse = canonical path
          · rw [same, named?_put_self free]
            rfl
          · rw [named?_put_of_ne same]
            exact there
      · contradiction
  · contradiction
  · contradiction

theorem enters_put {steps : List String} (free : files.named? (canonical path) ≠ some .directory)
    (entered : steps.foldlM (files.enter absolute) taken = .ok reached) :
    steps.foldlM ((files.put path node).enter absolute) taken = .ok reached := by
  induction steps generalizing taken with
  | nil => exact entered
  | cons step steps ih =>
      rw [List.foldlM_cons] at entered ⊢
      cases next : files.enter absolute taken step with
      | error fault =>
          rw [next] at entered
          contradiction
      | ok following =>
          rw [next] at entered
          rw [enter_put free next]
          exact ih entered

/-- Where steps lead does not depend on the files. -/
theorem eq_walk_of_enter {step : String} (entered : files.enter absolute taken step = .ok reached) :
    reached = walk absolute taken step := by
  simp only [enter] at entered
  split at entered
  · split at entered
    · contradiction
    · split at entered
      · exact (Except.ok.inj entered).symm
      · contradiction
  · contradiction
  · contradiction

theorem eq_foldl_walk_of_enters {steps : List String}
    (entered : steps.foldlM (files.enter absolute) taken = .ok reached) :
    reached = steps.foldl (walk absolute) taken := by
  induction steps generalizing taken with
  | nil => exact (Except.ok.inj entered).symm
  | cons step steps ih =>
      rw [List.foldlM_cons] at entered
      cases next : files.enter absolute taken step with
      | error fault =>
          rw [next] at entered
          contradiction
      | ok following =>
          rw [next] at entered
          rw [List.foldl_cons, ← eq_walk_of_enter next]
          exact ih entered

theorem follow_eq_ok_iff {steps : List String} :
    files.follow absolute steps = .ok found ↔ ∃ reached,
      steps.foldlM (files.enter absolute) [] = .ok reached ∧
        files.named? (name absolute reached.reverse) = some found := by
  simp only [follow]
  cases entered : steps.foldlM (files.enter absolute) [] with
  | error fault =>
      exact ⟨fun h => by contradiction, fun ⟨_, h, _⟩ => by contradiction⟩
  | ok reached =>
      cases named : files.named? (name absolute reached.reverse) with
      | none => simp [named, bind, Except.bind]
      | some node => simp [named, bind, Except.bind]

theorem follow_concat {before : List String} {last : String}
    (entered : before.foldlM (files.enter absolute) [] = .ok taken)
    (directory : files.named? (name absolute taken.reverse) = some .directory) :
    files.follow absolute (before ++ [last]) =
      if isTooLong last then .error .nameTooLong
      else
        match files.named? (name absolute (walk absolute taken last).reverse) with
        | some node => .ok node
        | none => .error .notFound := by
  have whole : (before ++ [last]).foldlM (files.enter absolute) [] =
    files.enter absolute taken last := by
    rw [List.foldlM_append, entered]
    exact bind_pure (files.enter absolute taken last)
  simp only [follow, whole, enter, directory]
  split
  · rfl
  · cases named : files.named? (name absolute (walk absolute taken last).reverse) with
    | none => rfl
    | some node =>
        simp only [Option.isSome_some, if_true]
        change (match files.named? _ with | some node => _ | none => _) = _
        rw [named]

/-- A path leads to what it led to before something was put elsewhere. -/
theorem find_put_of_ne (free : files.named? (canonical path) ≠ some .directory)
    (different : canonical other ≠ canonical path) (led : files.find other = .ok found) :
    (files.put path node).find other = .ok found := by
  simp only [find] at led ⊢
  split at led
  · contradiction
  · cases followed : files.follow (isAbsolute other) (parts other) with
    | error fault =>
        rw [followed] at led
        contradiction
    | ok node' =>
        rw [followed] at led
        obtain ⟨reached, entered, named⟩ := follow_eq_ok_iff.mp followed
        have here : name (isAbsolute other) reached.reverse = canonical other := by
          rw [eq_foldl_walk_of_enters entered]
          rfl
        have still : (files.put path node).follow (isAbsolute other) (parts other) = .ok node' := by
          refine follow_eq_ok_iff.mpr ⟨reached, enters_put free entered, ?_⟩
          rw [here, named?_put_of_ne different, ← here, named]
        rw [still]
        exact led

theorem read_put_of_ne (free : files.named? (canonical path) ≠ some .directory)
    (different : canonical other ≠ canonical path) (led : files.find other = .ok found) :
    (files.put path node).read other = files.read other := by
  simp only [read, find_put_of_ne free different led, led]

/-- A place where a file is, or may be made: `last` in the directory to which the steps before it
lead. -/
structure Place (files : Files) (path : String) (before : List String) (last : String)
    (taken : List String) : Prop where
  sound : fault? path = none
  parts : parts path = before ++ [last]
  plain : namesDirectory path = false
  reached : before.foldlM (files.enter (isAbsolute path)) [] = .ok taken
  directory : files.named? (name (isAbsolute path) taken.reverse) = some .directory
  short : isTooLong last = false
  next : walk (isAbsolute path) taken last = last :: taken
  free : files.named? (canonical path) ≠ some .directory

variable {before : List String} {last : String}

theorem Place.canonical_eq (h : Place files path before last taken) :
    canonical path = name (isAbsolute path) (last :: taken).reverse := by
  rw [canonical, FilePath.steps, h.parts, List.foldl_append, ← eq_foldl_walk_of_enters h.reached,
    List.foldl_cons, List.foldl_nil, h.next]

theorem Place.directory_put (h : Place files path before last taken) :
    (files.put path node).named? (name (isAbsolute path) taken.reverse) = some .directory := by
  rw [named?_put_of_ne fun same => h.free (same ▸ h.directory)]
  exact h.directory

theorem Place.put (h : Place files path before last taken) (file : node ≠ .directory) :
    Place (files.put path node) path before last taken := by
  refine ⟨h.sound, h.parts, h.plain, enters_put h.free h.reached, h.directory_put, h.short,
    h.next, ?_⟩
  rw [named?_put_self h.free]
  simpa using file

/-- A file that was put in its place is found there. -/
theorem Place.read_put (h : Place files path before last taken) (content : Bytes) :
    (files.put path (.file content)).read path = .ok content := by
  have named : (files.put path (.file content)).named?
      (name (isAbsolute path) (walk (isAbsolute path) taken last).reverse) =
      some (.file content) := by
    rw [h.next, ← h.canonical_eq, named?_put_self h.free]
  have followed : (files.put path (.file content)).follow (isAbsolute path) (FilePath.parts path) =
      .ok (.file content) := by
    rw [h.parts, follow_concat (enters_put h.free h.reached) h.directory_put, h.short, named]
    rfl
  simp only [read, find, h.sound, followed, h.plain]
  rfl

theorem walk_eq_cons {step : String} (named : step ≠ "") (here : step ≠ ".") (up : step ≠ "..") :
    walk absolute taken step = step :: taken := by
  change (if step = "" ∨ step = "." then taken else if step = ".." then _ else step :: taken) = _
  rw [if_neg (not_or.mpr ⟨named, here⟩), if_neg up]

theorem directory_of_findOrMakeIn {before : List String} {last : String} {initial : Bytes}
    (made : files.findOrMakeIn path last before = .ok (.file initial)) :
    ∃ taken, before.foldlM (files.enter (isAbsolute path)) [] = .ok taken ∧
      files.named? (name (isAbsolute path) taken.reverse) = some .directory ∧
      ¬(last = "." ∨ last = ".." ∨ namesDirectory path = true) ∧
      (match files.follow (isAbsolute path) (before ++ [last]) with
        | .ok .directory => .error .isADirectory
        | .error .notFound => .ok (.file [])
        | result => result) = Except.ok (FileNode.file initial) := by
  simp only [findOrMakeIn] at made
  cases followed : files.follow (isAbsolute path) before with
  | error fault =>
      rw [followed] at made
      contradiction
  | ok node =>
      obtain ⟨taken, reached, named⟩ := follow_eq_ok_iff.mp followed
      rw [followed] at made
      cases node with
      | file _ | fullDevice | nullDevice => contradiction
      | directory =>
          simp only [bind, Except.bind] at made
          split at made
          · contradiction
          · rename_i plain
            exact ⟨taken, reached, named, plain, made⟩

/-- Where a file may be made there is its place. -/
theorem place_of_findOrMake {initial : Bytes} (made : files.findOrMake path = .ok (.file initial)) :
    ∃ before last taken, Place files path before last taken := by
  simp only [findOrMake] at made
  split at made
  · contradiction
  · contradiction
  · rename_i last before sound ends
    have parts : parts path = before.reverse ++ [last] := by
      rw [← List.reverse_reverse (FilePath.parts path), ends, List.reverse_cons]
    have named : last ≠ "" := by
      have mem : last ∈ FilePath.parts path := by
        rw [parts]
        exact List.mem_append_right _ (List.mem_singleton_self last)
      simpa using (List.mem_filter.mp mem).2
    obtain ⟨taken, reached, directory, plain, made⟩ := directory_of_findOrMakeIn made
    simp only [not_or, Bool.not_eq_true] at plain
    have next : walk (isAbsolute path) taken last = last :: taken :=
      walk_eq_cons named plain.1 plain.2.1
    have here : canonical path = name (isAbsolute path) (last :: taken).reverse := by
      rw [canonical, FilePath.steps, parts, List.foldl_append, ← eq_foldl_walk_of_enters reached,
        List.foldl_cons, List.foldl_nil, next]
    rw [follow_concat reached directory, next, ← here] at made
    have short : isTooLong last = false := by
      cases long : isTooLong last with
      | false => rfl
      | true =>
          rw [long, if_pos rfl] at made
          contradiction
    refine ⟨before.reverse, last, taken, sound, parts, plain.2.2, reached, directory, short,
      next, ?_⟩
    intro occupied
    rw [short, occupied] at made
    contradiction

/-- What may be opened for writing is there, or it is not and a new file is made. -/
theorem find_or_made (made : files.findOrMake path = .ok node) :
    node ≠ .directory ∧
      (files.find path = .ok node ∨ files.find path = .error .notFound ∧ node = .file []) := by
  simp only [findOrMake] at made
  split at made
  · contradiction
  · contradiction
  · rename_i last before sound ends
    have parts : parts path = before.reverse ++ [last] := by
      rw [← List.reverse_reverse (FilePath.parts path), ends, List.reverse_cons]
    simp only [findOrMakeIn] at made
    cases followed : files.follow (isAbsolute path) before.reverse with
    | error fault =>
        rw [followed] at made
        contradiction
    | ok above =>
        rw [followed] at made
        cases above with
        | file _ | fullDevice | nullDevice => contradiction
        | directory =>
            simp only [bind, Except.bind] at made
            split at made
            · contradiction
            · rename_i plain
              simp only [not_or, Bool.not_eq_true] at plain
              simp only [find, sound, parts, plain.2.2, bind, Except.bind]
              split at made
              · contradiction
              · rename_i missing
                rw [missing]
                obtain rfl := Except.ok.inj made
                exact ⟨by simp, .inr ⟨rfl, rfl⟩⟩
              · rename_i occupied _
                rw [made]
                exact ⟨fun same => occupied (same ▸ made), .inl (by simp)⟩

theorem named?_of_find (led : files.find path = .ok found) :
    files.named? (canonical path) = some found := by
  simp only [find] at led
  split at led
  · contradiction
  · cases followed : files.follow (isAbsolute path) (parts path) with
    | error fault =>
        rw [followed] at led
        contradiction
    | ok node =>
        rw [followed] at led
        simp only [bind, Except.bind] at led
        split at led
        · contradiction
        · obtain rfl := Except.ok.inj led
          obtain ⟨reached, entered, named⟩ := follow_eq_ok_iff.mp followed
          rw [eq_foldl_walk_of_enters entered] at named
          exact named

/-- Paths are followed by names only. -/
theorem read_congr {files files' : Files} (alike : files'.named? = files.named?) (path : String) :
    files'.read path = files.read path := by
  have entered : files'.enter = files.enter := by
    funext absolute taken step
    simp only [enter, alike]
  simp only [read, find, follow, entered, alike]

/-- What is put where it was already changes nothing. -/
theorem named?_put_of_held (held : files.named? (canonical path) = some node) :
    (files.put path node).named? = files.named? := by
  funext key
  by_cases here : key = canonical path
  · rw [here, held]
    simp only [named?] at held
    simp only [named?, put, List.lookup_cons_self]
    split at held
    · rename_i upward
      rw [if_pos upward, held]
    · rename_i below
      rw [if_neg below]
  · exact named?_put_of_ne here

end BulkIngest.Files
