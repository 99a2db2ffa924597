import Mathlib.Data.List.Induction
import RunBoard.Files.Tree

/-!
# Paths that can be written

A path can be written when no file stands in the way to it and it is no directory itself.
Its directory can be made then, a file can be written and removed there, and the path can
be written afterwards as before.
-/

namespace RunBoard.Files

theorem lookup_filter_ne (entries : List (Path × Entry)) (path other : Path) :
    (entries.filter fun old => old.1 ≠ path).lookup other =
      if other = path then none else entries.lookup other := by
  induction entries with
  | nil => simp
  | cons entry rest ih =>
      obtain ⟨first, value⟩ := entry
      by_cases here : first = path
      · subst here
        by_cases same : other = first
        · simpa [same] using ih
        · have different : (other == first) = false := by simpa using same
          simpa [List.lookup_cons, same, different] using ih
      · by_cases same : other = first
        · subst same
          simp [here]
        · have different : (other == first) = false := by simpa using same
          simpa [List.lookup_cons, here, different] using ih

namespace Tree

variable {tree later : Tree} {path other : Path}

theorem entry?_set (tree : Tree) (path : Path) (entry : Entry) (named : other ≠ []) :
    entry? (tree.set path entry) other =
      if other = path then some entry else tree.entry? other := by
  simp only [set, entry?, if_neg named, List.lookup_cons, lookup_filter_ne]
  by_cases same : other = path
  · simp [same]
  · have different : (other == path) = false := by simpa using same
    simp [same, different]

theorem entry?_set_self (tree : Tree) (entry : Entry) (named : path ≠ []) :
    entry? (tree.set path entry) path = some entry := by
  rw [entry?_set tree path entry named, if_pos rfl]

theorem entry?_set_of_ne (tree : Tree) (entry : Entry) (different : other ≠ path) :
    entry? (tree.set path entry) other = tree.entry? other := by
  by_cases named : other = []
  · simp [named, entry?]
  · rw [entry?_set tree path entry named, if_neg different]

theorem isFile_set_of_ne (tree : Tree) (entry : Entry) (different : other ≠ path) :
    (tree.set path entry).isFile other = tree.isFile other := by
  rw [isFile, isFile, entry?_set_of_ne tree entry different]

/-! ## Directories on the way -/

/-- Makes a path a directory if nothing is there. -/
def withDirectory (tree : Tree) (step : Path) : Tree :=
  if (tree.entry? step).isSome then tree else tree.set step .directory

theorem isSome_withDirectory (tree : Tree) (step : Path) :
    let made := tree.withDirectory step
    (made.entry? step).isSome = true := by
  intro made
  by_cases there : (tree.entry? step).isSome = true
  · rwa [show made = tree from if_pos there]
  · have named : step ≠ [] := by
      rintro rfl
      exact there rfl
    rw [show made = tree.set step .directory from if_neg there,
      entry?_set_self tree .directory named, Option.isSome_some]

theorem entry?_withDirectory_of_ne (tree : Tree) {step : Path} (different : other ≠ step) :
    entry? (tree.withDirectory step) other = tree.entry? other := by
  unfold withDirectory
  split
  · rfl
  · exact entry?_set_of_ne tree .directory different

theorem isFile_withDirectory (tree : Tree) (step : Path) :
    (tree.withDirectory step).isFile other = tree.isFile other := by
  by_cases same : other = step
  · subst same
    unfold withDirectory
    cases there : tree.entry? other with
    | some entry => rfl
    | none =>
        have named : other ≠ [] := by
          rintro rfl
          cases there
        simp [isFile, there, entry?_set_self tree .directory named]
  · rw [isFile, isFile, entry?_withDirectory_of_ne tree same]

/-- Directories are made where nothing is, and nothing else changes. -/
theorem foldl_withDirectory (tree : Tree) (steps : List Path) :
    let made := steps.foldl withDirectory tree
    (∀ other, made.isFile other = tree.isFile other) ∧
    (∀ other ∉ steps, made.entry? other = tree.entry? other) ∧
    (∀ step ∈ steps, (made.entry? step).isSome = true) := by
  induction steps using List.reverseRecOn with
  | nil => simp
  | append_singleton steps step ih =>
      obtain ⟨files, others, there⟩ := ih
      simp only [List.foldl_append, List.foldl_cons, List.foldl_nil]
      refine ⟨fun other => ?_, fun other outside => ?_, fun known member => ?_⟩
      · rw [isFile_withDirectory, files]
      · simp only [List.mem_append, List.mem_singleton, not_or] at outside
        rw [entry?_withDirectory_of_ne _ outside.2, others other outside.1]
      · by_cases same : known = step
        · rw [same, isSome_withDirectory]
        · rw [entry?_withDirectory_of_ne _ same]
          refine there known ?_
          simpa [same] using member

/-! ## Writable paths -/

/-- Whether a path can be written: it is no directory, and no file stands in the way to it. -/
structure IsWritable (tree : Tree) (path : Path) : Prop where
  unblocked : tree.isBlocked path = false
  noDirectory : tree.entry? path ≠ some .directory

/-- The bytes of the file at a path, if it can be read. -/
def content? (tree : Tree) (path : Path) : Option (List UInt8) := (tree.read path).toOption

theorem isBlocked_eq_false_iff :
    tree.isBlocked path = false ↔
      ∀ length < path.length, tree.isFile (path.take length) = false := by
  simp [isBlocked]

namespace IsWritable

theorem named (writable : tree.IsWritable path) : path ≠ [] := by
  rintro rfl
  exact writable.noDirectory rfl

/-- A path can still be written when files have changed nowhere but there. -/
theorem of_same_files (writable : tree.IsWritable path)
    (same : ∀ other ≠ path, later.isFile other = tree.isFile other)
    (noDirectory : later.entry? path ≠ some .directory) : later.IsWritable path := by
  refine ⟨isBlocked_eq_false_iff.mpr fun length shorter => ?_, noDirectory⟩
  rw [same _ ?_]
  · exact isBlocked_eq_false_iff.mp writable.unblocked length shorter
  · intro whole
    have := congrArg List.length whole
    rw [List.length_take] at this
    omega

theorem content? (writable : tree.IsWritable path) :
    tree.content? path =
      match tree.entry? path with
      | some (.file bytes _) => some bytes
      | _ => none := by
  have notDirectory := writable.noDirectory
  simp only [Tree.content?, read, look, writable.unblocked]
  cases there : tree.entry? path with
  | none => rfl
  | some entry =>
      cases entry with
      | file bytes mode => rfl
      | directory => exact absurd there notDirectory

theorem content?_set (writable : tree.IsWritable path) (bytes : List UInt8) (mode : Nat) :
    (tree.set path (.file bytes mode)).IsWritable path ∧
      (tree.set path (.file bytes mode)).content? path = some bytes := by
  have there := entry?_set_self tree (.file bytes mode) writable.named
  have still : (tree.set path (.file bytes mode)).IsWritable path :=
    writable.of_same_files (fun _ different => isFile_set_of_ne tree _ different)
      (by simp [there])
  exact ⟨still, by rw [still.content?, there]⟩

/-- The directory of a path that can be written can be made, and the path stays as it was. -/
theorem makeDirectory (writable : tree.IsWritable path) :
    ∃ ready, tree.makeDirectory path.dropLast = .ok ready ∧ ready.IsWritable path ∧
      (ready.entry? path.dropLast).isSome = true := by
  have long : 0 < path.length := List.length_pos_iff.mpr writable.named
  have clear := isBlocked_eq_false_iff.mp writable.unblocked
  have unblocked : tree.isBlocked path.dropLast = false := by
    refine isBlocked_eq_false_iff.mpr fun length shorter => ?_
    rw [List.length_dropLast] at shorter
    rw [List.dropLast_eq_take, List.take_take, Nat.min_eq_left (by omega)]
    exact clear length (by omega)
  have noFile : tree.isFile path.dropLast = false := by
    rw [List.dropLast_eq_take]
    exact clear _ (by omega)
  obtain ⟨files, others, there⟩ :=
    foldl_withDirectory tree (ancestors path.dropLast ++ [path.dropLast])
  refine ⟨_, by rw [Tree.makeDirectory, unblocked, noFile]; rfl, ?_, there _ (by simp)⟩
  refine writable.of_same_files (fun other _ => files other) ?_
  rw [others path ?_]
  · exact writable.noDirectory
  · -- Everything on the way is shorter than the path.
    intro member
    have : path.length ≤ path.dropLast.length := by
      rcases List.mem_append.mp member with above | last
      · obtain ⟨length, -, cut⟩ := List.mem_map.mp above
        have := congrArg List.length cut
        rw [List.length_take] at this
        omega
      · exact Nat.le_of_eq (congrArg List.length (List.mem_singleton.mp last))
    rw [List.length_dropLast] at this
    omega

theorem setMode (writable : tree.IsWritable path) (mode : Nat) :
    (tree.setMode path mode).IsWritable path ∧
      ∀ other ≠ path, entry? (tree.setMode path mode) other = tree.entry? other := by
  unfold Tree.setMode
  split
  · next bytes kept there =>
      exact ⟨(writable.content?_set bytes mode).1,
        fun other different => entry?_set_of_ne tree _ different⟩
  · exact ⟨writable, fun _ _ => rfl⟩

theorem write (writable : tree.IsWritable path)
    (housed : (tree.entry? path.dropLast).isSome = true) (bytes : List UInt8) (mode : Nat) :
    ∃ written, tree.write path bytes mode = .ok written ∧ written.IsWritable path ∧
      written.content? path = some bytes := by
  rw [Tree.write, writable.unblocked]
  cases there : tree.entry? path with
  | none => exact ⟨_, by simp [housed], writable.content?_set bytes mode⟩
  | some entry =>
      cases entry with
      | file old kept => exact ⟨_, rfl, writable.content?_set bytes kept⟩
      | directory => exact absurd there writable.noDirectory

theorem remove (writable : tree.IsWritable path) :
    (tree.remove path = .error .notFound ∧ tree.content? path = none) ∨
      ∃ bare, tree.remove path = .ok bare ∧ bare.IsWritable path ∧ bare.content? path = none := by
  cases there : tree.entry? path with
  | none =>
      left
      rw [writable.content?, there]
      refine ⟨?_, rfl⟩
      rw [Tree.remove, look, writable.unblocked, there]
      rfl
  | some entry =>
      cases entry with
      | directory => exact absurd there writable.noDirectory
      | file bytes mode =>
          right
          let bare : Tree := ⟨tree.entries.filter fun old => old.1 ≠ path⟩
          have removed : tree.remove path = .ok bare := by
            rw [Tree.remove, look, writable.unblocked, there]
            rfl
          have entries (other : Path) (named : other ≠ []) :
              bare.entry? other = if other = path then none else tree.entry? other := by
            simp only [bare, entry?, if_neg named, lookup_filter_ne]
          have gone : bare.entry? path = none := by rw [entries path writable.named, if_pos rfl]
          have still : bare.IsWritable path := by
            refine writable.of_same_files (fun other different => ?_) (by simp [gone])
            by_cases named : other = []
            · rw [named]
              rfl
            · rw [isFile, isFile, entries other named, if_neg different]
          exact ⟨bare, removed, still, by rw [still.content?, gone]⟩

end IsWritable

end Tree

end RunBoard.Files
