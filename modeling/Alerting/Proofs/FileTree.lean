import Alerting.FileTree

/-!
# Where paths lead in a changed tree

A path is followed through directories, so a change that keeps the directories of a tree
(`FileTree.Keeps`) leaves every place that a path names where it was, and all that the actions
on files do to the files themselves is written in the nodes of those places.
-/

namespace Alerting

/-- A sequence of actions goes on with what the first one left, unless that one failed. -/
theorem performAll_cons {σ : Type} (perform : FileAction → StateM σ Bool) (action : FileAction)
    (rest : List FileAction) (state : σ) :
    performAll perform (action :: rest) state =
      match perform action state with
      | (true, next) => performAll perform rest next
      | (false, left) => (false, left) := by
  rw [performAll]
  simp only [bind, StateT.bind]
  rcases perform action state with ⟨_ | _, next⟩ <;> rfl

theorem performAll_cons_eq_true {σ : Type} {perform : FileAction → StateM σ Bool}
    {action : FileAction} {rest : List FileAction} {state last : σ} :
    performAll perform (action :: rest) state = (true, last) ↔
      ∃ next, perform action state = (true, next) ∧ performAll perform rest next = (true, last) := by
  rw [performAll_cons]
  rcases perform action state with ⟨_ | _, next⟩
  · constructor
    · intro stops
      cases stops
    · rintro ⟨_, done, -⟩
      cases done
  · constructor
    · intro succeeds
      exact ⟨next, rfl, succeeds⟩
    · rintro ⟨_, done, succeeds⟩
      cases done
      exact succeeds

theorem performAll_append {σ : Type} (perform : FileAction → StateM σ Bool)
    (front back : List FileAction) (state : σ) :
    performAll perform (front ++ back) state =
      match performAll perform front state with
      | (true, next) => performAll perform back next
      | (false, left) => (false, left) := by
  induction front generalizing state with
  | nil => rfl
  | cons action rest ih =>
    rw [List.cons_append, performAll_cons, performAll_cons]
    rcases perform action state with ⟨_ | _, next⟩
    · rfl
    · exact ih next

namespace FileTree

variable {tree changed : FileTree}

/-! ## Nodes -/

theorem ne_root_of_not_isDirectory {place : Place} (free : tree.isDirectory place = false) :
    place ≠ [] := by
  rintro rfl
  cases free

theorem nodeAt?_put (tree : FileTree) {place : Place} (inner : place ≠ []) (node : FileNode)
    (other : Place) :
    (tree.put place node).nodeAt? other = if other = place then some node else tree.nodeAt? other := by
  by_cases root : other = []
  · subst root
    rw [if_neg inner.symm]
    rfl
  · simp only [nodeAt?, put, if_neg root, SortedMap.get?_insert]

theorem nodeAt?_erase (tree : FileTree) {place : Place} (inner : place ≠ []) (other : Place) :
    (tree.erase place).nodeAt? other = if other = place then none else tree.nodeAt? other := by
  by_cases root : other = []
  · subst root
    rw [if_neg inner.symm]
    rfl
  · simp only [nodeAt?, erase, if_neg root, SortedMap.get?_filter]
    by_cases same : other = place
    · simp [same]
    · cases tree.nodes.get? other <;> simp [same]

theorem contentAt?_eq_some {place : Place} {content : Bytes} :
    tree.contentAt? place = some content ↔ tree.nodeAt? place = some (.file content) := by
  rw [contentAt?]
  split <;> simp_all

theorem not_isDirectory_of_contentAt? {place : Place} {content : Bytes}
    (held : tree.contentAt? place = some content) : tree.isDirectory place = false := by
  simp [isDirectory, contentAt?_eq_some.1 held]

/-! ## Trees with more directories -/

/-- A tree has the directories of another one, and relative paths begin where they did. -/
structure Keeps (tree changed : FileTree) : Prop where
  workingDirectory : changed.workingDirectory = tree.workingDirectory
  directories : ∀ place, tree.isDirectory place = true → changed.isDirectory place = true

/-- A change at one place that holds no directory keeps the directories. -/
theorem keeps_of_nodeAt?_eq {place : Place} (free : tree.isDirectory place = false)
    (workingDirectory : changed.workingDirectory = tree.workingDirectory)
    (same : ∀ other, other ≠ place → changed.nodeAt? other = tree.nodeAt? other) :
    tree.Keeps changed where
  workingDirectory := workingDirectory
  directories other directory := by
    have different : other ≠ place := fun equal => by simp [equal, free] at directory
    rwa [isDirectory, same other different]

theorem keeps_put {place : Place} (free : tree.isDirectory place = false) (node : FileNode) :
    tree.Keeps (tree.put place node) := by
  refine keeps_of_nodeAt?_eq free rfl fun other different => ?_
  rw [nodeAt?_put tree (ne_root_of_not_isDirectory free), if_neg different]

theorem keeps_erase {place : Place} (free : tree.isDirectory place = false) :
    tree.Keeps (tree.erase place) := by
  refine keeps_of_nodeAt?_eq free rfl fun other different => ?_
  rw [nodeAt?_erase tree (ne_root_of_not_isDirectory free), if_neg different]

/-! ## Following paths -/

theorem follow_append {start middle : Place} {front : List String}
    (found : tree.follow start front = .found middle) (back : List String) :
    tree.follow start (front ++ back) = tree.follow middle back := by
  -- Cases 3, 4 and 7 go on: a piece that leads nowhere, one that leads up, one that leads down.
  fun_induction tree.follow start front with
  | case1 => cases found; rfl
  | case2 => cases found
  | case3 start piece rest directory idle ih =>
    rw [List.cons_append, follow, if_neg directory, if_pos idle, ih found]
  | case4 start rest directory idle ih =>
    rw [List.cons_append, follow, if_neg directory, if_neg idle, if_pos rfl, ih found]
  | case5 => cases found
  | case6 => cases found
  | case7 start piece rest directory idle up long node held ih =>
    rw [List.cons_append, follow, if_neg directory, if_neg idle, if_neg up, if_neg long, held]
    exact ih found

/-- Only directories lead to a directory. -/
theorem isDirectory_of_follow {start last : Place} {pieces : List String}
    (found : tree.follow start pieces = .found last) (directory : tree.isDirectory last = true) :
    tree.isDirectory start = true := by
  cases pieces with
  | nil => cases found; exact directory
  | cons piece rest =>
    cases known : tree.isDirectory start with
    | true => rfl
    | false => simp [follow, known] at found

/-- The way to a directory is the same in a tree that keeps the directories. -/
theorem Keeps.follow (keeps : tree.Keeps changed) {start last : Place} {pieces : List String}
    (found : tree.follow start pieces = .found last) (directory : tree.isDirectory last = true) :
    changed.follow start pieces = .found last := by
  have kept := keeps.directories start (isDirectory_of_follow found directory)
  fun_induction tree.follow start pieces with
  | case1 => cases found; rfl
  | case2 => cases found
  | case3 start piece rest _ idle ih =>
    rw [FileTree.follow, kept, if_neg (by simp), if_pos idle]
    exact ih found (keeps.directories start (isDirectory_of_follow found directory))
  | case4 start rest _ idle ih =>
    rw [FileTree.follow, kept, if_neg (by simp), if_neg idle, if_pos rfl]
    exact ih found (keeps.directories _ (isDirectory_of_follow found directory))
  | case5 => cases found
  | case6 => cases found
  | case7 start piece rest _ idle up long node _ ih =>
    have next := keeps.directories _ (isDirectory_of_follow found directory)
    have stands : changed.nodeAt? (start ++ [piece]) = some .directory := by
      simpa [isDirectory] using next
    rw [FileTree.follow, kept, if_neg (by simp), if_neg idle, if_neg up, if_neg long, stands]
    exact ih found next

/-- A path names a place if its last piece is a name in the directory that the others lead to. -/
theorem place?_eq_some {path : String} {place : Place} :
    tree.place? path = some place ↔
      isPath path = true ∧ ∃ before name directory, Path.pieces path = before ++ [name] ∧
        (Path.isIdle name || name = ".." || nameLimit < name.utf8ByteSize) = false ∧
        tree.follow (tree.beginning path) before = .found directory ∧
        tree.isDirectory directory = true ∧ directory ++ [name] = place := by
  constructor
  · intro named
    cases valid : isPath path with
    | false => simp [place?, valid] at named
    | true =>
      cases reversed : (Path.pieces path).reverse with
      | nil => simp [place?, valid, reversed] at named
      | cons name before =>
        rw [place?, valid, reversed] at named
        simp only [Bool.not_true, Bool.false_eq_true, if_false, Option.ite_none_left_eq_some,
          Bool.not_eq_true] at named
        rcases named with ⟨proper, named⟩
        have pieces : Path.pieces path = before.reverse ++ [name] := by
          rw [← List.reverse_cons, ← reversed, List.reverse_reverse]
        cases leads : tree.follow (tree.beginning path) before.reverse with
        | found directory =>
          simp only [leads, Option.ite_none_right_eq_some, Option.some.injEq] at named
          exact ⟨rfl, before.reverse, name, directory, pieces, proper, leads, named⟩
        | missing => simp [leads] at named
        | blocked => simp [leads] at named
  · rintro ⟨isPath, before, name, directory, pieces, proper, leads, isDirectory, rfl⟩
    simp [place?, isPath, pieces, proper, leads, isDirectory]

/-- A path names the same place in a tree that keeps the directories. -/
theorem Keeps.place? (keeps : tree.Keeps changed) {path : String} {place : Place}
    (named : tree.place? path = some place) : changed.place? path = some place := by
  rcases place?_eq_some.1 named with
    ⟨isPath, before, name, directory, pieces, proper, leads, isDirectory, rfl⟩
  refine place?_eq_some.2 ⟨isPath, before, name, directory, pieces, proper, ?_,
    keeps.directories directory isDirectory, rfl⟩
  rw [beginning, keeps.workingDirectory]
  exact keeps.follow leads isDirectory

theorem file?_eq_some {path : String} {place : Place} {content : Bytes} :
    tree.file? path = some (place, content) ↔
      tree.place? path = some place ∧ tree.contentAt? place = some content := by
  simp [file?, Option.bind_eq_some_iff]

/-- Whoever reads a path finds what the file there holds. -/
theorem read_of_file? {path : String} {place : Place} {content : Bytes}
    (file : tree.file? path = some (place, content)) : tree.read path = .bytes content := by
  rcases file?_eq_some.1 file with ⟨named, held⟩
  rcases place?_eq_some.1 named with
    ⟨isPath, before, name, directory, pieces, proper, leads, isDirectory, rfl⟩
  have nonempty : path ≠ "" := by
    rintro rfl
    cases isPath
  have found : tree.follow (tree.beginning path) (Path.pieces path) =
      .found (directory ++ [name]) := by
    simp only [Bool.or_eq_false_iff, decide_eq_false_iff_not] at proper
    rcases proper with ⟨⟨idle, up⟩, long⟩
    rw [pieces, follow_append leads, follow, isDirectory, idle, contentAt?_eq_some.1 held]
    simp [up, long, follow]
  simp [read, nonempty, isPath, found, held]

/-! ## Actions on files -/

theorem filePlace?_eq_some {path : String} {place : Place} :
    tree.filePlace? path = some place ↔
      tree.place? path = some place ∧ tree.isDirectory place = false := by
  simp [filePlace?, Option.filter_eq_some_iff]

/-- What is put at the place of a path is the file at that path. -/
theorem file?_put {path : String} {place : Place} (named : tree.place? path = some place)
    (free : tree.isDirectory place = false) (content : Bytes) :
    (tree.put place (.file content)).file? path = some (place, content) := by
  refine file?_eq_some.2 ⟨(keeps_put free _).place? named, contentAt?_eq_some.2 ?_⟩
  rw [nodeAt?_put tree (ne_root_of_not_isDirectory free), if_pos rfl]

theorem perform_create {path : String} :
    tree.perform (.create path) = (true, changed) ↔
      ∃ place, tree.filePlace? path = some place ∧ tree.put place (.file []) = changed := by
  simp only [perform, change?, Option.bind_eq_bind]
  cases tree.filePlace? path <;> simp

theorem perform_append {path : String} {content : Bytes} :
    tree.perform (.append path content) = (true, changed) ↔
      ∃ place written, tree.file? path = some (place, written) ∧
        tree.put place (.file (written ++ content)) = changed := by
  simp only [perform, change?, Option.bind_eq_bind]
  rcases tree.file? path with _ | ⟨place, written⟩ <;> simp [and_assoc]

theorem perform_sync {path : String} :
    tree.perform (.sync path) = (true, changed) ↔
      (tree.file? path).isSome = true ∧ tree = changed := by
  simp only [perform, change?]
  cases tree.file? path <;> simp

theorem perform_remove {path : String} :
    tree.perform (.remove path) = (true, changed) ↔
      ∃ place content, tree.file? path = some (place, content) ∧ tree.erase place = changed := by
  simp only [perform, change?, Option.bind_eq_bind]
  rcases tree.file? path with _ | ⟨place, content⟩ <;> simp [and_assoc]

theorem perform_rename {source target : String} :
    tree.perform (.rename source target) = (true, changed) ↔
      ∃ place content goal, tree.file? source = some (place, content) ∧
        tree.filePlace? target = some goal ∧
        (tree.erase place).put goal (.file content) = changed := by
  simp only [perform, change?, Option.bind_eq_bind]
  rcases tree.file? source with _ | ⟨place, content⟩
  · simp
  · cases tree.filePlace? target <;> simp [and_assoc]

/-- A file that is put in the place of another is the file at that path. -/
theorem file?_rename {source target : String} {content : Bytes} {place : Place}
    (held : tree.file? source = some (place, content))
    (renamed : tree.perform (.rename source target) = (true, changed)) :
    ∃ goal, changed.file? target = some (goal, content) := by
  rcases perform_rename.1 renamed with ⟨place', content', goal, held', named, rfl⟩
  cases held.symm.trans held'
  rcases filePlace?_eq_some.1 named with ⟨named, free⟩
  have inner := not_isDirectory_of_contentAt? (file?_eq_some.1 held).2
  have free : (tree.erase place).isDirectory goal = false := by
    rw [isDirectory, nodeAt?_erase tree (ne_root_of_not_isDirectory inner)]
    split
    · rfl
    · exact free
  exact ⟨goal, file?_put ((keeps_erase inner).place? named) free content⟩

/-! ## Sequences of actions -/

/-- Performs an action on the tree that is at hand. -/
def performing (action : FileAction) : StateM FileTree Bool := fun tree => tree.perform action

/-- Performs actions in order, up to the first that fails. -/
def performEach (tree : FileTree) (actions : List FileAction) : Bool × FileTree :=
  performAll performing actions tree

theorem performEach_nil : tree.performEach [] = (true, changed) ↔ tree = changed := by
  change (true, tree) = (true, changed) ↔ tree = changed
  simp

theorem performEach_cons {action : FileAction} {rest : List FileAction} :
    tree.performEach (action :: rest) = (true, changed) ↔
      ∃ next, tree.perform action = (true, next) ∧ next.performEach rest = (true, changed) :=
  performAll_cons_eq_true

end FileTree

end Alerting
