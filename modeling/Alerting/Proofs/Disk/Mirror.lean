import Alerting.Proofs.Disk

/-!
# Trees as disks

A disk knows of files and of nothing else. A tree in memory, which also follows paths through
directories and refuses what stands in their way, is one of them all the same: whatever an action
does to the files of the tree, it does to a disk with these files on some course.
-/

namespace Alerting

namespace FileTree

variable {tree changed : FileTree}

/-! ## Places -/

/-- Where a tree is followed to is where the pieces lead. -/
theorem walk_of_follow {start last : Place} {pieces : List String}
    (found : tree.follow start pieces = .found last) : Path.walk start pieces = last := by
  -- Cases 3, 4 and 7 go on: a piece that leads nowhere, one that leads up, one that leads down.
  fun_induction tree.follow start pieces with
  | case1 => cases found; rfl
  | case2 => cases found
  | case3 start piece rest _ idle ih =>
    rw [Path.walk, if_pos idle]
    exact ih found
  | case4 start rest _ idle ih =>
    rw [Path.walk, if_neg idle, if_pos rfl]
    exact ih found
  | case5 => cases found
  | case6 => cases found
  | case7 start piece rest _ idle up _ _ _ ih =>
    rw [Path.walk, if_neg idle, if_neg up]
    exact ih found

theorem place_of_place? {path : String} {place : Place} (named : tree.place? path = some place) :
    Path.place tree.workingDirectory path = place := by
  obtain ⟨-, before, name, directory, pieces, proper, leads, -, rfl⟩ := place?_eq_some.1 named
  simp only [Bool.or_eq_false_iff, decide_eq_false_iff_not] at proper
  obtain ⟨⟨busy, down⟩, -⟩ := proper
  rw [Path.place_eq_walk, pieces, Path.walk_append]
  change Path.walk (Path.walk (tree.beginning path) before) [name] = _
  rw [walk_of_follow leads, Path.walk_name _ ⟨busy, down⟩]
  rfl

/-! ## Contents -/

theorem ne_root_of_contentAt? {place : Place} {content : Bytes}
    (held : tree.contentAt? place = some content) : place ≠ [] :=
  ne_root_of_not_isDirectory (not_isDirectory_of_contentAt? held)

theorem contentAt?_put {place : Place} (inner : place ≠ []) (content : Bytes) :
    (tree.put place (.file content)).contentAt? =
      Function.update tree.contentAt? place (some content) := by
  funext other
  rw [contentAt?, nodeAt?_put tree inner]
  by_cases same : other = place
  · rw [if_pos same, same, Function.update_self]
  · rw [if_neg same, Function.update_of_ne same]
    rfl

theorem contentAt?_erase {place : Place} (inner : place ≠ []) :
    (tree.erase place).contentAt? = Function.update tree.contentAt? place none := by
  funext other
  rw [contentAt?, nodeAt?_erase tree inner]
  by_cases same : other = place
  · rw [if_pos same, same, Function.update_self]
  · rw [if_neg same, Function.update_of_ne same]
    rfl

theorem contentAt?_put_directory {place : Place} (free : tree.nodeAt? place = none) :
    (tree.put place .directory).contentAt? = tree.contentAt? := by
  have empty : tree.isDirectory place = false := by simp [isDirectory, free]
  have inner := ne_root_of_not_isDirectory empty
  funext other
  rw [contentAt?, contentAt?, nodeAt?_put tree inner]
  by_cases same : other = place
  · rw [if_pos same, same, free]
  · rw [if_neg same]

/-- Directories are made without touching files. -/
theorem makeDirectories_keeps (place : Place) (pieces : List String) (tree : FileTree) :
    (makeDirectories place pieces tree).2.contentAt? = tree.contentAt? ∧
      (makeDirectories place pieces tree).2.workingDirectory = tree.workingDirectory := by
  fun_induction makeDirectories place pieces tree with
  | case1 => exact ⟨rfl, rfl⟩
  | case2 place piece rest tree _ ih => exact ih
  | case3 place rest tree _ ih => exact ih
  | case4 => exact ⟨rfl, rfl⟩
  | case5 place piece rest tree _ _ _ _ ih => exact ih
  | case6 => exact ⟨rfl, rfl⟩
  | case7 place piece rest tree _ _ _ free ih =>
    rw [contentAt?_put_directory free] at ih
    exact ih

theorem createDirectories_keeps (tree : FileTree) (path : String) :
    (tree.perform (.createDirectories path)).2.contentAt? = tree.contentAt? ∧
      (tree.perform (.createDirectories path)).2.workingDirectory = tree.workingDirectory := by
  rw [perform]
  split
  · exact makeDirectories_keeps _ _ tree
  · exact ⟨rfl, rfl⟩

/-- Any other action that fails changes nothing. -/
theorem perform_eq_false {action : FileAction} (file : ∀ path, action ≠ .createDirectories path)
    (fails : tree.perform action = (false, changed)) : changed = tree := by
  rw [perform.eq_def] at fails
  split at fails
  · exact absurd rfl (file _)
  · split at fails <;> cases fails
    rfl

end FileTree

namespace Disk

/-- A disk has the files of a tree, and relative paths begin at the same place. -/
structure Mirrors (disk : Disk) (tree : FileTree) : Prop where
  files : disk.files = tree.contentAt?
  workingDirectory : disk.workingDirectory = tree.workingDirectory

variable {disk : Disk} {tree changed : FileTree} {action : FileAction}

theorem Mirrors.place_eq (mirrors : disk.Mirrors tree) {path : String} {place : Place}
    (named : tree.place? path = some place) : disk.place path = place := by
  rw [Disk.place, mirrors.workingDirectory, FileTree.place_of_place? named]

/-- A disk on which an action fails at once. -/
theorem Mirrors.fail (mirrors : disk.Mirrors tree) (course : disk.course = { fails := true }) :
    (perform action disk).1 = false ∧ (perform action disk).2.Mirrors tree := by
  have idle : perform action disk = disk.after action false [] disk.files := by
    rw [perform.eq_def]
    cases action <;> simp [edit, course]
  rw [idle]
  exact ⟨rfl, mirrors.files, mirrors.workingDirectory⟩

theorem Mirrors.edit (mirrors : disk.Mirrors tree) (course : disk.course = {}) {path : String}
    {place : Place} (named : tree.place? path = some place)
    {result : Option Bytes → Option (Option Bytes)} {content : Option Bytes}
    (made : result (tree.contentAt? place) = some content)
    (files : changed.contentAt? = Function.update tree.contentAt? place content)
    (stays : changed.workingDirectory = tree.workingDirectory) :
    (disk.edit action path result).1 = true ∧ (disk.edit action path result).2.Mirrors changed := by
  have leads := mirrors.place_eq named
  rw [← mirrors.files] at made files
  have goes : disk.edit action path result =
      disk.after action true [] (Function.update disk.files place content) := by
    rw [Disk.edit, leads, made, course]
    rfl
  rw [goes]
  exact ⟨rfl, files.symm, mirrors.workingDirectory.trans stays.symm⟩

/-- A disk on which an action on files goes well where it does so in the tree. -/
theorem Mirrors.succeed (mirrors : disk.Mirrors tree) (course : disk.course = {})
    (file : ∀ path, action ≠ .createDirectories path)
    (performs : tree.perform action = (true, changed)) :
    (perform action disk).1 = true ∧ (perform action disk).2.Mirrors changed := by
  cases action with
  | createDirectories path => exact absurd rfl (file path)
  | create path =>
    obtain ⟨place, free, rfl⟩ := FileTree.perform_create.1 performs
    obtain ⟨named, free⟩ := FileTree.filePlace?_eq_some.1 free
    have inner := FileTree.ne_root_of_not_isDirectory free
    exact mirrors.edit course named rfl (FileTree.contentAt?_put inner []) rfl
  | append path content =>
    obtain ⟨place, written, held, rfl⟩ := FileTree.perform_append.1 performs
    obtain ⟨named, held⟩ := FileTree.file?_eq_some.1 held
    have inner := FileTree.ne_root_of_contentAt? held
    refine mirrors.edit course named ?_ (FileTree.contentAt?_put inner _) rfl
    rw [held]
    rfl
  | sync path =>
    obtain ⟨stands, rfl⟩ := FileTree.perform_sync.1 performs
    obtain ⟨⟨place, content⟩, held⟩ := Option.isSome_iff_exists.1 stands
    obtain ⟨named, held⟩ := FileTree.file?_eq_some.1 held
    have made : (tree.contentAt? place).map some = some (some content) := by
      rw [held]
      rfl
    refine mirrors.edit course named made ?_ rfl
    rw [← held, Function.update_eq_self]
  | remove path =>
    obtain ⟨place, content, held, rfl⟩ := FileTree.perform_remove.1 performs
    obtain ⟨named, held⟩ := FileTree.file?_eq_some.1 held
    have inner := FileTree.ne_root_of_contentAt? held
    refine mirrors.edit course named ?_ (FileTree.contentAt?_erase inner) rfl
    rw [held]
    rfl
  | rename source target =>
    obtain ⟨place, content, goal, held, free, rfl⟩ := FileTree.perform_rename.1 performs
    obtain ⟨named, held⟩ := FileTree.file?_eq_some.1 held
    obtain ⟨goalNamed, free⟩ := FileTree.filePlace?_eq_some.1 free
    have inner := FileTree.ne_root_of_contentAt? held
    have goalInner := FileTree.ne_root_of_not_isDirectory free
    have leads := mirrors.place_eq named
    have goalLeads := mirrors.place_eq goalNamed
    have renames : perform (.rename source target) disk = disk.after (.rename source target) true []
        (Function.update (Function.update disk.files place none) goal (some content)) := by
      rw [perform.eq_def]
      simp [course, leads, goalLeads, mirrors.files, held]
    rw [renames]
    refine ⟨rfl, ?_, mirrors.workingDirectory⟩
    change Function.update (Function.update disk.files place none) goal (some content) = _
    rw [FileTree.contentAt?_put goalInner, FileTree.contentAt?_erase inner, mirrors.files]

/-- Whatever an action does in a tree, it does on some course to a disk with the same files. -/
theorem exists_course (tree : FileTree) (action : FileAction) :
    ∃ course : Course, ∀ disk : Disk, disk.Mirrors tree → disk.course = course →
      (perform action disk).1 = (tree.perform action).1 ∧
        (perform action disk).2.Mirrors (tree.perform action).2 := by
  refine ⟨{ fails := !(tree.perform action).1 }, fun disk mirrors course => ?_⟩
  by_cases file : ∀ path, action ≠ .createDirectories path
  · rcases performs : tree.perform action with ⟨_ | _, changed⟩
    · rw [performs] at course
      obtain rfl := FileTree.perform_eq_false file performs
      exact mirrors.fail course
    · rw [performs] at course
      exact mirrors.succeed course file performs
  · simp only [ne_eq, not_forall, not_not] at file
    obtain ⟨path, rfl⟩ := file
    obtain ⟨files, stays⟩ := FileTree.createDirectories_keeps tree path
    refine ⟨?_, mirrors.files.trans files.symm, mirrors.workingDirectory.trans stays.symm⟩
    rw [perform_createDirectories, course]
    exact Bool.not_not _

/-! ## Programs -/

/-- What a program does to any tree, another one does on some courses to the tree's disk. -/
def Follows {α : Type} (ours : StateM Disk α) (theirs : StateM FileTree α) : Prop :=
  ∀ tree, ∃ courses, ∀ (disk : Disk) (later : List Course), disk.Mirrors tree →
    disk.courses = courses ++ later →
      (ours disk).1 = (theirs tree).1 ∧ (ours disk).2.Mirrors (theirs tree).2 ∧
        (ours disk).2.courses = later

theorem follows_pure {α : Type} (value : α) : Follows (pure value) (pure value) := by
  intro tree
  exact ⟨[], fun disk later mirrors known => ⟨rfl, mirrors, known⟩⟩

theorem Follows.bind {α β : Type} {ours : StateM Disk α} {theirs : StateM FileTree α}
    {ourNext : α → StateM Disk β} {theirNext : α → StateM FileTree β}
    (first : Follows ours theirs) (next : ∀ value, Follows (ourNext value) (theirNext value)) :
    Follows (ours >>= ourNext) (theirs >>= theirNext) := by
  intro tree
  obtain ⟨courses, begins⟩ := first tree
  obtain ⟨others, ends⟩ := next (theirs tree).1 (theirs tree).2
  refine ⟨courses ++ others, fun disk later mirrors known => ?_⟩
  obtain ⟨answer, mirrors, left⟩ := begins disk (others ++ later) mirrors (by simp [known])
  have run : (ours >>= ourNext) disk = ourNext (theirs tree).1 (ours disk).2 := by
    rw [← answer]
    rfl
  rw [run]
  exact ends (ours disk).2 later mirrors left

theorem follows_perform (action : FileAction) :
    Follows (perform action) (FileTree.performing action) := by
  intro tree
  obtain ⟨course, goes⟩ := exists_course tree action
  refine ⟨[course], fun disk later mirrors known => ?_⟩
  obtain ⟨answer, mirrors⟩ := goes disk mirrors (by simp [Disk.course, known])
  refine ⟨answer, mirrors, ?_⟩
  obtain ⟨done, between, files, performs⟩ := exists_perform_eq disk action
  rw [performs, after, known]
  rfl

theorem follows_performAll (actions : List FileAction) :
    Follows (performAll perform actions) (performAll FileTree.performing actions) := by
  induction actions with
  | nil => exact follows_pure true
  | cons action rest ih =>
    refine (follows_perform action).bind fun done => ?_
    cases done
    · exact follows_pure false
    · exact ih

end Disk

end Alerting
