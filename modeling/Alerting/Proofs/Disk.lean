import Alerting.Disk
import Alerting.Proofs.FileTree
import Alerting.Proofs.Path

/-!
# What actions leave of a disk

However an action on one file goes, the disk holds everywhere else what it held before, at the
end of the action and at every moment of it, and so does a sequence of such actions that breaks
off anywhere. An action that succeeds makes of its file what it is to make of it.
-/

namespace Alerting

/-- An action concerns no file but the one at a path. -/
def FileAction.StaysAt (path : String) : FileAction → Prop
  | .createDirectories _ => True
  | .create file | .append file _ | .sync file | .remove file => file = path
  | .rename _ _ => False

namespace Disk

/-! ## What every action does -/

section Perform

variable (disk : Disk) (action : FileAction)

/-- Every action ends as told by its answer. -/
theorem exists_perform_eq : ∃ done between files,
    perform action disk = disk.after action done between files := by
  have edits (path : String) (result : Option Bytes → Option (Option Bytes)) :
      ∃ done between files, disk.edit action path result = disk.after action done between files := by
    rw [edit]
    split <;> exact ⟨_, _, _, rfl⟩
  rw [perform.eq_def]
  cases action with
  | createDirectories path => exact ⟨_, _, _, rfl⟩
  | create path => exact edits path _
  | append path content => exact edits path _
  | sync path => exact edits path _
  | remove path => exact edits path _
  | rename source target =>
    dsimp only
    split <;> exact ⟨_, _, _, rfl⟩

/-- No action moves the working directory. -/
theorem place_of_perform {disk changed : Disk} {action : FileAction} {done : Bool}
    (performs : perform action disk = (done, changed)) (path : String) :
    changed.place path = disk.place path := by
  obtain ⟨done, between, files, known⟩ := exists_perform_eq disk action
  cases known.symm.trans performs
  rfl

theorem performed_perform :
    (perform action disk).2.performed = disk.performed ++ [(action, (perform action disk).1)] := by
  obtain ⟨done, between, files, performs⟩ := exists_perform_eq disk action
  rw [performs]
  rfl

end Perform

/-! ## Changes of one file -/

/-- The disk holds, and has held at every moment, what it held before, one place apart. -/
structure KeepsBut (disk : Disk) (here : Place) (before : Files) : Prop where
  files : ∀ place, place ≠ here → disk.files place = before place
  moments : ∀ moment ∈ disk.moments, ∀ place, place ≠ here → moment place = before place

section Edit

variable {disk changed : Disk} {action : FileAction} {path : String} {here : Place}
  {before : Files} {result : Option Bytes → Option (Option Bytes)}

theorem KeepsBut.after (keeps : disk.KeepsBut here before) {done : Bool} {between : List Files}
    {files : Files} (held : ∀ moment ∈ between, ∀ place, place ≠ here →
      moment place = disk.files place)
    (holds : ∀ place, place ≠ here → files place = disk.files place) :
    (disk.after action done between files).2.KeepsBut here before where
  files place other := (holds place other).trans (keeps.files place other)
  moments moment member place other := by
    rw [Disk.after, List.mem_append, List.mem_append, List.mem_singleton] at member
    obtain (earlier | during) | rfl := member
    · exact keeps.moments moment earlier place other
    · exact (held moment during place other).trans (keeps.files place other)
    · exact (holds place other).trans (keeps.files place other)

/-- An action that changes nothing. -/
theorem KeepsBut.idle (keeps : disk.KeepsBut here before) (done : Bool) :
    (disk.after action done [] disk.files).2.KeepsBut here before :=
  keeps.after (fun _ member => nomatch member) fun _ _ => rfl

/-- An action on one file changes nothing but that file, however it goes. -/
theorem KeepsBut.edit (keeps : disk.KeepsBut here before) (leads : disk.place path = here) :
    (disk.edit action path result).2.KeepsBut here before := by
  subst leads
  have held : ∀ moment ∈ disk.course.meanwhile.map fun content =>
      Function.update disk.files (disk.place path) content,
      ∀ place, place ≠ disk.place path → moment place = disk.files place := by
    intro moment member place other
    obtain ⟨content, -, rfl⟩ := List.mem_map.1 member
    exact Function.update_of_ne other content disk.files
  rw [Disk.edit]
  split
  · exact keeps.after held fun place other => Function.update_of_ne other _ disk.files
  · refine keeps.after held fun place other => ?_
    rw [List.getLastD_eq_getLast?]
    cases last : (disk.course.meanwhile.map fun content =>
      Function.update disk.files (disk.place path) content).getLast? with
    | none => rfl
    | some files => exact held files (List.mem_of_getLast? last) place other

/-- An action on one file that succeeds makes of the file what it is to make of it. -/
theorem result_of_edit (edits : disk.edit action path result = (true, changed)) :
    result (disk.files (disk.place path)) = some (changed.files (disk.place path)) := by
  rw [edit] at edits
  split at edits
  case h_1 content _ made =>
    cases edits
    exact made.trans (congrArg some (Function.update_self (disk.place path) _ disk.files).symm)
  case h_2 => cases edits

end Edit

section Actions

variable {disk changed : Disk} {action : FileAction} {path : String} {here : Place}
  {before : Files}

/-- An action that concerns one file only keeps all others, whether or not it succeeds. -/
theorem KeepsBut.perform (keeps : disk.KeepsBut here before) (leads : disk.place path = here)
    (only : action.StaysAt path) : (perform action disk).2.KeepsBut here before := by
  cases action with
  | createDirectories directory => exact keeps.idle _
  | create => cases only; exact keeps.edit leads
  | append => cases only; exact keeps.edit leads
  | sync => cases only; exact keeps.edit leads
  | remove => cases only; exact keeps.edit leads
  | rename => exact only.elim

theorem perform_createDirectories (disk : Disk) (directory : String) :
    perform (.createDirectories directory) disk =
      disk.after (.createDirectories directory) (!disk.course.fails) [] disk.files :=
  rfl

theorem files_create (performs : perform (.create path) disk = (true, changed)) :
    changed.files (disk.place path) = some [] := by
  change disk.edit (.create path) path (fun _ => some (some [])) = (true, changed) at performs
  have made := result_of_edit performs
  exact (Option.some.inj made).symm

theorem files_append {content : Bytes}
    (performs : perform (.append path content) disk = (true, changed)) :
    ∃ written, disk.files (disk.place path) = some written ∧
      changed.files (disk.place path) = some (written ++ content) := by
  obtain ⟨written, held, made⟩ := Option.map_eq_some_iff.1 (result_of_edit performs)
  exact ⟨written, held, made.symm⟩

theorem files_sync (performs : perform (.sync path) disk = (true, changed)) :
    changed.files (disk.place path) = disk.files (disk.place path) := by
  obtain ⟨written, held, made⟩ := Option.map_eq_some_iff.1 (result_of_edit performs)
  exact made.symm.trans held.symm

theorem files_remove (performs : perform (.remove path) disk = (true, changed)) :
    changed.files (disk.place path) = none := by
  obtain ⟨_, _, made⟩ := Option.map_eq_some_iff.1 (result_of_edit performs)
  exact made.symm

/-- A rename is done in one step, or it does nothing. -/
theorem perform_rename (disk : Disk) (source target : String) :
    perform (.rename source target) disk =
        disk.after (.rename source target) false [] disk.files ∨
      ∃ content, disk.files (disk.place source) = some content ∧
        perform (.rename source target) disk = disk.after (.rename source target) true []
          (Function.update (Function.update disk.files (disk.place source) none)
            (disk.place target) (some content)) := by
  rw [perform.eq_def]
  dsimp only
  split
  case h_1 content _ held => exact .inr ⟨content, held, rfl⟩
  case h_2 => exact .inl rfl

end Actions

/-! ## Sequences of actions -/

section Sequence

variable {actions : List FileAction} {disk : Disk} {path : String} {here : Place} {before : Files}

theorem KeepsBut.performAll (keeps : disk.KeepsBut here before) (leads : disk.place path = here)
    (only : ∀ action ∈ actions, action.StaysAt path) :
    (performAll Disk.perform actions disk).2.KeepsBut here before := by
  induction actions generalizing disk with
  | nil => exact keeps
  | cons action rest ih =>
    have next := keeps.perform leads (only action List.mem_cons_self)
    rw [performAll_cons]
    generalize performs : Disk.perform action disk = outcome at next ⊢
    obtain ⟨_ | _, changed⟩ := outcome
    · exact next
    · exact ih next ((place_of_perform performs path).trans leads)
        fun other later => only other (List.mem_cons_of_mem _ later)

theorem place_performAll (actions : List FileAction) (disk : Disk) (path : String) :
    (performAll perform actions disk).2.place path = disk.place path := by
  induction actions generalizing disk with
  | nil => rfl
  | cons action rest ih =>
    rw [performAll_cons]
    generalize performs : perform action disk = outcome
    obtain ⟨_ | _, changed⟩ := outcome
    · exact place_of_perform performs path
    · exact (ih changed).trans (place_of_perform performs path)

/-- A sequence succeeds if and only if every action that it came to did. -/
theorem performed_performAll (actions : List FileAction) (disk : Disk) :
    ∃ steps, (performAll perform actions disk).2.performed = disk.performed ++ steps ∧
      ((performAll perform actions disk).1 = true ↔ ∀ step ∈ steps, step.2 = true) := by
  induction actions generalizing disk with
  | nil =>
    refine ⟨[], (List.append_nil disk.performed).symm, fun _ _ member => ?_, fun _ => rfl⟩
    cases member
  | cons action rest ih =>
    have next := performed_perform disk action
    rw [performAll_cons]
    generalize perform action disk = outcome at next ⊢
    obtain ⟨_ | _, changed⟩ := outcome
    · exact ⟨[(action, false)], next, by simp⟩
    · obtain ⟨steps, performed, done⟩ := ih changed
      refine ⟨(action, true) :: steps, ?_, ?_⟩
      · rw [performed, next, List.append_assoc]
        rfl
      · simpa using done

end Sequence

end Disk

end Alerting
