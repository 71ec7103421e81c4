import Alerting.Checkpoint.Saving
import Alerting.Proofs.Checkpoint.RoundTrip
import Alerting.Proofs.FileTree

/-!
# What was saved is what is loaded

A save that succeeds leaves the document of its checkpoint, and nothing more or less, where it
was told to. Of what stands there only documents of the current version are loaded, each as the
checkpoint that was saved.
-/

namespace Alerting.Checkpoint

variable {tree last : FileTree} {path : String}

/-- A document that is written beside a path and then put in its place stands there whole. -/
theorem read_of_replacement {temporary : String} {document : Bytes}
    (replaced : tree.performEach (replacement temporary path document) = (true, last)) :
    last.read path = .bytes document := by
  rcases FileTree.performEach_cons.1 replaced with ⟨emptied, creates, rest⟩
  rcases FileTree.performEach_cons.1 rest with ⟨filled, appends, rest⟩
  rcases FileTree.performEach_cons.1 rest with ⟨synced, syncs, rest⟩
  rcases FileTree.performEach_cons.1 rest with ⟨renamed, renames, rest⟩
  cases FileTree.performEach_nil.1 rest
  rcases FileTree.perform_sync.1 syncs with ⟨-, rfl⟩
  rcases FileTree.perform_create.1 creates with ⟨place, free, rfl⟩
  rcases FileTree.filePlace?_eq_some.1 free with ⟨named, free⟩
  have empty := FileTree.file?_put named free []
  rcases FileTree.perform_append.1 appends with ⟨place', written, held, rfl⟩
  cases empty.symm.trans held
  have full := FileTree.file?_put (FileTree.file?_eq_some.1 empty).1
    (FileTree.not_isDirectory_of_contentAt? (FileTree.file?_eq_some.1 empty).2) document
  rcases FileTree.file?_rename full renames with ⟨goal, found⟩
  exact FileTree.read_of_file? found

/-- What a save does. -/
theorem save_eq {σ : Type} (checkpoint : Checkpoint) (perform : FileAction → StateM σ Bool)
    (mark : Nat) (path : String) (state : σ) :
    checkpoint.save perform mark path state =
      match perform (.createDirectories (Path.directory path)) state with
      | (false, made) => (.error (.cannotCreateDirectory (Path.directory path)), made)
      | (true, made) =>
        match performAll perform
          (replacement (temporaryPath path mark) path checkpoint.document) made with
        | (true, last) => (.ok (), last)
        | (false, left) =>
          (.error (.cannotWrite path), (perform (.remove (temporaryPath path mark)) left).2) := by
  simp only [save, bind, StateT.bind]
  rcases perform (.createDirectories (Path.directory path)) state with ⟨_ | _, made⟩
  · rfl
  · simp only [if_true, StateT.bind, bind]
    rcases performAll perform
      (replacement (temporaryPath path mark) path checkpoint.document) made with ⟨_ | _, last⟩ <;> rfl

/-- A save that succeeds has put the document in its place. -/
theorem performEach_of_save {checkpoint : Checkpoint} {mark : Nat}
    (saved : checkpoint.save FileTree.performing mark path tree = (.ok (), last)) :
    ∃ made : FileTree,
      made.performEach (replacement (temporaryPath path mark) path checkpoint.document) =
        (true, last) := by
  rw [save_eq] at saved
  rcases created : FileTree.performing (.createDirectories (Path.directory path)) tree with
    ⟨_ | _, made⟩
  · rw [created] at saved
    cases saved
  · rw [created] at saved
    rcases replaced : performAll FileTree.performing
      (replacement (temporaryPath path mark) path checkpoint.document) made with ⟨_ | _, last'⟩
    · simp only [replaced] at saved
      cases saved
    · simp only [replaced] at saved
      cases saved
      exact ⟨made, replaced⟩

theorem exists_eq_ok {saved : Except SaveError Unit × FileTree}
    (succeeds : saved.1.toOption.isSome = true) : ∃ last, saved = (.ok (), last) := by
  rcases saved with ⟨_ | _, last⟩
  · cases succeeds
  · exact ⟨last, rfl⟩

/-- Different checkpoints have different documents. -/
theorem eq_of_document_eq {checkpoint other : Checkpoint}
    (same : checkpoint.document = other.document) : checkpoint = other := by
  have read := ofDocument?_document checkpoint
  rw [same, ofDocument?_document] at read
  exact (Option.some.inj read).symm

/--
A checkpoint of any version that is saved where no action fails. The path then holds its
document, byte for byte. A document of the current version is loaded as exactly its checkpoint,
what is absent from it and what is empty kept apart, and a document of any other version is
refused. Hence no two checkpoints have the same document.
-/
theorem saved_checkpoints_are_read_back (checkpoint : Checkpoint) :
    (∀ tree last mark path,
      checkpoint.save FileTree.performing mark path tree = (.ok (), last) →
        last.read path = .bytes checkpoint.document) ∧
      (∀ path, load path (.bytes checkpoint.document) =
        if checkpoint.version = currentVersion then .ok (some checkpoint)
        else .error (.unsupportedVersion path checkpoint.version)) ∧
      ∀ other : Checkpoint, other.document = checkpoint.document → other = checkpoint := by
  refine ⟨?_, ?_, fun other same => eq_of_document_eq same⟩
  · intro tree last mark path saved
    rcases performEach_of_save saved with ⟨made, replaced⟩
    exact read_of_replacement replaced
  · intro path
    rw [load, ofDocument?_document]

/-- A record without tags beside one without any tag, in a directory that is still to be made. -/
theorem saved_checkpoints_are_read_back_new_directory :
    let checkpoint : Checkpoint := {
      version := 1, takenAt := Int64.minValue
      alerts := SortedMap.ofList [(18446744073709551615,
        [{ entity := 0 }, { entity := 1, tags := some ∅, lastSeen := some 5 }]), (10, [])] }
    ∃ last, checkpoint.save FileTree.performing 7 "a/../b/state.json" {} = (.ok (), last) ∧
      load "state.json" (last.read "a/../b/state.json") = .ok (some checkpoint) := by
  intro checkpoint
  have succeeds : ∃ last, checkpoint.save FileTree.performing 7 "a/../b/state.json" {} =
      (.ok (), last) := exists_eq_ok (by decide +kernel)
  rcases succeeds with ⟨last, saved⟩
  rcases saved_checkpoints_are_read_back checkpoint with ⟨stands, loads, -⟩
  refine ⟨last, saved, ?_⟩
  rw [stands _ _ _ _ saved]
  exact loads "state.json"

end Alerting.Checkpoint
