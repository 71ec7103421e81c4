import Alerting.Proofs.Checkpoint.Saving
import Alerting.Proofs.Disk.Mirror

/-!
# Saves that fail

Up to the rename a save changes no file but the temporary one, whatever becomes of its actions,
and the rename happens at once. So at every moment what stands at the path is the whole of what
stood there or the whole of the new document, and which of them it is in the end is what the
save answers.
-/

namespace Alerting.Checkpoint

variable {disk : Disk} {path temporary : String}

/-! ## The temporary file -/

theorem slash_not_mem_extension (mark : Nat) : '/' ∉ (".tmp." ++ toString mark).toList := by
  have digits : '/' ∉ (toString mark).toList := by
    intro slash
    change '/' ∈ (Nat.repr mark).toList at slash
    rw [Nat.toList_repr] at slash
    exact absurd (Nat.isDigit_of_mem_toDigits (by decide) (by decide) slash) (by decide)
  rw [String.toList_append, List.mem_append]
  exact not_or_intro (by decide) digits

/-- The temporary file is never the one that is to be replaced. -/
theorem place_temporaryPath_ne {name : String} (named : Path.name? path = some name) (mark : Nat)
    (disk : Disk) : disk.place (temporaryPath path mark) ≠ disk.place path := by
  obtain ⟨directory, leads, besides⟩ := Path.exists_place_eq named disk.workingDirectory
  rw [Disk.place, Disk.place, temporaryPath, leads, besides _ (slash_not_mem_extension mark)]
  intro same
  have text := congrArg String.length (List.cons_eq_cons.1 (List.append_cancel_left same)).1
  simp [String.length_append] at text

/-! ## Writing and renaming -/

/-- The actions that write a document to the temporary file. -/
def writing (temporary : String) (document : Bytes) : List FileAction :=
  [.create temporary, .append temporary document, .sync temporary]

theorem staysAt_of_mem_writing {document : Bytes} :
    ∀ action ∈ writing temporary document, action.StaysAt temporary := by
  simp [writing, FileAction.StaysAt]

/-- A temporary file that was written is the document. -/
theorem files_writing {document : Bytes} {written : Disk}
    (writes : performAll Disk.perform (writing temporary document) disk = (true, written)) :
    written.files (disk.place temporary) = some document := by
  obtain ⟨emptied, creates, writes⟩ := performAll_cons_eq_true.1 writes
  obtain ⟨filled, appends, writes⟩ := performAll_cons_eq_true.1 writes
  obtain ⟨synced, syncs, writes⟩ := performAll_cons_eq_true.1 writes
  cases writes
  have atEmptied := Disk.place_of_perform creates temporary
  have atFilled := (Disk.place_of_perform appends temporary).trans atEmptied
  have empty := Disk.files_create creates
  obtain ⟨first, held, full⟩ := Disk.files_append appends
  rw [atEmptied] at held full
  obtain rfl : [] = first := Option.some.inj (empty.symm.trans held)
  have kept := Disk.files_sync syncs
  rw [atFilled] at kept
  exact kept.trans full

/-- How far a document came that was to replace another one. -/
theorem performAll_replacement (temporary path : String) (document : Bytes) {before : Files}
    (keeps : disk.KeepsBut (disk.place temporary) before) :
    (∃ left : Disk, performAll Disk.perform (replacement temporary path document) disk =
        (false, left) ∧
      left.KeepsBut (disk.place temporary) before ∧
      ∀ other, left.place other = disk.place other) ∨
    ∃ written : Disk, performAll Disk.perform (replacement temporary path document) disk =
        written.after (.rename temporary path) true []
          (Function.update (Function.update written.files (disk.place temporary) none)
            (disk.place path) (some document)) ∧
      written.KeepsBut (disk.place temporary) before := by
  -- Up to the rename, success or not, no other file is concerned.
  have kept := keeps.performAll rfl (@staysAt_of_mem_writing temporary document)
  have same (other : String) :=
    Disk.place_performAll (writing temporary document) disk other
  have parts : replacement temporary path document =
      writing temporary document ++ [.rename temporary path] := rfl
  rw [parts, performAll_append]
  have full := @files_writing disk temporary document
  generalize performAll Disk.perform (writing temporary document) disk = outcome at kept same full ⊢
  obtain ⟨_ | _, written⟩ := outcome
  · exact .inl ⟨written, rfl, kept, same⟩
  · dsimp only at kept same ⊢
    rw [performAll_cons]
    obtain stays | ⟨content, held, renames⟩ := Disk.perform_rename written temporary path
    · refine .inl ⟨_, by rw [stays]; rfl, kept.idle false, same⟩
    · refine .inr ⟨written, ?_, kept⟩
      rw [same, full rfl] at held
      cases held
      rw [renames, same, same]
      rfl

/-! ## Saving -/

/-- How a save ends: before anything is written, by a removal, or by a rename. -/
theorem save_cases (checkpoint : Checkpoint) (mark : Nat) (path : String) {before : Files}
    (keeps : disk.KeepsBut (disk.place (temporaryPath path mark)) before) :
    checkpoint.save Disk.perform mark path disk =
        (.error (.cannotCreateDirectory (Path.directory path)),
          (disk.after (.createDirectories (Path.directory path)) false [] disk.files).2) ∨
      (∃ left : Disk, left.KeepsBut (disk.place (temporaryPath path mark)) before ∧
        (∀ other, left.place other = disk.place other) ∧
        checkpoint.save Disk.perform mark path disk =
          (.error (.cannotWrite path), (Disk.perform (.remove (temporaryPath path mark)) left).2)) ∨
      ∃ written : Disk, written.KeepsBut (disk.place (temporaryPath path mark)) before ∧
        checkpoint.save Disk.perform mark path disk =
          (.ok (), (written.after (.rename (temporaryPath path mark) path) true []
            (Function.update
              (Function.update written.files (disk.place (temporaryPath path mark)) none)
              (disk.place path) (some checkpoint.document))).2) := by
  have created := Disk.perform_createDirectories disk (Path.directory path)
  rw [save_eq]
  cases fails : disk.course.fails with
  | true =>
    rw [fails] at created
    rw [created]
    exact .inl rfl
  | false =>
    rw [fails] at created
    have kept : (Disk.perform (.createDirectories (Path.directory path)) disk).2.KeepsBut
        (disk.place (temporaryPath path mark)) before := keeps.perform rfl trivial
    obtain ⟨made, creates⟩ : ∃ made, Disk.perform (.createDirectories (Path.directory path)) disk =
        (true, made) := ⟨_, created⟩
    have same := Disk.place_of_perform creates
    rw [creates, ← same] at kept
    rw [creates]
    obtain ⟨left, stops, kept, still⟩ | ⟨written, replaces, kept⟩ :=
      performAll_replacement (temporaryPath path mark) path checkpoint.document kept
    · rw [same] at kept
      refine .inr (.inl ⟨left, kept, fun other => (still other).trans (same other), ?_⟩)
      dsimp only
      rw [stops]
    · rw [same] at kept
      refine .inr (.inr ⟨written, kept, ?_⟩)
      dsimp only
      rw [replaces, same, same]
      rfl

/-- A save succeeds if and only if every action that it came to did. -/
theorem save_eq_ok_iff (checkpoint : Checkpoint) (mark : Nat) (path : String)
    (fresh : disk.performed = []) :
    (checkpoint.save Disk.perform mark path disk).1 = .ok () ↔
      ∀ step ∈ (checkpoint.save Disk.perform mark path disk).2.performed, step.2 = true := by
  have created := Disk.performed_perform disk (.createDirectories (Path.directory path))
  rw [save_eq]
  generalize Disk.perform (.createDirectories (Path.directory path)) disk = outcome at created ⊢
  obtain ⟨_ | _, made⟩ := outcome
  · dsimp only at created
    simp [created, fresh]
  · obtain ⟨steps, performed, done⟩ := Disk.performed_performAll
      (replacement (temporaryPath path mark) path checkpoint.document) made
    dsimp only
    generalize performAll Disk.perform
      (replacement (temporaryPath path mark) path checkpoint.document) made = outcome
      at performed done ⊢
    obtain ⟨_ | _, last⟩ := outcome
    all_goals dsimp only at created performed
    · have removed := Disk.performed_perform last (.remove (temporaryPath path mark))
      constructor
      · intro saved
        cases saved
      · -- One of the actions before the removal failed.
        intro all
        have succeeds := done.2 fun step member => all step (by simp [removed, performed, member])
        cases succeeds
    · rw [performed, created, fresh]
      simpa using done

/-- What is left when the temporary file is removed in the end, or is not. -/
theorem perform_remove_temporary (path : String) {left : Disk} {here : Place} {before : Files}
    (kept : left.KeepsBut here before) (leads : left.place temporary = here) :
    (Disk.perform (.remove temporary) left).2.KeepsBut here before ∧
      (Disk.perform (.remove temporary) left).2.place path = left.place path ∧
      ∃ removed, (Disk.perform (.remove temporary) left).2.performed.getLast? =
          some (.remove temporary, removed) ∧
        (removed = true → (Disk.perform (.remove temporary) left).2.files here = none) := by
  have keeps := kept.perform leads (show FileAction.StaysAt temporary (.remove temporary) from rfl)
  have performed := Disk.performed_perform left (.remove temporary)
  generalize removes : Disk.perform (.remove temporary) left = outcome at keeps performed ⊢
  obtain ⟨removed, swept⟩ := outcome
  refine ⟨keeps, Disk.place_of_perform removes path, removed, ?_, ?_⟩
  · dsimp only at performed ⊢
    rw [performed, List.getLast?_concat]
  · rintro rfl
    rw [← leads]
    exact Disk.files_remove removes

/--
What a save may show at a moment: all files as they were but the temporary one and the one at the
path, which holds all of what it held before or all of the new document.
-/
def Intact (before : Files) (target here : Place) (document : Bytes) (moment : Files) : Prop :=
  (∀ place, place ≠ target → place ≠ here → moment place = before place) ∧
    (moment target = before target ∨ moment target = some document)

section Moments

variable {last written : Disk} {here target : Place} {before : Files} {document : Bytes}

theorem intact_of_keepsBut (kept : disk.KeepsBut here before) (apart : here ≠ target) :
    ∀ moment ∈ disk.files :: disk.moments, Intact before target here document moment := by
  intro moment member
  have keeps : ∀ place, place ≠ here → moment place = before place := by
    obtain rfl | earlier := List.mem_cons.1 member
    · exact kept.files
    · exact kept.moments moment earlier
  exact ⟨fun place _ other => keeps place other, .inl (keeps target apart.symm)⟩

/-- The temporary file in the place of the other one, after moments in which only it changed. -/
theorem intact_of_rename (kept : written.KeepsBut here before) (apart : here ≠ target)
    (files : last.files =
      Function.update (Function.update written.files here none) target (some document))
    (moments : last.moments = written.moments ++ [last.files]) :
    ∀ moment ∈ last.files :: last.moments, Intact before target here document moment := by
  have renamed : Intact before target here document last.files := by
    rw [files]
    refine ⟨fun place notTarget notHere => ?_, .inr (Function.update_self _ _ _)⟩
    rw [Function.update_of_ne notTarget, Function.update_of_ne notHere]
    exact kept.files place notHere
  intro moment member
  rw [moments, List.mem_cons, List.mem_append, List.mem_singleton] at member
  obtain rfl | earlier | rfl := member
  · exact renamed
  · exact intact_of_keepsBut kept apart moment (List.mem_cons_of_mem _ earlier)
  · exact renamed

end Moments

/-- What a save does to the files of a tree, whatever refuses its actions there, it does to the same
files of a disk on some courses. -/
theorem follows_save (checkpoint : Checkpoint) (mark : Nat) (path : String) :
    Disk.Follows (checkpoint.save Disk.perform mark path)
      (checkpoint.save FileTree.performing mark path) := by
  refine (Disk.follows_perform _).bind fun made => ?_
  cases made
  · exact Disk.follows_pure _
  · refine (Disk.follows_performAll _).bind fun replaced => ?_
    cases replaced
    · exact (Disk.follows_perform _).bind fun _ => Disk.follows_pure _
    · exact Disk.follows_pure _

/--
A save on a disk where any of its actions may fail, at a path that has a name. Its temporary file
is not the one at the path. A save that fails leaves the file at the path as it was, and so what
is loaded from there; it has changed nothing at all, or the last that it did was to remove the
temporary file, which then is gone if that succeeded. A save that succeeds leaves the whole
document at the path and no temporary file. At every moment until then, all other files are as
they were, and the path holds all of what it held before or all of the new document. Saves in
trees are among these: each has the answer and leaves the files of one on a disk with its files.
-/
theorem saves_replace_whole_or_nothing (checkpoint : Checkpoint) (mark : Nat) (path : String)
    (named : (Path.name? path).isSome = true) :
    (∀ (files : Files) (workingDirectory : Place) (courses : List Course),
      let disk : Disk := { files, workingDirectory, courses }
      let target := disk.place path
      let temporary := disk.place (temporaryPath path mark)
      let saved := checkpoint.save Disk.perform mark path disk
      let last := saved.2
      temporary ≠ target ∧
        (saved.1 = .ok () ↔ ∀ step ∈ last.performed, step.2 = true) ∧
        (saved.1 = .ok () →
          last.files target = some checkpoint.document ∧ last.files temporary = none) ∧
        (saved.1 ≠ .ok () →
          last.files target = files target ∧
            load path (last.read path) = load path (disk.read path) ∧
            (saved.1 = .error (.cannotCreateDirectory (Path.directory path)) ∧ last.files = files ∨
              saved.1 = .error (.cannotWrite path) ∧
                ∃ removed, last.performed.getLast? =
                    some (.remove (temporaryPath path mark), removed) ∧
                  (removed = true → last.files temporary = none))) ∧
        ∀ moment ∈ last.files :: last.moments,
          Intact files target temporary checkpoint.document moment) ∧
    ∀ tree : FileTree, ∃ courses,
      let disk : Disk :=
        { files := tree.contentAt?, workingDirectory := tree.workingDirectory, courses }
      let saved := checkpoint.save FileTree.performing mark path tree
      (checkpoint.save Disk.perform mark path disk).1 = saved.1 ∧
        (checkpoint.save Disk.perform mark path disk).2.files = saved.2.contentAt? := by
  obtain ⟨name, named⟩ := Option.isSome_iff_exists.1 named
  refine ⟨fun files workingDirectory courses => ?onDisks, fun tree => ?inTrees⟩
  case inTrees =>
    obtain ⟨courses, follows⟩ := follows_save checkpoint mark path tree
    let disk : Disk :=
      { files := tree.contentAt?, workingDirectory := tree.workingDirectory, courses }
    obtain ⟨answer, mirrors, -⟩ := follows disk [] ⟨rfl, rfl⟩ (List.append_nil courses).symm
    exact ⟨courses, answer, mirrors.files⟩
  case onDisks =>
    intro disk target temporary
    have apart : temporary ≠ target := place_temporaryPath_ne named mark disk
    have fresh : disk.KeepsBut temporary files :=
      ⟨fun _ _ => rfl, fun _ member => nomatch member⟩
    have succeeds := @save_eq_ok_iff disk checkpoint mark path rfl
    have ends := save_cases checkpoint mark path fresh
    generalize checkpoint.save Disk.perform mark path disk = saved at succeeds ends ⊢
    intro saved last
    refine ⟨apart, succeeds, ?_⟩
    -- There is no directory; the temporary file was tried and removed; it was renamed.
    obtain rfl | ⟨left, kept, same, rfl⟩ | ⟨written, kept, rfl⟩ := ends
    · have kept := @Disk.KeepsBut.idle disk (.createDirectories (Path.directory path)) temporary
        files fresh false
      refine ⟨(nomatch ·), fun _ => ⟨rfl, rfl, .inl ⟨rfl, rfl⟩⟩, intact_of_keepsBut kept apart⟩
    · obtain ⟨kept, leads, removed, tried, gone⟩ := perform_remove_temporary path kept (same _)
      have stands : last.files target = files target := kept.files target apart.symm
      have reads : last.read path = disk.read path := by
        have leads : last.place path = target := leads.trans (same path)
        rw [Disk.read, Disk.read, leads, stands]
      refine ⟨(nomatch ·), fun _ => ⟨stands, congrArg (load path) reads, .inr ?_⟩,
        intact_of_keepsBut kept apart⟩
      exact ⟨rfl, removed, tried, gone⟩
    · have files : last.files =
          Function.update (Function.update written.files temporary none) target
            (some checkpoint.document) := rfl
      have moments : last.moments = written.moments ++ [last.files] := by
        change written.moments ++ [] ++ [last.files] = _
        rw [List.append_nil]
      have stands : last.files target = some checkpoint.document := by
        rw [files, Function.update_self]
      have gone : last.files temporary = none := by
        rw [files, Function.update_of_ne apart, Function.update_self]
      refine ⟨fun _ => ⟨stands, gone⟩, fun fails => (fails rfl).elim, ?_⟩
      exact intact_of_rename kept apart files moments

/-- The disk is full when part of the document is written, over one that was left there before. -/
theorem saves_replace_whole_or_nothing_full_disk :
    let checkpoint : Checkpoint := { version := 1, takenAt := 5, alerts := ∅ }
    let files : Files := fun place => if place = ["srv", "state"] then some [0x7b] else some []
    let full : Course := { meanwhile := [some [0x7b, 0x22]], fails := true }
    let disk : Disk := { files, workingDirectory := ["srv"], courses := [{}, {}, full] }
    let saved := checkpoint.save Disk.perform 7 "state/." disk
    (Path.name? "state/.").isSome = true ∧ saved.1 = .error (.cannotWrite "state/.") ∧
      (saved.2.moments.any fun moment => moment ["srv", "state.tmp.7"] = some [0x7b, 0x22]) ∧
      saved.2.files ["srv", "state"] = some [0x7b] ∧
      saved.2.files ["srv", "state.tmp.7"] = none := by
  intro checkpoint files full disk saved
  have named : (Path.name? "state/.").isSome = true := by decide +kernel
  have fails : saved.1 = .error (.cannotWrite "state/.") := by decide +kernel
  have partly : (saved.2.moments.any fun moment =>
      moment ["srv", "state.tmp.7"] = some [0x7b, 0x22]) = true := by decide +kernel
  have swept : saved.2.performed.getLast? = some (.remove "state.tmp.7", true) := by decide +kernel
  obtain ⟨onDisks, -⟩ := saves_replace_whole_or_nothing checkpoint 7 "state/." named
  obtain ⟨-, -, -, kept, -⟩ := onDisks files ["srv"] [{}, {}, full]
  obtain ⟨stands, -, ⟨refused, -⟩ | ⟨-, removed, tried, gone⟩⟩ :=
    kept (by rw [fails]; exact (nomatch ·))
  · cases fails.symm.trans refused
  · have target : disk.place "state/." = ["srv", "state"] := by decide +kernel
    have temporary : disk.place (temporaryPath "state/." 7) = ["srv", "state.tmp.7"] := by
      decide +kernel
    have done : removed = true :=
      Option.some.inj (congrArg (Option.map Prod.snd) (tried.symm.trans swept))
    change saved.2.files (disk.place "state/.") = files (disk.place "state/.") at stands
    change removed = true → saved.2.files (disk.place (temporaryPath "state/." 7)) = none at gone
    rw [target] at stands
    rw [temporary] at gone
    exact ⟨named, fails, partly, stands.trans (if_pos rfl), gone done⟩

end Alerting.Checkpoint
