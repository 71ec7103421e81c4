import Alerting.FileTree
import Mathlib.Logic.Function.Basic

/-!
# Disks that fail

A disk that holds files, on which every action may fail. While an action changes a file, and
after it failed, anything may stand in that file, such as a part of what was to be written; a
rename alone happens at once or not at all. Whether there are directories to hold the files, and
what else lets an action fail, is left to the course that the action takes.

Without links, a path leads where its pieces say, whatever stands on the way.
-/

namespace Alerting

namespace Path

/-- Where pieces lead from a place on. -/
def walk (place : Place) : List String → Place
  | [] => place
  | piece :: rest =>
    if isIdle piece then walk place rest
    else if piece = ".." then walk place.dropLast rest
    else walk (place ++ [piece]) rest

/-- Where a path leads if relative paths begin at `start`. -/
def place (start : Place) (path : String) : Place :=
  let (root, body) := splitRoot path
  walk (if root = [""] then [] else start) body

end Path

/-- What stands at every place; nothing where no file is. -/
abbrev Files := Place → Option Bytes

/-- How a disk goes about an action. -/
structure Course where
  /-- What the file that is changed holds in the meantime, one thing after the other. -/
  meanwhile : List (Option Bytes) := []
  /-- The action fails, and the file is left with what it held last. -/
  fails : Bool := false

/-- A disk, and what became of it so far. -/
structure Disk where
  files : Files
  /-- Where relative paths begin. -/
  workingDirectory : Place := []
  /-- How the next actions go. All those after them go well. -/
  courses : List Course := []
  /-- What the disk has held, one moment after the other. -/
  moments : List Files := []
  /-- The actions so far, and whether they succeeded. -/
  performed : List (FileAction × Bool) := []

namespace Disk

/-- The place that a path leads to. -/
def place (disk : Disk) (path : String) : Place := Path.place disk.workingDirectory path

/-- What stands at a path. -/
def read (disk : Disk) (path : String) : FileContent :=
  ((disk.files (disk.place path)).map .bytes).getD .absent

/-- The disk after an action during which it held some things, and at whose end it holds
`files`. -/
def after (disk : Disk) (action : FileAction) (done : Bool) (between : List Files)
    (files : Files) : Bool × Disk :=
  (done, { disk with
    files
    courses := disk.courses.tail
    moments := disk.moments ++ between ++ [files]
    performed := disk.performed ++ [(action, done)] })

/-- The course of the next action. -/
def course (disk : Disk) : Course := disk.courses.headD {}

/-- An action on one file, which makes something of what the file holds or cannot. -/
def edit (disk : Disk) (action : FileAction) (path : String)
    (result : Option Bytes → Option (Option Bytes)) : Bool × Disk :=
  let here := disk.place path
  let between := disk.course.meanwhile.map fun content => Function.update disk.files here content
  match disk.course.fails, result (disk.files here) with
  | false, some content => disk.after action true between (Function.update disk.files here content)
  | _, _ => disk.after action false between (between.getLastD disk.files)

/-- Performs an action, which fails if its course says so or a file that it needs is absent. -/
def perform (action : FileAction) : StateM Disk Bool := fun disk =>
  match action with
  | .createDirectories _ => disk.after action (!disk.course.fails) [] disk.files
  | .create path => disk.edit action path fun _ => some (some [])
  | .append path content => disk.edit action path fun held =>
      held.map fun written => some (written ++ content)
  | .sync path => disk.edit action path fun held => held.map some
  | .remove path => disk.edit action path fun held => held.map fun _ => none
  | .rename source target =>
    match disk.course.fails, disk.files (disk.place source) with
    | false, some content => disk.after action true []
        (Function.update (Function.update disk.files (disk.place source) none)
          (disk.place target) (some content))
    | _, _ => disk.after action false [] disk.files

end Disk

end Alerting
