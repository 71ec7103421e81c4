import Alerting.Host
import Alerting.Path
import Alerting.SortedMap

/-!
# Directory trees

Directories and files held in memory, and what the actions on files do to them. A path
is followed piece by piece, so that a step up leads back to where the path came from,
and a path through a file leads nowhere. Entries are sorted by their places, which puts
a directory before what it holds.
-/

namespace Alerting

/-- What stands at a place. -/
inductive FileNode where
  | directory
  | file (content : Bytes)
  deriving DecidableEq

/-- The names that lead to a place from the root. -/
abbrev Place := List String

/-- A tree. The root is always a directory. -/
structure FileTree where
  nodes : SortedMap Place FileNode := ∅
  /-- Where relative paths begin. -/
  workingDirectory : Place := []
  deriving DecidableEq

/-- Where a path leads. -/
inductive Lookup where
  | found (place : Place)
  | missing
  /-- The path cannot be followed: a file is in its way, or a name is too long. -/
  | blocked
  deriving DecidableEq

namespace FileTree

/-- The greatest number of bytes in a name. -/
def nameLimit : Nat := 255

/-- The greatest number of bytes in a path. -/
def pathLimit : Nat := 4095

def nodeAt? (tree : FileTree) (place : Place) : Option FileNode :=
  if place = [] then some .directory else tree.nodes.get? place

def isDirectory (tree : FileTree) (place : Place) : Bool := tree.nodeAt? place = some .directory

/-- The content of the file at a place. -/
def contentAt? (tree : FileTree) (place : Place) : Option Bytes :=
  match tree.nodeAt? place with
  | some (.file content) => some content
  | _ => none

def put (tree : FileTree) (place : Place) (node : FileNode) : FileTree :=
  { tree with nodes := tree.nodes.insert place node }

def erase (tree : FileTree) (place : Place) : FileTree :=
  { tree with nodes := tree.nodes.filter fun other _ => other ≠ place }

/-- A text that can be a path at all. -/
def isPath (path : String) : Bool :=
  path ≠ "" && path.utf8ByteSize ≤ pathLimit && !path.toList.contains '\x00'

/-- Where a path begins. -/
def beginning (tree : FileTree) (path : String) : Place :=
  if path.toList.head? = some '/' then [] else tree.workingDirectory

/-- Follows pieces from a place on. -/
def follow (tree : FileTree) (place : Place) : List String → Lookup
  | [] => .found place
  | piece :: rest =>
    if !tree.isDirectory place then .blocked
    else if Path.isIdle piece then tree.follow place rest
    else if piece = ".." then tree.follow place.dropLast rest
    else if nameLimit < piece.utf8ByteSize then .blocked
    else match tree.nodeAt? (place ++ [piece]) with
      | none => .missing
      | some _ => tree.follow (place ++ [piece]) rest

/-- What stands at a path. -/
def read (tree : FileTree) (path : String) : FileContent :=
  if path = "" then .absent
  else if !isPath path then .unreadable
  else match tree.follow (tree.beginning path) (Path.pieces path) with
    | .missing => .absent
    | .blocked => .unreadable
    | .found place => ((tree.contentAt? place).map .bytes).getD .unreadable

/-- The place that a path names in a directory, whether or not something stands there. -/
def place? (tree : FileTree) (path : String) : Option Place :=
  if !isPath path then none
  else match (Path.pieces path).reverse with
    | [] => none
    | name :: before =>
      if Path.isIdle name || name = ".." || nameLimit < name.utf8ByteSize then none
      else match tree.follow (tree.beginning path) before.reverse with
        | .found place => if tree.isDirectory place then some (place ++ [name]) else none
        | _ => none

/-- The place of a path that is free or holds a file. -/
def filePlace? (tree : FileTree) (path : String) : Option Place :=
  (tree.place? path).filter fun place => !tree.isDirectory place

/-- The place and the content of the file at a path. -/
def file? (tree : FileTree) (path : String) : Option (Place × Bytes) := do
  let place ← tree.place? path
  let content ← tree.contentAt? place
  some (place, content)

/-- Makes the directories that pieces lead through. Those made before a failure stay. -/
def makeDirectories (place : Place) : List String → FileTree → Bool × FileTree
  | [], tree => (true, tree)
  | piece :: rest, tree =>
    if Path.isIdle piece then makeDirectories place rest tree
    else if piece = ".." then makeDirectories place.dropLast rest tree
    else if nameLimit < piece.utf8ByteSize then (false, tree)
    else match tree.nodeAt? (place ++ [piece]) with
      | some .directory => makeDirectories (place ++ [piece]) rest tree
      | some (.file _) => (false, tree)
      | none => makeDirectories (place ++ [piece]) rest (tree.put (place ++ [piece]) .directory)

/-- The tree after an action that changes one file or none, unless the action fails. -/
def change? (tree : FileTree) : FileAction → Option FileTree
  | .createDirectories _ => none
  | .create path => do
    let place ← tree.filePlace? path
    some (tree.put place (.file []))
  | .append path content => do
    let (place, written) ← tree.file? path
    some (tree.put place (.file (written ++ content)))
  | .sync path => (tree.file? path).map fun _ => tree
  | .rename source target => do
    let (place, content) ← tree.file? source
    let goal ← tree.filePlace? target
    some ((tree.erase place).put goal (.file content))
  | .remove path => do
    let (place, _) ← tree.file? path
    some (tree.erase place)

/-- Performs an action and tells whether it succeeded. -/
def perform (tree : FileTree) : FileAction → Bool × FileTree
  | .createDirectories path =>
    if isPath path then makeDirectories (tree.beginning path) (Path.pieces path) tree
    else (false, tree)
  | action =>
    match tree.change? action with
    | none => (false, tree)
    | some changed => (true, changed)

/-- Everything below a place, by the names that lead there from it. Directories end in a slash. -/
def listing (tree : FileTree) (place : Place) : List String :=
  (tree.nodes.toList.filter fun entry =>
    place.isPrefixOf entry.1 && place.length < entry.1.length).map fun entry =>
      let path := Path.ofPieces (entry.1.drop place.length)
      if entry.2 = .directory then path ++ "/" else path

/-- The tree as a machine with an environment, without a terminal. Its clocks stand still. -/
def host (settings : List (String × String)) (input : Bytes) (now : Instant)
    (timerClock mark : Nat) : Host (StateM FileTree) where
  environment name := pure (settings.lookup name)
  printsToTerminal := pure false
  read path := fun tree => (tree.read path, tree)
  perform action := fun tree => tree.perform action
  standardInput := pure input
  now := pure now
  timerClock := pure timerClock
  mark := pure mark

end FileTree

end Alerting
