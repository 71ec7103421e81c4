/-!
# Paths

A path is a text of names between slashes. Empty names and single dots lead nowhere. The
directory of a path and its name are read off the text alone, whatever stands on a disk.
-/

namespace Alerting

namespace Path

/-- The pieces of a text between its slashes. There is one slash less than there are pieces. -/
def split : List Char → List (List Char)
  | [] => [[]]
  | character :: rest =>
    if character = '/' then [] :: split rest
    else match split rest with
      | [] => [[character]]
      | piece :: pieces => (character :: piece) :: pieces

/-- The pieces of a path. -/
def pieces (path : String) : List String := (split path.toList).map String.ofList

/-- The path of some pieces. -/
def ofPieces (pieces : List String) : String := String.intercalate "/" pieces

/-- A piece that leads nowhere. -/
def isIdle (piece : String) : Bool := piece = "" || piece = "."

/--
The pieces of a path, those before the first name apart: the empty piece before the
slash that makes a path absolute, and a dot at the beginning, which is kept for show.
-/
def splitRoot (path : String) : List String × List String :=
  match pieces path with
  | "" :: piece :: rest => ([""], piece :: rest)
  | "." :: rest => (["."], rest)
  | pieces => ([], pieces)

/-- The last name of a path and the pieces before it. Idle pieces around it are left out. -/
def last? (path : String) : Option (List String × String) :=
  let (root, body) := splitRoot path
  match body.reverse.dropWhile isIdle with
  | [] => none
  | name :: before => some (root ++ (before.dropWhile isIdle).reverse, name)

/-- The directory that a path is in. -/
def directory (path : String) : String :=
  match last? path with
  | none | some ([], _) => "."
  | some ([""], _) => "/"
  | some (before, _) => ofPieces before

/-- The name of what a path leads to. A path that ends by going up has none. -/
def name? (path : String) : Option String :=
  match last? path with
  | none | some (_, "..") => none
  | some (_, name) => some name

/-- The path of a file beside the one at a path, its name extended. -/
def beside (path extension : String) : String :=
  match name? path, last? path with
  | some name, some (before, _) => ofPieces (before ++ [name ++ extension])
  | _, _ =>
    if path.isEmpty || path.toList.getLast? = some '/' then path ++ "checkpoint" ++ extension
    else path ++ "/checkpoint" ++ extension

end Path

end Alerting
