import Alerting.Disk
import Mathlib.Data.List.DropRight

/-!
# Where paths lead

Without links, a path leads where its pieces say, whatever stands on the way. So two texts can
name the same place, but the path of a file beside another one never does: it leads into the
same directory and ends in a longer name.
-/

namespace Alerting.Path

/-! ## Pieces -/

theorem split_ne_nil (text : List Char) : split text ≠ [] := by
  cases text with
  | nil => simp [split]
  | cons character rest =>
    rw [split]
    split
    · simp
    · split <;> simp

/-- A slash ends a piece. -/
theorem split_append_slash {piece : List Char} (whole : '/' ∉ piece) (rest : List Char) :
    split (piece ++ '/' :: rest) = piece :: split rest := by
  induction piece with
  | nil => simp [split]
  | cons character piece ih =>
    rw [List.mem_cons, not_or] at whole
    rw [List.cons_append, split, if_neg (Ne.symm whole.1), ih whole.2]

theorem split_of_not_mem {piece : List Char} (whole : '/' ∉ piece) : split piece = [piece] := by
  induction piece with
  | nil => rfl
  | cons character piece ih =>
    rw [List.mem_cons, not_or] at whole
    rw [split, if_neg (Ne.symm whole.1), ih whole.2]

/-- No piece holds a slash. -/
theorem not_mem_of_mem_split {text piece : List Char} (member : piece ∈ split text) :
    '/' ∉ piece := by
  induction text generalizing piece with
  | nil =>
    obtain rfl := List.mem_singleton.1 member
    exact List.not_mem_nil
  | cons character rest ih =>
    rw [split] at member
    by_cases slash : character = '/'
    · rw [if_pos slash] at member
      obtain rfl | later := List.mem_cons.1 member
      · exact List.not_mem_nil
      · exact ih later
    · rw [if_neg slash] at member
      cases pieces : split rest with
      | nil => exact absurd pieces (split_ne_nil rest)
      | cons first others =>
        rw [pieces] at member ih
        obtain rfl | later := List.mem_cons.1 member
        · rw [List.mem_cons, not_or]
          exact ⟨Ne.symm slash, ih List.mem_cons_self⟩
        · exact ih (List.mem_cons_of_mem _ later)

/-- Pieces without slashes are the pieces of their path. -/
theorem split_intercalate {pieces : List (List Char)} (some : pieces ≠ [])
    (whole : ∀ piece ∈ pieces, '/' ∉ piece) : split (['/'].intercalate pieces) = pieces := by
  induction pieces with
  | nil => exact absurd rfl some
  | cons piece rest ih =>
    have here := whole piece List.mem_cons_self
    cases rest with
    | nil => simpa using split_of_not_mem here
    | cons next rest =>
      rw [List.intercalate_cons_cons, List.append_assoc, List.singleton_append,
        split_append_slash here, ih (by simp) fun other member => whole other (by simp [member])]

theorem pieces_ofPieces {pieces : List String} (some : pieces ≠ [])
    (whole : ∀ piece ∈ pieces, '/' ∉ piece.toList) : Path.pieces (ofPieces pieces) = pieces := by
  have texts : ∀ text ∈ pieces.map String.toList, '/' ∉ text := by
    intro text member
    obtain ⟨piece, inPieces, rfl⟩ := List.mem_map.1 member
    exact whole piece inPieces
  rw [Path.pieces, ofPieces, String.toList_intercalate,
    show "/".toList = ['/'] from rfl, split_intercalate (by simpa using some) texts, List.map_map]
  exact (List.map_congr_left fun piece _ => String.ofList_toList).trans (List.map_id _)

theorem not_mem_of_mem_pieces {path piece : String} (member : piece ∈ pieces path) :
    '/' ∉ piece.toList := by
  obtain ⟨text, inSplit, rfl⟩ := List.mem_map.1 member
  rw [String.toList_ofList]
  exact not_mem_of_mem_split inSplit

/-! ## Names -/

/-- A piece that leads down from where a path has come. -/
def IsName (piece : String) : Prop := isIdle piece = false ∧ piece ≠ ".."

/-- A name stays one when it is extended. -/
theorem IsName.append {name : String} (isName : IsName name) (extension : String) :
    IsName (name ++ extension) := by
  obtain ⟨busy, down⟩ := isName
  rw [isIdle, Bool.or_eq_false_iff, decide_eq_false_iff_not, decide_eq_false_iff_not] at busy
  simp only [ne_eq, ← String.toList_inj] at busy down
  simp only [IsName, isIdle, Bool.or_eq_false_iff, decide_eq_false_iff_not, ne_eq,
    ← String.toList_inj, String.toList_append]
  -- Nothing but the three texts themselves and the empty one begins any of them.
  cases characters : name.toList with
  | nil => simp [characters] at busy
  | cons first rest =>
    cases rest with
    | nil => simp_all
    | cons second rest => simp_all

theorem walk_append (start : Place) (front back : List String) :
    walk start (front ++ back) = walk (walk start front) back := by
  induction front generalizing start with
  | nil => rfl
  | cons piece rest ih =>
    simp only [List.cons_append, walk]
    split
    · exact ih start
    · split
      · exact ih _
      · exact ih _

theorem walk_of_isIdle (start : Place) {pieces : List String}
    (idle : ∀ piece ∈ pieces, isIdle piece = true) : walk start pieces = start := by
  induction pieces with
  | nil => rfl
  | cons piece rest ih =>
    rw [walk, if_pos (idle piece List.mem_cons_self)]
    exact ih fun other member => idle other (List.mem_cons_of_mem _ member)

theorem walk_name (start : Place) {name : String} (isName : IsName name) (rest : List String) :
    walk start (name :: rest) = walk (start ++ [name]) rest := by
  rw [walk, isName.1, if_neg (by simp), if_neg isName.2]

/-- Idle pieces at the end lead nowhere. -/
theorem walk_rdropWhile (start : Place) (pieces : List String) :
    walk start (pieces.rdropWhile isIdle) = walk start pieces := by
  induction pieces using List.reverseRecOn with
  | nil => rfl
  | append_singleton front last ih =>
    rw [List.rdropWhile_concat]
    split
    case isTrue idle =>
      rw [ih, walk_append, walk_of_isIdle (walk start front) (by simpa using idle)]
    case isFalse => rfl

/-! ## The root and the name of a path -/

/-- What stands before the first name of a path, by its pieces. -/
theorem splitRoot_cases (path : String) :
    (∃ piece rest, pieces path = "" :: piece :: rest ∧
      splitRoot path = ([""], piece :: rest)) ∨
    (∃ rest, pieces path = "." :: rest ∧ splitRoot path = (["."], rest)) ∨
    (pieces path = [""] ∧ splitRoot path = ([], [""])) ∨
    ∃ first rest, isIdle first = false ∧ pieces path = first :: rest ∧
      splitRoot path = ([], first :: rest) := by
  rw [splitRoot]
  split
  case h_1 piece rest found => exact .inl ⟨piece, rest, found, rfl⟩
  case h_2 rest found => exact .inr (.inl ⟨rest, found, rfl⟩)
  case h_3 notRoot notDot =>
    cases found : pieces path with
    | nil => exact absurd found (by simp [pieces, split_ne_nil])
    | cons first rest =>
      by_cases empty : first = ""
      · subst empty
        cases rest with
        | nil => exact .inr (.inr (.inl ⟨rfl, rfl⟩))
        | cons piece rest => exact absurd found (notRoot piece rest)
      · have busy : isIdle first = false := by
          have other : first ≠ "." := fun dot => notDot rest (dot ▸ found)
          simp [isIdle, empty, other]
        exact .inr (.inr (.inr ⟨first, rest, busy, rfl, rfl⟩))

theorem splitRoot_append (path : String) :
    (splitRoot path).1 ++ (splitRoot path).2 = pieces path := by
  obtain ⟨_, _, found, split⟩ | ⟨_, found, split⟩ | ⟨found, split⟩ | ⟨_, _, -, found, split⟩ :=
    splitRoot_cases path <;> rw [found, split] <;> rfl

theorem splitRoot_of_busy {path first : String} {rest : List String}
    (found : pieces path = first :: rest) (busy : isIdle first = false) :
    splitRoot path = ([], first :: rest) := by
  obtain ⟨_, _, other, -⟩ | ⟨_, other, -⟩ | ⟨other, -⟩ | ⟨_, _, -, other, split⟩ :=
    splitRoot_cases path
  · cases found.symm.trans other
    cases busy
  · cases found.symm.trans other
    cases busy
  · cases found.symm.trans other
    cases busy
  · rw [split, ← found, other]

/-- A path begins with a slash if its first piece is empty and another one follows. -/
theorem head?_eq_slash {path : String} :
    path.toList.head? = some '/' ↔ ∃ piece rest, pieces path = "" :: piece :: rest := by
  rw [pieces]
  cases path.toList with
  | nil => simp [split]
  | cons character rest =>
    rw [split]
    by_cases slash : character = '/'
    · obtain ⟨piece, others, found⟩ := List.exists_cons_of_ne_nil (split_ne_nil rest)
      simp [slash, found]
    · rw [if_neg slash]
      cases split rest <;> simp [slash]

/-- All pieces of a path can be followed, those of its root too. -/
theorem place_eq_walk (start : Place) (path : String) :
    place start path =
      walk (if path.toList.head? = some '/' then [] else start) (pieces path) := by
  rw [place]
  obtain ⟨piece, rest, found, split⟩ | ⟨rest, found, split⟩ | ⟨found, split⟩ |
    ⟨first, rest, busy, found, split⟩ := splitRoot_cases path
  · rw [split, if_pos (head?_eq_slash.2 ⟨piece, rest, found⟩), found]
    rfl
  · have relative : path.toList.head? ≠ some '/' := by simp [head?_eq_slash, found]
    rw [split, if_neg relative, found]
    rfl
  · have relative : path.toList.head? ≠ some '/' := by simp [head?_eq_slash, found]
    rw [split, if_neg relative, found]
    rfl
  · have relative : path.toList.head? ≠ some '/' := by
      rw [ne_eq, head?_eq_slash, found]
      rintro ⟨piece, others, same⟩
      cases same
      cases busy
    rw [split, if_neg relative, found]
    rfl

/-- The name of a path is the last piece that is not idle. -/
theorem exists_of_last? {path name : String} {before : List String}
    (ends : last? path = some (before, name)) :
    ∃ front idle, (splitRoot path).2 = front ++ name :: idle ∧
      (∀ piece ∈ idle, isIdle piece = true) ∧ isIdle name = false ∧
      before = (splitRoot path).1 ++ front.rdropWhile isIdle := by
  obtain ⟨root, body, split⟩ : ∃ root body, splitRoot path = (root, body) := ⟨_, _, rfl⟩
  rw [last?, split] at ends
  rw [split]
  dsimp only at ends ⊢
  have busy := List.head?_dropWhile_not isIdle body.reverse
  cases rest : body.reverse.dropWhile isIdle with
  | nil => simp [rest] at ends
  | cons last earlier =>
    have parts : body.reverse.takeWhile isIdle ++ last :: earlier = body.reverse := by
      rw [← rest, List.takeWhile_append_dropWhile]
    rw [rest] at ends busy
    simp only [Option.some.injEq, Prod.mk.injEq] at ends
    obtain ⟨rfl, rfl⟩ := ends
    refine ⟨earlier.reverse, (body.reverse.takeWhile isIdle).reverse, ?_, ?_, busy, ?_⟩
    · simpa using (congrArg List.reverse parts).symm
    · intro piece member
      exact List.mem_takeWhile_imp (List.mem_reverse.1 member)
    · rw [List.rdropWhile, List.reverse_reverse]

theorem last?_of_name? {path name : String} (named : name? path = some name) :
    name ≠ ".." ∧ ∃ before, last? path = some (before, name) := by
  rw [name?] at named
  split at named
  case h_1 => cases named
  case h_2 => cases named
  case h_3 before last notUp ends =>
    cases named
    exact ⟨fun up => notUp up, before, ends⟩

/-- An extended name stands after the same pieces, and after the same root. -/
theorem splitRoot_extended {path name extension : String} {front idle : List String}
    (body : (splitRoot path).2 = front ++ name :: idle) (isName : IsName name)
    (whole : '/' ∉ extension.toList) :
    splitRoot (ofPieces
        ((splitRoot path).1 ++ (front.rdropWhile isIdle ++ [name ++ extension]))) =
      ((splitRoot path).1, front.rdropWhile isIdle ++ [name ++ extension]) := by
  have known : ∀ piece ∈ (splitRoot path).1 ++ (front ++ name :: idle), '/' ∉ piece.toList := by
    rw [← body, splitRoot_append]
    exact fun piece member => not_mem_of_mem_pieces member
  have pieces : Path.pieces (ofPieces
        ((splitRoot path).1 ++ (front.rdropWhile isIdle ++ [name ++ extension]))) =
      (splitRoot path).1 ++ (front.rdropWhile isIdle ++ [name ++ extension]) := by
    refine pieces_ofPieces (by simp) fun piece member => ?_
    simp only [List.mem_append, List.mem_singleton] at member known
    obtain inRoot | inFront | rfl := member
    · exact known piece (.inl inRoot)
    · exact known piece (.inr (.inl ((List.rdropWhile_prefix isIdle front).mem inFront)))
    · rw [String.toList_append, List.mem_append]
      exact not_or_intro (known name (.inr (.inr List.mem_cons_self))) whole
  obtain ⟨_, _, -, split⟩ | ⟨_, -, split⟩ | ⟨-, split⟩ | ⟨first, rest, busy, -, split⟩ :=
    splitRoot_cases path
  · rw [split] at pieces ⊢
    rw [splitRoot, pieces]
    cases front.rdropWhile isIdle <;> rfl
  · rw [split] at pieces ⊢
    rw [splitRoot, pieces]
    rfl
  · -- The only piece is an idle one, but there is a name.
    rw [split] at body
    cases front with
    | nil =>
      cases body
      cases isName.1
    | cons => simp at body
  · rw [split] at pieces body ⊢
    cases kept : front.rdropWhile isIdle with
    | nil =>
      rw [kept] at pieces
      exact splitRoot_of_busy pieces (isName.append extension).1
    | cons head tail =>
      rw [kept] at pieces
      refine splitRoot_of_busy pieces ?_
      obtain ⟨dropped, front⟩ := kept ▸ List.rdropWhile_prefix isIdle front
      rw [← front] at body
      cases body
      exact busy

/--
A path with a name leads to that name in some directory, and a path beside it leads to the
extended name in the same directory.
-/
theorem exists_place_eq {path name : String} (named : name? path = some name) (start : Place) :
    ∃ directory : Place, place start path = directory ++ [name] ∧
      ∀ extension : String, '/' ∉ extension.toList →
        place start (beside path extension) = directory ++ [name ++ extension] := by
  obtain ⟨down, before, ends⟩ := last?_of_name? named
  obtain ⟨front, idle, body, isIdle, busy, rfl⟩ := exists_of_last? ends
  have isName : IsName name := ⟨busy, down⟩
  let beginning : Place := if (splitRoot path).1 = [""] then [] else start
  refine ⟨walk beginning front, ?_, fun extension whole => ?_⟩
  · change walk beginning (splitRoot path).2 = _
    rw [body, walk_append, walk_name _ isName, walk_of_isIdle _ isIdle]
  · have text : beside path extension = ofPieces
        ((splitRoot path).1 ++ (front.rdropWhile Path.isIdle ++ [name ++ extension])) := by
      rw [beside, named, ends, ← List.append_assoc]
    rw [text, place, splitRoot_extended body isName whole]
    change walk beginning (front.rdropWhile Path.isIdle ++ [name ++ extension]) = _
    rw [walk_append, walk_rdropWhile, walk_name _ (isName.append extension)]
    rfl

end Alerting.Path
