/-!
# Paths

Paths are texts with slashes between names. Everything here looks at the text alone; what a path
leads to is a matter of `FileTree`.

A normal path has no empty name and no `.`, and `..` only where nothing in front of it could be
taken back. Two slashes at the start are kept, for they may mean something else than one.

The paths are those of the configuration file (`SPEC_FULL.md` §10) and of the log files (§13).
-/

namespace SerialTerminal.Path

/-- Holds of a path that starts at the root. -/
def isAbsolute (path : List Char) : Bool := path.head? = some '/'

/-- A path seen from a base. An absolute path needs no base. -/
def join (base path : List Char) : List Char :=
  if isAbsolute path || base.isEmpty then path
  else if base.getLast? = some '/' then base ++ path
  else base ++ '/' :: path

/-- A path without the slashes at its end. -/
def withoutEndSlashes (path : List Char) : List Char := (path.reverse.dropWhile (· = '/')).reverse

/-- The name at the end of a path, which may be empty. -/
def fileName (path : List Char) : List Char := (path.reverse.takeWhile (· ≠ '/')).reverse

/-- What is in front of the name at the end of a path. Slashes at its end are dropped, unless there
is nothing else. -/
def parent (path : List Char) : List Char :=
  let head := path.take (path.length - (fileName path).length)
  if head.all (· = '/') then head else withoutEndSlashes head

/-- The slashes at the end of a path are no part of what is left. -/
theorem length_withoutEndSlashes_le (path : List Char) :
    (withoutEndSlashes path).length ≤ path.length := by
  simpa [withoutEndSlashes] using (List.dropWhile_sublist (· = '/') (l := path.reverse)).length_le

/-- A path is at least as long as the name at its end. -/
theorem length_fileName_le (path : List Char) : (fileName path).length ≤ path.length := by
  simpa [fileName] using (List.takeWhile_sublist (· ≠ '/') (l := path.reverse)).length_le

/-- What is in front of the name at the end has no more characters than are left for it. -/
theorem length_parent_le (path : List Char) :
    (parent path).length ≤ path.length - (fileName path).length := by
  have h := length_withoutEndSlashes_le (path.take (path.length - (fileName path).length))
  simp only [parent]
  split <;> simp only [List.length_take] at h ⊢ <;> omega

/-- What is in front of a name is shorter than the path. -/
theorem length_parent_lt {path : List Char} (h : fileName path ≠ []) :
    (parent path).length < path.length := by
  have hpos := List.length_pos_iff.2 h
  have hle := length_parent_le path
  have hname := length_fileName_le path
  omega

/-- The texts between the slashes of a path. There is always at least one. -/
def names : List Char → List (List Char)
  | [] => [[]]
  | c :: rest =>
    if c = '/' then [] :: names rest
    else
      match names rest with
      | [] => [[c]]
      | first :: others => (c :: first) :: others

/-- Names with slashes between them. -/
def ofNames : List (List Char) → List Char
  | [] => []
  | [name] => name
  | name :: rest => name ++ '/' :: ofNames rest

/-- The name of the directory itself. -/
def here : List Char := ['.']

/-- The name of the directory above. -/
def above : List Char := ['.', '.']

/-- Adds a name to names in reverse order. The name of the directory above takes back the name
before it, or is kept if there is none to take back; above the root is the root. -/
def pushName (rooted : Bool) (stack : List (List Char)) (name : List Char) : List (List Char) :=
  if name = [] ∨ name = here then stack
  else if name ≠ above then name :: stack
  else
    match stack with
    | [] => if rooted then [] else [above]
    | top :: rest => if top = above then above :: stack else rest

/-- The number of slashes that a normal path starts with. -/
def rootSlashes : List Char → Nat
  | '/' :: '/' :: '/' :: _ => 1
  | '/' :: '/' :: _ => 2
  | '/' :: _ => 1
  | _ => 0

/-- The normal form of a path. -/
def normalize (path : List Char) : List Char :=
  let slashes := rootSlashes path
  let stack := (names path).foldl (pushName (slashes ≠ 0)) []
  let normal := List.replicate slashes '/' ++ ofNames stack.reverse
  if normal.isEmpty then here else normal

/-- The normal form of a path that is seen from a working directory. -/
def absolute (workingDirectory path : List Char) : List Char :=
  normalize (join workingDirectory path)

end SerialTerminal.Path
