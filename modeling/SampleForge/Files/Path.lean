/-!
# Paths

A path is kept as the text it was given as.  `joinPath` puts an entry name behind a directory, and
`components` is what two spellings of one path have in common: separators may be repeated, a trailing
one means nothing, and `.` counts only at the beginning of a relative path.  `..` is never resolved
here, for that would need the file system.  Paths are put in order component by component, and a path
ends in a file name if its last component is a name.
-/

namespace SampleForge.Files

def separator : Char := '/'

/-- Whether a path begins at the root. -/
def isAbsolute (path : String) : Bool :=
  path.toList.head? = some separator

/-- The path of `name` in the directory `dir`; an absolute name stands for itself. -/
def joinPath (dir name : String) : String :=
  if isAbsolute name || dir.isEmpty then name
  else if dir.toList.getLast? = some separator then dir ++ name
  else dir ++ "/" ++ name

/-- One step of cutting at separators, from the right. -/
def splitStep (c : Char) (parts : List (List Char)) : List (List Char) :=
  if c = separator then [] :: parts
  else match parts with
    | [] => [[c]]
    | part :: rest => (c :: part) :: rest

/-- The pieces of a path between separators, empty ones included. -/
def splitPath (path : String) : List String :=
  (path.toList.foldr splitStep [[]]).map String.ofList

/-- The components of a path: whether it begins at the root, and the names on the way. -/
structure Components where
  absolute : Bool
  names : List String
deriving DecidableEq

/-- A leading `.` of a relative path is kept; other `.` and empty pieces are dropped. -/
def components (path : String) : Components :=
  let pieces := splitPath path
  let plain := pieces.filter fun piece => piece ≠ "" && piece ≠ "."
  if isAbsolute path then ⟨true, plain⟩
  else if pieces.head? = some "." then ⟨false, "." :: plain⟩
  else ⟨false, plain⟩

/-- Whether two paths have the same components. -/
def samePath (p q : String) : Bool :=
  components p = components q

/-- The components as one list, in which the root is its separator. -/
def Components.list (c : Components) : List String :=
  if c.absolute then "/" :: c.names else c.names

/-- The kinds of components in their order: the root, `.`, `..`, and all names. -/
def componentRank (component : String) : Nat :=
  if component = "/" then 0
  else if component = "." then 1
  else if component = ".." then 2
  else 3

/-- Whether a component comes before another.  Names are in the order of their code points, which is
the order of their bytes. -/
def componentBefore (a b : String) : Bool :=
  if componentRank a = componentRank b then decide (a < b)
  else decide (componentRank a < componentRank b)

/-- Whether the first difference of two lists of components is in order. -/
def componentsBefore : List String → List String → Bool
  | _, [] => false
  | [], _ :: _ => true
  | a :: as, b :: bs => if a = b then componentsBefore as bs else componentBefore a b

/-- Whether a path comes before another. -/
def pathBefore (p q : String) : Bool :=
  componentsBefore (components p).list (components q).list

/-- The last component of a path, if it is a name. -/
def fileName? (path : String) : Option String :=
  (components path).names.getLast?.filter fun name => name ≠ "." && name ≠ ".."

/-- What an extension is made of. -/
def isExtensionChar (c : Char) : Bool := c ≠ '.'

/-- What stands behind the last dot of a file name, unless nothing stands before that dot. -/
def nameExtension? (name : String) : Option String :=
  let reversed := name.toList.reverse
  match reversed.dropWhile isExtensionChar with
  | [] | [_] => none
  | _ => some (String.ofList (reversed.takeWhile isExtensionChar).reverse)

/-- The extension of the file name a path ends in. -/
def extension? (path : String) : Option String :=
  (fileName? path).bind nameExtension?

/-- A path with the given components. -/
def Components.toPath (c : Components) : String :=
  (if c.absolute then "/" else "") ++ String.intercalate "/" c.names

/-- The path without its last component; the root and the empty path have none. -/
def parentPath? (path : String) : Option String :=
  let c := components path
  if c.names.isEmpty then none else some (Components.toPath ⟨c.absolute, c.names.dropLast⟩)

end SampleForge.Files
