import SampleForge.Files.Store
import SampleForge.Files.Path

/-!
# Finding what a path names

A path is walked piece by piece, from the root or from the working directory.  Every piece is looked up
in a directory; `..` leads to the directory above; a link on the way is followed, and at most
`maxLinks` links are.  The last name of a path may be missing, and links at the end are followed or not
as `LastName` says.  Nothing is changed here.
-/

namespace SampleForge.Files

/-- How the last name of a path is treated. -/
inductive LastName where
  /-- A link is followed. -/
  | follow
  /-- A link is followed, and no separator may come behind the name of a file to be written. -/
  | create
  /-- The entry itself is meant, be it a link or not. -/
  | entry
deriving DecidableEq

/-- What a path leads to. -/
inductive Place where
  | found (location : Location)
  /-- Nothing has the last name in its directory; `slashed` tells whether a separator comes behind. -/
  | missing (dir : Location) (name : Name) (slashed : Bool)
deriving DecidableEq

/-- How far a walk gets before a link is to be followed. -/
inductive Progress where
  | arrived (place : Place)
  /-- A link in `dir` to be followed, with what is left of the path behind it. -/
  | link (dir : Location) (target : String) (rest : List String)
deriving DecidableEq

/-- The number of links that may be followed in one walk. -/
def maxLinks : Nat := 40

/-- The length from which on a path is too long. -/
def maxPathLength : Nat := 4096

namespace Store

/-- Whether only separators are left of a path. -/
def onlySeparators (rest : List String) : Bool := rest.all (· = "")

/-- Looks up a name in a directory; `next` goes on at an entry that is no link. -/
def step (s : Store) (mode : LastName) (dir : Location) (name : Name) (rest : List String)
    (next : Location → Except OsError Progress) : Except OsError Progress :=
  let last := onlySeparators rest
  if mode = .create ∧ last ∧ rest ≠ [] then .error .isDirectory
  else
    match s.node? (name :: dir) with
    | none =>
      if last then .ok (.arrived (.missing dir name (rest ≠ []))) else .error .notFound
    | some (.link target) =>
      if mode = .entry ∧ last then .ok (.arrived (.found (name :: dir)))
      else .ok (.link dir target rest)
    | some _ =>
      if mode = .entry ∧ last then .ok (.arrived (.found (name :: dir))) else next (name :: dir)

/-- Walks up to the next link. -/
def advance (s : Store) (mode : LastName) (here : Location) :
    List String → Except OsError Progress
  | [] => .ok (.arrived (.found here))
  | piece :: rest =>
    match s.node? here with
    | some .directory =>
      if piece = "" ∨ piece = "." then advance s mode here rest
      else if piece = ".." then advance s mode here.tail rest
      else
        match Name.of? piece with
        | none => .error .nameTooLong
        | some name => s.step mode here name rest fun next => advance s mode next rest
    | some _ => .error .notDirectory
    | none => .error .notFound

/-- Where a path begins. -/
def origin (here : Location) (path : String) : Location :=
  if isAbsolute path then [] else here

/-- Walks to the end of a path, following at most the given number of links. -/
def walk (s : Store) (mode : LastName) : Nat → Location → List String → Except OsError Place
  | 0, here, pieces =>
    match s.advance mode here pieces with
    | .error error => .error error
    | .ok (.arrived place) => .ok place
    | .ok (.link ..) => .error .linkLoop
  | links + 1, here, pieces =>
    match s.advance mode here pieces with
    | .error error => .error error
    | .ok (.arrived place) => .ok place
    | .ok (.link dir target rest) =>
      if target = "" then .error .notFound
      else walk s mode links (origin dir target) (splitPath target ++ rest)

/-- What a path leads to. -/
def resolve (s : Store) (mode : LastName) (path : String) : Except OsError Place :=
  if path = "" then .error .notFound
  else if path.toList.contains '\x00' then .error .nulInPath
  else if maxPathLength ≤ path.utf8ByteSize then .error .nameTooLong
  else s.walk mode maxLinks (origin s.cwd path) (splitPath path)

/-- The location a path names, links followed. -/
def locate (s : Store) (path : String) : Except OsError Location :=
  match s.resolve .follow path with
  | .error error => .error error
  | .ok (.missing ..) => .error .notFound
  | .ok (.found location) => .ok location

/-- The node a path names, links followed. -/
def nodeAt? (s : Store) (path : String) : Option Node :=
  match s.locate path with
  | .error _ => none
  | .ok location => s.node? location

def exists? (s : Store) (path : String) : Bool := (s.nodeAt? path).isSome

def isDirectory (s : Store) (path : String) : Bool := s.nodeAt? path = some .directory

def isRegularFile (s : Store) (path : String) : Bool :=
  match s.nodeAt? path with
  | some (.file ..) => true
  | _ => false

end Store
end SampleForge.Files
