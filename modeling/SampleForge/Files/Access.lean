import SampleForge.Files.Resolution

/-!
# Reading and changing a store by paths

Each operation resolves its path and then looks at or changes one node; an error leaves the store as it
was.  Writing goes through links and keeps the permission to execute a file.  Making a directory,
linking and removing are about the entry itself.
-/

namespace SampleForge.Files
namespace Store

/-- The bytes of a file. -/
def read (s : Store) (path : String) : Except OsError ByteArray :=
  match s.locate path with
  | .error error => .error error
  | .ok location =>
    match s.node? location with
    | some (.file content _) => .ok content
    | some .directory => .error .isDirectory
    | _ => .error .notFound

/-- The text of a file. -/
def readText (s : Store) (path : String) : Except ReadError String :=
  match s.read path with
  | .error error => .error (.os error)
  | .ok content =>
    match String.fromUTF8? content with
    | some text => .ok text
    | none => .error .notUtf8

/-- Puts a node into a directory, unless a directory has that name already. -/
def put (s : Store) (dir : Location) (name : Name) (node : Node) : Except OsError Store :=
  if hdir : s.node? dir = some .directory then
    if hnode : s.node? (name :: dir) = some .directory then .error .isDirectory
    else .ok (s.insert dir name node hdir hnode)
  else .error .notDirectory

/-- Writes a file, which is made if it is missing. -/
def write (s : Store) (path : String) (content : ByteArray) : Except OsError Store :=
  match s.resolve .create path with
  | .error error => .error error
  | .ok (.missing dir name _) => s.put dir name (.file content false)
  | .ok (.found []) => .error .isDirectory
  | .ok (.found (name :: dir)) =>
    match s.node? (name :: dir) with
    | some (.file _ executable) => s.put dir name (.file content executable)
    | some .directory => .error .isDirectory
    | _ => .error .notFound

/-- Allows a file to be executed. -/
def allowExecution (s : Store) (path : String) : Except OsError Store :=
  match s.locate path with
  | .error error => .error error
  | .ok [] => .ok s
  | .ok (name :: dir) =>
    match s.node? (name :: dir) with
    | some (.file content _) => s.put dir name (.file content true)
    | _ => .ok s

/-- Makes one directory. -/
def makeDirectory (s : Store) (path : String) : Except OsError Store :=
  match s.resolve .entry path with
  | .error error => .error error
  | .ok (.found _) => .error .alreadyExists
  | .ok (.missing dir name _) => s.put dir name .directory

/-- Makes a link; a separator behind its path is not allowed. -/
def makeLink (s : Store) (target path : String) : Except OsError Store :=
  if target = "" then .error .notFound
  else if target.toList.contains '\x00' then .error .nulInPath
  else
    match s.resolve .entry path with
    | .error error => .error error
    | .ok (.found _) => .error .alreadyExists
    | .ok (.missing dir name slashed) =>
      if slashed then .error .notFound else s.put dir name (.link target)

/-- Removes an entry, a directory with everything below it. -/
def remove (s : Store) (path : String) : Except OsError Store :=
  match s.resolve .entry path with
  | .error error => .error error
  | .ok (.missing ..) => .error .notFound
  | .ok (.found location) => .ok (s.erase location)

/-- The names in a directory, in no particular order. -/
def entries (s : Store) (path : String) : Except OsError (List String) :=
  match s.locate path with
  | .error error => .error error
  | .ok location =>
    if s.node? location = some .directory then .ok ((s.entriesAt location).map Name.text)
    else .error .notDirectory

/-- The path of a location relative to a directory above it. -/
def pathBelow? (dir location : Location) : Option String :=
  if dir.isSuffixOf location && dir ≠ location then
    let names := location.take (location.length - dir.length)
    some (String.intercalate "/" (names.reverse.map Name.text))
  else none

/-- All paths below the working directory, those of directories with a separator behind, sorted by
code points. -/
def paths (s : Store) : List String :=
  let found := s.nodes.toList.filterMap fun (location, node) =>
    (pathBelow? s.cwd location).map fun path =>
      if node = .directory then path ++ "/" else path
  found.mergeSort fun a b => !decide (b < a)

end Store
end SampleForge.Files
