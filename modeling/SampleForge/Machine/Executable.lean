import SampleForge.Files.Access
import SampleForge.Machine.Search

/-!
# Files that can be started

A script can be started if it may be executed and begins with a line that names its interpreter, which
must be there and be executable itself.  What follows the interpreter on that line is one argument for
it.  Interpreters are taken to be shells, or `env` to start one.

`executable?` knows of no other programs.  A system starts compiled programs too, and here they are
refused with `OsError.badFormat` like any file that does not begin with the line of a script.  What holds
of programs of every kind is said with the answer of the system as a parameter.
-/

namespace SampleForge.Machine

open Files

/-- A file that can be started. -/
structure Executable where
  /-- The path under which it was found. -/
  path : String
  /-- The option for the shell that runs it; empty if there is none. -/
  option : String
  location : Location
  content : ByteArray

/-- The file a path names, if it may be executed. -/
def permitted? (s : Store) (path : String) : Except OsError (Location × ByteArray) :=
  match s.locate path with
  | .error error => .error error
  | .ok location =>
    match s.node? location with
    | some (.file content true) => .ok (location, content)
    | some _ => .error .permissionDenied
    | none => .error .notFound

/-- Spaces and tabs separate the words of the first line. -/
def isLineSpace (c : Char) : Bool := c = ' ' ∨ c = '\t'

/-- The interpreter of a script and its argument, which is empty if there is none. -/
structure Interpreter where
  path : String
  argument : String
deriving DecidableEq

/-- The interpreter that the first line of a file names. -/
def interpreter? (content : ByteArray) : Option Interpreter :=
  match content.toList with
  | 35 :: 33 :: rest =>
    let line := (rest.takeWhile (· ≠ 10)).map fun byte => Char.ofNat byte.toNat
    let words := line.dropWhile isLineSpace
    let path := words.takeWhile fun c => !isLineSpace c
    let behind := (words.dropWhile fun c => !isLineSpace c).dropWhile isLineSpace
    let argument := (behind.reverse.dropWhile isLineSpace).reverse
    if path.isEmpty then none else some ⟨String.ofList path, String.ofList argument⟩
  | _ => none

/-- The option for the shell: `env` takes the name of the shell for its argument. -/
def Interpreter.shellOption (interpreter : Interpreter) : String :=
  if (splitPath interpreter.path).getLast? = some "env" then "" else interpreter.argument

/-- The text of a script; bytes that do not make up text are read one by one. -/
def scriptText (content : ByteArray) : String :=
  match String.fromUTF8? content with
  | some text => text
  | none => String.ofList (content.toList.map fun byte => Char.ofNat byte.toNat)

/-- The script a path names, if it can be started. -/
def executable? (s : Store) (path : String) : Except OsError Executable :=
  match permitted? s path with
  | .error error => .error error
  | .ok (location, content) =>
    match interpreter? content with
    | none => .error .badFormat
    | some interpreter =>
      match permitted? s interpreter.path with
      | .error error => .error error
      | .ok _ => .ok ⟨path, interpreter.shellOption, location, content⟩

/-- What may be executed under a path is the file that the path leads to. -/
theorem locate_of_permitted? {s : Store} {path : String} {location : Location} {content : ByteArray}
    (h : permitted? s path = .ok (location, content)) : s.locate path = .ok location := by
  rw [permitted?] at h
  cases hlocate : s.locate path with
  | error error => simp [hlocate] at h
  | ok found =>
      simp only [hlocate] at h
      split at h
      · obtain ⟨rfl, -⟩ := Prod.mk.inj (Except.ok.inj h)
        rfl
      · cases h
      · cases h

theorem locate_of_executable? {s : Store} {path : String} {file : Executable}
    (h : executable? s path = .ok file) : s.locate path = .ok file.location := by
  rw [executable?] at h
  cases hpermitted : permitted? s path with
  | error error => simp [hpermitted] at h
  | ok found =>
      obtain ⟨location, content⟩ := found
      simp only [hpermitted] at h
      split at h
      · cases h
      · split at h
        · cases h
        · obtain rfl := Except.ok.inj h
          exact locate_of_permitted? hpermitted

/-- The file that is started for a program, by the answer for every path. -/
def findExecutable (answer : String → Except OsError Executable) (searchPath : List String)
    (program : String) : Except OsError Executable :=
  Id.run (searchProgram (fun path => pure (answer path)) searchPath program)

end SampleForge.Machine
