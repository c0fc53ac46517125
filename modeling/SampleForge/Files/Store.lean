import Std.Data.HashMap
import SampleForge.Files.OsError

/-!
# A file system kept in memory

A `Store` holds the nodes of a file system by their locations.  A location is a list of names, the
innermost first, so the location of an entry is its name in front of the location of its directory,
and the empty list is the root.  Every node lies in a directory; `Store.rooted` keeps this.  Two
operations change a store: `Store.insert` puts a node into a directory, and `Store.erase` takes a
location away with everything below it.  Paths, links and error numbers are not treated here.

There are directories, symbolic links and regular files, and a file has one name: its content is kept
for its location, so nothing here stands for a hard link.  Devices, pipes and sockets are left out, and
so are the permissions to read, write and search; of the permissions only that to execute a file is
kept.  Names are Unicode texts, other byte strings are none.
-/

namespace SampleForge.Files

/-- What an entry of a directory may be called. -/
def IsName (text : String) : Prop :=
  text ≠ "" ∧ text ≠ "." ∧ text ≠ ".." ∧ '/' ∉ text.toList ∧ '\x00' ∉ text.toList ∧
    text.utf8ByteSize ≤ 255

instance (text : String) : Decidable (IsName text) := by
  unfold IsName
  infer_instance

/-- The name of an entry of a directory. -/
structure Name where
  text : String
  isName : IsName text
deriving DecidableEq, Hashable

def Name.of? (text : String) : Option Name :=
  if h : IsName text then some ⟨text, h⟩ else none

/-- The names on the way from the root, the innermost first. -/
abbrev Location := List Name

/-- What is at a location. -/
inductive Node where
  | directory
  | file (content : ByteArray) (executable : Bool)
  | link (target : String)

/-- Whether a node is a directory can be seen without looking at the content of files. -/
instance (node : Node) : Decidable (node = .directory) :=
  match node with
  | .directory => isTrue rfl
  | .file .. | .link _ => isFalse nofun

instance (node : Option Node) : Decidable (node = some .directory) :=
  match node with
  | some .directory => isTrue rfl
  | some (.file ..) | some (.link _) | none => isFalse nofun

/-- The nodes of a file system other than its root, and the directory in which relative paths begin. -/
structure Store where
  nodes : Std.HashMap Location Node
  cwd : Location
  rooted : ∀ name dir, (name :: dir) ∈ nodes → dir = [] ∨ nodes[dir]? = some .directory

namespace Store

/-- The root alone. -/
def empty : Store := ⟨∅, [], by simp⟩

/-- The node at a location; the root is a directory. -/
def node? (s : Store) : Location → Option Node
  | [] => some .directory
  | name :: dir => s.nodes[name :: dir]?

/-- Puts a node into a directory, in the place of a file or a link if there is one. -/
def insert (s : Store) (dir : Location) (name : Name) (node : Node)
    (hdir : s.node? dir = some .directory) (hnode : s.node? (name :: dir) ≠ some .directory) :
    Store where
  nodes := s.nodes.insert (name :: dir) node
  cwd := s.cwd
  rooted := by
    intro name' dir' hmem
    have hself : ∀ d : Location, d = [] ∨ s.nodes[d]? = some Node.directory →
        d = [] ∨ (s.nodes.insert (name :: dir) node)[d]? = some Node.directory := by
      intro d hd
      rcases hd with rfl | hd
      · exact .inl rfl
      · right
        have hne : name :: dir ≠ d := by
          rintro rfl
          exact hnode hd
        rw [Std.HashMap.getElem?_insert]
        simpa [hne] using hd
    rw [Std.HashMap.mem_insert] at hmem
    apply hself
    rcases hmem with heq | hmem
    · have heq : name = name' ∧ dir = dir' := by simpa using heq
      obtain ⟨rfl, rfl⟩ := heq
      cases dir with
      | nil => exact .inl rfl
      | cons _ _ => exact .inr hdir
    · exact s.rooted name' dir' hmem

/-- Takes a location away and everything below it. -/
def erase (s : Store) (location : Location) : Store where
  nodes := s.nodes.filter fun l _ => !location.isSuffixOf l
  cwd := s.cwd
  rooted := by
    intro name dir hmem
    rw [Std.HashMap.mem_filter] at hmem
    obtain ⟨hmem, hkeep⟩ := hmem
    have hkeep : ¬ location <:+ name :: dir := by
      simpa [← List.isSuffixOf_iff_suffix] using hkeep
    rcases s.rooted name dir hmem with rfl | hdir
    · exact .inl rfl
    · right
      have hdir' : ¬ location <:+ dir := fun h => hkeep (h.trans (List.suffix_cons name dir))
      rw [Std.HashMap.getElem?_filter]
      simpa [hdir, ← List.isSuffixOf_iff_suffix] using hdir'

/-- The names in a directory. -/
def entriesAt (s : Store) (dir : Location) : List Name :=
  s.nodes.keys.filterMap fun
    | name :: parent => if parent = dir then some name else none
    | [] => none

end Store
end SampleForge.Files
