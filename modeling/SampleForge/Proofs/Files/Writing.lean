import SampleForge.Proofs.Files.Joining

/-!
# Files that were written

`FileWritten s location content s'` says all that writing one file does to a store: at the location
stands a file with the content, where nothing or a file stood before, and everything else is as it was.
So directories and links stay, a path that could be written leads to the same location afterwards, and
it goes on doing so whatever files are written later.

`Written s writes s'` is a run of writes.  What is in a file after the run is what the last write to it
put there, `Written.readText_eq`; two paths are the same file when they lead to the same location, be it
through links.  Locations that no write leads to are untouched.
-/

namespace SampleForge.Files

namespace Store

/-- A store with a file at the location, and otherwise as before. -/
structure FileWritten (s : Store) (location : Location) (content : ByteArray) (s' : Store) :
    Prop where
  cwd : s'.cwd = s.cwd
  replaced : s.node? location = none ∨
    ∃ old executable, s.node? location = some (.file old executable)
  here : ∃ executable, s'.node? location = some (.file content executable)
  elsewhere : ∀ other, other ≠ location → s'.node? other = s.node? other

variable {s s' : Store} {location other : Location} {content : ByteArray} {path text : String}

theorem node?_insert {dir : Location} {name : Name} {node : Node}
    (hdir : s.node? dir = some .directory) (hnode : s.node? (name :: dir) ≠ some .directory)
    (other : Location) :
    (s.insert dir name node hdir hnode).node? other =
      if other = name :: dir then some node else s.node? other := by
  cases other with
  | nil => rfl
  | cons other above =>
      have hinsert : (s.insert dir name node hdir hnode).node? (other :: above) =
          (s.nodes.insert (name :: dir) node)[other :: above]? := rfl
      rw [hinsert, Std.HashMap.getElem?_insert]
      by_cases hsame : name :: dir = other :: above
      · rw [if_pos (by simpa using hsame), if_pos hsame.symm]
      · rw [if_neg (by simpa using hsame), if_neg (Ne.symm hsame)]
        rfl

theorem fileWritten_of_put {dir : Location} {name : Name} {executable : Bool}
    (hreplaced : s.node? (name :: dir) = none ∨
      ∃ old flag, s.node? (name :: dir) = some (.file old flag))
    (h : s.put dir name (.file content executable) = .ok s') :
    FileWritten s (name :: dir) content s' := by
  -- Only a missing entry or a file is replaced, so no directory is.
  have hnode : s.node? (name :: dir) ≠ some .directory := by
    rintro hdirectory
    rcases hreplaced with hnone | ⟨old, flag, hfile⟩
    · rw [hnone] at hdirectory
      cases hdirectory
    · rw [hfile] at hdirectory
      cases hdirectory
  by_cases hdir : s.node? dir = some .directory
  · rw [put, dif_pos hdir, dif_neg hnode] at h
    obtain rfl := Except.ok.inj h
    refine ⟨rfl, hreplaced, ⟨executable, ?_⟩, fun other hother => ?_⟩
    · rw [node?_insert, if_pos rfl]
    · rw [node?_insert, if_neg hother]
  · rw [put, dif_neg hdir] at h
    cases h

/-- What a successful write does. -/
theorem fileWritten_of_write (h : s.write path content = .ok s') :
    ∃ place, s.resolve .create path = .ok place ∧ FileWritten s place.location content s' := by
  rw [write] at h
  cases hplace : s.resolve .create path with
  | error error => simp [hplace] at h
  | ok place =>
      rw [hplace] at h
      refine ⟨place, rfl, ?_⟩
      cases place with
      | missing dir name slashed =>
          -- Nothing stands at a location that is missing.
          obtain ⟨-, hleads⟩ := resolve_eq_ok_iff.1 hplace
          exact fileWritten_of_put (Or.inl hleads.node?_of_missing) h
      | found location =>
          cases location with
          | nil => cases h
          | cons name dir =>
              cases hnode : s.node? (name :: dir) with
              | none => simp [hnode] at h
              | some node =>
                  cases node with
                  | directory => simp [hnode] at h
                  | link target => simp [hnode] at h
                  | file old executable =>
                      simp only [hnode] at h
                      exact fileWritten_of_put (Or.inr ⟨old, executable, hnode⟩) h

namespace FileWritten

/-- Directories and links stay what they are. -/
theorem node?_of_not_file (h : FileWritten s location content s') {node : Node}
    (hnode : s.node? other = some node) (hfile : ∀ old executable, node ≠ .file old executable) :
    s'.node? other = some node := by
  have hne : other ≠ location := by
    rintro rfl
    rcases h.replaced with hnone | ⟨old, executable, hold⟩
    · rw [hnone] at hnode
      cases hnode
    · rw [hold] at hnode
      exact hfile old executable (Option.some.inj hnode).symm
  rw [h.elsewhere other hne, hnode]

theorem directory (h : FileWritten s location content s')
    (hdir : s.node? other = some .directory) : s'.node? other = some .directory :=
  h.node?_of_not_file hdir fun _ _ => nofun

theorem link (h : FileWritten s location content s') {target : String}
    (hlink : s.node? other = some (.link target)) : s'.node? other = some (.link target) :=
  h.node?_of_not_file hlink fun _ _ => nofun

/-- What is there and is no link stays there and becomes none. -/
theorem solid (h : FileWritten s location content s') {node : Node}
    (hnode : s.node? other = some node) (hsolid : ∀ target, node ≠ .link target) :
    ∃ node', s'.node? other = some node' ∧ ∀ target, node' ≠ .link target := by
  by_cases hother : other = location
  · subst hother
    obtain ⟨executable, hhere⟩ := h.here
    exact ⟨_, hhere, Node.file_ne_link content executable⟩
  · exact ⟨node, by rw [h.elsewhere other hother, hnode], hsolid⟩

end FileWritten
end Store

/-- What a place is once a file was written at a location. -/
def Place.afterWrite (location : Location) (place : Place) : Place :=
  if place.location = location then .found location else place

namespace Store

variable {s s' : Store} {location : Location} {content : ByteArray} {path text : String}
  {links : Nat} {here : Location} {pieces : List String} {place : Place}

theorem afterWrite_found (location here : Location) :
    (Place.found here).afterWrite location = .found here := by
  unfold Place.afterWrite
  by_cases hhere : (Place.found here).location = location
  · rw [if_pos hhere, ← hhere, Place.location_found]
  · rw [if_neg hhere]

/-- The walk of a path to be written is the same after a write, except that what was missing may be
there now. -/
theorem Leads.after_write (hwritten : FileWritten s location content s')
    (h : Leads s .create links here pieces place) :
    Leads s' .create links here pieces (place.afterWrite location) := by
  induction h with
  | arrived =>
      rw [afterWrite_found]
      exact .arrived
  | stay dir empty onward ih => exact .stay (hwritten.directory dir) empty ih
  | up dir onward ih => exact .up (hwritten.directory dir) ih
  | @missing links here name rest dir allowed absent last =>
      by_cases hlocation : name :: here = location
      · -- The file that was written is entered, and nothing may come behind its name.
        subst hlocation
        obtain ⟨executable, hhere⟩ := hwritten.here
        have hrest : rest = [] := by
          by_contra hrest
          exact allowed ⟨rfl, last, hrest⟩
        subst hrest
        have hplace : (Place.missing here name (([] : List String) ≠ [])).afterWrite (name :: here) =
            .found (name :: here) := if_pos rfl
        rw [hplace]
        exact .enter (hwritten.directory dir) allowed (not_meansEntry_of_ne (by decide) []) hhere
          (Node.file_ne_link content executable) .arrived
      · have hplace : (Place.missing here name (rest ≠ [])).afterWrite location =
            .missing here name (rest ≠ []) := if_neg hlocation
        rw [hplace]
        exact .missing (hwritten.directory dir) allowed
          ((hwritten.elsewhere _ hlocation).trans absent) last
  | entry dir meant present => exact absurd meant (not_meansEntry_of_ne (by decide) _)
  | enter dir allowed unmeant present solid onward ih =>
      obtain ⟨node, hnode, hsolid⟩ := hwritten.solid present solid
      exact .enter (hwritten.directory dir) allowed unmeant hnode hsolid ih
  | follow dir allowed unmeant present filled onward ih =>
      exact .follow (hwritten.directory dir) allowed unmeant (hwritten.link present) filled ih

/-- A path to be written leads to the same place when it is only followed. -/
theorem Leads.follow_of_create (h : Leads s .create links here pieces place) :
    Leads s .follow links here pieces place := by
  have hallowed : ∀ rest, Allows .follow rest := allows_of_ne (by decide)
  have hunmeant : ∀ rest, ¬ MeansEntry .follow rest := not_meansEntry_of_ne (by decide)
  induction h with
  | arrived => exact .arrived
  | stay dir empty onward ih => exact .stay dir empty ih
  | up dir onward ih => exact .up dir ih
  | missing dir allowed absent last => exact .missing dir (hallowed _) absent last
  | entry dir meant present => exact absurd meant (not_meansEntry_of_ne (by decide) _)
  | enter dir allowed unmeant present solid onward ih =>
      exact .enter dir (hallowed _) (hunmeant _) present solid ih
  | follow dir allowed unmeant present filled onward ih =>
      exact .follow dir (hallowed _) (hunmeant _) present filled ih

/-- The path leads to the location and can be written there. -/
def Writable (s : Store) (path : String) (location : Location) : Prop :=
  s.resolve .create path = .ok (.found location)

theorem Writable.locate (h : Writable s path location) : s.locate path = .ok location := by
  obtain ⟨hpath, hleads⟩ := resolve_eq_ok_iff.1 h
  exact locate_eq_ok_iff.2 (resolve_eq_ok_iff.2 ⟨hpath, hleads.follow_of_create⟩)

theorem FileWritten.resolve {mark : Location} (hwritten : FileWritten s mark content s')
    (h : s.resolve .create path = .ok place) :
    s'.resolve .create path = .ok (place.afterWrite mark) := by
  obtain ⟨hpath, hleads⟩ := resolve_eq_ok_iff.1 h
  rw [resolve_eq_ok_iff, hwritten.cwd]
  exact ⟨hpath, hleads.after_write hwritten⟩

theorem FileWritten.writable {mark : Location} (hwritten : FileWritten s mark content s')
    (h : Writable s path location) : Writable s' path location := by
  have hplace := hwritten.resolve h
  rwa [afterWrite_found] at hplace

/-- The path of a write leads to what was written. -/
theorem write_eq_ok (h : s.write path content = .ok s') :
    ∃ location, Writable s' path location ∧ FileWritten s location content s' := by
  obtain ⟨place, hplace, hwritten⟩ := fileWritten_of_write h
  have hafter : place.afterWrite place.location = .found place.location := if_pos rfl
  have hfound := hwritten.resolve hplace
  rw [hafter] at hfound
  exact ⟨place.location, hfound, hwritten⟩

/-- A file that is missing from a directory can be written, and then its path leads to it. -/
theorem exists_write_of_missing {dir : Location} {name : Name} {slashed : Bool}
    (hplace : s.resolve .create path = .ok (.missing dir name slashed))
    (hdir : s.node? dir = some .directory) (content : ByteArray) :
    ∃ s', s.write path content = .ok s' ∧ FileWritten s (name :: dir) content s' ∧
      Writable s' path (name :: dir) := by
  have hnone : s.node? (name :: dir) = none :=
    (resolve_eq_ok_iff.1 hplace).2.node?_of_missing
  have hfree : ¬ s.node? (name :: dir) = some .directory := by simp [hnone]
  have hwrite : ∃ s', s.write path content = .ok s' := by
    simp only [write, hplace, put, dif_pos hdir, dif_neg hfree]
    exact ⟨_, rfl⟩
  obtain ⟨s', hs'⟩ := hwrite
  obtain ⟨place, hplace', hwritten⟩ := fileWritten_of_write hs'
  obtain rfl := Except.ok.inj (hplace.symm.trans hplace')
  have hfound := hwritten.resolve hplace
  have hafter : (Place.missing dir name slashed).afterWrite (name :: dir) = .found (name :: dir) :=
    if_pos rfl
  rw [Place.location_missing, hafter] at hfound
  exact ⟨s', hs', hwritten, hfound⟩

/-! ## Runs of writes -/

/-- Texts are written to files one after another. -/
inductive Written : Store → List (String × String) → Store → Prop
  | nil {s : Store} : Written s [] s
  | cons {s next s' : Store} {path text : String} {writes : List (String × String)}
      (first : s.write path text.toUTF8 = .ok next) (later : Written next writes s') :
      Written s ((path, text) :: writes) s'

/-- Two paths lead to the same location, or to none for the same reason. -/
def SameFile (s : Store) (path other : String) : Prop :=
  s.locate path = s.locate other

theorem SameFile.refl (s : Store) (path : String) : s.SameFile path path :=
  Eq.refl (s.locate path)

namespace Written

variable {writes before after : List (String × String)}

theorem writable (h : Written s writes s') (hpath : Writable s path location) :
    Writable s' path location := by
  induction h with
  | nil => exact hpath
  | cons first later ih =>
      obtain ⟨mark, -, hwritten⟩ := write_eq_ok first
      exact ih (hwritten.writable hpath)

/-- Every path that was written leads to a file. -/
theorem exists_writable (h : Written s writes s') (hmem : (path, text) ∈ writes) :
    ∃ location, Writable s' path location := by
  induction h with
  | nil => cases hmem
  | cons first later ih =>
      rcases List.mem_cons.1 hmem with heq | hmem
      · obtain ⟨rfl, rfl⟩ := Prod.mk.inj heq
        obtain ⟨location, hpath, -⟩ := write_eq_ok first
        exact ⟨location, later.writable hpath⟩
      · exact ih hmem

/-- A location that no written path leads to is untouched. -/
theorem node?_eq (h : Written s writes s')
    (hother : ∀ write ∈ writes, s'.locate write.1 ≠ .ok location) :
    s'.node? location = s.node? location := by
  induction h with
  | nil => rfl
  | cons first later ih =>
      obtain ⟨mark, hmark, hwritten⟩ := write_eq_ok first
      -- The path of the first write leads there to the end, so it was no write to the location.
      have hne : location ≠ mark := by
        rintro rfl
        exact hother _ List.mem_cons_self (later.writable hmark).locate
      rw [ih fun write hwrite => hother write (List.mem_cons_of_mem _ hwrite),
        hwritten.elsewhere location hne]

theorem split (h : Written s (before ++ after) s') :
    ∃ middle, Written s before middle ∧ Written middle after s' := by
  induction before generalizing s with
  | nil => exact ⟨s, .nil, h⟩
  | cons write before ih =>
      cases h with
      | cons first later =>
          obtain ⟨middle, hbefore, hafter⟩ := ih later
          exact ⟨middle, .cons first hbefore, hafter⟩

end Written

/-- The last of the writes that went to the file of the path wrote the text. -/
def LastWrite (s : Store) (writes : List (String × String)) (path text : String) : Prop :=
  ∃ before other after, writes = before ++ (other, text) :: after ∧ s.SameFile other path ∧
    ∀ write ∈ after, ¬ s.SameFile write.1 path

/-- If any write went to the file of the path, there is a last one. -/
theorem exists_lastWrite {writes : List (String × String)}
    (hmem : ∃ other old, (other, old) ∈ writes ∧ s.SameFile other path) :
    ∃ text, LastWrite s writes path text := by
  induction writes with
  | nil =>
      obtain ⟨other, old, hwrite, -⟩ := hmem
      cases hwrite
  | cons write writes ih =>
      by_cases hlater : ∃ other old, (other, old) ∈ writes ∧ s.SameFile other path
      · obtain ⟨text, before, other, after, rfl, hsame, hafter⟩ := ih hlater
        exact ⟨text, write :: before, other, after, rfl, hsame, hafter⟩
      · obtain ⟨other, old, hwrite, hsame⟩ := hmem
        rcases List.mem_cons.1 hwrite with rfl | hwrite
        · exact ⟨old, [], other, writes, rfl, hsame,
            fun write' hwrite' hsame' => hlater ⟨write'.1, write'.2, hwrite', hsame'⟩⟩
        · exact absurd ⟨other, old, hwrite, hsame⟩ hlater

theorem readText_of_file {executable : Bool} (hlocate : s.locate path = .ok location)
    (hnode : s.node? location = some (.file text.toUTF8 executable)) :
    s.readText path = .ok text := by
  have htext : String.fromUTF8? text.toUTF8 = some text := dif_pos text.isValidUTF8
  simp only [readText, read, hlocate, hnode, htext]

theorem exists_locate_of_readText (h : s.readText path = .ok text) :
    ∃ location, s.locate path = .ok location := by
  cases hlocate : s.locate path with
  | ok location => exact ⟨location, rfl⟩
  | error error =>
      simp only [readText, read, hlocate] at h
      cases h

theorem SameFile.readText_eq {other : String} (h : s.SameFile path other) :
    s.readText path = s.readText other := by
  have hlocate : s.locate path = s.locate other := h
  simp only [readText, read, hlocate]

/-- In a file is what the last write to it put there. -/
theorem Written.readText_eq {writes : List (String × String)} (h : Written s writes s')
    (hlast : LastWrite s' writes path text) : s'.readText path = .ok text := by
  obtain ⟨before, other, after, rfl, hsame, hafter⟩ := hlast
  -- What came before the last write does not matter, and what comes after it goes elsewhere.
  obtain ⟨middle, -, hrest⟩ := h.split
  rw [← hsame.readText_eq]
  cases hrest with
  | cons first later =>
      obtain ⟨location, hlocation, hwritten⟩ := write_eq_ok first
      obtain ⟨executable, hhere⟩ := hwritten.here
      have hlocate : s'.locate other = .ok location := (later.writable hlocation).locate
      have hnode : s'.node? location = some (.file text.toUTF8 executable) := by
        rw [later.node?_eq, hhere]
        intro write hwrite hmark
        exact hafter write hwrite ((hmark.trans hlocate.symm).trans hsame)
      exact readText_of_file hlocate hnode

/-! ## Directories of files -/

/-- The working directory holds nothing but files. -/
structure FilesOnly (s : Store) : Prop where
  dir : s.node? s.cwd = some .directory
  files : ∀ name, s.node? (name :: s.cwd) = none ∨
    ∃ content executable, s.node? (name :: s.cwd) = some (.file content executable)

theorem filesOnly_empty : FilesOnly empty where
  dir := rfl
  files name := by
    have hnone : (∅ : Std.HashMap Location Node)[[name]]? = none := by simp
    exact .inl hnone

theorem admissible_name (name : Name) : Admissible name.text := by
  obtain ⟨hempty, -, -, -, hnul, hsize⟩ := name.isName
  refine ⟨hempty, hnul, ?_⟩
  unfold maxPathLength
  omega

/-- A name is written as an entry of the working directory. -/
theorem FilesOnly.exists_write (h : FilesOnly s) (name : Name) (content : ByteArray) :
    ∃ s', s.write name.text content = .ok s' ∧ FilesOnly s' := by
  have hallowed := allows_nil .create
  have hunmeant : ¬ MeansEntry .create [] := not_meansEntry_of_ne (by decide) []
  have hresolve : ∀ {place : Place}, Leads s .create maxLinks s.cwd [name.text] place →
      s.resolve .create name.text = .ok place := by
    intro place hleads
    rw [← name.origin_text s.cwd, ← name.splitPath_text] at hleads
    exact resolve_eq_ok_iff.2 ⟨admissible_name name, hleads⟩
  -- Either way the write is an insertion into the working directory.
  have hwrite : ∃ s', s.write name.text content = .ok s' := by
    rcases h.files name with hnone | ⟨old, executable, hfile⟩
    · have hplace := hresolve (.missing h.dir hallowed hnone rfl)
      have hfree : ¬ s.node? (name :: s.cwd) = some .directory := by simp [hnone]
      simp only [write, hplace, put, dif_pos h.dir, dif_neg hfree]
      exact ⟨_, rfl⟩
    · have hplace := hresolve (.enter h.dir hallowed hunmeant hfile
        (Node.file_ne_link old executable) .arrived)
      simp only [write, hplace, hfile, put, dif_pos h.dir]
      exact ⟨_, rfl⟩
  obtain ⟨s', hs'⟩ := hwrite
  obtain ⟨place, -, hwritten⟩ := fileWritten_of_write hs'
  obtain ⟨executable, hhere⟩ := hwritten.here
  refine ⟨s', hs', ?_, fun other => ?_⟩
  · rw [hwritten.cwd]
    exact hwritten.directory h.dir
  · rw [hwritten.cwd]
    by_cases hother : other :: s.cwd = place.location
    · exact .inr ⟨content, executable, by rw [hother, hhere]⟩
    · rw [hwritten.elsewhere _ hother]
      exact h.files other

/-- In a directory of files any names can be written one after another. -/
theorem FilesOnly.exists_written (h : FilesOnly s) {writes : List (String × String)}
    (hnames : ∀ write ∈ writes, ∃ name : Name, write.1 = name.text) :
    ∃ s', Written s writes s' ∧ FilesOnly s' := by
  induction writes generalizing s with
  | nil => exact ⟨s, .nil, h⟩
  | cons write writes ih =>
      obtain ⟨path, text⟩ := write
      obtain ⟨name, rfl⟩ := hnames (path, text) List.mem_cons_self
      obtain ⟨next, hnext, hfiles⟩ := h.exists_write name text.toUTF8
      obtain ⟨s', hs', hfiles'⟩ := ih hfiles
        fun other hother => hnames other (List.mem_cons_of_mem _ hother)
      exact ⟨s', .cons hnext hs', hfiles'⟩

/-- A name that leads anywhere leads to its own entry. -/
theorem FilesOnly.eq_of_locate (h : FilesOnly s) {name : Name}
    (hlocate : s.locate name.text = .ok location) : location = name :: s.cwd := by
  obtain ⟨-, hleads⟩ := resolve_eq_ok_iff.1 (locate_eq_ok_iff.1 hlocate)
  rw [name.origin_text, name.splitPath_text] at hleads
  rcases hleads.eq_of_name with hhere | ⟨target, hlink, -⟩
  · exact hhere
  · -- There are no links in the directory.
    rcases h.files name with hnone | ⟨content, executable, hfile⟩
    · rw [hnone] at hlink
      cases hlink
    · rw [hfile] at hlink
      cases hlink

theorem FilesOnly.not_sameFile (h : FilesOnly s) {name name' : Name} (hne : name ≠ name')
    (hlocate : s.locate name.text = .ok location) : ¬ s.SameFile name.text name'.text := by
  intro hsame
  have hlocate' : s.locate name'.text = .ok location := Eq.trans hsame.symm hlocate
  have hlocations := (h.eq_of_locate hlocate).symm.trans (h.eq_of_locate hlocate')
  exact hne (List.cons.inj hlocations).1

/-- A file that can be read is no other one. -/
theorem FilesOnly.not_sameFile_of_readText (h : FilesOnly s) {name name' : Name} (hne : name ≠ name')
    {text : String} (hread : s.readText name.text = .ok text) :
    ¬ s.SameFile name.text name'.text := by
  obtain ⟨location, hlocate⟩ := exists_locate_of_readText hread
  exact h.not_sameFile hne hlocate

end Store
end SampleForge.Files
