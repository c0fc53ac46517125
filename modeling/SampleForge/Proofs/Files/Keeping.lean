import SampleForge.Proofs.Files.Entries
import SampleForge.Proofs.Files.Writing

/-!
# What stays when files are written

Writing files and making directories take nothing away.  `Keeps s s'` says that directories, links and
files of `s` are still there in `s'`, though files may have other content.  A path that led somewhere
then leads to the same place, `Keeps.locate`; so what was a directory or a regular file under some path
remains one.

`DirectoriesMade s s'` says more: nothing is in `s'` that was not there before, except for directories.
It is what making a directory with its parents comes to.
-/

namespace SampleForge.Files.Store

variable {s s' s'' : Store} {location mark : Location} {content : ByteArray} {path dir : String}

/-- Directories, links and files stay what they are, up to the content of files. -/
structure Keeps (s s' : Store) : Prop where
  cwd : s'.cwd = s.cwd
  directory : ∀ location, s.node? location = some .directory → s'.node? location = some .directory
  link : ∀ location target, s.node? location = some (.link target) →
    s'.node? location = some (.link target)
  file : ∀ location, (∃ content executable, s.node? location = some (.file content executable)) →
    ∃ content executable, s'.node? location = some (.file content executable)

/-- There are no links. -/
def NoLinks (s : Store) : Prop :=
  ∀ location target, s.node? location ≠ some (.link target)

namespace Keeps

theorem refl (s : Store) : Keeps s s := ⟨rfl, fun _ => id, fun _ _ => id, fun _ => id⟩

theorem trans (h : Keeps s s') (h' : Keeps s' s'') : Keeps s s'' where
  cwd := h'.cwd.trans h.cwd
  directory location hnode := h'.directory location (h.directory location hnode)
  link location target hnode := h'.link location target (h.link location target hnode)
  file location hnode := h'.file location (h.file location hnode)

theorem solid (h : Keeps s s') {node : Node} (hnode : s.node? location = some node)
    (hsolid : ∀ target, node ≠ .link target) :
    ∃ node', s'.node? location = some node' ∧ ∀ target, node' ≠ .link target := by
  cases node with
  | directory => exact ⟨_, h.directory location hnode, fun _ => nofun⟩
  | link target => exact absurd rfl (hsolid target)
  | file content executable =>
      obtain ⟨content', executable', hnode'⟩ := h.file location ⟨content, executable, hnode⟩
      exact ⟨_, hnode', Node.file_ne_link content' executable'⟩

theorem isSome (h : Keeps s s') (hnode : (s.node? location).isSome = true) :
    (s'.node? location).isSome = true := by
  obtain ⟨node, hnode⟩ := Option.isSome_iff_exists.1 hnode
  cases node with
  | link target => rw [h.link location target hnode, Option.isSome_some]
  | directory => rw [h.directory location hnode, Option.isSome_some]
  | file content executable =>
      obtain ⟨content', executable', hnode'⟩ := h.file location ⟨content, executable, hnode⟩
      rw [hnode', Option.isSome_some]

/-- A walk that finds something goes the same way. -/
theorem leads (h : Keeps s s') {mode : LastName} {links : Nat} {here : Location}
    {pieces : List String} (hleads : Leads s mode links here pieces (.found location)) :
    Leads s' mode links here pieces (.found location) := by
  generalize hplace : Place.found location = place at hleads
  induction hleads with
  | arrived => exact .arrived
  | stay dir empty onward ih => exact .stay (h.directory _ dir) empty (ih hplace)
  | up dir onward ih => exact .up (h.directory _ dir) (ih hplace)
  | missing dir allowed absent last => cases hplace
  | entry dir meant present =>
      obtain ⟨node, hnode⟩ := Option.isSome_iff_exists.1 (h.isSome (Option.isSome_of_eq_some present))
      exact .entry (h.directory _ dir) meant hnode
  | enter dir allowed unmeant present solid onward ih =>
      obtain ⟨node, hnode, hsolid⟩ := h.solid present solid
      exact .enter (h.directory _ dir) allowed unmeant hnode hsolid (ih hplace)
  | follow dir allowed unmeant present filled onward ih =>
      exact .follow (h.directory _ dir) allowed unmeant (h.link _ _ present) filled (ih hplace)

theorem locate (h : Keeps s s') (hlocate : s.locate path = .ok location) :
    s'.locate path = .ok location := by
  obtain ⟨hpath, hleads⟩ := resolve_eq_ok_iff.1 (locate_eq_ok_iff.1 hlocate)
  rw [locate_eq_ok_iff, resolve_eq_ok_iff, h.cwd]
  exact ⟨hpath, h.leads hleads⟩

theorem isRegularFile (h : Keeps s s') (hfile : s.isRegularFile path = true) :
    s'.isRegularFile path = true := by
  obtain ⟨location, content, executable, hlocate, hnode⟩ := isRegularFile_iff.1 hfile
  obtain ⟨content', executable', hnode'⟩ := h.file location ⟨content, executable, hnode⟩
  exact isRegularFile_iff.2 ⟨location, content', executable', h.locate hlocate, hnode'⟩

end Keeps

/-- Putting something where nothing was takes nothing away. -/
theorem keeps_insert {parent : Location} {name : Name} {node : Node}
    (hparent : s.node? parent = some .directory) (hnode : s.node? (name :: parent) ≠ some .directory)
    (hfree : s.node? (name :: parent) = none) : Keeps s (s.insert parent name node hparent hnode) := by
  have hstays : ∀ {location : Location} {other : Node}, s.node? location = some other →
      (s.insert parent name node hparent hnode).node? location = some other := by
    intro location other hother
    have hne : location ≠ name :: parent := by
      rintro rfl
      rw [hfree] at hother
      cases hother
    rw [node?_insert, if_neg hne, hother]
  refine ⟨rfl, fun _ => hstays, fun _ _ => hstays, ?_⟩
  rintro location ⟨content, executable, hfile⟩
  exact ⟨content, executable, hstays hfile⟩

/-! ## Writing -/

theorem FileWritten.keeps (h : FileWritten s mark content s') : Keeps s s' where
  cwd := h.cwd
  directory _ := h.directory
  link _ _ := h.link
  file location hfile := by
    by_cases hmark : location = mark
    · obtain ⟨executable, hhere⟩ := h.here
      exact ⟨content, executable, by rw [hmark, hhere]⟩
    · rwa [h.elsewhere location hmark]

theorem FileWritten.noLinks (h : FileWritten s mark content s') (hlinks : NoLinks s) :
    NoLinks s' := by
  intro location target hlink
  by_cases hmark : location = mark
  · obtain ⟨executable, hhere⟩ := h.here
    rw [hmark, hhere] at hlink
    exact Node.file_ne_link content executable target (Option.some.inj hlink)
  · rw [h.elsewhere location hmark] at hlink
    exact hlinks location target hlink

theorem Written.keeps {writes : List (String × String)} (h : Written s writes s') : Keeps s s' := by
  induction h with
  | nil => exact .refl _
  | cons first later ih =>
      obtain ⟨mark, -, hwritten⟩ := write_eq_ok first
      exact hwritten.keeps.trans ih

theorem Written.noLinks {writes : List (String × String)} (h : Written s writes s')
    (hlinks : NoLinks s) : NoLinks s' := by
  induction h with
  | nil => exact hlinks
  | cons first later ih =>
      obtain ⟨mark, -, hwritten⟩ := write_eq_ok first
      exact ih (hwritten.noLinks hlinks)

/-- Every path that was written is that of a regular file. -/
theorem Written.isRegularFile {writes : List (String × String)} {text : String}
    (h : Written s writes s') (hmem : (path, text) ∈ writes) : s'.isRegularFile path = true := by
  induction h with
  | nil => cases hmem
  | cons first later ih =>
      rcases List.mem_cons.1 hmem with heq | hmem
      · obtain ⟨rfl, rfl⟩ := Prod.mk.inj heq
        obtain ⟨location, hpath, hwritten⟩ := write_eq_ok first
        obtain ⟨executable, hhere⟩ := hwritten.here
        exact later.keeps.isRegularFile
          (isRegularFile_iff.2 ⟨location, _, executable, hpath.locate, hhere⟩)
      · exact ih hmem

/-! ## Making directories -/

/-- Nothing changes but that there are directories where nothing was. -/
structure DirectoriesMade (s s' : Store) : Prop where
  cwd : s'.cwd = s.cwd
  node? : ∀ location, s'.node? location = s.node? location ∨
    s.node? location = none ∧ s'.node? location = some .directory

namespace DirectoriesMade

theorem refl (s : Store) : DirectoriesMade s s := ⟨rfl, fun _ => .inl rfl⟩

theorem trans (h : DirectoriesMade s s') (h' : DirectoriesMade s' s'') : DirectoriesMade s s'' where
  cwd := h'.cwd.trans h.cwd
  node? location := by
    rcases h'.node? location with hsame | ⟨hnone, hmade⟩
    · rw [hsame]
      exact h.node? location
    · rcases h.node? location with hsame | ⟨-, hdirectory⟩
      · exact .inr ⟨hsame.symm.trans hnone, hmade⟩
      · rw [hdirectory] at hnone
        cases hnone

/-- What was there is untouched. -/
theorem node?_of_some (h : DirectoriesMade s s') {node : Node} (hnode : s.node? location = some node) :
    s'.node? location = some node := by
  rcases h.node? location with hsame | ⟨hnone, -⟩
  · rw [hsame, hnode]
  · rw [hnone] at hnode
    cases hnode

/-- What is no directory was there before. -/
theorem node?_of_ne (h : DirectoriesMade s s') {node : Node} (hnode : s'.node? location = some node)
    (hne : node ≠ .directory) : s.node? location = some node := by
  rcases h.node? location with hsame | ⟨-, hmade⟩
  · rw [← hsame, hnode]
  · exact absurd (Option.some.inj (hnode.symm.trans hmade)) hne

theorem keeps (h : DirectoriesMade s s') : Keeps s s' where
  cwd := h.cwd
  directory _ := h.node?_of_some
  link _ _ := h.node?_of_some
  file location hfile := by
    obtain ⟨content, executable, hnode⟩ := hfile
    exact ⟨content, executable, h.node?_of_some hnode⟩

theorem noLinks (h : DirectoriesMade s s') (hlinks : NoLinks s) : NoLinks s' :=
  fun location target hlink => hlinks location target (h.node?_of_ne hlink (by simp))

end DirectoriesMade

/-- Making a directory makes nothing else. -/
theorem directoriesMade_of_makeDirectory (h : s.makeDirectory path = .ok s') :
    DirectoriesMade s s' := by
  rw [makeDirectory] at h
  cases hplace : s.resolve .entry path with
  | error error => simp [hplace] at h
  | ok place =>
      cases place with
      | found location => simp [hplace] at h
      | missing dir name slashed =>
          simp only [hplace] at h
          obtain ⟨-, hleads⟩ := resolve_eq_ok_iff.1 hplace
          have hnone : s.node? (name :: dir) = none := hleads.node?_of_missing
          have hfree : s.node? (name :: dir) ≠ some .directory := by simp [hnone]
          by_cases hdir : s.node? dir = some .directory
          · rw [put, dif_pos hdir, dif_neg hfree] at h
            obtain rfl := Except.ok.inj h
            refine ⟨rfl, fun location => ?_⟩
            rw [node?_insert]
            by_cases hlocation : location = name :: dir
            · rw [if_pos hlocation, hlocation]
              exact .inr ⟨hnone, rfl⟩
            · rw [if_neg hlocation]
              exact .inl rfl
          · rw [put, dif_neg hdir] at h
            cases h

end SampleForge.Files.Store
