import SampleForge.Machine.Basic
import SampleForge.Proofs.Files.Entries
import SampleForge.Proofs.Files.EntryPaths
import SampleForge.Proofs.Files.Writing
import SampleForge.Proofs.Machine.Observing
import SampleForge.Proofs.Text.ByteOrder

/-!
# The samples that are found

`SamplesOf s dir paths` says what the samples of a directory are, with no regard to how they are found:
one path for every entry that is a regular file and whose name ends in the extension, in the order of
the bytes of their names.  There is one such list for every directory, `SamplesOf.unique`.

Finding samples looks at whole paths and puts whole paths in order, in whatever order the directory is
listed.  `findSamples_eq_flatMap` says that it comes to the lists of the directories one after another;
if a directory cannot be listed, the first such is reported, `observes_findSamples_refused`.  The file
system is one that keeps showing the same store: `DirectoryView.Shows`.

The one name that ends in the extension and is passed over is the extension alone.  It counts as a name
without an extension, `bare_extension_not_found`.
-/

namespace SampleForge

open Files Machine Text

/-- The name ends in the extension of samples, or is nothing else. -/
def EndsAsSample (name : String) : Prop :=
  '.' :: Sample.extension.toList <:+ name.toList

instance (name : String) : Decidable (EndsAsSample name) := by
  unfold EndsAsSample
  infer_instance

/-- A dot and the extension of samples, with nothing in front. -/
def bareExtension : String := "." ++ Sample.extension

/-- The paths are those of the samples in the directory, in the order of their names. -/
structure SamplesOf (s : Store) (dir : String) (paths : List String) : Prop where
  /-- There are none where there is no directory. -/
  outside : s.isDirectory dir = false → paths = []
  inside : ∀ location, s.locate dir = .ok location → s.node? location = some .directory →
    ∃ names : List Name, paths = names.map (fun name => joinPath dir name.text) ∧
      names.Pairwise (fun name later => utf8 name.text < utf8 later.text) ∧
      ∀ name : Name, name ∈ names ↔ (s.node? (name :: location)).isSome = true ∧
        EndsAsSample name.text ∧ name.text ≠ bareExtension ∧
        s.isRegularFile (joinPath dir name.text) = true

/-! ## Names and extensions -/

theorem toList_bareExtension : bareExtension.toList = '.' :: Sample.extension.toList := by
  rw [bareExtension, String.toList_append]
  rfl

theorem nameExtension?_sample_iff {name : String} :
    nameExtension? name = some Sample.extension ↔ EndsAsSample name ∧ name ≠ bareExtension := by
  rw [nameExtension?_eq_some_iff, EndsAsSample]
  have hplain : '.' ∉ Sample.extension.toList := by decide
  have hbare : ∀ before : List Char, name.toList = before ++ '.' :: Sample.extension.toList →
      (before ≠ [] ↔ name ≠ bareExtension) := by
    intro before hname
    rw [not_iff_not, ← String.toList_inj, toList_bareExtension, hname]
    constructor
    · rintro rfl
      rfl
    · intro hends
      exact List.append_left_eq_self.1 hends
  constructor
  · rintro ⟨-, before, hfilled, hname⟩
    exact ⟨⟨before, hname.symm⟩, (hbare before hname).1 hfilled⟩
  · rintro ⟨⟨before, hname⟩, hne⟩
    exact ⟨hplain, before, (hbare before hname.symm).2 hne, hname.symm⟩

/-- Whether the name of an entry is that of a sample. -/
def isSampleName (s : Store) (dir : String) (name : Name) : Bool :=
  decide (nameExtension? name.text = some Sample.extension) &&
    s.isRegularFile (joinPath dir name.text)

theorem isSampleName_iff {s : Store} {dir : String} {name : Name} :
    isSampleName s dir name = true ↔ EndsAsSample name.text ∧ name.text ≠ bareExtension ∧
      s.isRegularFile (joinPath dir name.text) = true := by
  rw [isSampleName, Bool.and_eq_true, decide_eq_true_iff, nameExtension?_sample_iff, and_assoc]

/-! ## Order -/

/-- Sorts names as texts. -/
def sortNames (names : List Name) : List Name :=
  names.mergeSort fun name later => !decide (later.text < name.text)

/-- Sorting the paths of one directory sorts the names. -/
theorem sortPaths_joinPath (dir : String) (names : List Name) :
    sortPaths (names.map fun name => joinPath dir name.text) =
      (sortNames names).map fun name => joinPath dir name.text := by
  refine (List.map_mergeSort fun name _ later _ => ?_).symm
  rw [pathBefore_joinPath]

theorem Name.text_inj {name name' : Name} : name.text = name'.text ↔ name = name' := by
  constructor
  · intro h
    cases name
    cases name'
    cases h
    rfl
  · rintro rfl
    rfl

/-- Sorted names that are all different are in the order of their bytes. -/
theorem pairwise_sortNames {names : List Name} (h : names.Nodup) :
    (sortNames names).Pairwise fun name later => utf8 name.text < utf8 later.text := by
  have hsorted : (sortNames names).Pairwise fun name later =>
      (!decide (later.text < name.text)) = true := by
    refine List.pairwise_mergeSort (fun a b c hab hbc => ?_) (fun a b => ?_) names
    · simp only [Bool.not_eq_true', decide_eq_false_iff_not, not_lt] at hab hbc ⊢
      exact hab.trans hbc
    · simp only [Bool.or_eq_true, Bool.not_eq_true', decide_eq_false_iff_not, not_lt]
      exact le_total _ _
  have hnodup : (sortNames names).Nodup := (List.mergeSort_perm names _).nodup_iff.2 h
  refine (hsorted.and hnodup).imp ?_
  rintro name later ⟨hle, hne⟩
  simp only [Bool.not_eq_true', decide_eq_false_iff_not, not_lt] at hle
  exact utf8_lt_iff.2 (lt_of_le_of_ne hle fun heq => hne (Name.text_inj.1 heq))

theorem mem_sortNames {names : List Name} {name : Name} : name ∈ sortNames names ↔ name ∈ names :=
  (List.mergeSort_perm names _).mem_iff

namespace SamplesOf

variable {s : Store} {dir : String} {paths paths' : List String}

/-- The samples of a directory are one list only. -/
theorem unique (h : SamplesOf s dir paths) (h' : SamplesOf s dir paths') : paths = paths' := by
  cases hdir : s.isDirectory dir with
  | false => rw [h.outside hdir, h'.outside hdir]
  | true =>
      obtain ⟨location, hlocate, hnode⟩ := Store.isDirectory_iff.1 hdir
      obtain ⟨names, rfl, hsorted, hmem⟩ := h.inside location hlocate hnode
      obtain ⟨names', rfl, hsorted', hmem'⟩ := h'.inside location hlocate hnode
      have : Std.Irrefl fun name later : Name => utf8 name.text < utf8 later.text :=
        ⟨fun _ => List.lt_irrefl _⟩
      have : Std.Antisymm fun name later : Name => utf8 name.text < utf8 later.text :=
        ⟨fun _ _ hlt hlt' => absurd (List.lt_trans hlt hlt') (List.lt_irrefl _)⟩
      rw [hsorted.eq_of_mem_iff hsorted' fun name => (hmem name).trans (hmem' name).symm]

theorem of_not_isDirectory (hdir : s.isDirectory dir = false) : SamplesOf s dir [] where
  outside _ := rfl
  inside location hlocate hnode := by
    rw [Store.isDirectory_iff.2 ⟨location, hlocate, hnode⟩] at hdir
    cases hdir

/-- Whatever the order in which the entries are given, their samples are found in the one order. -/
theorem of_entries {location : Location} (hlocate : s.locate dir = .ok location)
    (hnode : s.node? location = some .directory) {names : List Name}
    (hnames : names.Perm (s.entriesAt location)) :
    SamplesOf s dir (sortPaths ((names.filter (isSampleName s dir)).map fun name =>
      joinPath dir name.text)) where
  outside hdir := by
    rw [Store.isDirectory_iff.2 ⟨location, hlocate, hnode⟩] at hdir
    cases hdir
  inside location' hlocate' _ := by
    obtain rfl := Except.ok.inj (hlocate.symm.trans hlocate')
    refine ⟨_, sortPaths_joinPath dir _, pairwise_sortNames ?_, fun name => ?_⟩
    · exact (hnames.nodup_iff.2 (Store.nodup_entriesAt s location)).filter _
    · rw [mem_sortNames, List.mem_filter, hnames.mem_iff, Store.mem_entriesAt, isSampleName_iff]

/-- The samples are paths of names in order, whether there is a directory or not. -/
theorem exists_names (h : SamplesOf s dir paths) :
    ∃ names : List Name, paths = names.map (fun name => joinPath dir name.text) ∧
      names.Pairwise fun name later => utf8 name.text < utf8 later.text := by
  cases hdir : s.isDirectory dir with
  | false => exact ⟨[], h.outside hdir, .nil⟩
  | true =>
      obtain ⟨location, hlocate, hnode⟩ := Store.isDirectory_iff.1 hdir
      obtain ⟨names, hpaths, hsorted, -⟩ := h.inside location hlocate hnode
      exact ⟨names, hpaths, hsorted⟩

/-- No sample is found twice. -/
theorem nodup (h : SamplesOf s dir paths) : paths.Nodup := by
  obtain ⟨names, rfl, hsorted⟩ := h.exists_names
  refine List.pairwise_map.2 (hsorted.imp fun {name later} hlt heq => ?_)
  rw [joinPath_inj heq] at hlt
  exact List.lt_irrefl _ hlt

/-- A path is that of a sample if its name and what it leads to are right; that there is a directory
to hold it follows. -/
theorem mem_iff (h : SamplesOf s dir paths) (hdir : dir ≠ "") {name : Name} :
    joinPath dir name.text ∈ paths ↔ EndsAsSample name.text ∧ name.text ≠ bareExtension ∧
      s.isRegularFile (joinPath dir name.text) = true := by
  constructor
  · intro hmem
    cases hdirectory : s.isDirectory dir with
    | false =>
        rw [h.outside hdirectory] at hmem
        cases hmem
    | true =>
        obtain ⟨location, hlocate, hnode⟩ := Store.isDirectory_iff.1 hdirectory
        obtain ⟨names, rfl, -, hnames⟩ := h.inside location hlocate hnode
        obtain ⟨name', hname', hpath⟩ := List.mem_map.1 hmem
        obtain rfl := Name.text_inj.1 (joinPath_inj hpath)
        exact ((hnames name').1 hname').2
  · rintro ⟨hends, hbare, hfile⟩
    obtain ⟨found, content, executable, hlocate, hnode⟩ := Store.isRegularFile_iff.1 hfile
    obtain ⟨location, links, hparent, hdirectory, hleads⟩ :=
      Store.locate_dir_of_joinPath hdir hlocate
    obtain ⟨names, rfl, -, hnames⟩ := h.inside location hparent hdirectory
    refine List.mem_map.2 ⟨name, (hnames name).2 ⟨?_, hends, hbare, hfile⟩, rfl⟩
    rcases hleads.eq_of_name with rfl | ⟨target, hlink, -⟩
    · rw [hnode, Option.isSome_some]
    · rw [hlink, Option.isSome_some]

/-- Every path has its samples. -/
theorem exists_of_dir (s : Store) (dir : String) : ∃ paths, SamplesOf s dir paths := by
  cases hdir : s.isDirectory dir with
  | false => exact ⟨[], .of_not_isDirectory hdir⟩
  | true =>
      obtain ⟨location, hlocate, hnode⟩ := Store.isDirectory_iff.1 hdir
      exact ⟨_, .of_entries hlocate hnode (List.Perm.refl _)⟩

end SamplesOf

/-- There is one list of segments for a list of directories. -/
theorem eq_map_of_forall₂ {s : Store} {samples : String → List String} {dirs : List String}
    {segments : List (List String)} (hsamples : ∀ dir, SamplesOf s dir (samples dir))
    (h : List.Forall₂ (SamplesOf s) dirs segments) : segments = dirs.map samples := by
  induction h with
  | nil => rfl
  | cons hpaths hsegments ih => rw [List.map_cons, ih, hpaths.unique (hsamples _)]

/-! ## Looking at a file system -/

section Views

variable {σ : Type}

/-- What listing a directory of the store may give: an error if that is refused, and otherwise the
names in it in any order. -/
def Lists (s : Store) (refused : String → Option OsError) (dir : String)
    (listing : Except OsError (List String)) : Prop :=
  match refused dir with
  | some error => listing = .error error
  | none => ∃ (location : Location) (names : List Name), s.locate dir = .ok location ∧
      names.Perm (s.entriesAt location) ∧ listing = .ok (names.map Name.text)

/-- The view shows the store as long as the state is seen.  It may list a directory in a different
order every time, and refuse to list some of them. -/
structure DirectoryView.Shows (view : DirectoryView (StateM σ)) (s : Store)
    (refused : String → Option OsError) (seen : σ → Prop) : Prop where
  isDirectory : ∀ path, Observes seen (view.isDirectory path) (· = s.isDirectory path)
  isRegularFile : ∀ path, Observes seen (view.isRegularFile path) (· = s.isRegularFile path)
  entries : ∀ dir, s.isDirectory dir = true → Observes seen (view.entries dir) (Lists s refused dir)

/-- Every directory among the paths can be listed. -/
def AllListed (s : Store) (refused : String → Option OsError) (dirs : List String) : Prop :=
  ∀ dir ∈ dirs, s.isDirectory dir = true → refused dir = none

/-- The directory is the first that cannot be listed, for the reason given. -/
def FirstRefused (s : Store) (refused : String → Option OsError) (dirs : List String) (dir : String)
    (error : OsError) : Prop :=
  ∃ before after, dirs = before ++ dir :: after ∧ AllListed s refused before ∧
    s.isDirectory dir = true ∧ refused dir = some error

variable {view : DirectoryView (StateM σ)} {s : Store} {refused : String → Option OsError}
  {seen : σ → Prop} {dir : String} {dirs : List String}

theorem observes_isSample (hview : view.Shows s refused seen) (dir : String) (name : Name) :
    Observes seen (isSample view (joinPath dir name.text)) (· = isSampleName s dir name) := by
  rw [isSample, extension?_joinPath]
  by_cases hextension : nameExtension? name.text = some Sample.extension
  · rw [if_pos hextension]
    refine (hview.isRegularFile _).mono fun found hfound => ?_
    rw [hfound, isSampleName, decide_eq_true hextension, Bool.true_and]
  · rw [if_neg hextension]
    refine .pure ?_
    rw [isSampleName, decide_eq_false hextension, Bool.false_and]

theorem observes_keepSamples (hview : view.Shows s refused seen) (dir : String)
    (names : List Name) :
    Observes seen (keepSamples view (names.map fun name => joinPath dir name.text))
      (· = (names.filter (isSampleName s dir)).map fun name => joinPath dir name.text) := by
  induction names with
  | nil => exact .pure rfl
  | cons name names ih =>
      refine (observes_isSample hview dir name).bind fun found hfound => ?_
      refine ih.bind fun kept hkept => .pure ?_
      rw [hfound, hkept, List.filter_cons]
      cases isSampleName s dir name <;> rfl

/-- A directory that can be listed contributes its samples. -/
theorem observes_samplesOf (hview : view.Shows s refused seen) (hdir : s.isDirectory dir = true)
    (hlisted : refused dir = none) :
    Observes seen (samplesOf view dir) fun result =>
      ∃ paths, result = .ok paths ∧ SamplesOf s dir paths := by
  obtain ⟨location, hlocate, hnode⟩ := Store.isDirectory_iff.1 hdir
  refine (hview.entries dir hdir).bind fun listing hlisting => ?_
  simp only [Lists, hlisted] at hlisting
  obtain ⟨listed, names, hlisted, hnames, rfl⟩ := hlisting
  obtain rfl := Except.ok.inj (hlocate.symm.trans hlisted)
  have hpaths : (names.map Name.text).map (joinPath dir) =
      names.map fun name => joinPath dir name.text := List.map_map
  have hkeep := observes_keepSamples hview dir names
  rw [← hpaths] at hkeep
  refine hkeep.bind fun kept hkept => .pure ⟨_, rfl, ?_⟩
  rw [hkept]
  exact .of_entries hlocate hnode hnames

theorem observes_samplesOf_refused (hview : view.Shows s refused seen)
    (hdir : s.isDirectory dir = true) {error : OsError} (hrefused : refused dir = some error) :
    Observes seen (samplesOf view dir) (· = .error (.unlistedDirectory dir error)) := by
  refine (hview.entries dir hdir).bind fun listing hlisting => ?_
  simp only [Lists, hrefused] at hlisting
  rw [hlisting]
  exact .pure rfl

/-- What the directories contribute is put together in their order. -/
theorem observes_findSamples (hview : view.Shows s refused seen)
    (hlisted : AllListed s refused dirs) :
    Observes seen (findSamples view dirs) fun result =>
      ∃ segments, List.Forall₂ (SamplesOf s) dirs segments ∧ result = .ok segments.flatten := by
  induction dirs with
  | nil => exact .pure ⟨[], .nil, rfl⟩
  | cons dir dirs ih =>
      have hrest := ih fun other hother => hlisted other (List.mem_cons_of_mem _ hother)
      refine (hview.isDirectory dir).bind fun found hfound => ?_
      rw [hfound]
      cases hdir : s.isDirectory dir with
      | false =>
          refine hrest.mono ?_
          rintro result ⟨segments, hsegments, rfl⟩
          exact ⟨[] :: segments, .cons (.of_not_isDirectory hdir) hsegments, rfl⟩
      | true =>
          refine (observes_samplesOf hview hdir (hlisted dir List.mem_cons_self hdir)).bind ?_
          rintro outcome ⟨paths, rfl, hpaths⟩
          refine hrest.bind ?_
          rintro result ⟨segments, hsegments, rfl⟩
          exact .pure ⟨paths :: segments, .cons hpaths hsegments, rfl⟩

/-- The first directory that cannot be listed is the one that is reported. -/
theorem observes_findSamples_refused (hview : view.Shows s refused seen) {error : OsError}
    (hfirst : FirstRefused s refused dirs dir error) :
    Observes seen (findSamples view dirs) (· = .error (.unlistedDirectory dir error)) := by
  obtain ⟨before, after, rfl, hlisted, hdir, hrefused⟩ := hfirst
  induction before with
  | nil =>
      refine (hview.isDirectory dir).bind fun found hfound => ?_
      rw [hfound, hdir]
      refine (observes_samplesOf_refused hview hdir hrefused).bind ?_
      rintro outcome rfl
      exact .pure rfl
  | cons first before ih =>
      have hrest := ih fun other hother => hlisted other (List.mem_cons_of_mem _ hother)
      refine (hview.isDirectory first).bind fun found hfound => ?_
      rw [hfound]
      cases hdirectory : s.isDirectory first with
      | false => exact hrest
      | true =>
          have hnone := hlisted first List.mem_cons_self hdirectory
          refine (observes_samplesOf hview hdirectory hnone).bind ?_
          rintro outcome ⟨paths, rfl, -⟩
          refine hrest.bind ?_
          rintro result rfl
          exact .pure rfl

/-- Either every directory can be listed, or there is a first one that cannot. -/
theorem allListed_or_firstRefused (s : Store) (refused : String → Option OsError)
    (dirs : List String) :
    AllListed s refused dirs ∨ ∃ dir error, FirstRefused s refused dirs dir error := by
  induction dirs with
  | nil => exact .inl (List.forall_mem_nil _)
  | cons dir dirs ih =>
      by_cases hrefused : ∃ error, s.isDirectory dir = true ∧ refused dir = some error
      · obtain ⟨error, hdir, herror⟩ := hrefused
        exact .inr ⟨dir, error, [], dirs, rfl, List.forall_mem_nil _, hdir, herror⟩
      have hlisted : s.isDirectory dir = true → refused dir = none := fun hdir =>
        Option.eq_none_iff_forall_ne_some.2 fun error herror => hrefused ⟨error, hdir, herror⟩
      rcases ih with hall | ⟨other, error, before, after, rfl, hbefore, hother⟩
      · exact .inl (List.forall_mem_cons.2 ⟨hlisted, hall⟩)
      · exact .inr ⟨other, error, dir :: before, after, rfl,
          List.forall_mem_cons.2 ⟨hlisted, hbefore⟩, hother⟩

/-- On a computer every directory can be listed, and looking at it changes nothing. -/
theorem directoryView_shows (computer : Computer) :
    directoryView.Shows computer.store (fun _ => none) (· = computer) where
  isDirectory _ := by
    rintro state rfl
    exact ⟨rfl, rfl⟩
  isRegularFile _ := by
    rintro state rfl
    exact ⟨rfl, rfl⟩
  entries dir hdir := by
    rintro state rfl
    obtain ⟨location, hlocate, hnode⟩ := Store.isDirectory_iff.1 hdir
    exact ⟨⟨location, _, hlocate, .refl _, Store.entries_of_locate hlocate hnode⟩, rfl⟩

theorem allListed_none (s : Store) (dirs : List String) : AllListed s (fun _ => none) dirs :=
  fun _ _ _ => rfl

/-- With the samples of every path given, what is found is computed from them. -/
theorem observes_findSamples_eq (hview : view.Shows s refused seen)
    (hlisted : AllListed s refused dirs) {samples : String → List String}
    (hsamples : ∀ dir, SamplesOf s dir (samples dir)) :
    Observes seen (findSamples view dirs) (· = .ok (dirs.flatMap samples)) := by
  refine (observes_findSamples hview hlisted).mono ?_
  rintro result ⟨segments, hsegments, rfl⟩
  rw [List.flatMap, eq_map_of_forall₂ hsamples hsegments]

/-- On a computer the samples of one directory are found, and nothing changes. -/
theorem run_findSamples_singleton {computer : Computer} {paths : List String}
    (h : SamplesOf computer.store dir paths) :
    (findSamples directoryView [dir]).run computer = (.ok paths, computer) := by
  choose samples hsamples using fun dir => SamplesOf.exists_of_dir computer.store dir
  obtain ⟨next, rfl, hrun⟩ := (observes_findSamples_eq (directoryView_shows computer)
    (allListed_none computer.store [dir]) hsamples).run_eq rfl
  rw [hrun, List.flatMap_singleton, (hsamples dir).unique h]

/-- Finding samples comes to one list for every directory, whatever the order in which directories are
listed: one directory after another, the paths of its regular files whose names end in the extension
and are not the extension alone. -/
theorem findSamples_eq_flatMap (hview : view.Shows s refused seen)
    (hlisted : AllListed s refused dirs) {state : σ} (hseen : seen state) :
    ∃ samples : String → List String, (∀ dir, SamplesOf s dir (samples dir)) ∧
      ∃ next, seen next ∧ (findSamples view dirs).run state = (.ok (dirs.flatMap samples), next) := by
  choose samples hsamples using fun dir => SamplesOf.exists_of_dir s dir
  exact ⟨samples, hsamples, (observes_findSamples_eq hview hlisted hsamples).run_eq hseen⟩

end Views

/-! ## A root with empty files -/

theorem Files.Store.node?_root (s : Store) : s.node? [] = some .directory := rfl

/-- Empty files of the given names in the root, which is the working directory. -/
def Files.Store.ofNames : (names : List Name) →
    { s : Store // s.cwd = [] ∧ ∀ name,
      s.node? [name] = if name ∈ names then some (.file .empty false) else none }
  | [] => ⟨.empty, rfl, fun name => by simp [Store.node?, Store.empty]⟩
  | first :: names =>
    let s := ofNames names
    have hfree : s.1.node? [first] ≠ some .directory := by
      rw [s.2.2 first]
      split <;> simp
    ⟨s.1.insert [] first (.file .empty false) s.1.node?_root hfree, s.2.1, fun name => by
      rw [Store.node?_insert, s.2.2 name]
      by_cases hname : name = first <;> simp [hname]⟩

section Root

variable {names : List Name}

/-- The working directory is found under its own name. -/
theorem locate_dot {s : Store} (hcwd : s.cwd = []) : s.locate "." = .ok [] := by
  have hpath : Store.Admissible "." := ⟨by decide, by decide, by decide⟩
  rw [Store.locate_eq_ok_iff, Store.resolve_eq_ok_iff]
  have horigin : Store.origin s.cwd "." = [] := hcwd
  rw [horigin]
  exact ⟨hpath, .stay rfl (.inr rfl) .arrived⟩

theorem isRegularFile_ofNames {name : Name} (hname : name ∈ names) :
    (Store.ofNames names).1.isRegularFile (joinPath "." name.text) = true := by
  obtain ⟨hcwd, hnodes⟩ := (Store.ofNames names).2
  have hpath : Store.Admissible (joinPath "." name.text) := by
    obtain ⟨-, -, -, -, hnul, hsize⟩ := name.isName
    have hdot : joinPath "." name.text = "./" ++ name.text := by
      rw [joinPath_of_ne_empty (by decide), if_neg (by decide)]
      rfl
    rw [hdot]
    refine ⟨by simp, by simpa using hnul, ?_⟩
    rw [String.utf8ByteSize_append]
    have hsmall : "./".utf8ByteSize = 2 := rfl
    unfold maxPathLength
    omega
  exact Store.isRegularFile_joinPath (locate_dot hcwd) (Store.node?_root _) hpath
    ((hnodes name).trans (if_pos hname))

/-- The samples in the root, if that is the working directory. -/
theorem SamplesOf.of_root {s : Store} (hcwd : s.cwd = []) {found : List Name}
    (hsorted : found.Pairwise fun name later => name.text < later.text)
    (hfound : ∀ name : Name, name ∈ found ↔ (s.node? [name]).isSome = true ∧
      EndsAsSample name.text ∧ name.text ≠ bareExtension ∧
      s.isRegularFile (joinPath "." name.text) = true) :
    SamplesOf s "." (found.map fun name => joinPath "." name.text) where
  outside hdir := by
    rw [Store.isDirectory_iff.2 ⟨[], locate_dot hcwd, rfl⟩] at hdir
    cases hdir
  inside location hlocate _ := by
    obtain rfl := Except.ok.inj ((locate_dot hcwd).symm.trans hlocate)
    exact ⟨found, rfl, hsorted.imp utf8_lt_iff.2, hfound⟩

/-- The samples in the root are the names in question, in order. -/
theorem samplesOf_ofNames (found : List Name)
    (hsorted : found.Pairwise fun name later => name.text < later.text)
    (hfound : ∀ name : Name, name ∈ found ↔
      name ∈ names ∧ EndsAsSample name.text ∧ name.text ≠ bareExtension) :
    SamplesOf (Store.ofNames names).1 "." (found.map fun name => joinPath "." name.text) := by
  obtain ⟨hcwd, hnodes⟩ := (Store.ofNames names).2
  refine .of_root hcwd hsorted fun name => ?_
  have hpresent : ((Store.ofNames names).1.node? [name]).isSome = true ↔ name ∈ names := by
    rw [hnodes name]
    by_cases hname : name ∈ names <;> simp [hname]
  rw [hfound, hpresent]
  exact ⟨fun h => ⟨h.1, h.2.1, h.2.2, isRegularFile_ofNames h.1⟩, fun h => ⟨h.1, h.2.1, h.2.2.1⟩⟩

/-- A visible sample and a hidden one, each found twice in their directory that is configured twice. -/
theorem findSamples_eq_flatMap_hidden :
    ∃ next, (findSamples directoryView [".", "."]).run
      ⟨(Store.ofNames [⟨"b.curlee", by decide⟩, ⟨"a.txt", by decide⟩, ⟨".a.curlee", by decide⟩]).1,
        [], "", ""⟩ =
      (.ok ["./.a.curlee", "./b.curlee", "./.a.curlee", "./b.curlee"], next) := by
  let computer : Computer := ⟨(Store.ofNames [⟨"b.curlee", by decide⟩, ⟨"a.txt", by decide⟩,
    ⟨".a.curlee", by decide⟩]).1, [], "", ""⟩
  obtain ⟨samples, hsamples, next, -, hrun⟩ := findSamples_eq_flatMap
    (directoryView_shows computer) (allListed_none computer.store [".", "."]) rfl
  have hdot : SamplesOf computer.store "." ["./.a.curlee", "./b.curlee"] := by
    refine samplesOf_ofNames [⟨".a.curlee", by decide⟩, ⟨"b.curlee", by decide⟩]
      (by decide) fun name => ⟨fun hname => ?_, ?_⟩
    · rcases List.mem_cons.1 hname with rfl | hname
      · decide
      · obtain rfl := List.mem_singleton.1 hname
        decide
    · rintro ⟨hname, hends, -⟩
      simp only [List.mem_cons, List.not_mem_nil, or_false] at hname ⊢
      rcases hname with rfl | rfl | rfl
      · exact .inr rfl
      · exact absurd hends (by decide)
      · exact .inl rfl
  refine ⟨next, hrun.trans ?_⟩
  rw [List.flatMap_cons, List.flatMap_cons, (hsamples ".").unique hdot]
  rfl

/-- A file whose name is the extension alone is a regular file and ends in the extension, and it is
not found. -/
theorem bare_extension_not_found :
    EndsAsSample ".curlee" ∧
      (Store.ofNames [⟨".curlee", by decide⟩]).1.isRegularFile "./.curlee" = true ∧
      ∃ next, (findSamples directoryView ["."]).run
        ⟨(Store.ofNames [⟨".curlee", by decide⟩]).1, [], "", ""⟩ = (.ok [], next) := by
  let computer : Computer := ⟨(Store.ofNames [⟨".curlee", by decide⟩]).1, [], "", ""⟩
  have hdot : SamplesOf computer.store "." [] := by
    refine samplesOf_ofNames [] .nil fun name => ⟨nofun, ?_⟩
    rintro ⟨hname, -, hbare⟩
    obtain rfl := List.mem_singleton.1 hname
    exact absurd (by decide) hbare
  exact ⟨by decide, isRegularFile_ofNames (List.mem_singleton.2 rfl), computer,
    run_findSamples_singleton hdot⟩

end Root

end SampleForge
