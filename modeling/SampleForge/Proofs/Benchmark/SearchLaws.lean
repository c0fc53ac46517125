import SampleForge.Proofs.Benchmark.FoundSamples
import SampleForge.Proofs.Files.Keeping

/-!
# Laws of finding samples

What is found is a function of the store and of the directories that cannot be listed: two views of one
store find the same, in whatever orders they list its directories.  Every directory contributes a
segment whose paths are strictly in order, lists of directories are searched one after the other, and of
the directories that cannot be listed the first is reported.

Two stores need not be the same for that.  `SparesSamples s s' dir` says that what comes or goes in the
directory is no sample and that its other entries stay what they are; what is in its subdirectories does
not matter.  Stores to which something was added are of this kind, `SparesSamples.of_keeps`, and so are
those from which it is taken away again.  Links are the exception, for whether the name of a link is that
of a sample depends on what stands at its end.  An entry that is added need not be a sample to make one
of a link, `link_found_through_added_file`.
-/

namespace SampleForge

open Files Machine Text

/-- What is found in the directories from a state on. -/
def foundFrom {σ : Type} (view : DirectoryView (StateM σ)) (state : σ) (dirs : List String) :
    Except BenchmarkError (List String) :=
  ((findSamples view dirs).run state).1

/-! ## Segments -/

namespace SamplesOf

variable {s : Store} {dir : String} {paths : List String}

/-- The samples of a directory are strictly in the order of paths. -/
theorem pairwise_pathBefore (h : SamplesOf s dir paths) :
    paths.Pairwise fun path later => pathBefore path later = true := by
  obtain ⟨names, rfl, hsorted⟩ := h.exists_names
  refine List.pairwise_map.2 (hsorted.imp fun {name later} hlt => ?_)
  rw [pathBefore_joinPath]
  exact decide_eq_true (utf8_lt_iff.1 hlt)

theorem pairwise_of_forall₂ {dirs : List String} {segments : List (List String)}
    (h : List.Forall₂ (SamplesOf s) dirs segments) : ∀ segment ∈ segments,
      segment.Pairwise fun path later => pathBefore path later = true := by
  induction h with
  | nil => exact List.forall_mem_nil _
  | cons hsamples _ ih => exact List.forall_mem_cons.2 ⟨hsamples.pairwise_pathBefore, ih⟩

theorem rightUnique (s : Store) : Relator.RightUnique (SamplesOf s) :=
  fun _ _ _ h h' => h.unique h'

end SamplesOf

/-! ## Changes that spare samples -/

/-- What becomes of an entry of a directory when one store takes the place of another: a file or a
directory stays one, a link stays what it is, or there is no sample before and afterwards. -/
inductive EntrySpared (s s' : Store) (dir : String) (location location' : Location) (name : Name) :
    Prop
  | file (before : ∃ content executable, s.node? (name :: location) = some (.file content executable))
      (after : ∃ content executable, s'.node? (name :: location') = some (.file content executable))
  | directory (before : s.node? (name :: location) = some .directory)
      (after : s'.node? (name :: location') = some .directory)
  /-- The link leads to a regular file as long as it did before. -/
  | link (target : String) (before : s.node? (name :: location) = some (.link target))
      (after : s'.node? (name :: location') = some (.link target))
      (regular : s'.isRegularFile (joinPath dir name.text) =
        s.isRegularFile (joinPath dir name.text))
  /-- What is there before and afterwards, if anything, is no sample. -/
  | rejected
      (before : (s.node? (name :: location)).isSome = true → isSampleName s dir name = false)
      (after : (s'.node? (name :: location')).isSome = true → isSampleName s' dir name = false)

/-- The path is that of a directory in both stores or in neither, and every entry is spared. -/
structure SparesSamples (s s' : Store) (dir : String) : Prop where
  directory : s'.isDirectory dir = s.isDirectory dir
  entries : ∀ location location', s.locate dir = .ok location →
    s.node? location = some .directory → s'.locate dir = .ok location' →
    s'.node? location' = some .directory → ∀ name, EntrySpared s s' dir location location' name

section Spared

variable {s s' : Store} {dir : String} {location location' : Location} {name : Name}

theorem isSampleName_of_file (hlocate : s.locate dir = .ok location)
    (hnode : s.node? location = some .directory)
    (hfile : ∃ content executable, s.node? (name :: location) = some (.file content executable)) :
    isSampleName s dir name = true ↔ EndsAsSample name.text ∧ name.text ≠ bareExtension ∧
      Store.Admissible (joinPath dir name.text) := by
  obtain ⟨content, executable, hentry⟩ := hfile
  rw [isSampleName_iff, Store.isRegularFile_joinPath_iff hlocate hnode hentry
    (Node.file_ne_link content executable)]
  simp

theorem isSampleName_of_directory (hlocate : s.locate dir = .ok location)
    (hnode : s.node? location = some .directory)
    (hentry : s.node? (name :: location) = some .directory) : isSampleName s dir name = false := by
  refine Bool.eq_false_iff.2 fun hsample => ?_
  obtain ⟨-, -, hfile⟩ := isSampleName_iff.1 hsample
  obtain ⟨-, content, executable, heq⟩ :=
    (Store.isRegularFile_joinPath_iff hlocate hnode hentry nofun).1 hfile
  cases heq

/-- An entry that is spared is a sample afterwards if it was one before. -/
theorem EntrySpared.sample_iff (h : EntrySpared s s' dir location location' name)
    (hlocate : s.locate dir = .ok location) (hnode : s.node? location = some .directory)
    (hlocate' : s'.locate dir = .ok location') (hnode' : s'.node? location' = some .directory) :
    (s'.node? (name :: location')).isSome = true ∧ isSampleName s' dir name = true ↔
      (s.node? (name :: location)).isSome = true ∧ isSampleName s dir name = true := by
  cases h with
  | file before after =>
      -- What else is in the stores does not count: the path of a file is judged by its text.
      rw [isSampleName_of_file hlocate hnode before, isSampleName_of_file hlocate' hnode' after]
      obtain ⟨content, executable, hentry⟩ := before
      obtain ⟨content', executable', hentry'⟩ := after
      rw [hentry, hentry', Option.isSome_some, Option.isSome_some]
  | directory before after =>
      rw [isSampleName_of_directory hlocate hnode before,
        isSampleName_of_directory hlocate' hnode' after]
      simp
  | link target before after regular =>
      rw [before, after, isSampleName, isSampleName, regular]
  | rejected before after =>
      constructor
      · rintro ⟨hpresent, hsample⟩
        exact absurd hsample (Bool.eq_false_iff.1 (after hpresent))
      · rintro ⟨hpresent, hsample⟩
        exact absurd hsample (Bool.eq_false_iff.1 (before hpresent))

theorem EntrySpared.symm (h : EntrySpared s s' dir location location' name) :
    EntrySpared s' s dir location' location name := by
  cases h with
  | file before after => exact .file after before
  | directory before after => exact .directory after before
  | link target before after regular => exact .link target after before regular.symm
  | rejected before after => exact .rejected after before

namespace SparesSamples

/-- What may be added may be taken away again. -/
theorem symm (h : SparesSamples s s' dir) : SparesSamples s' s dir where
  directory := h.directory.symm
  entries location' location hlocate' hnode' hlocate hnode name :=
    (h.entries location location' hlocate hnode hlocate' hnode' name).symm

/-- Anything may be added below a directory.  In the directory itself it must not be a sample, nor make
one of a link, and no path may become that of a directory. -/
theorem of_keeps (h : Store.Keeps s s') (hdirectory : s'.isDirectory dir = s.isDirectory dir)
    (hadded : ∀ location name, s.locate dir = .ok location → s.node? (name :: location) = none →
      (s'.node? (name :: location)).isSome = true → isSampleName s' dir name = false)
    (hlinks : ∀ location name target, s.locate dir = .ok location →
      s.node? (name :: location) = some (.link target) →
        s'.isRegularFile (joinPath dir name.text) = s.isRegularFile (joinPath dir name.text)) :
    SparesSamples s s' dir where
  directory := hdirectory
  entries location location' hlocate _ hlocate' _ name := by
    obtain rfl := Except.ok.inj ((h.locate hlocate).symm.trans hlocate')
    cases hentry : s.node? (name :: location) with
    | none =>
        refine .rejected (fun hpresent => ?_) (hadded location name hlocate hentry)
        rw [hentry] at hpresent
        cases hpresent
    | some node =>
        cases node with
        | directory => exact .directory hentry (h.directory _ hentry)
        | file content executable =>
            exact .file ⟨content, executable, hentry⟩ (h.file _ ⟨content, executable, hentry⟩)
        | link target =>
            exact .link target hentry (h.link _ target hentry)
              (hlinks location name target hlocate hentry)

/-- A store spares its own samples. -/
theorem refl (s : Store) (dir : String) : SparesSamples s s dir := by
  refine of_keeps (.refl s) rfl (fun location name _ hnone hpresent => ?_) fun _ _ _ _ _ => rfl
  rw [hnone] at hpresent
  cases hpresent

end SparesSamples

/-- The samples of a directory are those that they were before. -/
theorem SamplesOf.of_spares {paths : List String} (hsamples : SamplesOf s dir paths)
    (h : SparesSamples s s' dir) : SamplesOf s' dir paths where
  outside hdir := hsamples.outside (h.directory.symm.trans hdir)
  inside location' hlocate' hnode' := by
    have hdir : s.isDirectory dir = true :=
      h.directory.symm.trans (Store.isDirectory_iff.2 ⟨location', hlocate', hnode'⟩)
    obtain ⟨location, hlocate, hnode⟩ := Store.isDirectory_iff.1 hdir
    obtain ⟨names, hpaths, hsorted, hmem⟩ := hsamples.inside location hlocate hnode
    refine ⟨names, hpaths, hsorted, fun name => (hmem name).trans ?_⟩
    have hspared := h.entries location location' hlocate hnode hlocate' hnode' name
    rw [← isSampleName_iff, ← isSampleName_iff,
      hspared.sample_iff hlocate hnode hlocate' hnode']

theorem forall₂_samplesOf_of_spares {dirs : List String} {segments : List (List String)}
    (h : List.Forall₂ (SamplesOf s) dirs segments)
    (hspares : ∀ dir ∈ dirs, SparesSamples s s' dir) :
    List.Forall₂ (SamplesOf s') dirs segments :=
  ((List.forall₂_and_left _ _).2 ⟨hspares, h⟩).imp fun _ _ hboth => hboth.2.of_spares hboth.1

end Spared

/-! ## What is found -/

section Views

variable {σ τ : Type} {view : DirectoryView (StateM σ)} {view' : DirectoryView (StateM τ)}
  {s s' : Store} {refused : String → Option OsError} {seen : σ → Prop} {seen' : τ → Prop}
  {state : σ} {state' : τ} {dir : String} {dirs ds es : List String}

theorem exists_segments (hview : view.Shows s refused seen) (hseen : seen state)
    (hlisted : AllListed s refused dirs) :
    ∃ segments, List.Forall₂ (SamplesOf s) dirs segments ∧
      foundFrom view state dirs = .ok segments.flatten :=
  (observes_findSamples hview hlisted state hseen).1

/-- With every directory listed, the segments of the directories are found one after another. -/
theorem foundFrom_of_segments (hview : view.Shows s refused seen) (hseen : seen state)
    (hlisted : AllListed s refused dirs) {segments : List (List String)}
    (hsegments : List.Forall₂ (SamplesOf s) dirs segments) :
    foundFrom view state dirs = .ok segments.flatten := by
  obtain ⟨others, hothers, hfound⟩ := exists_segments hview hseen hlisted
  rwa [(SamplesOf.rightUnique s).forall₂ hothers hsegments] at hfound

theorem foundFrom_of_firstRefused (hview : view.Shows s refused seen) (hseen : seen state)
    {error : OsError} (hfirst : FirstRefused s refused dirs dir error) :
    foundFrom view state dirs = .error (.unlistedDirectory dir error) :=
  (observes_findSamples_refused hview hfirst state hseen).1

theorem AllListed.of_spares (h : AllListed s refused dirs)
    (hspares : ∀ dir ∈ dirs, SparesSamples s s' dir) : AllListed s' refused dirs :=
  fun dir hdir hdirectory => h dir hdir ((hspares dir hdir).directory.symm.trans hdirectory)

theorem FirstRefused.of_spares {error : OsError} (h : FirstRefused s refused dirs dir error)
    (hspares : ∀ dir ∈ dirs, SparesSamples s s' dir) : FirstRefused s' refused dirs dir error := by
  obtain ⟨before, after, rfl, hlisted, hdir, hrefused⟩ := h
  refine ⟨before, after, rfl, hlisted.of_spares fun other hother => ?_, ?_, hrefused⟩
  · exact hspares other (List.mem_append_left _ hother)
  · exact (hspares dir (List.mem_append_right _ List.mem_cons_self)).directory.trans hdir

/-- In a store that spares the samples of another the same is found. -/
theorem foundFrom_eq_of_spares (hview : view.Shows s refused seen) (hseen : seen state)
    (hview' : view'.Shows s' refused seen') (hseen' : seen' state')
    (hspares : ∀ dir ∈ dirs, SparesSamples s s' dir) :
    foundFrom view' state' dirs = foundFrom view state dirs := by
  rcases allListed_or_firstRefused s refused dirs with hlisted | ⟨dir, error, hfirst⟩
  · obtain ⟨segments, hsegments, hfound⟩ := exists_segments hview hseen hlisted
    rw [hfound, foundFrom_of_segments hview' hseen' (hlisted.of_spares hspares)
      (forall₂_samplesOf_of_spares hsegments hspares)]
  · rw [foundFrom_of_firstRefused hview hseen hfirst,
      foundFrom_of_firstRefused hview' hseen' (hfirst.of_spares hspares)]

/-- Two lists of directories are searched one after the other. -/
theorem exists_foundFrom_append (hview : view.Shows s refused seen) (hseen : seen state)
    (hds : AllListed s refused ds) (hes : AllListed s refused es) :
    ∃ found others, foundFrom view state ds = .ok found ∧ foundFrom view state es = .ok others ∧
      foundFrom view state (ds ++ es) = .ok (found ++ others) := by
  obtain ⟨segments, hsegments, hfound⟩ := exists_segments hview hseen hds
  obtain ⟨segments', hsegments', hfound'⟩ := exists_segments hview hseen hes
  refine ⟨_, _, hfound, hfound', ?_⟩
  rw [← List.flatten_append]
  exact foundFrom_of_segments hview hseen (List.forall_mem_append.2 ⟨hds, hes⟩)
    (List.rel_append hsegments hsegments')

/-- The laws that what is found in a store obeys. -/
structure SearchLaws (view : DirectoryView (StateM σ)) (s : Store)
    (refused : String → Option OsError) (state : σ) : Prop where
  /-- Another view of the store, which may list the directories in other orders, finds the same. -/
  independent : ∀ {τ : Type} {view' : DirectoryView (StateM τ)} {seen' : τ → Prop} {state' : τ},
    view'.Shows s refused seen' → seen' state' →
      ∀ dirs, foundFrom view' state' dirs = foundFrom view state dirs
  /-- Every directory contributes its samples, strictly in the order of paths. -/
  segments : ∀ dirs, AllListed s refused dirs → ∃ segments,
    List.Forall₂ (SamplesOf s) dirs segments ∧
      (∀ segment ∈ segments, segment.Pairwise fun path later => pathBefore path later = true) ∧
      foundFrom view state dirs = .ok segments.flatten
  /-- What is found in two lists of directories is found in one after the other. -/
  append : ∀ ds es, AllListed s refused ds → AllListed s refused es → ∃ found others,
    foundFrom view state ds = .ok found ∧ foundFrom view state es = .ok others ∧
      foundFrom view state (ds ++ es) = .ok (found ++ others)
  /-- If there are directories that cannot be listed, the first of them is reported. -/
  firstRefused : ∀ dirs, ¬ AllListed s refused dirs → ∃ dir error,
    FirstRefused s refused dirs dir error ∧
      foundFrom view state dirs = .error (.unlistedDirectory dir error)
  /-- In a store that spares the samples of this one the same is found. -/
  spared : ∀ {τ : Type} {view' : DirectoryView (StateM τ)} {s' : Store} {seen' : τ → Prop}
    {state' : τ}, view'.Shows s' refused seen' → seen' state' →
      ∀ dirs, (∀ dir ∈ dirs, SparesSamples s s' dir) →
        foundFrom view' state' dirs = foundFrom view state dirs

/-- What is found through a view of a store does not depend on the orders in which directories are
listed, is put together directory by directory, and survives changes that spare samples. -/
theorem searchLaws_of_shows (hview : view.Shows s refused seen) (hseen : seen state) :
    SearchLaws view s refused state where
  independent hview' hseen' dirs :=
    foundFrom_eq_of_spares hview hseen hview' hseen' fun dir _ => .refl s dir
  segments dirs hlisted := by
    obtain ⟨segments, hsegments, hfound⟩ := exists_segments hview hseen hlisted
    exact ⟨segments, hsegments, SamplesOf.pairwise_of_forall₂ hsegments, hfound⟩
  append ds es hds hes := exists_foundFrom_append hview hseen hds hes
  firstRefused dirs hlisted := by
    obtain ⟨dir, error, hfirst⟩ := (allListed_or_firstRefused s refused dirs).resolve_left hlisted
    exact ⟨dir, error, hfirst, foundFrom_of_firstRefused hview hseen hfirst⟩
  spared hview' hseen' dirs hspares := foundFrom_eq_of_spares hview hseen hview' hseen' hspares

end Views

/-! ## A note beside a sample, a file behind a link -/

def noteName : Name := ⟨"a.txt", by decide⟩

/-- The root with one sample. -/
def sampleAlone : Store := (Store.ofNames [⟨"b.curlee", by decide⟩]).1

theorem cwd_sampleAlone : sampleAlone.cwd = [] := (Store.ofNames _).2.1

theorem node?_sampleAlone (name : Name) : sampleAlone.node? [name] =
    if name ∈ [(⟨"b.curlee", by decide⟩ : Name)] then some (.file .empty false) else none :=
  (Store.ofNames _).2.2 name

theorem node?_noteName : sampleAlone.node? [noteName] = none :=
  (node?_sampleAlone noteName).trans (if_neg (by decide))

/-- The root with a note beside its sample. -/
def sampleWithNote : Store :=
  sampleAlone.insert [] noteName (.file .empty false) (Store.node?_root _)
    (by rw [node?_noteName]; exact nofun)

theorem samplesOf_sampleAlone : SamplesOf sampleAlone "." ["./b.curlee"] := by
  refine samplesOf_ofNames [⟨"b.curlee", by decide⟩] (by decide) fun name => ⟨fun hname => ?_, ?_⟩
  · obtain rfl := List.mem_singleton.1 hname
    decide
  · exact fun hname => hname.1

/-- The note is no sample. -/
theorem sparesSamples_note : SparesSamples sampleAlone sampleWithNote "." := by
  have hroot : sampleAlone.locate "." = .ok [] := locate_dot cwd_sampleAlone
  have hroot' : sampleWithNote.locate "." = .ok [] := locate_dot cwd_sampleAlone
  refine .of_keeps (Store.keeps_insert _ _ node?_noteName) ?_ ?_ ?_
  · rw [Store.isDirectory_iff.2 ⟨[], hroot, rfl⟩, Store.isDirectory_iff.2 ⟨[], hroot', rfl⟩]
  · intro location name hlocate hnone hpresent
    obtain rfl := Except.ok.inj (hroot.symm.trans hlocate)
    by_cases hnote : name = noteName
    · rw [isSampleName, hnote, decide_eq_false (by decide), Bool.false_and]
    · rw [sampleWithNote, Store.node?_insert, if_neg (by simpa using hnote), hnone] at hpresent
      cases hpresent
  · intro location name target hlocate hlink
    obtain rfl := Except.ok.inj (hroot.symm.trans hlocate)
    rw [node?_sampleAlone] at hlink
    split at hlink <;> cases hlink

/-- A directory that is searched twice contributes twice, and the note in it may as well be removed. -/
theorem searchLaws_of_shows_note :
    foundFrom directoryView ⟨sampleAlone, [], "", ""⟩ ["."] = .ok ["./b.curlee"] ∧
      foundFrom directoryView ⟨sampleWithNote, [], "", ""⟩ ["."] = .ok ["./b.curlee"] ∧
      foundFrom directoryView ⟨sampleWithNote, [], "", ""⟩ [".", "."] =
        .ok ["./b.curlee", "./b.curlee"] := by
  let alone : Computer := ⟨sampleAlone, [], "", ""⟩
  let noted : Computer := ⟨sampleWithNote, [], "", ""⟩
  have laws := searchLaws_of_shows (directoryView_shows noted) (rfl : noted = noted)
  have halone : foundFrom directoryView alone ["."] = .ok ["./b.curlee"] :=
    congrArg Prod.fst (run_findSamples_singleton samplesOf_sampleAlone)
  have hremoved : foundFrom directoryView alone ["."] = foundFrom directoryView noted ["."] := by
    refine laws.spared (directoryView_shows alone) rfl ["."] fun dir hdir => ?_
    obtain rfl := List.mem_singleton.1 hdir
    exact sparesSamples_note.symm
  have hnoted := hremoved.symm.trans halone
  obtain ⟨found, others, hds, hes, hboth⟩ :=
    laws.append ["."] ["."] (allListed_none _ _) (allListed_none _ _)
  obtain rfl := Except.ok.inj (hnoted.symm.trans hds)
  obtain rfl := Except.ok.inj (hnoted.symm.trans hes)
  exact ⟨halone, hnoted, hboth⟩

def linkName : Name := ⟨"a.curlee", by decide⟩

def textName : Name := ⟨"b.txt", by decide⟩

/-- The root with a link that has the name of a sample and leads nowhere. -/
def danglingLink : Store :=
  Store.empty.insert [] linkName (.link textName.text) (Store.node?_root _)
    (by simp [Store.node?, Store.empty])

theorem node?_danglingLink (name : Name) : danglingLink.node? [name] =
    if name = linkName then some (.link textName.text) else none := by
  rw [danglingLink, Store.node?_insert]
  simp [Store.node?, Store.empty]

/-- The same root with a file at the end of the link. -/
def linkToText : Store :=
  danglingLink.insert [] textName (.file .empty false) (Store.node?_root _)
    (by rw [node?_danglingLink]; split <;> simp)

theorem node?_linkToText (name : Name) : linkToText.node? [name] =
    if name = textName then some (.file .empty false)
    else if name = linkName then some (.link textName.text) else none := by
  rw [linkToText, Store.node?_insert, node?_danglingLink]
  simp

/-- Nothing is at the end of the link. -/
theorem isRegularFile_danglingLink :
    danglingLink.isRegularFile (joinPath "." linkName.text) = false := by
  refine Bool.eq_false_iff.2 fun hfile => ?_
  obtain ⟨location, content, executable, hlocate, hnode⟩ := Store.isRegularFile_iff.1 hfile
  obtain ⟨parent, links, hparent, -, hleads⟩ :=
    Store.locate_dir_of_joinPath (by decide) hlocate
  obtain rfl := Except.ok.inj ((locate_dot rfl).symm.trans hparent)
  obtain ⟨links', htarget⟩ := hleads.of_link ((node?_danglingLink linkName).trans (if_pos rfl))
  have habsent : danglingLink.node? [textName] = none :=
    (node?_danglingLink textName).trans (if_neg (by decide))
  rw [textName.splitPath_text, textName.origin_text] at htarget
  rcases htarget.eq_of_name with rfl | ⟨target, hlink, -⟩
  · rw [habsent] at hnode
    cases hnode
  · rw [habsent] at hlink
    cases hlink

/-- The link leads to the file. -/
theorem isRegularFile_linkToText :
    linkToText.isRegularFile (joinPath "." linkName.text) = true := by
  have hfile : linkToText.node? [textName] = some (.file .empty false) :=
    (node?_linkToText textName).trans (if_pos rfl)
  have hlink : linkToText.node? [linkName] = some (.link textName.text) :=
    (node?_linkToText linkName).trans (by rw [if_neg (by decide), if_pos rfl])
  refine Store.isRegularFile_iff.2 ⟨[textName], .empty, false, ?_, hfile⟩
  have hpieces : splitPath (joinPath "." linkName.text) = [".", linkName.text] := rfl
  rw [Store.locate_eq_ok_iff, Store.resolve_eq_ok_iff, hpieces]
  refine ⟨⟨by decide, by decide, by decide⟩, .stay rfl (.inr rfl) ?_⟩
  refine .follow rfl (Store.allows_nil _) (Store.not_meansEntry_of_ne (by decide) _) hlink
    (by decide) ?_
  rw [textName.splitPath_text, List.append_nil]
  exact .enter rfl (Store.allows_nil _) (Store.not_meansEntry_of_ne (by decide) _) hfile
    (Node.file_ne_link _ _) .arrived

/-- A file that is no sample is added, and a link that was not found is found. -/
theorem link_found_through_added_file :
    (isSample directoryView "./b.txt").run ⟨linkToText, [], "", ""⟩ =
        (false, ⟨linkToText, [], "", ""⟩) ∧
      foundFrom directoryView ⟨danglingLink, [], "", ""⟩ ["."] = .ok [] ∧
      foundFrom directoryView ⟨linkToText, [], "", ""⟩ ["."] = .ok ["./a.curlee"] := by
  have hdangling : SamplesOf danglingLink "." [] := by
    refine .of_root rfl .nil fun name => ⟨nofun, ?_⟩
    rintro ⟨hpresent, -, -, hfile⟩
    rw [node?_danglingLink] at hpresent
    by_cases hname : name = linkName
    · rw [hname, isRegularFile_danglingLink] at hfile
      cases hfile
    · rw [if_neg hname] at hpresent
      cases hpresent
  have hlink : SamplesOf linkToText "." ([linkName].map fun name => joinPath "." name.text) := by
    refine .of_root rfl (List.pairwise_singleton _ _) fun name => ⟨?_, ?_⟩
    · intro hname
      obtain rfl := List.mem_singleton.1 hname
      refine ⟨?_, by decide, by decide, isRegularFile_linkToText⟩
      rw [node?_linkToText, if_neg (by decide), if_pos rfl, Option.isSome_some]
    · rintro ⟨hpresent, hends, -⟩
      rw [node?_linkToText] at hpresent
      by_cases htext : name = textName
      · rw [htext] at hends
        exact absurd hends (by decide)
      · by_cases hname : name = linkName
        · exact List.mem_singleton.2 hname
        · rw [if_neg htext, if_neg hname] at hpresent
          cases hpresent
  exact ⟨rfl, congrArg Prod.fst (run_findSamples_singleton hdangling),
    congrArg Prod.fst (run_findSamples_singleton hlink)⟩

end SampleForge
