import SampleForge.Proofs.Benchmark.FoundSamples
import SampleForge.Proofs.Generation.FilesLeft
import SampleForge.Proofs.Generation.NameOrder

/-!
# Generated samples are found

A request writes its samples under numbered names, and what looks for samples knows nothing of requests.
`SampleRequest.FoundAfter` says how the two fit together: after a request was carried out, the samples
it reports are found in its directory, in the order of their numbers; samples that were found there
before still are; and what is found besides is accounted for.

The directory of a request may come to be where nothing was, and still hold files: a path with `..`
behind a directory that is yet to be made leads nowhere, and afterwards to a directory that was there
all along.  `found_by_detour` is such a request.  Without links this and the corpus are the only ways
for another sample to turn up.
-/

namespace SampleForge

open Files Machine Text

namespace SampleRequest

/-- What is found in the directory of a request before it is carried out and after. -/
structure FoundAfter (request : SampleRequest) (report : WrittenFiles) (s s' : Store)
    (before found : List String) : Prop where
  /-- What is found are the paths of names, in the order of the bytes of the names. -/
  ordered : ∃ names : List Name,
    found = names.map (fun name => joinPath request.outDir name.text) ∧
      names.Pairwise fun name later => utf8 name.text < utf8 later.text
  samplePaths : report.samplePaths =
    (List.range' 1 request.count.toNat).map fun number =>
      joinPath request.outDir (Sample.numberedName number)
  /-- The samples of the request are found in their order. -/
  sublist : report.samplePaths.Sublist found
  once : found.Nodup
  /-- Another sample was found before, or was a file before its directory could be reached, or is the
  corpus. -/
  others : ∀ path ∈ found, path ∉ report.samplePaths → path ∈ before ∨
    (s.isDirectory request.outDir = false ∧ ∃ location content executable,
      s'.locate path = .ok location ∧ s.node? location = some (.file content executable)) ∨
    s'.SameFile report.corpusPath path
  /-- What was found before is found. -/
  kept : ∀ path ∈ before, path ∈ found

variable {request : SampleRequest} {samples : List Sample} {start s s' : Store}
  {before found : List String} {location : Location} {content : ByteArray} {executable : Bool}

theorem endsAsSample_numberedName (number : Nat) : EndsAsSample (Sample.numberedName number) := by
  rw [EndsAsSample, Sample.toList_numberedName]
  exact List.suffix_append _ _

theorem numberedName_ne_bareExtension (number : Nat) :
    Sample.numberedName number ≠ bareExtension := by
  intro heq
  have hlists := congrArg String.toList heq
  rw [Sample.toList_numberedName, toList_bareExtension] at hlists
  cases hlists

/-- The files that are written are those of the samples and that of the corpus. -/
theorem writes_cases {write : String × String} (h : write ∈ request.writes samples) :
    (∃ sample ∈ samples, write.1 = request.samplePath sample) ∨ write.1 = request.corpusPath := by
  rcases List.mem_append.1 h with hsample | hcorpus
  · obtain ⟨sample, hmem, rfl⟩ := List.mem_map.1 hsample
    exact .inl ⟨sample, hmem, by dsimp only⟩
  · rw [List.mem_singleton.1 hcorpus]
    exact .inr rfl

section Carried

variable (hcount : request.count.toNat < 10 ^ 4)
  (hindex : samples.map Sample.index = List.range' 1 request.count.toNat)

include hcount hindex

/-- The path of a sample is that of its name in the directory. -/
theorem exists_samplePath {sample : Sample} (hsample : sample ∈ samples) :
    ∃ name : Name, name.text = Sample.numberedName sample.index ∧
      request.samplePath sample = joinPath request.outDir name.text := by
  have hnumber : sample.index ∈ List.range' 1 request.count.toNat := by
    rw [← hindex]
    exact List.mem_map_of_mem hsample
  rw [List.mem_range'_1] at hnumber
  exact ⟨Sample.entryName sample.index (by omega), rfl, samplePath_eq request sample⟩

variable (hwritten : Store.Written start (request.writes samples) s') (hout : request.outDir ≠ "")
  (hfound : SamplesOf s' request.outDir found)

include hwritten hout hfound

/-- Every sample of the request is found. -/
theorem samplePath_mem_found {sample : Sample} (hsample : sample ∈ samples) :
    request.samplePath sample ∈ found := by
  have hfile := hwritten.isRegularFile (mem_writes hsample)
  obtain ⟨name, hname, hpath⟩ := exists_samplePath hcount hindex hsample
  rw [hpath] at hfile ⊢
  refine (hfound.mem_iff hout).2 ⟨?_, ?_, hfile⟩
  · rw [hname]
    exact endsAsSample_numberedName _
  · rw [hname]
    exact numberedName_ne_bareExtension _

/-- Both the samples of the request and what is found are in the order of names. -/
theorem samplePaths_sublist_found : (samples.map request.samplePath).Sublist found := by
  obtain ⟨names, hnames, hsorted⟩ := hfound.exists_names
  have hsubset : (List.range' 1 request.count.toNat).map Sample.numberedName ⊆
      names.map Name.text := by
    intro text htext
    rw [← hindex, List.map_map] at htext
    obtain ⟨sample, hsample, rfl⟩ := List.mem_map.1 htext
    have hmem := samplePath_mem_found hcount hindex hwritten hout hfound hsample
    obtain ⟨name, hname, hpath⟩ := exists_samplePath hcount hindex hsample
    rw [hnames, hpath] at hmem
    obtain ⟨name', hname', heq⟩ := List.mem_map.1 hmem
    exact List.mem_map.2 ⟨name', hname', (joinPath_inj heq).trans hname⟩
  have htexts : (names.map Name.text).Pairwise (· < ·) :=
    List.pairwise_map.2 (hsorted.imp utf8_lt_iff.1)
  have hnumbered := Sample.pairwise_numberedName hcount
  have hsublist := List.sublist_of_subperm_of_pairwise (hnumbered.nodup.subperm hsubset) hnumbered htexts
  have hpaths := hsublist.map (joinPath request.outDir)
  simp only [List.map_map, Function.comp_def] at hpaths
  rw [map_samplePath hindex, hnames]
  exact hpaths

/-- A file that is found and was not written was a file before. -/
theorem others_found (hlinks : s'.NoLinks) (hmade : s.DirectoriesMade start)
    (hbefore : SamplesOf s request.outDir before) {path : String} (hpath : path ∈ found)
    (hother : path ∉ samples.map request.samplePath) :
    path ∈ before ∨
      (s.isDirectory request.outDir = false ∧ ∃ location content executable,
        s'.locate path = .ok location ∧ s.node? location = some (.file content executable)) ∨
      s'.SameFile request.corpusPath path := by
  obtain ⟨names, hnames, -⟩ := hfound.exists_names
  obtain ⟨name, -, rfl⟩ := List.mem_map.1 (hnames ▸ hpath)
  obtain ⟨hends, hbare, hfile⟩ := (hfound.mem_iff hout).1 hpath
  obtain ⟨location, content, executable, hlocate, hnode⟩ := Store.isRegularFile_iff.1 hfile
  by_cases hcorpus : s'.locate request.corpusPath = .ok location
  · exact .inr (.inr (hcorpus.trans hlocate.symm))
  -- No sample was written to the file, for without links that would be under its own name.
  have huntouched : ∀ write ∈ request.writes samples, s'.locate write.1 ≠ .ok location := by
    intro write hwrite hsame
    rcases writes_cases hwrite with ⟨sample, hsample, heq⟩ | heq
    · obtain ⟨name', -, hpath'⟩ := exists_samplePath hcount hindex hsample
      rw [heq, hpath'] at hsame
      have hne : name ≠ name' := by
        rintro rfl
        exact hother (List.mem_map.2 ⟨sample, hsample, hpath'⟩)
      rcases Store.namesLink_of_locate_eq hne hlocate hsame with hlink | hlink
      · obtain ⟨place, target, -, htarget⟩ := hlink
        exact hlinks place target htarget
      · obtain ⟨place, target, -, htarget⟩ := hlink
        exact hlinks place target htarget
    · rw [heq] at hsame
      exact hcorpus hsame
  rw [hwritten.node?_eq huntouched] at hnode
  have hold := hmade.node?_of_ne hnode (by simp)
  cases hdirectory : s.isDirectory request.outDir with
  | false => exact .inr (.inl ⟨rfl, location, content, executable, hlocate, hold⟩)
  | true =>
      -- The directory was there, and what is in it has its place there.
      obtain ⟨parent, hparent, hparentnode⟩ := Store.isDirectory_iff.1 hdirectory
      have hparent' := (hmade.keeps.trans hwritten.keeps).locate hparent
      obtain ⟨parent', links, hlocate', -, hleads⟩ := Store.locate_dir_of_joinPath hout hlocate
      obtain rfl := Except.ok.inj (hparent'.symm.trans hlocate')
      rcases hleads.eq_of_name with rfl | ⟨target, hlink, -⟩
      · have hadmissible := (Store.resolve_eq_ok_iff.1 (Store.locate_eq_ok_iff.1 hlocate)).1
        exact .inl ((hbefore.mem_iff hout).2 ⟨hends, hbare,
          Store.isRegularFile_joinPath hparent hparentnode hadmissible hold⟩)
      · exact absurd hlink (hlinks _ target)

end Carried

/-- Directories that are made and files that are written leave the samples of before and the new ones to
be found. -/
theorem foundAfter_of_written (hcount : request.count.toNat < 10 ^ 4)
    (hindex : samples.map Sample.index = List.range' 1 request.count.toNat)
    (hout : request.outDir ≠ "") (hlinks : s.NoLinks) (hmade : s.DirectoriesMade start)
    (hwritten : Store.Written start (request.writes samples) s')
    (hbefore : SamplesOf s request.outDir before) (hfound : SamplesOf s' request.outDir found) :
    request.FoundAfter (request.files samples) s s' before found where
  ordered := hfound.exists_names
  samplePaths := map_samplePath hindex
  sublist := samplePaths_sublist_found hcount hindex hwritten hout hfound
  once := hfound.nodup
  others _ := others_found hcount hindex hwritten hout hfound
    (hwritten.noLinks (hmade.noLinks hlinks)) hmade hbefore
  kept path hpath := by
    obtain ⟨names, hnames, -⟩ := hbefore.exists_names
    obtain ⟨name, -, rfl⟩ := List.mem_map.1 (hnames ▸ hpath)
    obtain ⟨hends, hbare, hfile⟩ := (hbefore.mem_iff hout).1 hpath
    exact (hfound.mem_iff hout).2
      ⟨hends, hbare, (hmade.keeps.trans hwritten.keeps).isRegularFile hfile⟩

end SampleRequest

section Machine

open SampleRequest

variable {request : SampleRequest} {computer computer' : Computer} {report : WrittenFiles}

/-! ## A directory reached by a detour -/

/-- A directory that is yet to be made. -/
def newName : Name := ⟨"a", by decide⟩

/-- A file that is there. -/
def oldName : Name := ⟨"old.curlee", by decide⟩

/-- A computer with one sample in its root. -/
def oneSample : Computer := ⟨(Store.ofNames [oldName]).1, [], "", ""⟩

theorem cwd_oneSample : oneSample.store.cwd = [] := (Store.ofNames [oldName]).2.1

theorem node?_oneSample (name : Name) : oneSample.store.node? [name] =
    if name ∈ [oldName] then some (.file .empty false) else none :=
  (Store.ofNames [oldName]).2.2 name

theorem node?_oneSample_new : oneSample.store.node? [newName] = none :=
  (node?_oneSample newName).trans (if_neg (by decide))

/-- A request for one sample in the root, by way of the directory that is yet to be made. -/
def SampleRequest.detour : SampleRequest := { single "corpus.txt" with outDir := "a/.." }

section Detour

variable {s : Store} {mode : LastName} {place : Place} {rest : List String}

theorem onlySeparators_up (rest : List String) : Store.onlySeparators (".." :: rest) = false := by
  simp [Store.onlySeparators]

/-- Without the directory there is no way back. -/
theorem resolve_detour_of_none (hcwd : s.cwd = []) (hnone : s.node? [newName] = none)
    (mode : LastName) : s.resolve mode "a/.." = .error .notFound := by
  have hpath : Store.Admissible "a/.." := ⟨by decide, by decide, by decide⟩
  have hpieces : splitPath "a/.." = [newName.text, ".."] := by decide
  have horigin : Store.origin s.cwd "a/.." = [] := hcwd
  rw [Store.resolve_of_admissible hpath, horigin, hpieces]
  exact Store.walk_of_error
    (Store.advance_absent (Store.node?_root s) (onlySeparators_up []) hnone) _

/-- With the directory the way leads back to the root. -/
theorem leads_detour (hnew : s.node? [newName] = some .directory)
    (hleads : s.Leads mode maxLinks [] rest place) :
    s.Leads mode maxLinks [] (newName.text :: ".." :: rest) place := by
  have hallowed : Store.Allows mode (".." :: rest) := by
    rintro ⟨-, hlast, -⟩
    rw [onlySeparators_up] at hlast
    contradiction
  have hunmeant : ¬ Store.MeansEntry mode (".." :: rest) := by
    rintro ⟨-, hlast⟩
    rw [onlySeparators_up] at hlast
    contradiction
  exact .enter (Store.node?_root s) hallowed hunmeant hnew (fun _ => nofun) (.up hnew hleads)

theorem resolve_detour (hcwd : s.cwd = []) (hnew : s.node? [newName] = some .directory)
    (mode : LastName) : s.resolve mode "a/.." = .ok (.found []) := by
  have hpieces : splitPath "a/.." = [newName.text, ".."] := by decide
  have horigin : Store.origin s.cwd "a/.." = [] := hcwd
  rw [Store.resolve_eq_ok_iff, horigin, hpieces]
  exact ⟨⟨by decide, by decide, by decide⟩, leads_detour hnew .arrived⟩

/-- The directory is made on the way. -/
theorem run_makeDirs_detour {computer : Computer} (hcwd : computer.store.cwd = [])
    (hnone : computer.store.node? [newName] = none) :
    ∃ store, (perform (.makeDirs "a/..")).run computer =
        (.ok (), { computer with store := store }) ∧
      store.cwd = [] ∧ store.node? [newName] = some .directory ∧
      ∀ name, name ≠ newName → store.node? [name] = computer.store.node? [name] := by
  have habsent : computer.store.makeDirectory "a/.." = .error .notFound := by
    rw [Store.makeDirectory, resolve_detour_of_none hcwd hnone]
  have hmade : ∃ store, computer.store.makeDirectory "a" = .ok store ∧
      store.node? [newName] = some .directory ∧
      ∀ name, name ≠ newName → store.node? [name] = computer.store.node? [name] := by
    have hleads : computer.store.Leads .entry maxLinks (Store.origin computer.store.cwd newName.text)
        (splitPath newName.text) (.missing [] newName (([] : List String) ≠ [])) := by
      rw [newName.origin_text, newName.splitPath_text, hcwd]
      exact .missing (Store.node?_root _) (Store.allows_nil _) hnone rfl
    have hplace := Store.resolve_eq_ok_iff.2 ⟨Store.admissible_name newName, hleads⟩
    have hfree : ¬ computer.store.node? [newName] = some .directory := by simp [hnone]
    have hname : newName.text = "a" := rfl
    rw [hname] at hplace
    simp only [Store.makeDirectory, hplace, Store.put, dif_pos (Store.node?_root computer.store),
      dif_neg hfree]
    refine ⟨_, rfl, ?_, fun name hname => ?_⟩
    · rw [Store.node?_insert, if_pos rfl]
    · rw [Store.node?_insert, if_neg (by simpa using hname)]
  obtain ⟨store, hmake, hnew, helse⟩ := hmade
  have hcwd' : store.cwd = [] := (Store.directoriesMade_of_makeDirectory hmake).cwd.trans hcwd
  refine ⟨store, ?_, hcwd', hnew, helse⟩
  have hresolve := resolve_detour hcwd' hnew
  have hlast : store.makeDirectory "a/.." = .error .alreadyExists := by
    rw [Store.makeDirectory, hresolve]
  have hdir : store.isDirectory "a/.." = true :=
    Store.isDirectory_iff.2 ⟨[], Store.locate_eq_ok_iff.2 (hresolve .follow), store.node?_root⟩
  have hnames : (components "a/..").names.length = 2 := by decide
  have hparent : parentPath? "a/.." = some "a" := by decide
  have hrun : (perform (.makeDirs "a/..")).run computer =
      (directoryMaker.makeUpTo (components "a/..").names.length "a/..").run computer := rfl
  rw [hrun, hnames, run_makeUpTo_of_parent (by decide) habsent hparent
    (run_makeUpTo_of_made (by decide) hmake)]
  exact run_makeLast_of_isDirectory hlast hdir

/-- What the root holds once the new directory is there. -/
structure DetourMade (s : Store) : Prop where
  cwd : s.cwd = []
  new : s.node? [newName] = some .directory
  rest : ∀ name, name ≠ newName →
    s.node? [name] = if name ∈ [oldName] then some (.file .empty false) else none

/-- The sample and the corpus can be written to the root. -/
theorem DetourMade.exists_written (h : DetourMade s) (program corpus : String) :
    ∃ last, s.Written [("a/../sample_0001.curlee", program), ("corpus.txt", corpus)] last ∧
      last.locate "corpus.txt" = .ok [⟨"corpus.txt", by decide⟩] := by
  let sampleName : Name := ⟨"sample_0001.curlee", by decide⟩
  let corpusName : Name := ⟨"corpus.txt", by decide⟩
  have hsample : s.resolve .create "a/../sample_0001.curlee" =
      .ok (.missing [] sampleName (([] : List String) ≠ [])) := by
    have hpieces : splitPath "a/../sample_0001.curlee" =
        newName.text :: ".." :: [sampleName.text] := by decide
    have horigin : Store.origin s.cwd "a/../sample_0001.curlee" = [] := h.cwd
    have hfree : s.node? [sampleName] = none := (h.rest sampleName (by decide)).trans rfl
    rw [Store.resolve_eq_ok_iff, horigin, hpieces]
    exact ⟨⟨by decide, by decide, by decide⟩,
      leads_detour h.new (.missing s.node?_root (Store.allows_nil _) hfree rfl)⟩
  obtain ⟨next, hfirst, hnext, -⟩ :=
    Store.exists_write_of_missing hsample s.node?_root program.toUTF8
  have hcorpus : next.resolve .create "corpus.txt" =
      .ok (.missing [] corpusName (([] : List String) ≠ [])) := by
    have hfree : next.node? [corpusName] = none :=
      (hnext.elsewhere [corpusName] (by decide)).trans ((h.rest corpusName (by decide)).trans rfl)
    have hleads : next.Leads .create maxLinks (Store.origin next.cwd corpusName.text)
        (splitPath corpusName.text) (.missing [] corpusName (([] : List String) ≠ [])) := by
      rw [corpusName.origin_text, corpusName.splitPath_text, hnext.cwd, h.cwd]
      exact .missing next.node?_root (Store.allows_nil _) hfree rfl
    exact Store.resolve_eq_ok_iff.2 ⟨Store.admissible_name corpusName, hleads⟩
  obtain ⟨last, hsecond, -, hwritable⟩ :=
    Store.exists_write_of_missing hcorpus next.node?_root corpus.toUTF8
  exact ⟨last, .cons hfirst (.cons hsecond .nil), hwritable.locate⟩

/-- The file that was there is found by the detour. -/
theorem DetourMade.locate_old (h : DetourMade s) :
    s.locate "a/../old.curlee" = .ok [oldName] ∧
      s.node? [oldName] = some (.file .empty false) := by
  have hold : s.node? [oldName] = some (.file .empty false) :=
    (h.rest oldName (by decide)).trans rfl
  have hpieces : splitPath "a/../old.curlee" = newName.text :: ".." :: [oldName.text] := by decide
  have horigin : Store.origin s.cwd "a/../old.curlee" = [] := h.cwd
  rw [Store.locate_eq_ok_iff, Store.resolve_eq_ok_iff, horigin, hpieces]
  exact ⟨⟨⟨by decide, by decide, by decide⟩, leads_detour h.new
    (.enter s.node?_root (Store.allows_nil _) (Store.not_meansEntry_of_ne (by decide) []) hold
      (Node.file_ne_link _ _) .arrived)⟩, hold⟩

/-- The request is carried out, and the file that was there is a regular one in its directory. -/
theorem exists_carryOut_detour :
    ∃ samples computer', (detour.carryOut perform).run oneSample =
        (.ok (detour.files samples), computer') ∧
      (detour.files samples).samplePaths = ["a/../sample_0001.curlee"] ∧
      computer'.store.isRegularFile "a/../old.curlee" = true ∧
      ¬ computer'.store.SameFile "corpus.txt" "a/../old.curlee" := by
  have hcheck : detour.check = .ok () := check_single ""
  obtain ⟨samples, hsamples, hindex⟩ := exists_samples hcheck
  obtain ⟨sample, rfl, hnumber⟩ := List.map_eq_singleton_iff.1 hindex
  obtain ⟨store, hmakes, hcwd, hnew, helse⟩ :=
    run_makeDirs_detour cwd_oneSample node?_oneSample_new
  have hmade : DetourMade store :=
    ⟨hcwd, hnew, fun name hname => (helse name hname).trans (node?_oneSample name)⟩
  obtain ⟨last, hwritten, hcorpus⟩ :=
    hmade.exists_written sample.program (detour.corpusContent [sample])
  obtain ⟨hlocate, hold⟩ := hmade.locate_old
  have hpath : detour.samplePath sample = "a/../sample_0001.curlee" := by
    rw [samplePath_eq, hnumber]
    decide
  refine ⟨[sample], { oneSample with store := last }, ?_, ?_, ?_, ?_⟩
  · have hdirs : (perform (.makeDirs detour.outDir)).run oneSample =
        (.ok (), { oneSample with store := store }) := hmakes
    have hwrites : store.Written (detour.writes [sample]) last := by
      rw [writes, List.map_singleton, hpath]
      exact hwritten
    have hperformed : (performAll perform (writeOperations (detour.writes [sample]))).run
        { oneSample with store := store } = (.ok (), { oneSample with store := last }) :=
      run_performAll_writes.2 ⟨last, hwrites, rfl⟩
    rw [run_carryOut perform hcheck hsamples, plan_eq, run_performAll_cons, hdirs]
    simp only [hperformed]
  · rw [files, List.map_singleton, hpath]
  · exact hwritten.keeps.isRegularFile (Store.isRegularFile_iff.2 ⟨[oldName], _, _, hlocate, hold⟩)
  · intro hsame
    have hlocations := (hcorpus.symm.trans hsame).trans (hwritten.keeps.locate hlocate)
    exact absurd (Except.ok.inj hlocations) (by decide)

theorem noLinks_ofNames (names : List Name) : (Store.ofNames names).1.NoLinks := by
  induction names with
  | nil =>
      intro location target hlink
      cases location with
      | nil => cases hlink
      | cons name dir =>
          have hnone : (∅ : Std.HashMap Location Node)[name :: dir]? = none := by simp
          cases hnone.symm.trans hlink
  | cons first names ih =>
      intro location target hlink
      rw [Store.ofNames, Store.node?_insert] at hlink
      by_cases hlocation : location = [first]
      · rw [if_pos hlocation] at hlink
        cases hlink
      · rw [if_neg hlocation] at hlink
        exact ih location target hlink

end Detour

/-- On a computer without links, a request that is carried out into a directory of its own leaves its
samples to be found there in the order of their numbers. -/
theorem carryOut_then_findSamples (hlinks : computer.store.NoLinks) (hout : request.outDir ≠ "")
    (h : (request.carryOut perform).run computer = (.ok report, computer')) :
    ∃ before found,
      (findSamples directoryView [request.outDir]).run computer = (.ok before, computer) ∧
      (findSamples directoryView [request.outDir]).run computer' = (.ok found, computer') ∧
      request.FoundAfter report computer.store computer'.store before found := by
  have hcount := count_lt_of_check (check_of_carryOut perform h)
  obtain ⟨samples, between, -, hindex, rfl, hmakes, hwritten⟩ := written_after_makeDirs h
  obtain ⟨before, hbefore⟩ := SamplesOf.exists_of_dir computer.store request.outDir
  obtain ⟨found, hfound⟩ := SamplesOf.exists_of_dir computer'.store request.outDir
  exact ⟨before, found, run_findSamples_singleton hbefore, run_findSamples_singleton hfound,
    foundAfter_of_written hcount hindex hout hlinks (directoriesMade_of_makeDirs hmakes) hwritten
      hbefore hfound⟩

/-- The file of the request is found where its directory was not to be found before. -/
theorem carryOut_then_findSamples_detour :
    ∃ report computer' found,
      (detour.carryOut perform).run oneSample = (.ok report, computer') ∧
      (findSamples directoryView ["a/.."]).run computer' = (.ok found, computer') ∧
      "a/../sample_0001.curlee" ∈ found := by
  obtain ⟨samples, computer', hrun, hpaths, -, -⟩ := exists_carryOut_detour
  obtain ⟨before, found, -, hfound, hafter⟩ :=
    carryOut_then_findSamples (noLinks_ofNames [oldName]) (by decide) hrun
  refine ⟨_, computer', found, hrun, hfound, hafter.sublist.subset ?_⟩
  rw [hpaths]
  exact List.mem_singleton.2 rfl

/-- Without links, a file turns up that no sample of the request, no corpus and nothing found before
is. -/
theorem found_by_detour :
    ∃ report computer' before found path,
      oneSample.store.NoLinks ∧ detour.outDir ≠ "" ∧
      (detour.carryOut perform).run oneSample = (.ok report, computer') ∧
      (findSamples directoryView [detour.outDir]).run oneSample = (.ok before, oneSample) ∧
      (findSamples directoryView [detour.outDir]).run computer' = (.ok found, computer') ∧
      path ∈ found ∧ path ∉ report.samplePaths ∧ path ∉ before ∧
      ¬ computer'.store.SameFile report.corpusPath path := by
  obtain ⟨samples, computer', hrun, hpaths, hfile, hcorpus⟩ := exists_carryOut_detour
  have hbefore : SamplesOf oneSample.store "a/.." [] := by
    refine .of_not_isDirectory ?_
    have hlocate : oneSample.store.locate "a/.." = .error .notFound := by
      rw [Store.locate, resolve_detour_of_none cwd_oneSample node?_oneSample_new]
    rw [Store.isDirectory, Store.nodeAt?, hlocate]
    rfl
  obtain ⟨found, hfound⟩ := SamplesOf.exists_of_dir computer'.store "a/.."
  have hold : joinPath "a/.." oldName.text ∈ found :=
    (hfound.mem_iff (by decide)).2 ⟨by decide, by decide, hfile⟩
  refine ⟨_, computer', [], found, "a/../old.curlee", noLinks_ofNames [oldName], by decide, hrun,
    run_findSamples_singleton hbefore, run_findSamples_singleton hfound, hold, ?_,
    List.not_mem_nil, hcorpus⟩
  rw [hpaths]
  decide

end Machine
end SampleForge
