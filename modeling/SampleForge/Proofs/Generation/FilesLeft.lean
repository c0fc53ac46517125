import SampleForge.Proofs.Corpus.RoundTrip
import SampleForge.Proofs.Generation.Names
import SampleForge.Proofs.Machine.Performing

/-!
# The files a request leaves behind

Generating files is a run of writes, and what is in a file afterwards is what the last write to it put
there.  The corpus is written last, so its file always holds the corpus, and that is read back as the
trimmed programs of all samples.  A sample file holds its program unless a later write went to the same
file, and that can happen in two ways: the corpus path leads to it, or the path of a later sample does.
Two samples have different names in one directory, so the second way needs a symbolic link: a store has
no file of two names, and no file that does not keep what is written to it.  `SampleRequest.FilesLeft`
says all of this, and `carryOut_leaves_files` proves it of every run that succeeds.

The first way needs nothing special: `corpus_written_over_sample` is a request whose only sample is lost.
-/

namespace SampleForge

open Files Text

/-- The paths of the files that are written after the sample at a position. -/
def WrittenFiles.pathsAfter (files : WrittenFiles) (i : Nat) : List String :=
  files.samplePaths.drop (i + 1) ++ [files.corpusPath]

namespace SampleRequest

/-- What is in a store after the samples of a request and the corpus were written. -/
structure FilesLeft (request : SampleRequest) (samples : List Sample) (corpus : Corpus)
    (report : WrittenFiles) (store : Store) : Prop where
  /-- The reported sample paths are those of the numbers from one to the count. -/
  samplePaths : report.samplePaths =
    (List.range' 1 request.count.toNat).map fun number =>
      joinPath request.outDir (Sample.numberedName number)
  corpusPath : report.corpusPath = request.corpusPath
  corpusText : store.readText report.corpusPath =
    .ok (writeCorpus request.seed request.count samples)
  corpusRead : readCorpus (writeCorpus request.seed request.count samples) = .ok corpus
  header : corpus.header = ⟨request.seed, request.count.toUInt64⟩
  /-- The programs in the corpus are the trimmed programs of all samples, in order. -/
  programs : corpus.programs =
    samples.map fun sample => String.ofList (trim sample.program.toList)
  /-- A sample file holds the program of its sample if no later file is the same, and the program in
  the corpus is the trimmed text of the file. -/
  sampleText : ∀ (i : Nat) (path : String), report.samplePaths[i]? = some path →
    (∀ later ∈ report.pathsAfter i, ¬ store.SameFile later path) →
      ∃ sample, samples[i]? = some sample ∧ store.readText path = .ok sample.program ∧
        corpus.programs[i]? = some (String.ofList (trim sample.program.toList))
  /-- In any case it holds what was written to it last. -/
  lastText : ∀ path ∈ report.samplePaths, ∃ text,
    store.LastWrite (request.writes samples) path text ∧ store.readText path = .ok text
  /-- Two sample paths are the same file only if one of them is that of a link. -/
  linked : ∀ (i j : Nat) (path path' : String), i ≠ j → report.samplePaths[i]? = some path →
    report.samplePaths[j]? = some path' → store.SameFile path path' →
      store.NamesLink path ∨ store.NamesLink path'

variable {request : SampleRequest} {samples : List Sample}

theorem samplePath_eq (request : SampleRequest) (sample : Sample) :
    request.samplePath sample = joinPath request.outDir (Sample.numberedName sample.index) := by
  rw [samplePath, Sample.fileName]

theorem map_samplePath (hindex : samples.map Sample.index = List.range' 1 request.count.toNat) :
    samples.map request.samplePath =
      (List.range' 1 request.count.toNat).map fun number =>
        joinPath request.outDir (Sample.numberedName number) := by
  rw [← hindex, List.map_map]
  refine List.map_congr_left fun sample _ => ?_
  rw [samplePath_eq, Function.comp_apply]

theorem mem_writes {sample : Sample} (hsample : sample ∈ samples) :
    (request.samplePath sample, sample.program) ∈ request.writes samples :=
  List.mem_append_left _ (List.mem_map.2 ⟨sample, hsample, rfl⟩)

/-- The writes before and after the one of a sample; the paths of those after it are the later ones. -/
theorem writes_eq_append (request : SampleRequest) {i : Nat} {sample : Sample}
    (hi : samples[i]? = some sample) :
    ∃ before after, request.writes samples =
        before ++ (request.samplePath sample, sample.program) :: after ∧
      ∀ path text, (path, text) ∈ after → path ∈ (request.files samples).pathsAfter i := by
  obtain ⟨hlt, hget⟩ := List.getElem?_eq_some_iff.1 hi
  have hsplit : samples = samples.take i ++ sample :: samples.drop (i + 1) := by
    rw [← hget, List.getElem_cons_drop, List.take_append_drop]
  refine ⟨(samples.take i).map fun sample => (request.samplePath sample, sample.program),
    (samples.drop (i + 1)).map (fun sample => (request.samplePath sample, sample.program)) ++
      [(request.corpusPath, request.corpusContent samples)], ?_, ?_⟩
  · rw [writes, ← List.cons_append, ← List.append_assoc, ← List.map_cons (f := fun sample =>
      (request.samplePath sample, sample.program)), ← List.map_append, ← hsplit]
  · intro path text hwrite
    unfold WrittenFiles.pathsAfter files
    rcases List.mem_append.1 hwrite with hsample | hcorpus
    · obtain ⟨later, hlater, heq⟩ := List.mem_map.1 hsample
      obtain ⟨rfl, rfl⟩ := Prod.mk.inj heq
      rw [← List.map_drop]
      exact List.mem_append_left _ (List.mem_map_of_mem hlater)
    · obtain ⟨rfl, rfl⟩ := Prod.mk.inj (List.mem_singleton.1 hcorpus)
      exact List.mem_append_right _ List.mem_cons_self

/-- The corpus is written last. -/
theorem lastWrite_corpus (store : Store) :
    store.LastWrite (request.writes samples) request.corpusPath
      (writeCorpus request.seed request.count samples) :=
  ⟨samples.map fun sample => (request.samplePath sample, sample.program), request.corpusPath, [],
    rfl, rfl, List.forall_mem_nil _⟩

/-- The file of the samples is read back as their trimmed programs. -/
theorem readCorpus_corpusContent :
    readCorpus (writeCorpus request.seed request.count samples) =
      .ok ⟨⟨request.seed, request.count.toUInt64⟩, samples.map Sample.trimmedProgram⟩ := by
  have hread := readCorpus_samples request.seed request.count.toUInt64 samples
  rw [UInt32.toNat_toUInt64] at hread
  exact hread

theorem getElem?_samplePaths {i : Nat} {path : String} :
    (request.files samples).samplePaths[i]? = some path ↔
      ∃ sample, samples[i]? = some sample ∧ request.samplePath sample = path := by
  have hpaths : (request.files samples).samplePaths = samples.map request.samplePath := rfl
  rw [hpaths, List.getElem?_map, Option.map_eq_some_iff]

/-! ## After the writes of a request -/

section AfterWrites

variable {start store : Store} (hwritten : Store.Written start (request.writes samples) store)
  {i j : Nat} {sample sample' : Sample}

include hwritten

/-- A sample that no later file is the same as is found in its file. -/
theorem readText_sample (hi : samples[i]? = some sample)
    (hlater : ∀ later ∈ (request.files samples).pathsAfter i,
      ¬ store.SameFile later (request.samplePath sample)) :
    store.readText (request.samplePath sample) = .ok sample.program := by
  obtain ⟨before, after, hwrites, hafter⟩ := request.writes_eq_append hi
  refine hwritten.readText_eq ⟨before, request.samplePath sample, after, hwrites,
    Store.SameFile.refl _ _, ?_⟩
  intro write hwrite
  exact hlater write.1 (hafter write.1 write.2 hwrite)

theorem exists_lastWrite_sample (hsample : sample ∈ samples) :
    ∃ text, store.LastWrite (request.writes samples) (request.samplePath sample) text ∧
      store.readText (request.samplePath sample) = .ok text := by
  have hwrite : (request.samplePath sample, sample.program) ∈ request.writes samples :=
    mem_writes hsample
  obtain ⟨text, hlast⟩ := Store.exists_lastWrite ⟨_, _, hwrite, Store.SameFile.refl store _⟩
  exact ⟨text, hlast, hwritten.readText_eq hlast⟩

/-- The files of two samples are different ones, unless one of them is reached through a link. -/
theorem namesLink_of_sameFile (hcount : request.count.toNat < 10 ^ 4)
    (hindex : samples.map Sample.index = List.range' 1 request.count.toNat) (hne : i ≠ j)
    (hi : samples[i]? = some sample) (hj : samples[j]? = some sample')
    (hsame : store.SameFile (request.samplePath sample) (request.samplePath sample')) :
    store.NamesLink (request.samplePath sample) ∨ store.NamesLink (request.samplePath sample') := by
  obtain ⟨hnumber, hlt⟩ := index_of_map_index hindex hi
  obtain ⟨hnumber', hlt'⟩ := index_of_map_index hindex hj
  -- Both paths are those of names in one directory.
  have hpath : request.samplePath sample =
      joinPath request.outDir (Sample.entryName (i + 1) (by omega)).text := by
    rw [samplePath_eq, hnumber, Sample.entryName_text]
  have hpath' : request.samplePath sample' =
      joinPath request.outDir (Sample.entryName (j + 1) (by omega)).text := by
    rw [samplePath_eq, hnumber', Sample.entryName_text]
  obtain ⟨location, hwritable⟩ := hwritten.exists_writable (mem_writes (List.mem_of_getElem? hi))
  have hlocate : store.locate (request.samplePath sample) = .ok location := hwritable.locate
  have hlocate' : store.locate (request.samplePath sample') = .ok location :=
    Eq.trans hsame.symm hlocate
  rw [hpath] at hlocate ⊢
  rw [hpath'] at hlocate' ⊢
  refine Store.namesLink_of_locate_eq (fun heq => hne ?_) hlocate hlocate'
  exact Nat.succ.inj (Sample.entryName_inj heq)

end AfterWrites

end SampleRequest

section Machine

open SampleRequest SampleForge.Machine

variable {request : SampleRequest} {computer computer' : Computer} {report : WrittenFiles}

/-- In a directory of files a request without a directory of its own can be carried out. -/
theorem exists_carryOut (hcheck : request.check = .ok ()) (hout : request.outDir = "")
    (corpusName : Name) (hcorpus : request.corpusPath = corpusName.text)
    (hfiles : computer.store.FilesOnly) :
    ∃ samples computer', request.samples? = some samples ∧
      samples.map Sample.index = List.range' 1 request.count.toNat ∧
      (request.carryOut perform).run computer = (.ok (request.files samples), computer') ∧
      computer'.store.FilesOnly := by
  have hcount := count_lt_of_check hcheck
  obtain ⟨samples, hsamples, hindex⟩ := exists_samples hcheck
  have hnames : ∀ write ∈ request.writes samples, ∃ name : Name, write.1 = name.text := by
    intro write hwrite
    rcases List.mem_append.1 hwrite with hsample | hlast
    · obtain ⟨sample, hmem, rfl⟩ := List.mem_map.1 hsample
      have hnumber : sample.index ∈ List.range' 1 request.count.toNat := by
        rw [← hindex]
        exact List.mem_map_of_mem hmem
      obtain ⟨i, hi, hnumber⟩ := List.mem_range'.1 hnumber
      refine ⟨Sample.entryName sample.index (by omega), ?_⟩
      rw [samplePath_eq, hout, ← Sample.entryName_text sample.index (by omega), joinPath_empty]
    · rw [List.mem_singleton.1 hlast]
      exact ⟨corpusName, hcorpus⟩
  obtain ⟨store, hwritten, hfiles'⟩ := hfiles.exists_written hnames
  -- The empty path is no directory to be made.
  have hmade : (perform (.makeDirs request.outDir)).run computer = (.ok (), computer) := by
    rw [hout]
    rfl
  have hperformed := run_performAll_writes.2 ⟨store, hwritten, rfl⟩
  refine ⟨samples, { computer with store := store }, hsamples, hindex, ?_, hfiles'⟩
  rw [run_carryOut perform hcheck hsamples, plan_eq, run_performAll_cons, hmade]
  simp only [hperformed]

/-- A request for one sample and a corpus in the working directory. -/
def SampleRequest.single (corpusPath : String) : SampleRequest :=
  { default with count := 1, outDir := "", corpusPath := corpusPath }

theorem check_single (corpusPath : String) : (single corpusPath).check = .ok () := by
  have hsame : (single corpusPath).check = (single "").check := rfl
  rw [hsame]
  decide +kernel

/-- A request that is carried out leaves behind the corpus and, in every sample file, what was written
to it last. -/
theorem carryOut_leaves_files
    (h : (request.carryOut perform).run computer = (.ok report, computer')) :
    ∃ samples corpus, request.samples? = some samples ∧
      samples.length = request.count.toNat ∧
      request.FilesLeft samples corpus report computer'.store := by
  have hcount := count_lt_of_check (check_of_carryOut perform h)
  obtain ⟨samples, start, hsamples, hindex, rfl, hwritten⟩ := written_of_carryOut h
  refine ⟨samples, _, hsamples, length_eq_of_map_index hindex, map_samplePath hindex, rfl, ?_,
    readCorpus_corpusContent, rfl, ?_, ?_, ?_, ?_⟩
  · exact hwritten.readText_eq (lastWrite_corpus _)
  · exact List.map_congr_left fun sample _ => sample.trim_program.symm
  · intro i path hpath hlater
    obtain ⟨sample, hi, rfl⟩ := getElem?_samplePaths.1 hpath
    refine ⟨sample, hi, readText_sample hwritten hi hlater, ?_⟩
    rw [List.getElem?_map, hi, Sample.trim_program]
    rfl
  · intro path hpath
    obtain ⟨sample, hsample, rfl⟩ := List.mem_map.1 hpath
    exact exists_lastWrite_sample hwritten hsample
  · intro i j path path' hne hpath hpath' hsame
    obtain ⟨sample, hi, rfl⟩ := getElem?_samplePaths.1 hpath
    obtain ⟨sample', hj, rfl⟩ := getElem?_samplePaths.1 hpath'
    exact namesLink_of_sameFile hwritten hcount hindex hne hi hj hsame

/-- A request for two samples and a corpus in the working directory. -/
def SampleRequest.pair (corpusPath : String) : SampleRequest :=
  { single corpusPath with count := 2 }

theorem check_pair (corpusPath : String) : (pair corpusPath).check = .ok () := by
  have hsame : (pair corpusPath).check = (pair "").check := rfl
  rw [hsame]
  decide +kernel

/-- Two samples in a directory without files.  Neither file is written over, the first one not by the
second sample and both not by the corpus. -/
theorem carryOut_leaves_files_pair :
    ∃ report computer',
      ((pair "corpus.txt").carryOut perform).run ⟨.empty, [], "", ""⟩ = (.ok report, computer') ∧
        ∃ samples corpus, (pair "corpus.txt").samples? = some samples ∧
          samples.length = (pair "corpus.txt").count.toNat ∧
          (pair "corpus.txt").FilesLeft samples corpus report computer'.store ∧
          ∃ first second, samples = [first, second] ∧
            computer'.store.readText "sample_0001.curlee" = .ok first.program ∧
            computer'.store.readText "sample_0002.curlee" = .ok second.program := by
  have hcorpus : IsName "corpus.txt" := by decide
  have hfirst : IsName "sample_0001.curlee" := by decide
  have hsecond : IsName "sample_0002.curlee" := by decide
  have hfiles : (⟨.empty, [], "", ""⟩ : Computer).store.FilesOnly := Store.filesOnly_empty
  obtain ⟨samples', computer', -, -, hrun, hfiles'⟩ :=
    exists_carryOut (check_pair "corpus.txt") rfl ⟨"corpus.txt", hcorpus⟩ rfl hfiles
  obtain ⟨samples, corpus, hsamples, hlength, hleft⟩ := carryOut_leaves_files hrun
  refine ⟨_, computer', hrun, samples, corpus, hsamples, hlength, hleft, ?_⟩
  have hpaths : ((pair "corpus.txt").files samples').samplePaths =
      ["sample_0001.curlee", "sample_0002.curlee"] := by
    rw [hleft.samplePaths]
    decide
  -- What is written later has another name, and so goes to another file.
  let corpusName : Name := ⟨"corpus.txt", hcorpus⟩
  let firstName : Name := ⟨"sample_0001.curlee", hfirst⟩
  let secondName : Name := ⟨"sample_0002.curlee", hsecond⟩
  obtain ⟨text, -, htext⟩ := hleft.lastText secondName.text (by rw [hpaths]; simp [secondName])
  have hcorpusFirst : ¬ computer'.store.SameFile corpusName.text firstName.text :=
    hfiles'.not_sameFile_of_readText (by simp [corpusName, firstName]) hleft.corpusText
  have hcorpusSecond : ¬ computer'.store.SameFile corpusName.text secondName.text :=
    hfiles'.not_sameFile_of_readText (by simp [corpusName, secondName]) hleft.corpusText
  have hsecondFirst : ¬ computer'.store.SameFile secondName.text firstName.text :=
    hfiles'.not_sameFile_of_readText (by simp [secondName, firstName]) htext
  obtain ⟨first, second, rfl⟩ := List.length_eq_two.1 hlength
  refine ⟨first, second, rfl, ?_, ?_⟩
  · obtain ⟨sample, hsample, hread, -⟩ :=
      hleft.sampleText 0 "sample_0001.curlee" (by rw [hpaths]; rfl) (by
        rw [WrittenFiles.pathsAfter, hpaths]
        exact List.forall_mem_cons.2 ⟨hsecondFirst, List.forall_mem_singleton.2 hcorpusFirst⟩)
    obtain rfl := Option.some.inj hsample
    exact hread
  · obtain ⟨sample, hsample, hread, -⟩ :=
      hleft.sampleText 1 "sample_0002.curlee" (by rw [hpaths]; rfl) (by
        rw [WrittenFiles.pathsAfter, hpaths]
        exact List.forall_mem_singleton.2 hcorpusSecond)
    obtain rfl := Option.some.inj hsample
    exact hread

/-- Under the name of the sample the corpus takes the place of its program. -/
theorem corpus_written_over_sample :
    ∃ report computer' samples sample path,
      ((single "sample_0001.curlee").carryOut perform).run ⟨.empty, [], "", ""⟩ =
          (.ok report, computer') ∧
        (single "sample_0001.curlee").samples? = some samples ∧ samples[0]? = some sample ∧
        report.samplePaths[0]? = some path ∧
        computer'.store.readText path ≠ .ok sample.program := by
  have hname : IsName "sample_0001.curlee" := by decide
  have hfiles : (⟨.empty, [], "", ""⟩ : Computer).store.FilesOnly := Store.filesOnly_empty
  obtain ⟨samples, computer', hsamples, hindex, hrun, -⟩ := exists_carryOut
    (check_single "sample_0001.curlee") rfl ⟨"sample_0001.curlee", hname⟩ rfl hfiles
  obtain ⟨samples', start, hsamples', -, -, hwritten⟩ := written_of_carryOut hrun
  obtain rfl := Option.some.inj (hsamples.symm.trans hsamples')
  have hcount : (single "sample_0001.curlee").count.toNat = 1 := rfl
  rw [hcount] at hindex
  obtain ⟨sample, rfl, hnumber⟩ : ∃ sample, samples = [sample] ∧ sample.index = 1 := by
    rcases samples with - | ⟨sample, - | ⟨other, rest⟩⟩
    · cases hindex
    · exact ⟨sample, rfl, (List.cons.inj hindex).1⟩
    · cases (List.cons.inj hindex).2
  have hpath : (single "sample_0001.curlee").samplePath sample = "sample_0001.curlee" := by
    rw [samplePath_eq, hnumber]
    decide
  refine ⟨_, computer', [sample], sample, "sample_0001.curlee", hrun, hsamples, rfl, ?_, ?_⟩
  · rw [← hpath]
    rfl
  · -- A corpus begins with a number sign and a program with a letter.
    have hcorpus := hwritten.readText_eq (lastWrite_corpus _)
    intro hprogram
    have htexts := Except.ok.inj (hcorpus.symm.trans hprogram)
    have hsign : sample.program.toList.head? = some '#' := by
      rw [← htexts, writeCorpus, toList_corpusText]
      rfl
    have hletter : sample.program.toList.head? = some 'f' := by
      rw [Sample.toList_program]
      rfl
    exact absurd (hsign.symm.trans hletter) (by decide)

end Machine
end SampleForge
