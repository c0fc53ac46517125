import SampleForge.Proofs.Benchmark.Outcome

/-!
# What the system is asked to execute

A benchmark looks for its checker twice.  Before anything is started the checker has to exist, and for
this its name is a path.  A checker is started by having the system look for it, and then its name is a
path only if there is a separator in it; any other name is looked for in the directories of the search
path, and the working directory does not count.

`askingHost` is a computer with a record of the paths that the system is asked to execute.  Every checker
that is started is on this record once.  With a separator in the name of the checker the paths are its path
and nothing else, and they lead to the file that existed as long as no checker changes where that path
leads: `asked_for_checked_tool`.  Without one they are other paths, `other_file_asked_for`.

What kinds of programs the system starts and what they do is arbitrary: all of this is about any `Loader`,
of which no more is known than that it starts the file that a path leads to.
-/

namespace SampleForge

open Files Machine

/-- A path that the system is asked to execute, the computer as it is then, and the answer. -/
structure ExecutionRequest where
  computer : Computer
  path : String
  answer : Except OsError Executable

/-- Whether a file was started. -/
def ExecutionRequest.granted (request : ExecutionRequest) : Bool := request.answer.isOk

/-- Whether a program was started and has ended. -/
def Start.ran (start : Start) : Bool := start.outcome.isOk

/-- A computation on a computer with a record of what the system is asked to execute. -/
abbrev OnRecord := StateM (Computer × List ExecutionRequest)

/-- A step that asks for nothing. -/
def unasked {α : Type} (step : OnComputer α) : OnRecord α := fun (computer, requests) =>
  let (value, next) := step.run computer
  (value, next, requests)

section Hosts

variable (loader : Loader)

/-- What comes of asking for a path. -/
def requestOn (computer : Computer) (path : String) : ExecutionRequest :=
  ⟨computer, path, loader.answer computer path⟩

/-- Asks for a path to be executed. -/
def ask (path : String) : OnRecord (Except OsError Executable) := fun (computer, requests) =>
  let request := requestOn loader computer path
  (request.answer, computer, requests ++ [request])

/-- Starts a program as the loader does; every path under which it is looked for is asked for. -/
def startAsking (program : String) (arguments : List String) :
    OnRecord (Except OsError ExitStatus) := do
  if !(program :: arguments).all isArgument then pure (.error .nulInCommand)
  else
    let (computer, _) ← get
    match ← searchProgram (ask loader) computer.searchPath program with
    | .error error => pure (.error error)
    | .ok file => do pure (.ok (← unasked (loader.run file arguments)))

/-- The same computer with a record of what the system is asked to execute, the latest last. -/
def askingHost : BenchmarkHost OnRecord where
  view :=
    { isDirectory := fun path => unasked (directoryView.isDirectory path)
      entries := fun path => unasked (directoryView.entries path)
      isRegularFile := fun path => unasked (directoryView.isRegularFile path) }
  exists? path := unasked ((hostWith loader).exists? path)
  start := startAsking loader
  clock := unasked (hostWith loader).clock

/-- Looking at the computer asks for nothing. -/
theorem askingHost_shows (computer : Computer) :
    (askingHost loader).Shows computer.store (fun _ => none) (· = (computer, [])) where
  view :=
    { isDirectory := fun _ => by
        rintro state rfl
        exact ⟨rfl, rfl⟩
      isRegularFile := fun _ => by
        rintro state rfl
        exact ⟨rfl, rfl⟩
      entries := fun dir hdir => by
        rintro state rfl
        exact ⟨((directoryView_shows computer).entries dir hdir computer rfl).1, rfl⟩ }
  exists? _ := by
    rintro state rfl
    exact ⟨rfl, rfl⟩

end Hosts

/-! ## Looking for a program -/

section Search

variable {loader : Loader} {computer : Computer} {path : String} {paths : List String}

/-- The search returns the value, leaves the computer alone and asks for some of the paths, in order from
the first one on.  One of them is granted if a file is found, and none otherwise. -/
def AsksAmong (loader : Loader) (computer : Computer) (paths : List String)
    (search : OnRecord (Except OsError Executable)) (value : Except OsError Executable) : Prop :=
  ∀ requests, ∃ asked, asked <+: paths ∧
    search.run (computer, requests) =
      (value, computer, requests ++ asked.map (requestOn loader computer)) ∧
    (asked.map (requestOn loader computer)).countP ExecutionRequest.granted =
      if value.isOk then 1 else 0

theorem run_ask (loader : Loader) (path : String) (computer : Computer)
    (requests : List ExecutionRequest) :
    (ask loader path).run (computer, requests) =
      (loader.answer computer path, computer, requests ++ [requestOn loader computer path]) := rfl

namespace AsksAmong

variable {next : Except OsError Executable → OnRecord (Except OsError Executable)}
  {value : Except OsError Executable} {file : Executable} {error : OsError}

/-- A search that is given up asks for nothing. -/
theorem refused (paths : List String) (error : OsError) :
    AsksAmong loader computer paths (pure (.error error)) (.error error) := by
  intro requests
  refine ⟨[], List.nil_prefix, ?_, rfl⟩
  rw [List.map_nil, List.append_nil]
  rfl

/-- A search ends with the first file that is found. -/
theorem found (hanswer : loader.answer computer path = .ok file)
    (hnext : next (.ok file) = pure (.ok file)) :
    AsksAmong loader computer (path :: paths) (ask loader path >>= next) (.ok file) := by
  intro requests
  refine ⟨[path], List.cons_prefix_cons.2 ⟨rfl, List.nil_prefix⟩, ?_, ?_⟩
  · rw [StateT.run_bind, run_ask, hanswer]
    change (next (.ok file)).run _ = _
    rw [hnext]
    rfl
  · have hgranted : (requestOn loader computer path).granted = true := by
      rw [ExecutionRequest.granted, requestOn, hanswer]
      rfl
    rw [List.map_singleton, List.countP_singleton, if_pos hgranted]
    rfl

/-- What is asked for after a refusal comes behind it in the record. -/
theorem goOn (hanswer : loader.answer computer path = .error error)
    (h : AsksAmong loader computer paths (next (.error error)) value) :
    AsksAmong loader computer (path :: paths) (ask loader path >>= next) value := by
  intro requests
  obtain ⟨asked, hasked, hrun, hcount⟩ := h (requests ++ [requestOn loader computer path])
  have hrecord : requests ++ (path :: asked).map (requestOn loader computer) =
      (requests ++ [requestOn loader computer path]) ++ asked.map (requestOn loader computer) :=
    List.append_cons _ _ _
  refine ⟨path :: asked, List.cons_prefix_cons.2 ⟨rfl, hasked⟩, ?_, ?_⟩
  · rw [hrecord, StateT.run_bind, run_ask, hanswer]
    exact hrun
  · have hrefused : ¬ (requestOn loader computer path).granted = true := by
      rw [ExecutionRequest.granted, requestOn, hanswer]
      exact Bool.false_ne_true
    rw [List.map_cons, List.countP_cons_of_neg hrefused]
    exact hcount

end AsksAmong

/-- The record does not change what is found, and what is asked for are paths in question. -/
theorem asksAmong_tryAll (loader : Loader) (computer : Computer) (paths : List String)
    (denied : Bool) (last : OsError) :
    AsksAmong loader computer paths (tryAll (ask loader) denied last paths)
      (Id.run (tryAll (fun path => pure (loader.answer computer path)) denied last paths)) := by
  induction paths generalizing denied last with
  | nil => exact .refused _ _
  | cons path paths ih =>
      rw [tryAll, tryAll, pure_bind]
      cases hanswer : loader.answer computer path with
      | ok file => exact .found hanswer rfl
      | error error =>
          refine .goOn hanswer ?_
          -- The search ends here or goes on, and does so in the same way without a record.
          by_cases hdenied : error = .permissionDenied
          · simp only [if_pos hdenied]
            exact ih true last
          · by_cases hmissing : isMissing error = true
            · simp only [if_neg hdenied, if_pos hmissing]
              exact ih denied error
            · simp only [if_neg hdenied, if_neg hmissing]
              exact .refused _ _

/-- Asking changes neither how a start ends nor the computer it leads to.  One request is granted if the
program is started, and none otherwise. -/
theorem run_startAsking (loader : Loader) (program : String) (arguments : List String)
    (computer : Computer) (requests : List ExecutionRequest) :
    ∃ asked, asked <+: candidates computer.searchPath program ∧
      (startAsking loader program arguments).run (computer, requests) =
        (((loader.start program arguments).run computer).1,
          ((loader.start program arguments).run computer).2,
          requests ++ asked.map (requestOn loader computer)) ∧
      (asked.map (requestOn loader computer)).countP ExecutionRequest.granted =
        if ((loader.start program arguments).run computer).1.isOk then 1 else 0 := by
  rw [startAsking, Loader.start]
  by_cases hnul : (!(program :: arguments).all isArgument) = true
  · refine ⟨[], List.nil_prefix, ?_, ?_⟩
    · rw [if_pos hnul, if_pos hnul, List.map_nil, List.append_nil]
      rfl
    · rw [if_pos hnul]
      rfl
  · rw [if_neg hnul, if_neg hnul]
    obtain ⟨asked, hasked, hrun, hcount⟩ :=
      asksAmong_tryAll loader computer (candidates computer.searchPath program) false .notFound
        requests
    have hfind : (searchProgram (ask loader) computer.searchPath program).run (computer, requests) =
        (findExecutable (loader.answer computer) computer.searchPath program, computer,
          requests ++ asked.map (requestOn loader computer)) := hrun
    have hgranted : (asked.map (requestOn loader computer)).countP ExecutionRequest.granted =
        if (findExecutable (loader.answer computer) computer.searchPath program).isOk then 1 else 0 :=
      hcount
    refine ⟨asked, hasked, ?_⟩
    simp only [StateT.run_bind, StateT.run_get, pure_bind, hfind, hgranted]
    cases findExecutable (loader.answer computer) computer.searchPath program with
    | error error => exact ⟨rfl, rfl⟩
    | ok file => exact ⟨rfl, rfl⟩

theorem candidates_of_separator {searchPath : List String} {program : String}
    (h : separator ∈ program.toList) : candidates searchPath program = [program] := by
  rw [candidates, if_pos (List.contains_iff_mem.2 h)]

theorem exists_dir_of_mem_candidates {searchPath : List String} {program path : String}
    (hplain : separator ∉ program.toList) (h : path ∈ candidates searchPath program) :
    ∃ dir ∈ searchPath, path = joinPath dir program := by
  rw [candidates, if_neg (by simpa using hplain)] at h
  by_cases hempty : program = ""
  · rw [if_pos hempty] at h
    cases h
  · rw [if_neg hempty] at h
    obtain ⟨dir, hdir, hpath⟩ := List.mem_map.1 h
    exact ⟨dir, hdir, hpath.symm⟩

end Search

/-! ## Runs with a record -/

section Runs

/-- No program changes where the path leads. -/
def Steady (loader : Loader) (path : String) : Prop :=
  ∀ (file : Executable) (arguments : List String) (computer : Computer),
    ((loader.run file arguments).run computer).2.store.locate path = computer.store.locate path

variable {loader : Loader} {benchmark : Benchmark} {computer : Computer} {tool : String}

/-- The request is one for the program, made on a computer of which something is known. -/
structure RequestFor (loader : Loader) (known : Computer → Prop) (program : String)
    (request : ExecutionRequest) : Prop where
  path : request.path ∈ candidates request.computer.searchPath program
  answer : request.answer = loader.answer request.computer request.path
  computer : known request.computer

/-- A computer with a record of starts, and the same one with a record of requests for the program.  Every
program that was started was granted once. -/
structure OnSameComputer (loader : Loader) (known : Computer → Prop) (program : String)
    (recorded : Computer × List Start) (asked : Computer × List ExecutionRequest) : Prop where
  same : recorded.1 = asked.1
  state : known recorded.1
  requests : ∀ request ∈ asked.2, RequestFor loader known program request
  granted : asked.2.countP ExecutionRequest.granted = recorded.2.countP Start.ran

/-- What is known of a computer is still known when something has run. -/
def Preserved (loader : Loader) (known : Computer → Prop) : Prop :=
  ∀ file arguments computer, known computer → known ((loader.run file arguments).run computer).2

variable {known : Computer → Prop}

theorem mirrors_unasked {α : Type} {step : OnComputer α}
    (h : ∀ computer, known computer → known (step.run computer).2) :
    Mirrors (OnSameComputer loader known tool) (beside step) (unasked step) := by
  rintro ⟨computer, starts⟩ ⟨_, requests⟩ ⟨rfl, hknown, hrequests, hgranted⟩
  exact ⟨rfl, rfl, h _ hknown, hrequests, hgranted⟩

theorem mirrors_unasked_inspect {α : Type} (f : Store → α) :
    Mirrors (OnSameComputer loader known tool) (beside (inspect f)) (unasked (inspect f)) :=
  mirrors_unasked fun _ hknown => hknown

/-- Starting a program is looking for it, and then at most one run. -/
theorem known_start (h : Preserved loader known) (program : String) (arguments : List String)
    (hknown : known computer) :
    known ((loader.start program arguments).run computer).2 := by
  rw [Loader.start]
  split
  · exact hknown
  · rw [StateT.run_bind, StateT.run_get, pure_bind]
    cases findExecutable (loader.answer computer) computer.searchPath program with
    | error error => exact hknown
    | ok file => exact h file arguments computer hknown

theorem mirrors_startAsking (h : Preserved loader known) (arguments : List String) :
    Mirrors (OnSameComputer loader known tool) ((hostWith loader).recorded.start tool arguments)
      (startAsking loader tool arguments) := by
  rintro ⟨computer, starts⟩ ⟨_, requests⟩ ⟨rfl, hknown, hrequests, hgranted⟩
  obtain ⟨asked, hasked, hstart, hcount⟩ :=
    run_startAsking loader tool arguments computer requests
  rw [hstart, run_start_recorded]
  refine ⟨rfl, rfl, known_start h tool arguments hknown, fun request hrequest => ?_, ?_⟩
  · rcases List.mem_append.1 hrequest with hearlier | hlater
    · exact hrequests request hearlier
    · obtain ⟨path, hpath, rfl⟩ := List.mem_map.1 hlater
      exact ⟨hasked.subset hpath, rfl, hknown⟩
  · rw [List.countP_append, List.countP_append, List.countP_singleton, hcount, hgranted]
    rfl

/-- A benchmark starts nothing but its checker, so all requests are for that. -/
theorem mirrors_run_asking (h : Preserved loader known) (benchmark : Benchmark) :
    Mirrors (OnSameComputer loader known benchmark.tool)
      (benchmark.run (hostWith loader).recorded) (benchmark.run (askingHost loader)) := by
  -- Hosts that start the checker whatever they are asked to start make no difference to the benchmark.
  let recorded : BenchmarkHost (StateM (Computer × List Start)) :=
    { (hostWith loader).recorded with
      start := fun _ => (hostWith loader).recorded.start benchmark.tool }
  let asking : BenchmarkHost OnRecord :=
    { askingHost loader with start := fun _ => startAsking loader benchmark.tool }
  have hhosts : recorded.Mirrors (OnSameComputer loader known benchmark.tool) asking :=
    { view := ⟨fun path => mirrors_unasked_inspect (·.isDirectory path),
        fun path => mirrors_unasked_inspect (·.entries path),
        fun path => mirrors_unasked_inspect (·.isRegularFile path)⟩
      exists? := fun path => mirrors_unasked_inspect (·.exists? path)
      start := fun _ => mirrors_startAsking h
      clock := mirrors_unasked fun _ hknown => hknown }
  exact mirrors_run hhosts benchmark

/-- What is checked is that the path of the checker leads to something. -/
theorem exists_location_of_check
    (hcheck : (benchmark.check (hostWith loader).exists?).run computer = (.ok (), computer)) :
    ∃ location, computer.store.locate benchmark.tool = .ok location ∧
      (computer.store.node? location).isSome = true := by
  have hruns : benchmark.runs ≠ 0 := by
    intro hzero
    rw [Benchmark.check, if_pos hzero] at hcheck
    cases hcheck
  have hresult : ((benchmark.check (hostWith loader).exists?).run computer).1 = _ :=
    (observes_check (hostWith_shows loader computer) hruns computer rfl).1
  rw [hcheck] at hresult
  split at hresult
  next htool =>
    rw [Store.exists?, Store.nodeAt?] at htool
    cases hlocate : computer.store.locate benchmark.tool with
    | error error => simp [hlocate] at htool
    | ok location =>
        simp only [hlocate] at htool
        exact ⟨location, rfl, htool⟩
  next => cases hresult

/-- Every checker that a benchmark starts is one granted request.  If there is a separator in the name of
the checker, every request is for its path, what is started is the file that the path leads to, and as
long as no program changes where it leads, this is the file that was there when the checker was looked
for.  If there is none, every request is for the name in a directory of the search path. -/
theorem asked_for_checked_tool (loader : Loader)
    (hcheck : (benchmark.check (hostWith loader).exists?).run computer = (.ok (), computer)) :
    ∃ location, computer.store.locate benchmark.tool = .ok location ∧
      (computer.store.node? location).isSome = true ∧
      ∃ result next starts requests,
        (benchmark.run (hostWith loader)).run computer = (result, next) ∧
        (benchmark.run (hostWith loader).recorded).run (computer, []) = (result, next, starts) ∧
        (benchmark.run (askingHost loader)).run (computer, []) = (result, next, requests) ∧
        requests.countP ExecutionRequest.granted = starts.countP Start.ran ∧
        (separator ∈ benchmark.tool.toList → ∀ request ∈ requests,
          request.path = benchmark.tool ∧
          (∀ file, request.answer = .ok file →
            request.computer.store.locate benchmark.tool = .ok file.location) ∧
          (Steady loader benchmark.tool →
            request.computer.store.locate request.path = .ok location ∧
            ∀ file, request.answer = .ok file → file.location = location)) ∧
        (separator ∉ benchmark.tool.toList → ∀ request ∈ requests,
          ∃ dir ∈ request.computer.searchPath, request.path = joinPath dir benchmark.tool) := by
  obtain ⟨location, hlocate, hnode⟩ := exists_location_of_check hcheck
  refine ⟨location, hlocate, hnode, ?_⟩
  -- What is known all along: a path that programs leave alone leads to where it did at first.
  let known : Computer → Prop := fun later =>
    Steady loader benchmark.tool → later.store.locate benchmark.tool = .ok location
  have hkeep : Preserved loader known := fun file arguments later hknown hsteady =>
    (hsteady file arguments later).trans (hknown hsteady)
  have hbegin : OnSameComputer loader known benchmark.tool (computer, []) (computer, []) :=
    ⟨rfl, fun _ => hlocate, List.forall_mem_nil _, rfl⟩
  obtain ⟨result, next, starts, hplain, hrecorded⟩ :=
    exists_run_recorded (hostWith loader) benchmark computer
  obtain ⟨_, _, ⟨_, requests⟩, hrecorded', hasking, hsame, -, hrequests, hgranted⟩ :=
    (mirrors_run_asking hkeep benchmark).exists_run hbegin
  obtain ⟨rfl, rfl⟩ := Prod.mk.inj (hrecorded.symm.trans hrecorded')
  obtain rfl : next = _ := hsame
  refine ⟨result, next, starts, requests, hplain, hrecorded, hasking, hgranted,
    fun hseparator request hrequest => ?_, fun hnone request hrequest =>
      exists_dir_of_mem_candidates hnone (hrequests request hrequest).path⟩
  obtain ⟨hpath, hanswer, hknown⟩ := hrequests request hrequest
  rw [candidates_of_separator hseparator] at hpath
  obtain hpath := List.mem_singleton.1 hpath
  have hstarted : ∀ file, request.answer = .ok file →
      request.computer.store.locate benchmark.tool = .ok file.location := by
    intro file hfile
    rw [hanswer, hpath] at hfile
    exact loader.locate_of_answer hfile
  refine ⟨hpath, hstarted, fun hsteady => ⟨?_, fun file hfile => ?_⟩⟩
  · rw [hpath]
    exact hknown hsteady
  · exact Except.ok.inj ((hstarted file hfile).symm.trans (hknown hsteady))

end Runs

/-! ## Two files of one name -/

section Namesakes

variable {computer : Computer} {tool path : String} {location : Location} {content : ByteArray}

/-- A program that is looked for under one path is asked for once. -/
theorem run_startAsking_passingLoader {arguments : List String}
    (hargs : (tool :: arguments).all isArgument = true)
    (hpath : candidates computer.searchPath tool = [path])
    (hlocate : computer.store.locate path = .ok location)
    (hnode : computer.store.node? location = some (.file content true))
    (requests : List ExecutionRequest) :
    (startAsking passingLoader tool arguments).run (computer, requests) =
      (.ok (.code 0), computer, requests ++ [requestOn passingLoader computer path]) := by
  have hplain : (passingLoader.start tool arguments).run computer = (.ok (.code 0), computer) :=
    run_start_passingLoader hargs hpath hlocate hnode
  obtain ⟨asked, hasked, hrun, hcount⟩ :=
    run_startAsking passingLoader tool arguments computer requests
  rw [hplain] at hrun hcount
  rw [hpath] at hasked
  cases asked with
  | nil => cases hcount
  | cons first rest =>
      obtain ⟨rfl, hrest⟩ := List.cons_prefix_cons.1 hasked
      obtain rfl := List.prefix_nil.1 hrest
      exact hrun

/-- With the checker in the root every pass asks once, for the one path under which the checker is looked
for. -/
theorem run_askingHost_of_checker (h : CheckerInRoot computer.store) {runs : UInt32}
    (hruns : runs ≠ 0) (htool : computer.store.locate tool = .ok [checkerName])
    (hargs : (tool :: ["check", "./c.curlee"]).all isArgument = true)
    (hpath : candidates computer.searchPath tool = [path])
    (hlocate : computer.store.locate path = .ok location)
    (hnode : computer.store.node? location = some (.file content true)) :
    ∃ timing, (Benchmark.run (askingHost passingLoader) ⟨tool, runs, ["."]⟩).run (computer, []) =
      (.ok timing, computer,
        List.replicate runs.toNat (requestOn passingLoader computer path)) := by
  obtain ⟨samples, hsamples, hfound, hsound⟩ := h.exists_samples htool hruns
  let states : Nat → Computer × List ExecutionRequest := fun n =>
    (computer, List.replicate n (requestOn passingLoader computer path))
  have hstart : ∀ n, ∀ sample ∈ [("." : String)].flatMap samples,
      ((askingHost passingLoader).start tool ["check", sample]).run (states n) =
        (.ok (.code 0), states (n + 1)) := by
    intro n sample hsample
    rw [hfound] at hsample
    obtain rfl := List.mem_singleton.1 hsample
    have hasked := run_startAsking_passingLoader hargs hpath hlocate hnode (states n).2
    rw [← List.replicate_succ'] at hasked
    exact hasked
  obtain ⟨timing, hpassed⟩ := run_of_passing (askingHost_shows passingLoader computer) hsamples hsound
    (fun _ => Iff.rfl : ∀ state, state = (computer, []) ↔ state = states 0) hstart fun _ => rfl
  rw [hfound, List.length_singleton, Nat.mul_one] at hpassed
  exact ⟨timing, hpassed⟩

def folderName : Name := ⟨"b", by decide⟩

/-- The root with the checker and a directory. -/
def checkerAndFolder : Store :=
  checkerAlone.insert [] folderName .directory (Store.node?_root _)
    (by rw [node?_checkerAlone]; split <;> simp)

theorem node?_checkerAndFolder (location : Location) : checkerAndFolder.node? location =
    if location = [folderName] then some .directory else checkerAlone.node? location := by
  rw [checkerAndFolder, Store.node?_insert]

/-- A program of the same name is in the directory. -/
def namesakes : Store :=
  checkerAndFolder.insert [folderName] checkerName (.file passingProgram true)
    (by rw [node?_checkerAndFolder, if_pos rfl])
    (by rw [node?_checkerAndFolder, node?_checkerAlone]; simp)

theorem node?_namesakes (location : Location) : namesakes.node? location =
    if location = [checkerName, folderName] then some (.file passingProgram true)
    else checkerAndFolder.node? location := by
  rw [namesakes, Store.node?_insert]

/-- The root is the working directory, and programs are looked for in the directory in it. -/
def namesakesComputer : Computer := ⟨namesakes, ["/b"], "", ""⟩

theorem node?_namesake :
    namesakes.node? [checkerName, folderName] = some (.file passingProgram true) := by
  rw [node?_namesakes, if_pos rfl]

theorem node?_folder : namesakes.node? [folderName] = some .directory := by
  rw [node?_namesakes, if_neg (by decide), node?_checkerAndFolder, if_pos rfl]

/-- In the root there is nothing new but the directory. -/
theorem node?_namesakes_of_root {name : Name} (hname : name ≠ folderName) :
    namesakes.node? [name] = checkerAlone.node? [name] := by
  rw [node?_namesakes, if_neg (by simp), node?_checkerAndFolder, if_neg (by simpa using hname)]

theorem checkerInRoot_namesakes : CheckerInRoot namesakes where
  cwd := rfl
  checker := by
    rw [node?_namesakes_of_root (by decide)]
    exact checkerInRoot_checkerAlone.checker
  others name hpresent hends := by
    have hname : name ≠ folderName := by
      rintro rfl
      exact absurd hends (by decide)
    rw [node?_namesakes_of_root hname] at hpresent
    exact checkerInRoot_checkerAlone.others name hpresent hends

theorem locate_checker : namesakes.locate "c.curlee" = .ok [checkerName] := by
  have hpieces : splitPath "c.curlee" = [checkerName.text] := checkerName.splitPath_text
  rw [Store.locate_eq_ok_iff, Store.resolve_eq_ok_iff, hpieces]
  exact ⟨⟨by decide, by decide, by decide⟩, .enter rfl (Store.allows_nil _)
    (Store.not_meansEntry_of_ne (by decide) _) checkerInRoot_namesakes.checker
    (Node.file_ne_link _ _) .arrived⟩

theorem locate_namesake : namesakes.locate "/b/c.curlee" = .ok [checkerName, folderName] := by
  have hpath : joinPath "/b" checkerName.text = "/b/c.curlee" := by decide
  have hpieces : splitPath "/b" = ["", folderName.text] := rfl
  have hfolder : namesakes.locate "/b" = .ok [folderName] := by
    rw [Store.locate_eq_ok_iff, Store.resolve_eq_ok_iff, hpieces]
    exact ⟨⟨by decide, by decide, by decide⟩, .stay rfl (.inl rfl) (.enter rfl (Store.allows_nil _)
      (Store.not_meansEntry_of_ne (by decide) _) node?_folder nofun .arrived)⟩
  rw [← hpath]
  exact Store.locate_joinPath hfolder node?_folder ⟨by decide, by decide, by decide⟩ node?_namesake
    (Node.file_ne_link _ _)

/-- The checker in the root is accepted under any path that leads to it. -/
theorem check_namesakes {runs : UInt32} (hruns : runs ≠ 0)
    (htool : namesakes.locate tool = .ok [checkerName]) :
    (Benchmark.check (hostWith passingLoader).exists? ⟨tool, runs, ["."]⟩).run namesakesComputer =
      (.ok (), namesakesComputer) := by
  have hexists : namesakesComputer.store.exists? tool = true :=
    checkerInRoot_namesakes.exists? htool
  have hcheck : Observes (· = namesakesComputer)
      (Benchmark.check (hostWith passingLoader).exists? ⟨tool, runs, ["."]⟩) _ :=
    observes_check (hostWith_shows passingLoader namesakesComputer) hruns
  obtain ⟨_, rfl, hrun⟩ := hcheck.run_eq rfl
  rw [hrun, if_pos hexists]

theorem steady_passingLoader (path : String) : Steady passingLoader path := fun _ _ _ => rfl

/-- The file in the root is started twice if its name comes behind a separator, and nothing else is. -/
theorem asked_for_checked_tool_of_dot :
    (Benchmark.check (hostWith passingLoader).exists? ⟨"./c.curlee", 2, ["."]⟩).run
        namesakesComputer = (.ok (), namesakesComputer) ∧
      ∃ timing next requests,
        (Benchmark.run (askingHost passingLoader) ⟨"./c.curlee", 2, ["."]⟩).run
          (namesakesComputer, []) = (.ok timing, next, requests) ∧
        requests.length = 2 ∧
        ∀ request ∈ requests, request.path = "./c.curlee" ∧
          request.computer.store.locate request.path = .ok [checkerName] ∧
          ∃ file, request.answer = .ok file ∧ file.location = [checkerName] := by
  have hroot := checkerInRoot_namesakes
  have hcheck := check_namesakes (by decide : (2 : UInt32) ≠ 0) hroot.locate
  obtain ⟨location, hlocate, -, result, next, starts, requests, -, -, hasking, -, hpaths, -⟩ :=
    asked_for_checked_tool passingLoader hcheck
  obtain rfl : [checkerName] = location := Except.ok.inj (hroot.locate.symm.trans hlocate)
  obtain ⟨timing, hrun⟩ := @run_askingHost_of_checker namesakesComputer _ _ _ _ hroot 2 (by decide)
    hroot.locate (by decide) rfl hroot.locate hroot.checker
  obtain ⟨rfl, hnext⟩ := Prod.mk.inj (hasking.symm.trans hrun)
  obtain ⟨rfl, rfl⟩ := Prod.mk.inj hnext
  refine ⟨hcheck, timing, _, _, hasking, List.length_replicate, fun request hrequest => ?_⟩
  obtain ⟨hpath, -, hfiles⟩ := hpaths (by decide) request hrequest
  obtain ⟨hleads, hstarted⟩ := hfiles (steady_passingLoader _)
  have hanswer : request.answer = .ok ⟨"./c.curlee", "", [checkerName], passingProgram⟩ := by
    rw [List.eq_of_mem_replicate hrequest]
    exact answer_passingLoader hroot.locate hroot.checker
  exact ⟨hpath, hleads, _, hanswer, hstarted _ hanswer⟩

/-- Without a separator the checker that exists is one file, and another is started. -/
theorem other_file_asked_for :
    (Benchmark.check (hostWith passingLoader).exists? ⟨"c.curlee", 1, ["."]⟩).run
        namesakesComputer = (.ok (), namesakesComputer) ∧
      namesakesComputer.store.locate "c.curlee" = .ok [checkerName] ∧
      ∃ timing next request file,
        (Benchmark.run (askingHost passingLoader) ⟨"c.curlee", 1, ["."]⟩).run
          (namesakesComputer, []) = (.ok timing, next, [request]) ∧
        request.answer = .ok file ∧ file.location = [checkerName, folderName] := by
  obtain ⟨timing, hrun⟩ := @run_askingHost_of_checker namesakesComputer _ _ _ _
    checkerInRoot_namesakes 1 (by decide) locate_checker (by decide) rfl locate_namesake
    node?_namesake
  exact ⟨check_namesakes (by decide) locate_checker, locate_checker, timing, _, _, _, hrun,
    answer_passingLoader locate_namesake node?_namesake, rfl⟩

end Namesakes

end SampleForge
