import SampleForge.Proofs.Generation.Samples

/-!
# The plan of a request

A request whose samples are known stands for a list of operations: make the output directory, write every
sample, write the corpus file.  `performAll` carries out such a list until an operation fails.

`SampleRequest.carryOut` has no such list.  It goes through its samples and notes down the paths of those
it has written, so the step is about samples that are left and paths that are there, `run_writeSamples`.
From it follows that carrying out a request is carrying out its plan, `run_carryOut`.
-/

namespace SampleForge

open Files

/-- Carries out operations in order until one fails; the failed one is named. -/
def performAll {m : Type → Type} [Monad m] (perform : FileOperation → m (Except OsError Unit)) :
    List FileOperation → m (Except (String × OsError) Unit)
  | [] => pure (.ok ())
  | operation :: rest => do
    match ← perform operation with
    | .error error => pure (.error (operation.path, error))
    | .ok () => performAll perform rest

/-- The operations that write texts to files, in order. -/
def writeOperations (writes : List (String × String)) : List FileOperation :=
  writes.map fun write => .write write.1 write.2

namespace SampleRequest

/-- The operations of a request whose samples are given. -/
def plan (request : SampleRequest) (samples : List Sample) : List FileOperation :=
  .makeDirs request.outDir ::
    samples.map (fun sample => .write (request.samplePath sample) sample.program) ++
    [.write request.corpusPath (request.corpusContent samples)]

/-- The files that the plan writes. -/
def files (request : SampleRequest) (samples : List Sample) : WrittenFiles :=
  ⟨samples.map request.samplePath, request.corpusPath⟩

/-- What a request whose samples are given writes, in order. -/
def writes (request : SampleRequest) (samples : List Sample) : List (String × String) :=
  samples.map (fun sample => (request.samplePath sample, sample.program)) ++
    [(request.corpusPath, request.corpusContent samples)]

theorem writeOperations_writes (request : SampleRequest) (samples : List Sample) :
    writeOperations (request.writes samples) =
      samples.map (fun sample => .write (request.samplePath sample) sample.program) ++
        [.write request.corpusPath (request.corpusContent samples)] := by
  simp [writes, writeOperations]

theorem plan_eq (request : SampleRequest) (samples : List Sample) :
    request.plan samples =
      .makeDirs request.outDir :: writeOperations (request.writes samples) := by
  rw [writeOperations_writes]
  rfl

end SampleRequest

section Run

variable {σ : Type} (perform : FileOperation → StateM σ (Except OsError Unit))

/-! ## Lists of operations -/

theorem run_performAll_cons (operation : FileOperation) (rest : List FileOperation) (state : σ) :
    (performAll perform (operation :: rest)).run state =
      match (perform operation).run state with
      | (.error error, next) => (.error (operation.path, error), next)
      | (.ok (), next) => (performAll perform rest).run next := by
  rw [performAll, StateT.run_bind]
  cases h : (perform operation).run state with
  | mk verdict next => cases verdict <;> rfl

/-- The path of a write is the one it is given. -/
theorem run_performAll_write (path text : String) (rest : List FileOperation) (state : σ) :
    (performAll perform (.write path text :: rest)).run state =
      match (perform (.write path text)).run state with
      | (.error error, next) => (.error (path, error), next)
      | (.ok (), next) => (performAll perform rest).run next :=
  run_performAll_cons perform (.write path text) rest state

theorem run_performAll_append (front back : List FileOperation) (state : σ) :
    (performAll perform (front ++ back)).run state =
      match (performAll perform front).run state with
      | (.error failure, next) => (.error failure, next)
      | (.ok (), next) => (performAll perform back).run next := by
  induction front generalizing state with
  | nil => rfl
  | cons operation front ih =>
      rw [List.cons_append, run_performAll_cons, run_performAll_cons]
      cases (perform operation).run state with
      | mk verdict next =>
          cases verdict with
          | error error => rfl
          | ok done => exact ih next

/-! ## The loop over the samples -/

theorem run_writeFile (path text : String) (state : σ) :
    (writeFile perform path text).run state =
      match (perform (.write path text)).run state with
      | (.error error, next) => (.error (.notWritten path error), next)
      | (.ok (), next) => (.ok (), next) := by
  rw [writeFile, StateT.run_bind]
  cases (perform (.write path text)).run state with
  | mk verdict next => cases verdict <;> rfl

/-- The samples that are left are written as planned, and their paths come behind those that were written
before. -/
theorem run_writeSamples (request : SampleRequest) (written : List String) (samples : List Sample)
    (state : σ) :
    (request.writeSamples perform written samples).run state =
      match (performAll perform (samples.map fun sample =>
        .write (request.samplePath sample) sample.program)).run state with
      | (.error (path, error), next) => (.error (.notWritten path error), next)
      | (.ok (), next) => (.ok (written.reverse ++ samples.map request.samplePath), next) := by
  induction samples generalizing written state with
  | nil =>
      rw [List.map_nil, List.map_nil, List.append_nil]
      rfl
  | cons sample samples ih =>
      rw [SampleRequest.writeSamples, StateT.run_bind, run_writeFile, List.map_cons,
        run_performAll_write]
      cases (perform (.write (request.samplePath sample) sample.program)).run state with
      | mk verdict next =>
          cases verdict with
          | error error => rfl
          | ok done =>
              have hrest := ih (request.samplePath sample :: written) next
              rw [List.reverse_cons, List.append_assoc, List.singleton_append,
                ← List.map_cons] at hrest
              exact hrest

/-! ## The whole request -/

theorem run_writeFiles (request : SampleRequest) (samples : List Sample) (state : σ) :
    (request.writeFiles perform samples).run state =
      match (performAll perform (writeOperations (request.writes samples))).run state with
      | (.error (path, error), next) => (.error (.notWritten path error), next)
      | (.ok (), next) => (.ok (request.files samples), next) := by
  rw [SampleRequest.writeFiles, StateT.run_bind, run_writeSamples,
    SampleRequest.writeOperations_writes, run_performAll_append]
  cases (performAll perform (samples.map fun sample =>
    .write (request.samplePath sample) sample.program)).run state with
  | mk outcome between =>
      cases outcome with
      | error failure => rfl
      | ok done =>
          change ((writeFile perform request.corpusPath (request.corpusContent samples) >>=
            fun verdict => _) : StateM σ _).run between = _
          rw [StateT.run_bind, run_writeFile]
          simp only [run_performAll_write]
          cases (perform (.write request.corpusPath (request.corpusContent samples))).run between with
          | mk verdict last => cases verdict <;> rfl

variable {request : SampleRequest} {samples : List Sample}

theorem run_makeFiles (hsamples : request.samples? = some samples) (state : σ) :
    (request.makeFiles perform).run state =
      match (performAll perform (request.plan samples)).run state with
      | (.error (path, error), next) => (.error (.notWritten path error), next)
      | (.ok (), next) => (.ok (request.files samples), next) := by
  rw [SampleRequest.makeFiles, StateT.run_bind, SampleRequest.plan_eq, run_performAll_cons,
    hsamples]
  cases (perform (.makeDirs request.outDir)).run state with
  | mk verdict made =>
      cases verdict with
      | error error => rfl
      | ok done => exact run_writeFiles perform request samples made

/-- A request that passes its check stands and falls with its plan. -/
theorem run_carryOut (hcheck : request.check = .ok ()) (hsamples : request.samples? = some samples)
    (state : σ) :
    (request.carryOut perform).run state =
      match (performAll perform (request.plan samples)).run state with
      | (.error (path, error), next) => (.error (.notWritten path error), next)
      | (.ok (), next) => (.ok (request.files samples), next) := by
  rw [SampleRequest.carryOut, hcheck]
  exact run_makeFiles perform hsamples state

theorem run_carryOut_of_error {cause : RequestError} (hcheck : request.check = .error cause)
    (state : σ) : (request.carryOut perform).run state = (.error (.request cause), state) := by
  rw [SampleRequest.carryOut, hcheck]
  rfl

theorem check_of_carryOut {state state' : σ} {report : WrittenFiles}
    (h : (request.carryOut perform).run state = (.ok report, state')) :
    request.check = .ok () := by
  cases hcheck : request.check with
  | ok passed => rfl
  | error cause =>
      rw [run_carryOut_of_error perform hcheck] at h
      cases (Prod.mk.inj h).1

end Run

end SampleForge
