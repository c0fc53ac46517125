import SampleForge.Benchmark.Run
import SampleForge.Proofs.Machine.Observing

/-!
# A record of what is started

`BenchmarkHost.recorded` is a host with a record of the programs it starts beside its state.  Keeping
the record changes neither how a benchmark ends nor the state it leads to, `exists_run_recorded`.

That is a case of `mirrors_run`: hosts that go side by side, each step of one like the same step of the
other, make benchmarks that do.  There is one lemma for every function on the way to the passes.
-/

namespace SampleForge

open Files Machine

/-- A program that was started, and what came of it. -/
structure Start where
  program : String
  arguments : List String
  outcome : Except OsError ExitStatus

variable {σ : Type}

/-- A step that leaves the record alone. -/
def beside {α : Type} (step : StateM σ α) : StateM (σ × List Start) α := fun state =>
  let (value, next) := step.run state.1
  (value, next, state.2)

def DirectoryView.beside (view : DirectoryView (StateM σ)) :
    DirectoryView (StateM (σ × List Start)) where
  isDirectory path := SampleForge.beside (view.isDirectory path)
  entries path := SampleForge.beside (view.entries path)
  isRegularFile path := SampleForge.beside (view.isRegularFile path)

/-- The host with a record of what it starts, the latest last. -/
def BenchmarkHost.recorded (host : BenchmarkHost (StateM σ)) :
    BenchmarkHost (StateM (σ × List Start)) where
  view := host.view.beside
  exists? path := beside (host.exists? path)
  start program arguments state :=
    let (outcome, next) := (host.start program arguments).run state.1
    (outcome, next, state.2 ++ [⟨program, arguments, outcome⟩])
  clock := beside host.clock

/-- A start is put on record. -/
theorem run_start_recorded (host : BenchmarkHost (StateM σ)) (program : String)
    (arguments : List String) (s : σ) (starts : List Start) :
    (host.recorded.start program arguments).run (s, starts) =
      (((host.start program arguments).run s).1, ((host.start program arguments).run s).2,
        starts ++ [⟨program, arguments, ((host.start program arguments).run s).1⟩]) := rfl

/-! ## Hosts side by side -/

section Mirrors

variable {τ : Type} {R : σ → τ → Prop}

structure PassRunner.Mirrors (R : σ → τ → Prop) (runner : PassRunner (StateM σ))
    (runner' : PassRunner (StateM τ)) : Prop where
  judge : ∀ sample, Machine.Mirrors R (runner.judge sample) (runner'.judge sample)
  clock : Machine.Mirrors R runner.clock runner'.clock

structure DirectoryView.Mirrors (R : σ → τ → Prop) (view : DirectoryView (StateM σ))
    (view' : DirectoryView (StateM τ)) : Prop where
  isDirectory : ∀ path, Machine.Mirrors R (view.isDirectory path) (view'.isDirectory path)
  entries : ∀ path, Machine.Mirrors R (view.entries path) (view'.entries path)
  isRegularFile : ∀ path, Machine.Mirrors R (view.isRegularFile path) (view'.isRegularFile path)

structure BenchmarkHost.Mirrors (R : σ → τ → Prop) (host : BenchmarkHost (StateM σ))
    (host' : BenchmarkHost (StateM τ)) : Prop where
  view : host.view.Mirrors R host'.view
  exists? : ∀ path, Machine.Mirrors R (host.exists? path) (host'.exists? path)
  start : ∀ program arguments,
    Machine.Mirrors R (host.start program arguments) (host'.start program arguments)
  clock : Machine.Mirrors R host.clock host'.clock

variable {runner : PassRunner (StateM σ)} {runner' : PassRunner (StateM τ)}
  {view : DirectoryView (StateM σ)} {view' : DirectoryView (StateM τ)}
  {host : BenchmarkHost (StateM σ)} {host' : BenchmarkHost (StateM τ)}

theorem mirrors_judgeAll (h : runner.Mirrors R runner') (samples : List String) :
    Mirrors R (judgeAll runner.judge samples) (judgeAll runner'.judge samples) := by
  induction samples with
  | nil => exact .pure _
  | cons sample samples ih =>
      refine (h.judge sample).bind fun verdict => ?_
      cases verdict with
      | error error => exact .pure _
      | ok passed => exact ih

theorem mirrors_timeRemaining (h : runner.Mirrors R runner') (samples : List String)
    (remaining : Nat) (done : List Duration) :
    Mirrors R (timeRemaining runner samples remaining done)
      (timeRemaining runner' samples remaining done) := by
  induction remaining generalizing done with
  | zero => exact .pure _
  | succ remaining ih =>
      refine h.clock.bind fun start => ?_
      refine (mirrors_judgeAll h samples).bind fun verdict => ?_
      cases verdict with
      | error error => exact .pure _
      | ok passed => exact h.clock.bind fun finish => ih _

theorem mirrors_timePasses (h : runner.Mirrors R runner') (samples : List String) (runs : UInt32) :
    Mirrors R (timePasses runner samples runs) (timePasses runner' samples runs) := by
  unfold timePasses
  split
  · exact .pure _
  · split
    · exact .pure _
    · exact mirrors_timeRemaining h samples _ []

theorem mirrors_isSample (h : view.Mirrors R view') (path : String) :
    Mirrors R (isSample view path) (isSample view' path) := by
  unfold isSample
  split
  · exact h.isRegularFile path
  · exact .pure _

theorem mirrors_keepSamples (h : view.Mirrors R view') (paths : List String) :
    Mirrors R (keepSamples view paths) (keepSamples view' paths) := by
  induction paths with
  | nil => exact .pure _
  | cons path paths ih =>
      exact (mirrors_isSample h path).bind fun found => ih.bind fun kept => .pure _

theorem mirrors_samplesOf (h : view.Mirrors R view') (dir : String) :
    Mirrors R (samplesOf view dir) (samplesOf view' dir) := by
  refine (h.entries dir).bind fun listing => ?_
  cases listing with
  | error error => exact .pure _
  | ok names => exact (mirrors_keepSamples h _).bind fun kept => .pure _

theorem mirrors_findSamples (h : view.Mirrors R view') (dirs : List String) :
    Mirrors R (findSamples view dirs) (findSamples view' dirs) := by
  induction dirs with
  | nil => exact .pure _
  | cons dir dirs ih =>
      refine (h.isDirectory dir).bind fun found => ?_
      cases found with
      | false => exact ih
      | true =>
          refine (mirrors_samplesOf h dir).bind fun outcome => ?_
          cases outcome with
          | error error => exact .pure _
          | ok paths =>
              refine ih.bind fun result => ?_
              cases result with
              | error error => exact .pure _
              | ok others => exact .pure _

theorem mirrors_check (h : host.Mirrors R host') (benchmark : Benchmark) :
    Mirrors R (benchmark.check host.exists?) (benchmark.check host'.exists?) := by
  unfold Benchmark.check
  split
  · exact .pure _
  · refine (h.exists? benchmark.tool).bind fun found => ?_
    cases found <;> exact .pure _

theorem mirrors_judgeWith (h : host.Mirrors R host') (tool sample : String) :
    Mirrors R (judgeWith host.start tool sample) (judgeWith host'.start tool sample) := by
  refine (h.start tool ["check", sample]).bind fun outcome => ?_
  match outcome with
  | .error _ | .ok (.code 0) | .ok (.code (_ + 1)) | .ok (.signal _) => exact .pure _

/-- Benchmarks of hosts that go side by side do so too. -/
theorem mirrors_run (h : host.Mirrors R host') (benchmark : Benchmark) :
    Mirrors R (benchmark.run host) (benchmark.run host') := by
  refine (mirrors_check h benchmark).bind fun checked => ?_
  cases checked with
  | error error => exact .pure _
  | ok passed =>
      refine (mirrors_findSamples h.view benchmark.dirs).bind fun found => ?_
      cases found with
      | error error => exact .pure _
      | ok samples =>
          change Mirrors R (if samples.isEmpty = true then _ else _)
            (if samples.isEmpty = true then _ else _)
          split
          · exact .pure _
          · exact mirrors_timePasses ⟨mirrors_judgeWith h benchmark.tool, h.clock⟩ samples _

end Mirrors

/-! ## The record of a host -/

/-- Keeping the record changes neither the outcome nor the state. -/
theorem mirrors_beside {α : Type} (step : StateM σ α) :
    Mirrors (fun (s : σ) (t : σ × List Start) => s = t.1) step (beside step) := by
  rintro s ⟨first, log⟩ rfl
  exact ⟨rfl, rfl⟩

theorem mirrors_recorded (host : BenchmarkHost (StateM σ)) :
    host.Mirrors (fun (s : σ) (t : σ × List Start) => s = t.1) host.recorded where
  view := ⟨fun _ => mirrors_beside _, fun _ => mirrors_beside _, fun _ => mirrors_beside _⟩
  exists? _ := mirrors_beside _
  start program arguments := by
    rintro s ⟨first, log⟩ rfl
    exact ⟨rfl, rfl⟩
  clock := mirrors_beside _

/-- With its record a run starts something and is otherwise the same. -/
theorem exists_run_recorded (host : BenchmarkHost (StateM σ)) (benchmark : Benchmark) (state : σ) :
    ∃ result next starts, (benchmark.run host).run state = (result, next) ∧
      (benchmark.run host.recorded).run (state, []) = (result, next, starts) := by
  have hrelated : (fun (s : σ) (t : σ × List Start) => s = t.1) state (state, []) := rfl
  obtain ⟨result, next, ⟨next', starts⟩, hplain, hrecorded, hnext⟩ :=
    (mirrors_run (mirrors_recorded host) benchmark).exists_run hrelated
  obtain rfl : next = next' := hnext
  exact ⟨result, next, starts, hplain, hrecorded⟩

end SampleForge
