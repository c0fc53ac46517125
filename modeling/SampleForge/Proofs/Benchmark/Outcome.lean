import SampleForge.Proofs.Benchmark.Calls
import SampleForge.Proofs.Benchmark.FoundSamples
import SampleForge.Proofs.Benchmark.Recorded

/-!
# How a benchmark ends

A benchmark fails for its configuration, or because of a checker that was started.  `Benchmark.Faulty`
lists the causes of the first kind in the order in which they are looked for; they depend on the file
system as it is before anything is started.  `Benchmark.Outcome` says how a run ends: with such a cause
and without a checker having been started, or else with the failure of the last checker that was
started, or with a timing.  Every run does, `run_has_outcome`.

Checkers and the clock are arbitrary: the file system need not stay as it is once a checker runs.  The
attempts of an outcome are what the record of the host says was started, all of it by
`tool check sample`.

Where every start succeeds the states that a benchmark goes through can be numbered by its starts, and it
ends in the one with a start for every sample in every pass, `run_of_passing`.
-/

namespace SampleForge

open Files Machine

/-- An attempt to have a sample judged. -/
structure Attempt where
  sample : String
  outcome : Except OsError ExitStatus

namespace Attempt

/-- What the checker is started with. -/
def start (tool : String) (attempt : Attempt) : Start :=
  ⟨tool, ["check", attempt.sample], attempt.outcome⟩

/-- The verdict an attempt comes to. -/
def verdict (tool : String) : Attempt → Except BenchmarkError Unit
  | ⟨_, .error error⟩ => .error (.notStarted tool error)
  | ⟨_, .ok (.code 0)⟩ => .ok ()
  | ⟨sample, .ok (.code code)⟩ => .error (.rejected sample (some code))
  | ⟨sample, .ok (.signal _)⟩ => .error (.rejected sample none)

def call (tool : String) (attempt : Attempt) : Call := ⟨attempt.sample, attempt.verdict tool⟩

/-- A verdict is no cause in the configuration. -/
theorem isConfiguration_of_verdict {tool : String} {attempt : Attempt} {error : BenchmarkError}
    (h : attempt.verdict tool = .error error) : error.isConfiguration = false := by
  match attempt with
  | ⟨_, .error _⟩ | ⟨_, .ok (.code (_ + 1))⟩ | ⟨_, .ok (.signal _)⟩ =>
      obtain rfl := Except.error.inj h
      rfl

theorem calledSamples_map_call (tool : String) (attempts : List Attempt) :
    calledSamples (attempts.map (call tool)) = attempts.map sample := by
  rw [calledSamples, List.map_map]
  rfl

theorem allPassed_map_call {tool : String} {attempts : List Attempt} :
    AllPassed (attempts.map (call tool)) ↔ ∀ attempt ∈ attempts, attempt.verdict tool = .ok () := by
  rw [AllPassed, List.forall_mem_map]
  rfl

end Attempt

variable {σ : Type}

/-! ## A file system that is looked at -/

/-- The host shows the store as long as the state is seen. -/
structure BenchmarkHost.Shows (host : BenchmarkHost (StateM σ)) (s : Store)
    (refused : String → Option OsError) (seen : σ → Prop) : Prop where
  view : host.view.Shows s refused seen
  exists? : ∀ path, Observes seen (host.exists? path) (· = s.exists? path)

/-- The state is seen and nothing has been started. -/
def Unstarted (seen : σ → Prop) (state : σ × List Start) : Prop :=
  seen state.1 ∧ state.2 = []

section Shows

variable {host : BenchmarkHost (StateM σ)} {s : Store} {refused : String → Option OsError}
  {seen : σ → Prop} {benchmark : Benchmark} {samples : String → List String}
  {cause : BenchmarkError}

theorem observes_beside {α : Type} {step : StateM σ α} {answer : α → Prop}
    (h : Observes seen step answer) : Observes (Unstarted seen) (beside step) answer :=
  fun state hstate => ⟨(h state.1 hstate.1).1, (h state.1 hstate.1).2, hstate.2⟩

/-- Looking at the file system starts nothing. -/
theorem BenchmarkHost.Shows.recorded (h : host.Shows s refused seen) :
    host.recorded.Shows s refused (Unstarted seen) where
  view :=
    { isDirectory := fun path => observes_beside (h.view.isDirectory path)
      isRegularFile := fun path => observes_beside (h.view.isRegularFile path)
      entries := fun dir hdir => observes_beside (h.view.entries dir hdir) }
  exists? path := observes_beside (h.exists? path)

/-! ## What is wrong before anything is started -/

/-- The cause lies in the configuration: each is looked for only if those before it are not there. -/
inductive Benchmark.Faulty (benchmark : Benchmark) (s : Store) (refused : String → Option OsError)
    (samples : String → List String) : BenchmarkError → Prop
  | tooFewRuns (runs : benchmark.runs = 0) : Faulty benchmark s refused samples (.tooFewRuns 0)
  | missingTool (runs : benchmark.runs ≠ 0) (tool : s.exists? benchmark.tool = false) :
      Faulty benchmark s refused samples (.missingTool benchmark.tool)
  | unlisted {dir : String} {error : OsError} (runs : benchmark.runs ≠ 0)
      (tool : s.exists? benchmark.tool = true)
      (first : FirstRefused s refused benchmark.dirs dir error) :
      Faulty benchmark s refused samples (.unlistedDirectory dir error)
  | nothing (runs : benchmark.runs ≠ 0) (tool : s.exists? benchmark.tool = true)
      (listed : AllListed s refused benchmark.dirs) (none : benchmark.dirs.flatMap samples = []) :
      Faulty benchmark s refused samples .nothingToJudge

/-- There is nothing wrong that could be found before a checker is started. -/
structure Benchmark.Sound (benchmark : Benchmark) (s : Store) (refused : String → Option OsError)
    (samples : String → List String) : Prop where
  runs : benchmark.runs ≠ 0
  tool : s.exists? benchmark.tool = true
  listed : AllListed s refused benchmark.dirs
  some : benchmark.dirs.flatMap samples ≠ []

theorem Benchmark.faulty_or_sound (benchmark : Benchmark) (s : Store)
    (refused : String → Option OsError) (samples : String → List String) :
    (∃ cause, benchmark.Faulty s refused samples cause) ∨ benchmark.Sound s refused samples := by
  by_cases hruns : benchmark.runs = 0
  · exact .inl ⟨_, .tooFewRuns hruns⟩
  cases htool : s.exists? benchmark.tool with
  | false => exact .inl ⟨_, .missingTool hruns htool⟩
  | true =>
      rcases allListed_or_firstRefused s refused benchmark.dirs with hlisted | ⟨dir, error, hfirst⟩
      · by_cases hnone : benchmark.dirs.flatMap samples = []
        · exact .inl ⟨_, .nothing hruns htool hlisted hnone⟩
        · exact .inr ⟨hruns, htool, hlisted, hnone⟩
      · exact .inl ⟨_, .unlisted hruns htool hfirst⟩

theorem Benchmark.Sound.not_faulty (h : benchmark.Sound s refused samples) (cause : BenchmarkError) :
    ¬ benchmark.Faulty s refused samples cause := by
  intro hfaulty
  cases hfaulty with
  | tooFewRuns runs => exact h.runs runs
  | missingTool runs tool =>
      rw [h.tool] at tool
      cases tool
  | unlisted runs tool first =>
      obtain ⟨before, after, hdirs, -, hdir, hrefused⟩ := first
      have hmem : _ ∈ benchmark.dirs := hdirs ▸ List.mem_append_right _ List.mem_cons_self
      rw [h.listed _ hmem hdir] at hrefused
      cases hrefused
  | nothing runs tool listed none => exact h.some none

theorem Benchmark.Faulty.isConfiguration (h : benchmark.Faulty s refused samples cause) :
    cause.isConfiguration = true := by
  cases h <;> rfl

theorem observes_check (hhost : host.Shows s refused seen) (hruns : benchmark.runs ≠ 0) :
    Observes seen (benchmark.check host.exists?)
      (· = if s.exists? benchmark.tool then .ok () else .error (.missingTool benchmark.tool)) := by
  rw [Benchmark.check, if_neg hruns]
  refine (hhost.exists? benchmark.tool).bind fun found hfound => ?_
  rw [hfound]
  cases s.exists? benchmark.tool <;> exact .pure rfl

/-- What is wrong before anything is started is reported. -/
theorem observes_run_of_faulty (hhost : host.Shows s refused seen)
    (hsamples : ∀ dir, SamplesOf s dir (samples dir)) (h : benchmark.Faulty s refused samples cause) :
    Observes seen (benchmark.run host) (· = .error cause) := by
  cases h with
  | tooFewRuns runs =>
      have hcheck : benchmark.check host.exists? = pure (.error (.tooFewRuns 0)) := by
        rw [Benchmark.check, if_pos runs, runs]
      rw [Benchmark.run, hcheck]
      exact .pure rfl
  | missingTool runs tool =>
      refine (observes_check hhost runs).bind fun checked hchecked => ?_
      rw [hchecked, tool]
      exact .pure rfl
  | unlisted runs tool first =>
      refine (observes_check hhost runs).bind fun checked hchecked => ?_
      rw [hchecked, tool]
      refine (observes_findSamples_refused hhost.view first).bind fun found hfound => ?_
      rw [hfound]
      exact .pure rfl
  | nothing runs tool listed none =>
      refine (observes_check hhost runs).bind fun checked hchecked => ?_
      rw [hchecked, tool]
      refine (observes_findSamples_eq hhost.view listed hsamples).bind fun found hfound => ?_
      rw [hfound, none]
      exact .pure rfl

/-- If nothing is wrong, the passes begin in a state that is still seen. -/
theorem run_of_sound (hhost : host.Shows s refused seen)
    (hsamples : ∀ dir, SamplesOf s dir (samples dir)) (h : benchmark.Sound s refused samples)
    {state : σ} (hseen : seen state) :
    ∃ next, seen next ∧ (benchmark.run host).run state =
      (timeRemaining ⟨judgeWith host.start benchmark.tool, host.clock⟩
        (benchmark.dirs.flatMap samples) benchmark.runs.toNat []).run next := by
  have hcheck := observes_check hhost h.runs
  rw [h.tool, if_pos rfl] at hcheck
  obtain ⟨checked, hchecked, hcheckrun⟩ := hcheck.run_eq hseen
  obtain ⟨next, hnext, hfindrun⟩ :=
    (observes_findSamples_eq hhost.view h.listed hsamples).run_eq hchecked
  refine ⟨next, hnext, ?_⟩
  have hfilled : ¬ (benchmark.dirs.flatMap samples).isEmpty = true := by
    simpa using h.some
  rw [Benchmark.run, StateT.run_bind, hcheckrun]
  change ((findSamples host.view benchmark.dirs >>= fun found => _) : StateM σ _).run checked = _
  rw [StateT.run_bind, hfindrun]
  change (if (benchmark.dirs.flatMap samples).isEmpty = true then _ else _ : StateM σ _).run next = _
  rw [if_neg hfilled, timePasses_of_ne _ h.runs h.some]

/-! ## The checkers that are started -/

theorem run_judgeWith (start : String → List String → StateM σ (Except OsError ExitStatus))
    (tool sample : String) (state : σ) :
    (judgeWith start tool sample).run state =
      (Attempt.verdict tool ⟨sample, ((start tool ["check", sample]).run state).1⟩,
        ((start tool ["check", sample]).run state).2) := by
  rw [judgeWith, StateT.run_bind]
  cases (start tool ["check", sample]).run state with
  | mk outcome next =>
      match outcome with
      | .error _ | .ok (.code 0) | .ok (.code (_ + 1)) | .ok (.signal _) => rfl

/-- The same attempts are on record as starts and as calls. -/
def SameAttempts (tool : String) (s : σ × List Start) (t : σ × List Call) : Prop :=
  s.1 = t.1 ∧ ∃ attempts : List Attempt,
    s.2 = attempts.map (Attempt.start tool) ∧ t.2 = attempts.map (Attempt.call tool)

/-- What is started for a pass is what the pass calls. -/
theorem mirrors_attempts (host : BenchmarkHost (StateM σ)) (tool : String) :
    PassRunner.Mirrors (SameAttempts tool)
      ⟨judgeWith host.recorded.start tool, host.recorded.clock⟩
      (PassRunner.recorded ⟨judgeWith host.start tool, host.clock⟩) where
  judge sample := by
    rintro ⟨state, starts⟩ ⟨-, calls⟩ ⟨rfl, attempts, rfl, rfl⟩
    let attempt : Attempt := ⟨sample, ((host.start tool ["check", sample]).run state).1⟩
    rw [run_judgeWith, judge_recorded, run_judgeWith]
    refine ⟨rfl, rfl, attempts ++ [attempt], ?_, ?_⟩
    · rw [List.map_append]
      rfl
    · rw [List.map_append]
      rfl
  clock := by
    rintro ⟨state, starts⟩ ⟨-, calls⟩ ⟨rfl, hattempts⟩
    exact ⟨rfl, rfl, hattempts⟩

/-- The attempts of the passes follow the samples repeated. -/
theorem timeRemaining_attempts (host : BenchmarkHost (StateM σ)) (tool : String)
    (found : List String) (runs : Nat) (first : σ) :
    ∃ (attempts : List Attempt) (result : Except BenchmarkError Timing) (next : σ),
      Judged (passPlan found runs) (attempts.map (Attempt.call tool)) (verdictOf result) ∧
      Measures result found.length runs ∧
      (timeRemaining ⟨judgeWith host.recorded.start tool, host.recorded.clock⟩ found runs []).run
        (first, []) = (result, next, attempts.map (Attempt.start tool)) := by
  obtain ⟨calls, result, next, hjudged, hmeasures, -, hcalls⟩ :=
    timeRemaining_recorded ⟨judgeWith host.start tool, host.clock⟩ found runs [] first []
  have hrelated : SameAttempts tool (first, ([] : List Start)) (first, ([] : List Call)) :=
    ⟨rfl, [], rfl, rfl⟩
  obtain ⟨_, ⟨next', starts⟩, after, hstarted, hcalled, rfl, attempts, rfl, hattempts⟩ :=
    (mirrors_timeRemaining (mirrors_attempts host tool) found runs []).exists_run hrelated
  obtain ⟨rfl, rfl⟩ := Prod.mk.inj (hcalled.symm.trans hcalls)
  obtain rfl : calls = attempts.map (Attempt.call tool) := hattempts
  rw [List.length_nil, Nat.zero_add] at hmeasures
  exact ⟨attempts, _, next, hjudged, hmeasures, hstarted⟩

end Shows

/-! ## The end of a run -/

/-- How a run of a benchmark ends.  The samples are those of every directory, and the attempts those
for which a checker was started. -/
structure Benchmark.Outcome (benchmark : Benchmark) (s : Store) (refused : String → Option OsError)
    (samples : String → List String) (attempts : List Attempt)
    (result : Except BenchmarkError Timing) : Prop where
  /-- An error is one of the configuration exactly if no checker was started. -/
  classified : ∀ error, result = .error error → (error.isConfiguration = true ↔ attempts = [])
  /-- What is wrong with the configuration is reported. -/
  faulty : ∀ cause, benchmark.Faulty s refused samples cause → result = .error cause
  /-- Checkers are started for the samples in order, pass after pass. -/
  followed : attempts.map Attempt.sample <+:
    passPlan (benchmark.dirs.flatMap samples) benchmark.runs.toNat
  /-- If nothing is wrong with it, an error is that of the first checker that failed. -/
  failed : (∀ cause, ¬ benchmark.Faulty s refused samples cause) → ∀ error, result = .error error →
    ∃ before last, attempts = before ++ [last] ∧
      (∀ attempt ∈ before, attempt.verdict benchmark.tool = .ok ()) ∧
      last.verdict benchmark.tool = .error error
  succeeded : (∃ timing, result = .ok timing) ↔
    (∀ cause, ¬ benchmark.Faulty s refused samples cause) ∧
      ∀ attempt ∈ attempts, attempt.verdict benchmark.tool = .ok ()
  timed : ∀ timing, result = .ok timing →
    timing.samples = (benchmark.dirs.flatMap samples).length ∧
      timing.runs = benchmark.runs.toNat ∧
      attempts.map Attempt.sample =
        passPlan (benchmark.dirs.flatMap samples) benchmark.runs.toNat

section Outcome

variable {host : BenchmarkHost (StateM σ)} {s : Store} {refused : String → Option OsError}
  {seen : σ → Prop} {benchmark : Benchmark} {samples : String → List String}
  {cause : BenchmarkError} {attempts : List Attempt} {result : Except BenchmarkError Timing}

/-- Something wrong with the configuration and no checker started is an outcome. -/
theorem outcome_of_faulty (h : benchmark.Faulty s refused samples cause)
    (hreported : ∀ cause, benchmark.Faulty s refused samples cause → result = .error cause) :
    benchmark.Outcome s refused samples [] result where
  classified error herror := by
    obtain rfl := Except.error.inj (herror.symm.trans (hreported cause h))
    exact ⟨fun _ => rfl, fun _ => h.isConfiguration⟩
  faulty := hreported
  followed := List.nil_prefix
  failed hsound := absurd h (hsound cause)
  succeeded := by
    rw [hreported cause h]
    exact ⟨nofun, fun hsound => absurd h (hsound.1 cause)⟩
  timed := by
    rw [hreported cause h]
    exact nofun

/-- The last attempt is the one that failed. -/
theorem exists_last_attempt {plan : List String} {tool : String} {error : BenchmarkError}
    (h : Judged plan (attempts.map (Attempt.call tool)) (.error error)) :
    ∃ before last, attempts = before ++ [last] ∧
      (∀ attempt ∈ before, attempt.verdict tool = .ok ()) ∧ last.verdict tool = .error error := by
  obtain ⟨passed, sample, hcalls, hpassed⟩ := h.last_failed
  obtain ⟨before, ending, rfl, rfl, hending⟩ := List.map_eq_append_iff.1 hcalls
  obtain ⟨last, rfl, hlast⟩ := List.map_eq_singleton_iff.1 hending
  exact ⟨before, last, rfl, Attempt.allPassed_map_call.1 hpassed, congrArg Call.verdict hlast⟩

/-- Attempts that follow the passes are an outcome. -/
theorem outcome_of_judged (h : benchmark.Sound s refused samples)
    (hjudged : Judged (passPlan (benchmark.dirs.flatMap samples) benchmark.runs.toNat)
      (attempts.map (Attempt.call benchmark.tool)) (verdictOf result))
    (hmeasures : Measures result (benchmark.dirs.flatMap samples).length benchmark.runs.toNat) :
    benchmark.Outcome s refused samples attempts result := by
  have hfailed : ∀ error, result = .error error → ∃ before last, attempts = before ++ [last] ∧
      (∀ attempt ∈ before, attempt.verdict benchmark.tool = .ok ()) ∧
      last.verdict benchmark.tool = .error error := by
    rintro error rfl
    exact exists_last_attempt hjudged
  refine ⟨fun error herror => ?_, fun cause hcause => absurd hcause (h.not_faulty cause), ?_,
    fun _ => hfailed, ?_, fun timing htiming => ?_⟩
  · obtain ⟨before, last, rfl, -, hlast⟩ := hfailed error herror
    rw [Attempt.isConfiguration_of_verdict hlast]
    simp
  · rw [← Attempt.calledSamples_map_call benchmark.tool]
    exact hjudged.calledSamples_prefix
  · rw [← Attempt.allPassed_map_call, ← hjudged.ok_iff_allPassed]
    cases result with
    | error error => exact ⟨nofun, fun hsound => absurd hsound.2 nofun⟩
    | ok timing => exact ⟨fun _ => ⟨h.not_faulty, rfl⟩, fun _ => ⟨timing, rfl⟩⟩
  · subst htiming
    obtain ⟨hcount, hpasses⟩ := hmeasures timing rfl
    rw [← Attempt.calledSamples_map_call benchmark.tool]
    exact ⟨hcount, hpasses, hjudged.calledSamples_eq⟩

/-- Every run of a benchmark comes to an outcome: an error of the configuration is one of those found
before any checker is started, in their order, and every other error is that of the checker that was
started last.  The record of what is started does not change the run. -/
theorem run_has_outcome (hhost : host.Shows s refused seen) (benchmark : Benchmark) {state : σ}
    (hseen : seen state) :
    ∃ samples : String → List String, (∀ dir, SamplesOf s dir (samples dir)) ∧
      ∃ attempts result next,
        (benchmark.run host).run state = (result, next) ∧
        (benchmark.run host.recorded).run (state, []) =
          (result, next, attempts.map (Attempt.start benchmark.tool)) ∧
        benchmark.Outcome s refused samples attempts result := by
  choose samples hsamples using fun dir => SamplesOf.exists_of_dir s dir
  refine ⟨samples, hsamples, ?_⟩
  obtain ⟨result, next, starts, hplain, hrecorded⟩ := exists_run_recorded host benchmark state
  have hstart : Unstarted seen (state, []) := ⟨hseen, rfl⟩
  rcases benchmark.faulty_or_sound s refused samples with ⟨cause, hcause⟩ | hsound
  · have hreported : ∀ cause, benchmark.Faulty s refused samples cause →
        result = .error cause ∧ starts = [] := by
      intro cause hcause
      obtain ⟨after, hafter, hrun⟩ :=
        (observes_run_of_faulty hhost.recorded hsamples hcause).run_eq hstart
      obtain ⟨hresult, hnext⟩ := Prod.mk.inj (hrecorded.symm.trans hrun)
      refine ⟨hresult, ?_⟩
      rw [← hnext] at hafter
      exact hafter.2
    obtain rfl := (hreported cause hcause).2
    exact ⟨[], result, next, hplain, hrecorded,
      outcome_of_faulty hcause fun cause hcause => (hreported cause hcause).1⟩
  · obtain ⟨⟨first, -⟩, ⟨-, rfl⟩, hrun⟩ := run_of_sound hhost.recorded hsamples hsound hstart
    obtain ⟨attempts, _, _, hjudged, hmeasures, hpasses⟩ := timeRemaining_attempts host
      benchmark.tool (benchmark.dirs.flatMap samples) benchmark.runs.toNat first
    rw [hpasses, hrecorded] at hrun
    obtain ⟨rfl, hlast⟩ := Prod.mk.inj hrun
    obtain ⟨rfl, rfl⟩ := Prod.mk.inj hlast
    exact ⟨attempts, _, _, hplain, hrecorded, outcome_of_judged hsound hjudged hmeasures⟩

end Outcome

/-! ## Passes without a failure -/

section Passing

variable {start : String → List String → StateM σ (Except OsError ExitStatus)} {clock : StateM σ Nat}
  {tool : String} {states : Nat → σ}

/-- If every start succeeds, one pass goes through as many states as there are samples. -/
theorem run_judgeAll_of_passing (samples : List String)
    (hstart : ∀ n, ∀ sample ∈ samples,
      (start tool ["check", sample]).run (states n) = (.ok (.code 0), states (n + 1))) (n : Nat) :
    (judgeAll (judgeWith start tool) samples).run (states n) =
      (.ok (), states (n + samples.length)) := by
  induction samples generalizing n with
  | nil => rfl
  | cons sample samples ih =>
      have hrest := ih (fun n later hlater => hstart n later (List.mem_cons_of_mem _ hlater)) (n + 1)
      have hlength : n + (sample :: samples).length = n + 1 + samples.length := by
        rw [List.length_cons]
        omega
      rw [run_judgeAll_cons, run_judgeWith, hstart n sample List.mem_cons_self, hlength]
      exact hrest

theorem run_timeRemaining_of_passing (samples : List String)
    (hstart : ∀ n, ∀ sample ∈ samples,
      (start tool ["check", sample]).run (states n) = (.ok (.code 0), states (n + 1)))
    (hclock : ∀ n, (clock.run (states n)).2 = states n) (remaining : Nat) (done : List Duration)
    (n : Nat) :
    ∃ timing, (timeRemaining ⟨judgeWith start tool, clock⟩ samples remaining done).run (states n) =
      (.ok timing, states (n + remaining * samples.length)) := by
  induction remaining generalizing done n with
  | zero =>
      rw [Nat.zero_mul, Nat.add_zero]
      exact ⟨_, run_timeRemaining_zero _ _ _ _⟩
  | succ remaining ih =>
      have hlength : n + (remaining + 1) * samples.length =
          n + samples.length + remaining * samples.length := by
        rw [Nat.succ_mul]
        omega
      rw [run_timeRemaining_succ, hclock, run_judgeAll_of_passing samples hstart, hlength]
      simp only [hclock]
      exact ih _ _

/-- If nothing is wrong and every start succeeds, the benchmark succeeds, with one start for every sample
in every pass. -/
theorem run_of_passing {benchmark : Benchmark} {host : BenchmarkHost (StateM σ)} {s : Store}
    {refused : String → Option OsError} {seen : σ → Prop} {samples : String → List String}
    (hhost : host.Shows s refused seen) (hsamples : ∀ dir, SamplesOf s dir (samples dir))
    (h : benchmark.Sound s refused samples) (hseen : ∀ state, seen state ↔ state = states 0)
    (hstart : ∀ n, ∀ sample ∈ benchmark.dirs.flatMap samples,
      (host.start benchmark.tool ["check", sample]).run (states n) = (.ok (.code 0), states (n + 1)))
    (hclock : ∀ n, (host.clock.run (states n)).2 = states n) :
    ∃ timing, (benchmark.run host).run (states 0) =
      (.ok timing, states (benchmark.runs.toNat * (benchmark.dirs.flatMap samples).length)) := by
  obtain ⟨next, hnext, hrun⟩ := run_of_sound hhost hsamples h ((hseen _).2 rfl)
  obtain rfl := (hseen next).1 hnext
  obtain ⟨timing, htimed⟩ :=
    run_timeRemaining_of_passing _ hstart hclock benchmark.runs.toNat [] 0
  rw [Nat.zero_add] at htimed
  exact ⟨timing, hrun.trans htimed⟩

end Passing

/-! ## Benchmarks on a computer -/

theorem hostWith_shows (loader : Loader) (computer : Computer) :
    (hostWith loader).Shows computer.store (fun _ => none) (· = computer) where
  view := directoryView_shows computer
  exists? _ := by
    rintro state rfl
    exact ⟨rfl, rfl⟩

/-- A compiled program of 129 bytes.  All that it does is to end with the code zero. -/
def passingProgram : ByteArray :=
  ⟨#[0x7f, 0x45, 0x4c, 0x46, 0x02, 0x01, 0x01, 0x00, 0x00, 0x00, 0x00, 0x00, 0x00, 0x00, 0x00, 0x00,
    0x02, 0x00, 0x3e, 0x00, 0x01, 0x00, 0x00, 0x00, 0x78, 0x00, 0x40, 0x00, 0x00, 0x00, 0x00, 0x00,
    0x40, 0x00, 0x00, 0x00, 0x00, 0x00, 0x00, 0x00, 0x00, 0x00, 0x00, 0x00, 0x00, 0x00, 0x00, 0x00,
    0x00, 0x00, 0x00, 0x00, 0x40, 0x00, 0x38, 0x00, 0x01, 0x00, 0x00, 0x00, 0x00, 0x00, 0x00, 0x00,
    0x01, 0x00, 0x00, 0x00, 0x05, 0x00, 0x00, 0x00, 0x00, 0x00, 0x00, 0x00, 0x00, 0x00, 0x00, 0x00,
    0x00, 0x00, 0x40, 0x00, 0x00, 0x00, 0x00, 0x00, 0x00, 0x00, 0x40, 0x00, 0x00, 0x00, 0x00, 0x00,
    0x81, 0x00, 0x00, 0x00, 0x00, 0x00, 0x00, 0x00, 0x81, 0x00, 0x00, 0x00, 0x00, 0x00, 0x00, 0x00,
    0x00, 0x10, 0x00, 0x00, 0x00, 0x00, 0x00, 0x00, 0x31, 0xff, 0xb8, 0x3c, 0x00, 0x00, 0x00, 0x0f,
    0x05]⟩

/-- A system whose programs are all like this one: every file that may be executed is started, does
nothing, and ends with the code zero. -/
def passingLoader : Loader where
  answer computer path :=
    match permitted? computer.store path with
    | .error error => .error error
    | .ok (location, content) => .ok ⟨path, "", location, content⟩
  locate_of_answer := by
    intro computer path file h
    cases hpermitted : permitted? computer.store path with
    | error error => simp [hpermitted] at h
    | ok found =>
        simp only [hpermitted] at h
        obtain rfl := Except.ok.inj h
        exact locate_of_permitted? hpermitted
  run _ _ := pure (.code 0)

theorem answer_passingLoader {computer : Computer} {path : String} {location : Location}
    {content : ByteArray} (hlocate : computer.store.locate path = .ok location)
    (hnode : computer.store.node? location = some (.file content true)) :
    passingLoader.answer computer path = .ok ⟨path, "", location, content⟩ := by
  simp only [passingLoader, permitted?, hlocate, hnode]

/-- A program that is looked for under one path is started from there. -/
theorem run_start_passingLoader {computer : Computer} {program path : String}
    {arguments : List String} {location : Location} {content : ByteArray}
    (hargs : (program :: arguments).all isArgument = true)
    (hpath : candidates computer.searchPath program = [path])
    (hlocate : computer.store.locate path = .ok location)
    (hnode : computer.store.node? location = some (.file content true)) :
    ((hostWith passingLoader).start program arguments).run computer =
      (.ok (.code 0), computer) := by
  change (passingLoader.start program arguments).run computer = _
  have hanswer := answer_passingLoader hlocate hnode
  have hfound : findExecutable (passingLoader.answer computer) computer.searchPath program =
      .ok ⟨path, "", location, content⟩ := by
    simp only [findExecutable, searchProgram, hpath, tryAll, hanswer, pure_bind]
    rfl
  rw [Loader.start, if_neg (by rw [hargs]; exact Bool.false_ne_true)]
  simp only [StateT.run_bind, StateT.run_get, pure_bind, hfound]
  rfl

/-! ### A checker in the root -/

def checkerName : Name := ⟨"c.curlee", by decide⟩

/-- The root, which is the working directory, has a compiled program that passes for a sample. -/
structure CheckerInRoot (s : Store) : Prop where
  cwd : s.cwd = []
  checker : s.node? [checkerName] = some (.file passingProgram true)
  /-- There is no other sample. -/
  others : ∀ name : Name, (s.node? [name]).isSome = true → EndsAsSample name.text →
    name = checkerName

namespace CheckerInRoot

variable {s : Store}

theorem locate (h : CheckerInRoot s) : s.locate "./c.curlee" = .ok [checkerName] := by
  have hpath : joinPath "." checkerName.text = "./c.curlee" := by decide
  rw [← hpath]
  exact Store.locate_joinPath (locate_dot h.cwd) (Store.node?_root _)
    ⟨by decide, by decide, by decide⟩ h.checker (Node.file_ne_link _ _)

theorem samplesOf (h : CheckerInRoot s) : SamplesOf s "." ["./c.curlee"] := by
  have hnames : ["./c.curlee"] = [checkerName].map fun name => joinPath "." name.text := by decide
  rw [hnames]
  refine .of_root h.cwd (List.pairwise_singleton _ _) fun name => ⟨?_, ?_⟩
  · intro hname
    obtain rfl := List.mem_singleton.1 hname
    refine ⟨by rw [h.checker, Option.isSome_some], by decide, by decide, ?_⟩
    exact Store.isRegularFile_iff.2 ⟨_, _, _, h.locate, h.checker⟩
  · rintro ⟨hpresent, hends, -⟩
    exact List.mem_singleton.2 (h.others name hpresent hends)

/-- Under any path that leads to it the checker is there. -/
theorem exists? (h : CheckerInRoot s) {tool : String} (htool : s.locate tool = .ok [checkerName]) :
    s.exists? tool = true :=
  Store.exists?_of_isRegularFile (Store.isRegularFile_iff.2 ⟨_, _, _, htool, h.checker⟩)

/-- With such a checker a benchmark of the root has one sample, and nothing is wrong with it. -/
theorem exists_samples (h : CheckerInRoot s) {tool : String} {runs : UInt32}
    (htool : s.locate tool = .ok [checkerName]) (hruns : runs ≠ 0) :
    ∃ samples : String → List String, (∀ dir, SamplesOf s dir (samples dir)) ∧
      [("." : String)].flatMap samples = ["./c.curlee"] ∧
      Benchmark.Sound ⟨tool, runs, ["."]⟩ s (fun _ => none) samples := by
  choose samples hsamples using fun dir => SamplesOf.exists_of_dir s dir
  have hfound : [("." : String)].flatMap samples = ["./c.curlee"] := by
    rw [List.flatMap_singleton, (hsamples ".").unique h.samplesOf]
  exact ⟨samples, hsamples, hfound,
    ⟨hruns, h.exists? htool, allListed_none _ _, by rw [hfound]; simp⟩⟩

end CheckerInRoot

/-- The root with the checker alone. -/
def checkerAlone : Store :=
  Store.empty.insert [] checkerName (.file passingProgram true) (Store.node?_root _)
    (by simp [Store.node?, Store.empty])

theorem node?_checkerAlone (location : Location) : checkerAlone.node? location =
    if location = [checkerName] then some (.file passingProgram true)
    else if location = [] then some .directory else none := by
  rw [checkerAlone, Store.node?_insert]
  cases location <;> simp [Store.node?, Store.empty]

theorem checkerInRoot_checkerAlone : CheckerInRoot checkerAlone where
  cwd := rfl
  checker := by rw [node?_checkerAlone, if_pos rfl]
  others name hpresent _ := by
    by_contra hname
    rw [node?_checkerAlone, if_neg (by simpa using hname), if_neg (List.cons_ne_nil _ _)] at hpresent
    cases hpresent

/-- The checker is the only sample, and there are two passes: it is started twice, and for itself. -/
theorem run_has_outcome_twice :
    ∃ samples attempts timing next,
      (Benchmark.run (hostWith passingLoader).recorded ⟨"./c.curlee", 2, ["."]⟩).run
          (⟨checkerAlone, [], "", ""⟩, []) =
        (.ok timing, next, attempts.map (Attempt.start "./c.curlee")) ∧
      Benchmark.Outcome ⟨"./c.curlee", 2, ["."]⟩ checkerAlone (fun _ => none) samples attempts
        (.ok timing) ∧
      attempts.map (Attempt.start "./c.curlee") =
        List.replicate 2 ⟨"./c.curlee", ["check", "./c.curlee"], .ok (.code 0)⟩ := by
  let computer : Computer := ⟨checkerAlone, [], "", ""⟩
  have hroot : CheckerInRoot computer.store := checkerInRoot_checkerAlone
  have hshows : (hostWith passingLoader).Shows computer.store (fun _ => none) (· = computer) :=
    hostWith_shows passingLoader computer
  obtain ⟨samples, hsamples, attempts, result, next, -, hrun, houtcome⟩ :=
    run_has_outcome hshows ⟨"./c.curlee", 2, ["."]⟩ rfl
  obtain ⟨samples', hsamples', hfound, hsound⟩ :=
    hroot.exists_samples hroot.locate (by decide : (2 : UInt32) ≠ 0)
  let states : Nat → Computer × List Start := fun n =>
    (computer, List.replicate n ⟨"./c.curlee", ["check", "./c.curlee"], .ok (.code 0)⟩)
  have hseen : ∀ state, Unstarted (· = computer) state ↔ state = states 0 := by
    rintro ⟨first, starts⟩
    exact Prod.mk_inj.symm
  have hstart : ∀ n, ∀ sample ∈ [("." : String)].flatMap samples',
      ((hostWith passingLoader).recorded.start "./c.curlee" ["check", sample]).run (states n) =
        (.ok (.code 0), states (n + 1)) := by
    intro n sample hsample
    rw [hfound] at hsample
    obtain rfl := List.mem_singleton.1 hsample
    have hplain : ((hostWith passingLoader).start "./c.curlee" ["check", "./c.curlee"]).run computer =
        (.ok (.code 0), computer) :=
      run_start_passingLoader (by decide) rfl hroot.locate hroot.checker
    rw [run_start_recorded, hplain, ← List.replicate_succ']
  obtain ⟨timing, hpassed⟩ := run_of_passing hshows.recorded hsamples' hsound hseen hstart fun _ => rfl
  rw [hfound] at hpassed
  obtain ⟨rfl, hnext⟩ := Prod.mk.inj (hrun.symm.trans hpassed)
  obtain ⟨rfl, hstarts⟩ := Prod.mk.inj hnext
  exact ⟨samples, attempts, timing, _, hrun, houtcome, hstarts⟩

end SampleForge
