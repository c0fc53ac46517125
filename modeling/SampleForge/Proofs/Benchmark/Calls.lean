import Mathlib.Tactic
import SampleForge.Benchmark.Passes

/-!
# The calls of the passes

A checker may answer differently at every call and after everything that happened before, and so may
the clock: both are steps of an arbitrary state.  `PassRunner.recorded` is the same runner with a
record of its calls beside that state, every call with the verdict it got.  Keeping the record changes
neither the outcome nor the state.

`Judged plan calls verdict` says that the calls follow the plan up to the first failure and that the
verdict is that failure, or success after the whole plan.  Going through the samples once is judged by
the list of samples, and a pass after the other by the list repeated; `timePasses_calls` reads off
what this says of the calls and of the outcome.  How long anything takes is not said here.
-/

namespace SampleForge

/-- A call of the checker, with the verdict it got. -/
structure Call where
  sample : String
  verdict : Except BenchmarkError Unit

/-- The samples of some calls, in order. -/
def calledSamples (calls : List Call) : List String :=
  calls.map Call.sample

/-- No call failed. -/
def AllPassed (calls : List Call) : Prop :=
  ∀ call ∈ calls, call.verdict = .ok ()

/-- The samples in the order in which full passes go through them. -/
def passPlan (samples : List String) (runs : Nat) : List String :=
  (List.replicate runs samples).flatten

variable {σ : Type}

/-- The runner with a record of its calls, the latest last. -/
def PassRunner.recorded (runner : PassRunner (StateM σ)) :
    PassRunner (StateM (σ × List Call)) where
  judge sample state :=
    let (verdict, next) := (runner.judge sample).run state.1
    (verdict, next, state.2 ++ [⟨sample, verdict⟩])
  clock state :=
    let (time, next) := runner.clock.run state.1
    (time, next, state.2)

/-! ## Calls that follow a plan -/

/-- The calls follow the plan up to the first failure. -/
inductive Judged : (plan : List String) → List Call → Except BenchmarkError Unit → Prop
  | done : Judged [] [] (.ok ())
  | passed {sample : String} {plan : List String} {calls : List Call}
      {verdict : Except BenchmarkError Unit} (rest : Judged plan calls verdict) :
      Judged (sample :: plan) (⟨sample, .ok ()⟩ :: calls) verdict
  | failed {sample : String} {plan : List String} {error : BenchmarkError} :
      Judged (sample :: plan) [⟨sample, .error error⟩] (.error error)

@[simp] theorem calledSamples_nil : calledSamples [] = [] := rfl

@[simp] theorem calledSamples_cons (call : Call) (calls : List Call) :
    calledSamples (call :: calls) = call.sample :: calledSamples calls := rfl

@[simp] theorem allPassed_nil : AllPassed [] := by
  simp [AllPassed]

@[simp] theorem allPassed_cons (call : Call) (calls : List Call) :
    AllPassed (call :: calls) ↔ call.verdict = .ok () ∧ AllPassed calls := by
  simp [AllPassed]

@[simp] theorem passPlan_zero (samples : List String) : passPlan samples 0 = [] := rfl

@[simp] theorem passPlan_succ (samples : List String) (runs : Nat) :
    passPlan samples (runs + 1) = samples ++ passPlan samples runs := by
  simp [passPlan, List.replicate_succ]

namespace Judged

variable {plan plan' : List String} {calls calls' : List Call}
  {verdict : Except BenchmarkError Unit} {error : BenchmarkError}

theorem calledSamples_prefix (h : Judged plan calls verdict) : calledSamples calls <+: plan := by
  induction h with
  | done => simp
  | passed rest ih => simpa using ih
  | failed => simp

theorem calledSamples_eq (h : Judged plan calls (.ok ())) : calledSamples calls = plan := by
  generalize hverdict : (Except.ok () : Except BenchmarkError Unit) = verdict at h
  induction h with
  | done => rfl
  | passed rest ih => rw [calledSamples_cons, ih hverdict]
  | failed => cases hverdict

/-- The verdict is success exactly if no call failed. -/
theorem ok_iff_allPassed (h : Judged plan calls verdict) : verdict = .ok () ↔ AllPassed calls := by
  induction h with
  | done => simp
  | passed rest ih => simpa using ih
  | failed => simp

/-- The failure that is reported is the one of the last call, and the only one. -/
theorem last_failed (h : Judged plan calls (.error error)) :
    ∃ before sample, calls = before ++ [⟨sample, .error error⟩] ∧ AllPassed before := by
  generalize hverdict : (Except.error error : Except BenchmarkError Unit) = verdict at h
  induction h with
  | done => cases hverdict
  | @passed sample plan calls verdict rest ih =>
      obtain ⟨before, last, rfl, hbefore⟩ := ih hverdict
      exact ⟨⟨sample, .ok ()⟩ :: before, last, rfl, by simpa using hbefore⟩
  | @failed sample plan error' =>
      obtain rfl : error = error' := Except.error.inj hverdict
      exact ⟨[], sample, rfl, allPassed_nil⟩

/-- A plan that was followed to its end is followed by the next one. -/
theorem append (h : Judged plan calls (.ok ())) (h' : Judged plan' calls' verdict) :
    Judged (plan ++ plan') (calls ++ calls') verdict := by
  generalize hok : (Except.ok () : Except BenchmarkError Unit) = outcome at h
  induction h with
  | done => exact h'
  | passed rest ih => exact .passed (ih hok)
  | failed => cases hok

/-- After a failure nothing of a longer plan is called. -/
theorem append_of_error (h : Judged plan calls (.error error)) (plan' : List String) :
    Judged (plan ++ plan') calls (.error error) := by
  generalize herror : (Except.error error : Except BenchmarkError Unit) = outcome at h ⊢
  induction h with
  | done => cases herror
  | passed rest ih => exact .passed (ih herror)
  | failed => exact .failed

end Judged

/-! ## The run of a runner -/

section Run

variable (runner : PassRunner (StateM σ))

/-- A single call is put on record. -/
theorem judge_recorded (sample : String) (s : σ) (log : List Call) :
    (runner.recorded.judge sample).run (s, log) =
      (((runner.judge sample).run s).1, ((runner.judge sample).run s).2,
        log ++ [⟨sample, ((runner.judge sample).run s).1⟩]) := rfl

theorem clock_recorded (s : σ) (log : List Call) :
    runner.recorded.clock.run (s, log) =
      ((runner.clock.run s).1, (runner.clock.run s).2, log) := rfl

theorem run_judgeAll_nil (judge : String → StateM σ (Except BenchmarkError Unit)) (s : σ) :
    (judgeAll judge []).run s = (.ok (), s) := rfl

theorem run_judgeAll_cons (judge : String → StateM σ (Except BenchmarkError Unit))
    (sample : String) (samples : List String) (s : σ) :
    (judgeAll judge (sample :: samples)).run s =
      match (judge sample).run s with
      | (.error error, next) => (.error error, next)
      | (.ok (), next) => (judgeAll judge samples).run next := by
  rw [judgeAll, StateT.run_bind]
  cases (judge sample).run s with
  | mk verdict next => cases verdict <;> rfl

theorem run_timeRemaining_zero (samples : List String) (durations : List Duration) (s : σ) :
    (timeRemaining runner samples 0 durations).run s =
      (.ok ⟨samples.length, durations.reverse⟩, s) := rfl

theorem run_timeRemaining_succ (samples : List String) (remaining : Nat)
    (durations : List Duration) (s : σ) :
    (timeRemaining runner samples (remaining + 1) durations).run s =
      match (judgeAll runner.judge samples).run (runner.clock.run s).2 with
      | (.error error, next) => (.error error, next)
      | (.ok (), next) =>
        (timeRemaining runner samples remaining
          (elapsed (runner.clock.run s).1 (runner.clock.run next).1 :: durations)).run
            (runner.clock.run next).2 := by
  rw [timeRemaining, StateT.run_bind]
  cases hclock : runner.clock.run s with
  | mk start first =>
      change ((judgeAll runner.judge samples >>= fun verdict => _) : StateM σ _).run first = _
      rw [StateT.run_bind]
      cases (judgeAll runner.judge samples).run first with
      | mk verdict next => cases verdict <;> rfl

/-- One pass: the calls it adds to the record follow the list of samples. -/
theorem judgeAll_recorded (samples : List String) (s : σ) (log : List Call) :
    ∃ calls verdict next, Judged samples calls verdict ∧
      (judgeAll runner.judge samples).run s = (verdict, next) ∧
      (judgeAll runner.recorded.judge samples).run (s, log) = (verdict, next, log ++ calls) := by
  induction samples generalizing s log with
  | nil =>
      refine ⟨[], .ok (), s, .done, rfl, ?_⟩
      rw [run_judgeAll_nil, List.append_nil]
  | cons sample samples ih =>
      simp only [run_judgeAll_cons, judge_recorded]
      cases (runner.judge sample).run s with
      | mk verdict next =>
          cases verdict with
          | error error => exact ⟨[⟨sample, .error error⟩], .error error, next, .failed, rfl, rfl⟩
          | ok passed =>
              obtain ⟨calls, verdict, last, hjudged, hplain, hrecorded⟩ :=
                ih next (log ++ [⟨sample, .ok ()⟩])
              refine ⟨⟨sample, .ok ()⟩ :: calls, verdict, last, .passed hjudged, hplain, ?_⟩
              rw [List.append_assoc] at hrecorded
              exact hrecorded

/-- What is left of the result when the timing is not looked at. -/
def verdictOf (result : Except BenchmarkError Timing) : Except BenchmarkError Unit :=
  result.map fun _ => ()

/-- A timing of the given numbers of samples and passes, if there is one at all. -/
def Measures (result : Except BenchmarkError Timing) (samples passes : Nat) : Prop :=
  ∀ timing, result = .ok timing → timing.samples = samples ∧ timing.passes.length = passes

/-- Every remaining pass adds its calls to the record and its duration to the timing. -/
theorem timeRemaining_recorded (samples : List String) (remaining : Nat)
    (durations : List Duration) (s : σ) (log : List Call) :
    ∃ calls result next, Judged (passPlan samples remaining) calls (verdictOf result) ∧
      Measures result samples.length (durations.length + remaining) ∧
      (timeRemaining runner samples remaining durations).run s = (result, next) ∧
      (timeRemaining runner.recorded samples remaining durations).run (s, log) =
        (result, next, log ++ calls) := by
  induction remaining generalizing durations s log with
  | zero =>
      refine ⟨[], .ok ⟨samples.length, durations.reverse⟩, s, .done, ?_, rfl, ?_⟩
      · intro timing htiming
        obtain rfl := Except.ok.inj htiming
        simp
      · rw [run_timeRemaining_zero, List.append_nil]
  | succ remaining ih =>
      obtain ⟨calls, verdict, next, hjudged, hplain, hrecorded⟩ :=
        judgeAll_recorded runner samples (runner.clock.run s).2 log
      rw [passPlan_succ]
      simp only [run_timeRemaining_succ, clock_recorded, hplain, hrecorded]
      cases verdict with
      | error error =>
          refine ⟨calls, .error error, next, hjudged.append_of_error _, ?_, rfl, rfl⟩
          intro timing htiming
          cases htiming
      | ok passed =>
          obtain ⟨later, result, last, hlater, hmeasures, hplain', hrecorded'⟩ :=
            ih (elapsed (runner.clock.run s).1 (runner.clock.run next).1 :: durations)
              (runner.clock.run next).2 (log ++ calls)
          refine ⟨calls ++ later, result, last, hjudged.append hlater, ?_, hplain', ?_⟩
          · rw [List.length_cons] at hmeasures
            rwa [Nat.add_right_comm] at hmeasures
          · rw [List.append_assoc] at hrecorded'
            exact hrecorded'

end Run

theorem timePasses_zero (runner : PassRunner (StateM σ)) (samples : List String) (s : σ) :
    (timePasses runner samples 0).run s = (.error (.tooFewRuns 0), s) := rfl

theorem timePasses_nil (runner : PassRunner (StateM σ)) {runs : UInt32} (hruns : runs ≠ 0) (s : σ) :
    (timePasses runner [] runs).run s = (.error .nothingToJudge, s) := by
  rw [timePasses, if_neg hruns]
  rfl

theorem timePasses_of_ne (runner : PassRunner (StateM σ)) {samples : List String} {runs : UInt32}
    (hruns : runs ≠ 0) (hsamples : samples ≠ []) :
    timePasses runner samples runs = timeRemaining runner samples runs.toNat [] := by
  have hfilled : ¬ samples.isEmpty = true := by
    simpa using hsamples
  rw [timePasses, if_neg hruns, if_neg hfilled]

/-- The calls go through the samples once per run and stop at the first failure.  Without runs, or else
without samples, nothing is called.  Otherwise the calls are the beginning of the samples repeated; they
are all of them, with a timing of every sample and every pass, exactly if no call fails, and else
they end with the only failure, which is what is reported. -/
theorem timePasses_calls (runner : PassRunner (StateM σ)) (samples : List String) (runs : UInt32)
    (s : σ) :
    ∃ calls result next,
      (timePasses runner samples runs).run s = (result, next) ∧
      (timePasses runner.recorded samples runs).run (s, []) = (result, next, calls) ∧
      (runs = 0 → calls = [] ∧ result = .error (.tooFewRuns 0)) ∧
      (runs ≠ 0 → samples = [] → calls = [] ∧ result = .error .nothingToJudge) ∧
      (runs ≠ 0 → samples ≠ [] →
        calledSamples calls <+: passPlan samples runs.toNat ∧
        ((calledSamples calls = passPlan samples runs.toNat ∧
            ∃ timing, result = .ok timing ∧ timing.samples = samples.length ∧
              timing.passes.length = runs.toNat) ↔ AllPassed calls) ∧
        (¬ AllPassed calls → ∃ before sample error,
          calls = before ++ [⟨sample, .error error⟩] ∧ AllPassed before ∧
            result = .error error)) := by
  by_cases hruns : runs = 0
  · subst hruns
    exact ⟨[], .error (.tooFewRuns 0), s, timePasses_zero runner samples s,
      timePasses_zero runner.recorded samples (s, []), by simp⟩
  by_cases hsamples : samples = []
  · subst hsamples
    exact ⟨[], .error .nothingToJudge, s, timePasses_nil runner hruns s,
      timePasses_nil runner.recorded hruns (s, []), by simp [hruns]⟩
  obtain ⟨calls, result, next, hjudged, hmeasures, hplain, hrecorded⟩ :=
    timeRemaining_recorded runner samples runs.toNat [] s []
  refine ⟨calls, result, next, ?_, ?_, fun h => absurd h hruns, fun _ h => absurd h hsamples,
    fun _ _ => ⟨hjudged.calledSamples_prefix, ?_, ?_⟩⟩
  · rw [timePasses_of_ne runner hruns hsamples, hplain]
  · rw [timePasses_of_ne runner.recorded hruns hsamples, hrecorded, List.nil_append]
  · rw [← hjudged.ok_iff_allPassed]
    constructor
    · rintro ⟨-, timing, rfl, -, -⟩
      rfl
    · intro hok
      cases result with
      | error error => cases hok
      | ok timing =>
          obtain ⟨hcount, hpasses⟩ := hmeasures timing rfl
          have hplan : calledSamples calls = passPlan samples runs.toNat := hjudged.calledSamples_eq
          refine ⟨hplan, timing, rfl, hcount, ?_⟩
          simpa using hpasses
  · intro hfailed
    cases result with
    | ok timing => exact absurd (hjudged.ok_iff_allPassed.1 rfl) hfailed
    | error error =>
        obtain ⟨before, sample, hcalls, hbefore⟩ := hjudged.last_failed
        exact ⟨before, sample, error, hcalls, hbefore, rfl⟩

end SampleForge
