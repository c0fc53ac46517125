import SampleForge.Proofs.Corpus.RoundTrip
import SampleForge.Proofs.Generation.Plan

/-!
# What generating attempts

The files of a computer may answer an operation in any way, and differently every time: carrying one out is
a step of an arbitrary state.  `recordAttempts` carries out the same operations with a record beside that
state, every operation with the answer it got.  Keeping the record changes nothing else.

`PlanRun plan attempts verdict` says what becomes of a list of operations.  Either all of them were
attempted and none failed, or the first failure was the last attempt.  `performAll_recorded` proves it one
operation after the other; `carryOut_attempts` says what it means for a request.
-/

namespace SampleForge

open Files

/-- An operation that was attempted, and what came of it. -/
structure FileAttempt where
  operation : FileOperation
  verdict : Except OsError Unit

/-- The operations of some attempts, in order. -/
def attemptedOperations (attempts : List FileAttempt) : List FileOperation :=
  attempts.map FileAttempt.operation

/-- Every attempt succeeded. -/
def NoneFailed (attempts : List FileAttempt) : Prop :=
  ∀ attempt ∈ attempts, attempt.verdict = .ok ()

variable {σ : Type}

/-- Carries out operations with a record of them, the latest last. -/
def recordAttempts (perform : FileOperation → StateM σ (Except OsError Unit)) :
    FileOperation → StateM (σ × List FileAttempt) (Except OsError Unit) := fun operation state =>
  let (verdict, next) := (perform operation).run state.1
  (verdict, next, state.2 ++ [⟨operation, verdict⟩])

/-! ## Attempts that follow a plan -/

/-- What becomes of a plan: all of it is done, or it ends with the first failure. -/
inductive PlanRun (plan : List FileOperation) :
    List FileAttempt → Except (String × OsError) Unit → Prop
  | whole {attempts : List FileAttempt} (operations : plan = attemptedOperations attempts)
      (passed : NoneFailed attempts) : PlanRun plan attempts (.ok ())
  | stopped {before : List FileAttempt} {operation : FileOperation} {rest : List FileOperation}
      {error : OsError} (operations : plan = attemptedOperations before ++ operation :: rest)
      (passed : NoneFailed before) :
      PlanRun plan (before ++ [⟨operation, .error error⟩]) (.error (operation.path, error))

theorem attemptedOperations_append (attempts attempts' : List FileAttempt) :
    attemptedOperations (attempts ++ attempts') =
      attemptedOperations attempts ++ attemptedOperations attempts' :=
  List.map_append

theorem noneFailed_cons {attempt : FileAttempt} {attempts : List FileAttempt} :
    NoneFailed (attempt :: attempts) ↔ attempt.verdict = .ok () ∧ NoneFailed attempts :=
  List.forall_mem_cons

theorem not_noneFailed_concat (before : List FileAttempt) (operation : FileOperation) (error : OsError) :
    ¬ NoneFailed (before ++ [⟨operation, .error error⟩]) := by
  intro h
  have hlast := h ⟨operation, .error error⟩ (by simp)
  cases hlast

namespace PlanRun

variable {plan : List FileOperation} {attempts : List FileAttempt}
  {verdict : Except (String × OsError) Unit}

/-- One more operation in front, which succeeds. -/
theorem cons (operation : FileOperation) (h : PlanRun plan attempts verdict) :
    PlanRun (operation :: plan) (⟨operation, .ok ()⟩ :: attempts) verdict := by
  cases h with
  | whole hplan hpassed =>
      exact .whole (congrArg (operation :: ·) hplan) (noneFailed_cons.2 ⟨rfl, hpassed⟩)
  | @stopped before last rest error hplan hpassed =>
      rw [← List.cons_append]
      exact .stopped (congrArg (operation :: ·) hplan) (noneFailed_cons.2 ⟨rfl, hpassed⟩)

/-- A first operation that fails is the only one. -/
theorem failed (operation : FileOperation) (plan : List FileOperation) (error : OsError) :
    PlanRun (operation :: plan) [⟨operation, .error error⟩] (.error (operation.path, error)) :=
  @stopped _ [] operation plan error rfl (List.forall_mem_nil _)

theorem attemptedOperations_isPrefix (h : PlanRun plan attempts verdict) :
    attemptedOperations attempts <+: plan := by
  cases h with
  | whole hplan => rw [hplan]
  | stopped hplan =>
      rw [hplan, attemptedOperations_append, List.prefix_append_right_inj]
      exact List.cons_prefix_cons.2 ⟨rfl, List.nil_prefix⟩

/-- The last operation is attempted after all others have succeeded. -/
theorem of_last_attempted {front : List FileOperation} {last : FileOperation}
    (h : PlanRun (front ++ [last]) attempts verdict) (hfront : last ∉ front)
    (hlast : last ∈ attemptedOperations attempts) :
    ∃ before outcome, attempts = before ++ [⟨last, outcome⟩] ∧ NoneFailed before ∧
      attemptedOperations before = front := by
  cases h with
  | whole hplan hpassed =>
      obtain ⟨before, after, rfl, hbefore, hafter⟩ := List.map_eq_append_iff.1 hplan.symm
      obtain ⟨attempt, rfl, rfl⟩ := List.map_eq_singleton_iff.1 hafter
      have hpassed' : NoneFailed before := fun earlier hearlier =>
        hpassed earlier (List.mem_append_left _ hearlier)
      exact ⟨before, attempt.verdict, rfl, hpassed', hbefore⟩
  | @stopped before operation rest error hplan hpassed =>
      rw [attemptedOperations_append] at hlast
      cases rest using List.reverseRecOn with
      | nil =>
          obtain ⟨hbefore, hoperation⟩ := List.append_inj' hplan rfl
          obtain rfl : last = operation := List.head_eq_of_cons_eq hoperation
          exact ⟨before, _, rfl, hpassed, hbefore.symm⟩
      | append_singleton rest final =>
          -- A failure before the last operation leaves it unattempted.
          rw [← List.cons_append, ← List.append_assoc] at hplan
          obtain ⟨hfront', -⟩ := List.append_inj' hplan rfl
          refine absurd ?_ hfront
          rw [hfront']
          rcases List.mem_append.1 hlast with hlast | hlast
          · exact List.mem_append_left _ hlast
          · exact List.mem_append_right _ (List.mem_cons.2 (.inl (List.mem_singleton.1 hlast)))

end PlanRun

section Run

variable (perform : FileOperation → StateM σ (Except OsError Unit))

/-- A single operation is put on record. -/
theorem run_recordAttempts (operation : FileOperation) (s : σ) (log : List FileAttempt) :
    (recordAttempts perform operation).run (s, log) =
      (((perform operation).run s).1, ((perform operation).run s).2,
        log ++ [⟨operation, ((perform operation).run s).1⟩]) := rfl

/-- Whatever the operations do, they are carried out as planned, and the attempts go on record. -/
theorem performAll_recorded (plan : List FileOperation) (s : σ) (log : List FileAttempt) :
    ∃ attempts verdict next, PlanRun plan attempts verdict ∧
      (performAll perform plan).run s = (verdict, next) ∧
      (performAll (recordAttempts perform) plan).run (s, log) =
        (verdict, next, log ++ attempts) := by
  induction plan generalizing s log with
  | nil =>
      refine ⟨[], .ok (), s, .whole rfl (List.forall_mem_nil _), rfl, ?_⟩
      rw [List.append_nil]
      rfl
  | cons operation plan ih =>
      simp only [run_performAll_cons, run_recordAttempts]
      cases (perform operation).run s with
      | mk verdict next =>
          cases verdict with
          | error error =>
              exact ⟨[⟨operation, .error error⟩], _, next, .failed operation plan error, rfl, rfl⟩
          | ok passed =>
              obtain ⟨attempts, verdict, last, hrun, hplain, hrecorded⟩ :=
                ih next (log ++ [⟨operation, .ok ()⟩])
              refine ⟨⟨operation, .ok ()⟩ :: attempts, verdict, last, hrun.cons operation, hplain, ?_⟩
              rw [List.append_assoc] at hrecorded
              exact hrecorded

end Run

/-! ## The attempts of a request -/

namespace SampleRequest

/-- Writing the samples, in order. -/
def sampleWrites (request : SampleRequest) (samples : List Sample) : List FileOperation :=
  samples.map fun sample => .write (joinPath request.outDir sample.fileName) sample.program

/-- Writing the corpus file. -/
def corpusWrite (request : SampleRequest) (samples : List Sample) : FileOperation :=
  .write request.corpusPath (writeCorpus request.seed request.count samples)

/-- A program is no corpus file: they begin differently. -/
theorem program_ne_writeCorpus (seed : Int64) (count : UInt32) (samples : List Sample)
    (sample : Sample) : sample.program ≠ writeCorpus seed count samples := by
  intro h
  have hprogram : sample.program.toList.head? = some 'f' := by
    rw [Sample.toList_program]
    rfl
  have hcorpus : (writeCorpus seed count samples).toList.head? = some '#' := by
    rw [writeCorpus, toList_corpusText]
    rfl
  rw [h, hcorpus] at hprogram
  exact absurd hprogram (by decide)

theorem corpusWrite_not_mem (request : SampleRequest) (samples : List Sample) :
    request.corpusWrite samples ∉ .makeDirs request.outDir :: request.sampleWrites samples := by
  intro h
  rcases List.mem_cons.1 h with h | h
  · cases h
  · obtain ⟨sample, -, hsame⟩ := List.mem_map.1 h
    exact program_ne_writeCorpus _ _ _ sample (FileOperation.write.inj hsame).2

/-- There is one operation for every sample, and two more. -/
theorem length_attempts {request : SampleRequest} {samples : List Sample} {attempts : List FileAttempt}
    (hindex : samples.map Sample.index = List.range' 1 request.count.toNat)
    (hoperations : attemptedOperations attempts =
      .makeDirs request.outDir :: request.sampleWrites samples ++ [request.corpusWrite samples]) :
    attempts.length = request.count.toNat + 2 := by
  have hlength := congrArg List.length hoperations
  rw [attemptedOperations, List.length_map] at hlength
  rw [hlength, ← length_eq_of_map_index hindex]
  simp [sampleWrites]

end SampleRequest

/-- A request that fails its check attempts nothing.  Any other one attempts to make its directory, to write
its samples by number, and to write the corpus file, in this order.  If no attempt fails, all of this
happened, and the files are named in order.  Otherwise the last attempt is the only one that failed, and
its path and error are what is reported.  The corpus file is not attempted before every sample is written. -/
theorem carryOut_attempts (perform : FileOperation → StateM σ (Except OsError Unit))
    (request : SampleRequest) (s : σ) :
    ∃ attempts result next,
      (request.carryOut perform).run s = (result, next) ∧
      (request.carryOut (recordAttempts perform)).run (s, []) = (result, next, attempts) ∧
      (∀ cause, request.check = .error cause →
        attempts = [] ∧ result = .error (.request cause)) ∧
      (request.check = .ok () → ∃ samples,
        request.samples? = some samples ∧
        samples.map Sample.index = List.range' 1 request.count.toNat ∧
        attemptedOperations attempts <+:
          .makeDirs request.outDir :: request.sampleWrites samples ++
            [request.corpusWrite samples] ∧
        (NoneFailed attempts →
          attemptedOperations attempts =
            .makeDirs request.outDir :: request.sampleWrites samples ++
              [request.corpusWrite samples] ∧
          attempts.length = request.count.toNat + 2 ∧
          result = .ok ⟨samples.map fun sample => joinPath request.outDir sample.fileName,
            request.corpusPath⟩) ∧
        (¬ NoneFailed attempts → ∃ before operation error,
          attempts = before ++ [⟨operation, .error error⟩] ∧ NoneFailed before ∧
            result = .error (.notWritten operation.path error)) ∧
        (request.corpusWrite samples ∈ attemptedOperations attempts → ∃ before outcome,
          attempts = before ++ [⟨request.corpusWrite samples, outcome⟩] ∧ NoneFailed before ∧
            attemptedOperations before =
              .makeDirs request.outDir :: request.sampleWrites samples)) := by
  cases hcheck : request.check with
  | error cause =>
      refine ⟨[], .error (.request cause), s, run_carryOut_of_error perform hcheck s,
        run_carryOut_of_error _ hcheck (s, []), ?_, nofun⟩
      intro cause' hcause
      obtain rfl : cause = cause' := Except.error.inj hcause
      exact ⟨rfl, rfl⟩
  | ok passed =>
      obtain ⟨samples, hsamples, hindex⟩ := SampleRequest.exists_samples hcheck
      obtain ⟨attempts, verdict, next, hrun, hplain, hrecorded⟩ :=
        performAll_recorded perform (request.plan samples) s []
      have hplan : request.plan samples = .makeDirs request.outDir ::
          request.sampleWrites samples ++ [request.corpusWrite samples] := rfl
      rw [run_carryOut perform hcheck hsamples, run_carryOut _ hcheck hsamples, hplain, hrecorded,
        List.nil_append]
      rw [hplan] at hrun
      have hbegin := hrun.attemptedOperations_isPrefix
      have hcorpus := fun hattempted =>
        hrun.of_last_attempted (request.corpusWrite_not_mem samples) hattempted
      cases hrun with
      | whole hoperations hpassed =>
          refine ⟨attempts, _, next, rfl, rfl, nofun, fun _ =>
            ⟨samples, hsamples, hindex, hbegin, fun _ => ?_, absurd hpassed, hcorpus⟩⟩
          exact ⟨hoperations.symm, SampleRequest.length_attempts hindex hoperations.symm, rfl⟩
      | @stopped before operation rest error _ hpassed =>
          exact ⟨_, _, next, rfl, rfl, nofun, fun _ =>
            ⟨samples, hsamples, hindex, hbegin,
              fun h => absurd h (not_noneFailed_concat before operation error),
              fun _ => ⟨before, operation, error, rfl, hpassed, rfl⟩, hcorpus⟩⟩

end SampleForge
