import SampleForge.Machine.Basic
import SampleForge.Proofs.Files.Keeping
import SampleForge.Proofs.Generation.Plan
import SampleForge.Proofs.Machine.Observing

/-!
# Carrying out operations on a computer

What a computer does for an operation changes its store only.  Carrying out writes one after another
succeeds exactly if the store has a run of these writes, `run_performAll_writes`.  The plan of a request
is to make a directory and then to write; `written_after_makeDirs` is what is known of the store when it
was carried out.  Making a directory with its parents adds directories to the store and nothing else,
`directoriesMade_of_makeDirs`.
-/

namespace SampleForge

open Files

namespace Machine

variable {computer computer' : Computer}

theorem run_change (f : Store → Except OsError Store) (computer : Computer) :
    (change f).run computer =
      match f computer.store with
      | .error error => (.error error, computer)
      | .ok store => (.ok (), { computer with store := store }) := by
  let outcome : OnComputer (Except OsError Unit) :=
    match f computer.store with
    | .error error => pure (.error error)
    | .ok store => do
      set { computer with store := store }
      pure (.ok ())
  have hrun : (change f).run computer = outcome.run computer := rfl
  rw [hrun]
  unfold outcome
  cases f computer.store <;> rfl

theorem run_perform_write (path text : String) (computer : Computer) :
    (perform (.write path text)).run computer =
      match computer.store.write path text.toUTF8 with
      | .error error => (.error error, computer)
      | .ok store => (.ok (), { computer with store := store }) :=
  run_change (fun store => store.write path text.toUTF8) computer

/-- All writes succeed exactly if the store has a run of them. -/
theorem run_performAll_writes {writes : List (String × String)} :
    (performAll perform (writeOperations writes)).run computer = (.ok (), computer') ↔
      ∃ store, Store.Written computer.store writes store ∧
        computer' = { computer with store := store } := by
  induction writes generalizing computer with
  | nil =>
      constructor
      · intro h
        obtain ⟨-, rfl⟩ := Prod.mk.inj h
        exact ⟨computer.store, .nil, rfl⟩
      · rintro ⟨store, hnil, rfl⟩
        cases hnil
        rfl
  | cons write writes ih =>
      obtain ⟨path, text⟩ := write
      rw [writeOperations, List.map_cons, ← writeOperations, run_performAll_cons, run_perform_write]
      cases hwrite : computer.store.write path text.toUTF8 with
      | error error =>
          -- Neither side holds: a run of writes would begin with the one that failed.
          refine ⟨fun h => ?_, ?_⟩
          · cases (Prod.mk.inj h).1
          · rintro ⟨store, hwritten, -⟩
            cases hwritten with
            | cons first later =>
                rw [hwrite] at first
                cases first
      | ok next =>
          rw [ih]
          constructor
          · rintro ⟨store, hlater, rfl⟩
            exact ⟨store, .cons hwrite hlater, rfl⟩
          · rintro ⟨store, hwritten, rfl⟩
            cases hwritten with
            | cons first later =>
                obtain rfl := Except.ok.inj (hwrite.symm.trans first)
                exact ⟨store, later, rfl⟩

/-- A request that is carried out has its samples; its directory was made, and after that the files were
written one after another. -/
theorem written_after_makeDirs {request : SampleRequest} {report : WrittenFiles}
    (h : (request.carryOut perform).run computer = (.ok report, computer')) :
    ∃ samples between, request.samples? = some samples ∧
      samples.map Sample.index = List.range' 1 request.count.toNat ∧
      report = request.files samples ∧
      (perform (.makeDirs request.outDir)).run computer = (.ok (), between) ∧
      Store.Written between.store (request.writes samples) computer'.store := by
  have hcheck := check_of_carryOut perform h
  obtain ⟨samples, hsamples, hindex⟩ := SampleRequest.exists_samples hcheck
  rw [run_carryOut perform hcheck hsamples, SampleRequest.plan_eq, run_performAll_cons] at h
  cases hmade : (perform (.makeDirs request.outDir)).run computer with
  | mk verdict between =>
      rw [hmade] at h
      cases verdict with
      | error error => cases (Prod.mk.inj h).1
      | ok made =>
          refine ⟨samples, between, hsamples, hindex, ?_⟩
          cases hperformed :
              (performAll perform (writeOperations (request.writes samples))).run between with
          | mk outcome after =>
              simp only [hperformed] at h
              cases outcome with
              | error failure => cases (Prod.mk.inj h).1
              | ok done =>
                  obtain ⟨hreport, rfl⟩ := Prod.mk.inj h
                  obtain ⟨store, hwritten, rfl⟩ := run_performAll_writes.1 hperformed
                  exact ⟨(Except.ok.inj hreport).symm, rfl, hwritten⟩

/-- Whatever the directory was made of, what was written came after. -/
theorem written_of_carryOut {request : SampleRequest} {report : WrittenFiles}
    (h : (request.carryOut perform).run computer = (.ok report, computer')) :
    ∃ samples start, request.samples? = some samples ∧
      samples.map Sample.index = List.range' 1 request.count.toNat ∧
      report = request.files samples ∧
      Store.Written start (request.writes samples) computer'.store := by
  obtain ⟨samples, between, hsamples, hindex, hreport, -, hwritten⟩ := written_after_makeDirs h
  exact ⟨samples, between.store, hsamples, hindex, hreport, hwritten⟩

/-! ## Making directories -/

section Directories

variable {s : Store}

/-- The store of the computer is the given one with directories made. -/
def MadeFrom (s : Store) (computer : Computer) : Prop :=
  Store.DirectoriesMade s computer.store

theorem run_make (path : String) (computer : Computer) :
    (directoryMaker.make path).run computer =
      match computer.store.makeDirectory path with
      | .error error => (.error error, computer)
      | .ok store => (.ok (), { computer with store := store }) :=
  run_change (fun store => store.makeDirectory path) computer

theorem observes_make (path : String) :
    Observes (MadeFrom s) (directoryMaker.make path) fun _ => True := by
  intro computer hmade
  refine ⟨trivial, ?_⟩
  rw [run_make]
  cases hstore : computer.store.makeDirectory path with
  | error error => exact hmade
  | ok store =>
      exact Store.DirectoriesMade.trans hmade (Store.directoriesMade_of_makeDirectory hstore)

theorem observes_forgive (path : String) (error : OsError) :
    Observes (MadeFrom s) (directoryMaker.forgive path error) fun _ => True := by
  have hlook : Observes (MadeFrom s) (directoryMaker.isDirectory path) fun _ => True :=
    fun _ hmade => ⟨trivial, hmade⟩
  refine hlook.bind fun found _ => ?_
  cases found <;> exact .pure trivial

theorem observes_makeLast (path : String) :
    Observes (MadeFrom s) (directoryMaker.makeLast path) fun _ => True := by
  refine (observes_make path).bind fun verdict _ => ?_
  cases verdict with
  | ok made => exact .pure trivial
  | error error => exact observes_forgive path error

/-- Making a directory with parents makes directories only, whether it succeeds or not. -/
theorem observes_makeUpTo (parents : Nat) (path : String) :
    Observes (MadeFrom s) (directoryMaker.makeUpTo parents path) fun _ => True := by
  induction parents generalizing path with
  | zero =>
      rw [DirectoryMaker.makeUpTo]
      split
      · exact .pure trivial
      · exact observes_makeLast path
  | succ parents ih =>
      rw [DirectoryMaker.makeUpTo]
      split
      · exact .pure trivial
      refine (observes_make path).bind fun verdict _ => ?_
      cases verdict with
      | ok made => exact .pure trivial
      | error error =>
          dsimp only
          split
          · exact observes_forgive path error
          · refine (ih _).bind fun outcome _ => ?_
            cases outcome with
            | error error => exact .pure trivial
            | ok made => exact observes_makeLast path

theorem directoriesMade_of_makeDirs {path : String} {verdict : Except OsError Unit}
    (h : (perform (.makeDirs path)).run computer = (verdict, computer')) :
    Store.DirectoriesMade computer.store computer'.store := by
  have hstart : MadeFrom computer.store computer := Store.DirectoriesMade.refl computer.store
  have hmade := (observes_makeUpTo (components path).names.length path computer hstart).2
  have hrun : (perform (.makeDirs path)).run computer =
      (directoryMaker.makeUpTo (components path).names.length path).run computer := rfl
  rw [← hrun, h] at hmade
  exact hmade

/-- A failure is forgiven if there is a directory. -/
theorem run_makeLast_of_isDirectory {path : String} {error : OsError}
    (h : computer.store.makeDirectory path = .error error)
    (hdir : computer.store.isDirectory path = true) :
    (directoryMaker.makeLast path).run computer = (.ok (), computer) := by
  have hmake := run_make path computer
  have hlook : (directoryMaker.isDirectory path).run computer = (true, computer) :=
    Prod.ext hdir rfl
  rw [h] at hmake
  rw [DirectoryMaker.makeLast, StateT.run_bind, hmake]
  change ((directoryMaker.isDirectory path >>= fun found => _) : OnComputer _).run computer = _
  rw [StateT.run_bind, hlook]
  rfl

theorem run_makeUpTo_of_made {parents : Nat} {path : String} {store : Store} (hpath : path ≠ "")
    (h : computer.store.makeDirectory path = .ok store) :
    (directoryMaker.makeUpTo (parents + 1) path).run computer =
      (.ok (), { computer with store := store }) := by
  have hmake := run_make path computer
  rw [h] at hmake
  rw [DirectoryMaker.makeUpTo, if_neg hpath, StateT.run_bind, hmake]
  rfl

/-- If a parent is missing it is made first. -/
theorem run_makeUpTo_of_parent {parents : Nat} {path parent : String} (hpath : path ≠ "")
    (h : computer.store.makeDirectory path = .error .notFound)
    (hparent : parentPath? path = some parent)
    (hmade : (directoryMaker.makeUpTo parents parent).run computer = (.ok (), computer')) :
    (directoryMaker.makeUpTo (parents + 1) path).run computer =
      (directoryMaker.makeLast path).run computer' := by
  have hmake := run_make path computer
  rw [h] at hmake
  rw [DirectoryMaker.makeUpTo, if_neg hpath, StateT.run_bind, hmake]
  simp only [hparent]
  change ((directoryMaker.makeUpTo parents parent >>= fun outcome => _) : OnComputer _).run
    computer = _
  rw [StateT.run_bind, hmade]
  rfl

end Directories

end Machine
end SampleForge
