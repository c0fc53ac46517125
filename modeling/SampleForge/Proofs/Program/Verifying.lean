import SampleForge.Program.Run
import SampleForge.Proofs.Generation.FilesLeft

/-!
# Verifying what was generated

`generate` and `verify` complete their flags on their own, and the one writes what the other reads.
`verify_accepts_generated` puts the two together on a computer: whatever its files are and wherever the
samples go, a corpus that was generated is found again under the same `--training`, is read, and has as
many programs as it declares.  The line that `verify` prints names the seed and the count that were
asked for.
-/

namespace SampleForge.Program

open CommandLine Files Machine SampleRequest

variable {computer computer' : Computer}

/-- Generating prints nothing and does to the computer what its request does. -/
theorem run_generateCommand (request : SampleRequest) (computer : Computer) :
    (generateCommand host request).run computer =
      match (request.carryOut perform).run computer with
      | (.error cause, next) => (.error (.generation cause), next)
      | (.ok _, next) => (.ok "", next) := by
  have hperform : host.perform = perform := rfl
  rw [generateCommand, StateT.run_bind, hperform]
  cases (request.carryOut perform).run computer with
  | mk outcome next => cases outcome <;> rfl

theorem carryOut_of_generateCommand {request : SampleRequest} {out : String}
    (h : (generateCommand host request).run computer = (.ok out, computer')) :
    out = "" ∧ ∃ report, (request.carryOut perform).run computer = (.ok report, computer') := by
  rw [run_generateCommand] at h
  cases hcarry : (request.carryOut perform).run computer with
  | mk outcome next =>
      rw [hcarry] at h
      cases outcome with
      | error cause => cases (Prod.mk.inj h).1
      | ok report =>
          obtain ⟨hout, rfl⟩ := Prod.mk.inj h
          exact ⟨(Except.ok.inj hout).symm, report, rfl⟩

/-- Verifying reads one file and changes nothing. -/
theorem run_verifyCommand_of_readText {path text : String}
    (h : computer.store.readText path = .ok text) :
    (verifyCommand host path).run computer = (checkCorpus path text, computer) := by
  have hread : (host.readText path).run computer = (computer.store.readText path, computer) := rfl
  rw [verifyCommand, StateT.run_bind, hread, h]
  rfl

/-- A written corpus passes the check if it has the declared number of samples. -/
theorem checkCorpus_writeCorpus {request : SampleRequest} {samples : List Sample}
    (hlength : samples.length = request.count.toNat) (path : String) :
    checkCorpus path (writeCorpus request.seed request.count samples) =
      .ok ("ok: seed=" ++ toString request.seed.toInt ++ " count=" ++
        toString request.count.toNat ++ "\n") := by
  have hcount : request.count.toUInt64.toNat = request.count.toNat :=
    UInt32.toNat_toUInt64 request.count
  have hcheck : (⟨⟨request.seed, request.count.toUInt64⟩,
      samples.map Sample.trimmedProgram⟩ : Corpus).checkCount = .ok () := by
    rw [Corpus.checkCount_eq_ok_iff, List.length_map, hlength, hcount]
  rw [checkCorpus, readCorpus_corpusContent]
  simp only [Except.mapError, bind, Except.bind, hcheck, pure, Except.pure, corpusLine, hcount]

/-- With the same `--training` both commands mean the same corpus file. -/
theorem complete_training_eq {flags : GenerateFlags} {verifyFlags : VerifyFlags}
    (htraining : verifyFlags.training = flags.training) (settings : GenerateSettings) :
    verifyFlags.complete settings = (flags.complete settings).corpusPath := by
  rw [VerifyFlags.complete, htraining]
  rfl

/-- What `generate` leaves behind, `verify` accepts. -/
theorem verify_accepts_generated (settings : HarnessSettings) (flags : GenerateFlags)
    (verifyFlags : VerifyFlags) (htraining : verifyFlags.training = flags.training) :
    verifyFlags.complete settings.generate = (flags.complete settings.generate).corpusPath ∧
      ∀ (computer computer' : Computer) (out : String),
        (runCommand host settings (.generate flags)).run computer = (.ok out, computer') →
          out = "" ∧
          (runCommand host settings (.verify verifyFlags)).run computer' =
            (.ok ("ok: seed=" ++
                toString ((flags.seed <|> settings.generate.seed).getD 1337).toInt ++ " count=" ++
                toString ((flags.count <|> settings.generate.count).getD 500).toNat ++ "\n"),
              computer') := by
  have hpath := complete_training_eq htraining settings.generate
  refine ⟨hpath, fun computer computer' out h => ?_⟩
  obtain ⟨hout, report, hcarry⟩ := carryOut_of_generateCommand h
  obtain ⟨samples, start, -, hindex, -, hwritten⟩ := written_of_carryOut hcarry
  -- The corpus is written last, so it is there whatever else its path may lead to.
  have hread := hwritten.readText_eq (lastWrite_corpus computer'.store)
  rw [← hpath] at hread
  have hverify := run_verifyCommand_of_readText hread
  rw [checkCorpus_writeCorpus (length_eq_of_map_index hindex)] at hverify
  exact ⟨hout, hverify⟩

/-- One sample of the built-in seed, in a directory without files. -/
theorem verify_accepts_generated_single :
    let settings : HarnessSettings := ⟨⟨none, none, some "", none, none⟩, .unset⟩
    let flags : GenerateFlags := ⟨some 1, none, none, some "corpus.txt", none⟩
    ∃ computer',
      (runCommand host settings (.generate flags)).run ⟨.empty, [], "", ""⟩ =
          (.ok "", computer') ∧
        (runCommand host settings (.verify ⟨some "corpus.txt"⟩)).run computer' =
          (.ok "ok: seed=1337 count=1\n", computer') := by
  intro settings flags
  have hname : IsName "corpus.txt" := by decide
  have hfiles : (⟨.empty, [], "", ""⟩ : Computer).store.FilesOnly := Store.filesOnly_empty
  obtain ⟨samples, computer', -, -, hcarry, -⟩ :=
    exists_carryOut (check_single "corpus.txt") rfl ⟨"corpus.txt", hname⟩ rfl hfiles
  have hgenerate : (runCommand host settings (.generate flags)).run ⟨.empty, [], "", ""⟩ =
      (.ok "", computer') := by
    have hrequest : flags.complete settings.generate = single "corpus.txt" := rfl
    rw [runCommand, hrequest, run_generateCommand, hcarry]
  have hline : "ok: seed=" ++ toString (1337 : Int64).toInt ++ " count=" ++
      toString (1 : UInt32).toNat ++ "\n" = "ok: seed=1337 count=1\n" := by decide
  have hverify :=
    ((verify_accepts_generated settings flags ⟨some "corpus.txt"⟩ rfl).2 _ _ _ hgenerate).2
  exact ⟨computer', hgenerate, hline ▸ hverify⟩

end SampleForge.Program
