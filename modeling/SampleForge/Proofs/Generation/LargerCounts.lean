import SampleForge.Proofs.Generation.Attempts
import SampleForge.Proofs.Generation.FilesLeft

/-!
# Asking for more samples

A run of samples and a run that starts where it ended, with the next number, make one run,
`GrownSamples.append`.  So the samples of a seed for a smaller count are the first ones for a larger
count, and the others are grown from the state that the smaller count leaves behind:
`samples_of_larger_count`.

Corpus and files follow.  The texts of the smaller corpus are the first ones of the larger, and what the
two requests write for their samples begins alike.  The name of a sample file tells the number of its
sample, so no file that both requests write gets different texts from them.
-/

namespace SampleForge

open SampleForge.Random

variable {σ : Type} {source : Source σ} {growth : Growth}

/-- A run goes on from the state and the number at which another one ended. -/
theorem GrownSamples.append {index : Nat} {s next s' : σ} {earlier later : List Sample}
    (h : GrownSamples source growth index s earlier next)
    (h' : GrownSamples source growth (index + earlier.length) next later s') :
    GrownSamples source growth index s (earlier ++ later) s' := by
  induction h with
  | nil => exact h'
  | @cons index s between next expr earlier grown rest ih =>
      refine .cons grown (ih ?_)
      rw [List.length_cons] at h'
      rwa [Nat.add_assoc, Nat.add_comm 1]

/-- In a list of samples with different numbers the name of a file tells the sample. -/
theorem eq_of_fileName_eq {samples : List Sample} {index count : Nat}
    (hindex : samples.map Sample.index = List.range' index count) {sample sample' : Sample}
    (hsample : sample ∈ samples) (hsample' : sample' ∈ samples)
    (hname : sample.fileName = sample'.fileName) : sample = sample' := by
  have hdistinct : (samples.map Sample.index).Nodup := hindex ▸ List.nodup_range'
  exact List.inj_on_of_nodup_map hdistinct hsample hsample' (Sample.numberedName_injective hname)

namespace SampleRequest

/-- The request with another count. -/
def withCount (request : SampleRequest) (count : UInt32) : SampleRequest :=
  { request with count := count }

/-- What is written for the samples of a list comes before what is written for further ones. -/
theorem sampleWrites_append (request : SampleRequest) (count count' : UInt32)
    (earlier later : List Sample) :
    (request.withCount count').sampleWrites (earlier ++ later) =
      (request.withCount count).sampleWrites earlier ++
        (request.withCount count').sampleWrites later :=
  List.map_append

end SampleRequest

/-- What the samples of a larger count `n` have to do with those of a smaller count `m`. -/
structure CountExtended (request : SampleRequest) (m n : UInt32) (earlier later : List Sample) :
    Prop where
  smaller : grownSamples? m request.seed request.growth = some earlier
  larger : grownSamples? n request.seed request.growth = some (earlier ++ later)
  taken : (earlier ++ later).take m.toNat = earlier
  numbers : (earlier ++ later).map Sample.index = List.range' 1 n.toNat
  /-- The further samples are grown from the state after the earlier ones, and both counts together come
  to the state of the larger one. -/
  continued : ∃ next last,
    growFrom? chachaSource request.growth m.toNat 1 [] (seeded request.seed.toUInt64) =
      some (earlier, next) ∧
    growFrom? chachaSource request.growth (n.toNat - m.toNat) (m.toNat + 1) [] next =
      some (later, last) ∧
    growFrom? chachaSource request.growth n.toNat 1 [] (seeded request.seed.toUInt64) =
      some (earlier ++ later, last)
  corpora : ∃ corpus corpus',
    readCorpus (writeCorpus request.seed m earlier) = .ok corpus ∧
    readCorpus (writeCorpus request.seed n (earlier ++ later)) = .ok corpus' ∧
    corpus.programs.length = m.toNat ∧ corpus'.programs.length = n.toNat ∧
    corpus.programs <+: corpus'.programs
  /-- Every sample of the smaller count is written under the same path for the larger one. -/
  writes : (request.withCount m).sampleWrites earlier <+:
    (request.withCount n).sampleWrites (earlier ++ later)
  /-- Files with one name have one text. -/
  texts : ∀ sample ∈ earlier, ∀ sample' ∈ earlier ++ later,
    sample.fileName = sample'.fileName → sample.program = sample'.program

section Extended

variable {request : SampleRequest} {m n : UInt32} {earlier later : List Sample}

/-- Two runs, one after the other, and what becomes of their samples. -/
theorem CountExtended.of_grown {next last : ChaCha.KeyStream} (hbound : 0 < request.growth.literalBound)
    (hle : m ≤ n) (hearlier : earlier.length = m.toNat) (hlater : later.length = n.toNat - m.toNat)
    (h : GrownSamples chachaSource request.growth 1 (seeded request.seed.toUInt64) earlier next)
    (h' : GrownSamples chachaSource request.growth (m.toNat + 1) next later last) :
    CountExtended request m n earlier later := by
  have hcount : m.toNat ≤ n.toNat := UInt32.le_iff_toNat_le.1 hle
  have hlength : (earlier ++ later).length = n.toNat := by
    rw [List.length_append, hearlier, hlater]
    omega
  have hwhole : GrownSamples chachaSource request.growth 1 (seeded request.seed.toUInt64)
      (earlier ++ later) last := by
    refine h.append ?_
    rwa [hearlier, Nat.add_comm]
  have hnumbers : (earlier ++ later).map Sample.index = List.range' 1 n.toNat := by
    rw [hwhole.map_index, hlength]
  refine
    { smaller := h.grownSamples?_eq hbound hearlier
      larger := hwhole.grownSamples?_eq hbound hlength
      taken := ?taken
      numbers := hnumbers
      continued := ?continued
      corpora := ?corpora
      writes := ?writes
      texts := ?texts }
  case taken => rw [← hearlier, List.take_left]
  case continued =>
    refine ⟨next, last, ?_, ?_, ?_⟩
    · rw [← hearlier, h.growFrom?_eq hbound]
      rfl
    · rw [← hlater, h'.growFrom?_eq hbound]
      rfl
    · rw [← hlength, hwhole.growFrom?_eq hbound]
      rfl
  case corpora =>
    refine ⟨_, _, @SampleRequest.readCorpus_corpusContent (request.withCount m) _,
      @SampleRequest.readCorpus_corpusContent (request.withCount n) _, ?_, ?_, ?_⟩
    · rw [List.length_map, hearlier]
    · rw [List.length_map, hlength]
    · rw [List.map_append]
      exact List.prefix_append _ _
  case writes =>
    rw [SampleRequest.sampleWrites_append request m n]
    exact List.prefix_append _ _
  case texts =>
    intro sample hsample sample' hsample' hname
    rw [eq_of_fileName_eq hnumbers (List.mem_append_left later hsample) hsample' hname]

end Extended

/-- A larger count leaves the samples of a smaller one as they are.  The further samples are grown from
the state that was left behind, and the numbers go on without a gap.  The corpus of the smaller count has
the first programs of the larger corpus.  The files of the smaller count are written with the same names
and texts for the larger one. -/
theorem samples_of_larger_count (request : SampleRequest) {m n : UInt32}
    (hbound : 0 < request.growth.literalBound) (hle : m ≤ n) :
    ∃ earlier later, earlier.length = m.toNat ∧ CountExtended request m n earlier later := by
  obtain ⟨earlier, next, hearlier, hgrown⟩ := exists_grownSamples chachaSource request.growth
    m.toNat 1 (seeded request.seed.toUInt64)
  obtain ⟨later, last, hlater, hrest⟩ := exists_grownSamples chachaSource request.growth
    (n.toNat - m.toNat) (m.toNat + 1) next
  exact ⟨earlier, later, hearlier, .of_grown hbound hle hearlier hlater hgrown hrest⟩

/-- The second sample of the built-in request comes after the only one of the request for one. -/
theorem samples_of_larger_count_two :
    0 < SampleRequest.default.growth.literalBound ∧ (1 : UInt32) ≤ 2 ∧ ∃ first,
      grownSamples? 1 1337 Growth.default = some [first] ∧
      grownSamples? 2 1337 Growth.default = some [first, ⟨2, .literal 585⟩] ∧
      CountExtended .default 1 2 [first] [⟨2, .literal 585⟩] := by
  have hbound : 0 < SampleRequest.default.growth.literalBound := by decide
  have hle : (1 : UInt32) ≤ 2 := by decide
  have hsecond : (grownSamples? 2 1337 Growth.default).map (List.drop 1) =
      some [⟨2, .literal 585⟩] := by decide +kernel
  obtain ⟨earlier, later, hlength, h⟩ := samples_of_larger_count .default hbound hle
  obtain ⟨first, rfl⟩ : ∃ first, earlier = [first] := List.length_eq_one_iff.1 hlength
  have hlarger : grownSamples? 2 1337 Growth.default = some ([first] ++ later) := h.larger
  rw [hlarger] at hsecond
  obtain rfl : later = [⟨2, .literal 585⟩] := Option.some.inj hsecond
  exact ⟨hbound, hle, first, h.smaller, hlarger, h⟩

end SampleForge
