import SampleForge.CommandLine.Invocation
import SampleForge.Proofs.Generation.Samples
import SampleForge.Proofs.Text.Numerals

/-!
# Limits that agree

The number of samples, the depth bound and the number of runs are limited in three places: by the flags
of the command line, by the check of a settings file, and where the values are used.  The three accept
the same numbers, `SameLimits`.  Each place has a largest count of its own; that these are one number is
`flagCountLimit_eq` and `settingCountLimit_eq`.

So whatever mixture of flags, settings and built-in values a command is completed with, the checks where
the values are used have nothing left to find.  The flags of an invocation are within the limits because
taking over one flag keeps them so, `FlagValues.WithinLimits.take`, and going through the words does
nothing else to them.
-/

namespace SampleForge.CommandLine

variable {α β ε : Type}

theorem exists_of_bind_ok {e : Except ε α} {f : α → Except ε β} {b : β}
    (h : (e >>= f) = .ok b) : ∃ a, e = .ok a ∧ f a = .ok b := by
  cases e with
  | error error => cases h
  | ok a => exact ⟨a, rfl, h⟩

/-! ## Reading a number within limits -/

section Range

variable {least most v n : UInt32} {text : String}

/-- A numeral is accepted exactly if its number is within the limits. -/
theorem readRange_of_numeral (htext : Text.readSigned? text.toList = some (v.toNat : Int)) :
    readRange least most text =
      if least ≤ v ∧ v ≤ most then .ok v else .error .valueOutOfRange := by
  have hbounds : ((least.toNat : Int) ≤ (v.toNat : Int) ∧ (v.toNat : Int) ≤ most.toNat) ↔
      least ≤ v ∧ v ≤ most := by
    rw [Int.ofNat_le, Int.ofNat_le, UInt32.le_iff_toNat_le, UInt32.le_iff_toNat_le]
  simp only [readRange, htext, hbounds, Int.toNat_natCast, UInt32.ofNat_toNat]

theorem bounds_of_readRange (h : readRange least most text = .ok n) : least ≤ n ∧ n ≤ most := by
  cases htext : Text.readSigned? text.toList with
  | none => simp [readRange, htext] at h
  | some i =>
      simp only [readRange, htext] at h
      by_cases hrange : (least.toNat : Int) ≤ i ∧ i ≤ most.toNat
      · rw [if_pos hrange] at h
        obtain rfl := Except.ok.inj h
        have hmost := most.toNat_lt
        have hsmall : i.toNat < UInt32.size := by
          have hsize : UInt32.size = 2 ^ 32 := rfl
          omega
        rw [UInt32.le_iff_toNat_le, UInt32.le_iff_toNat_le, UInt32.toNat_ofNat_of_lt' hsmall]
        omega
      · rw [if_neg hrange] at h
        cases h

theorem one_le_iff_ne_zero : 1 ≤ n ↔ n ≠ 0 := by
  rw [← UInt32.not_lt, UInt32.lt_one_iff]

end Range

/-- The largest count of a flag is the one of a request. -/
theorem flagCountLimit_eq : flagCountLimit = maxCount := rfl

/-- The largest count of a settings file is the one of a request. -/
theorem settingCountLimit_eq : settingCountLimit = maxCount := rfl

end CommandLine

open CommandLine

/-! ## The checks of settings, requests and benchmarks -/

section Checks

variable {ε α β : Type} {error : ε}

theorem throw_bind (error : ε) (next : α → Except ε β) :
    ((throw error : Except ε α) >>= next) = throw error := rfl

theorem throw_else_eq_ok_iff {c : Prop} [Decidable c] {rest : Except ε Unit} :
    (if c then throw error else rest) = .ok () ↔ ¬ c ∧ rest = .ok () := by
  by_cases h : c
  · rw [if_pos h]
    exact ⟨nofun, fun hboth => absurd h hboth.1⟩
  · rw [if_neg h]
    exact ⟨fun hrest => ⟨h, hrest⟩, fun hboth => hboth.2⟩

theorem HarnessSettings.check_eq_ok_iff {settings : HarnessSettings} :
    settings.check = .ok () ↔
      (∀ count, settings.generate.count = some count → count ≠ 0 ∧ count ≤ settingCountLimit) ∧
      (∀ depth, settings.generate.maxDepth = some depth → depth ≤ depthLimit) ∧
      settings.bench.runs ≠ some 0 := by
  obtain ⟨⟨count, seed, out, training, depth⟩, ⟨tool, runs, dirs⟩⟩ := settings
  have hpure : (pure () : Except LimitError Unit) = .ok () := rfl
  -- A key that is not given is not checked.
  cases count <;> cases depth <;>
    simp only [check, throw_bind, throw_else_eq_ok_iff, hpure, not_or, UInt32.not_lt, reduceCtorEq,
      Option.some.injEq, forall_eq', false_imp_iff, implies_true, true_and, and_true, ne_eq]

theorem HarnessSettings.check_unset : HarnessSettings.unset.check = .ok () := by decide

theorem Growth.check_default : Growth.default.check = .ok () := by decide +kernel

theorem Growth.check_ofDepth_eq_ok_iff {depth : UInt32} :
    (Growth.ofDepth depth).check = .ok () ↔ depth ≤ depthLimit := by
  have hdefault := Growth.check_default
  have hmaxDepth : (Growth.ofDepth depth).maxDepth = depth := rfl
  by_cases hdepth : depthLimit < depth
  · rw [check, hmaxDepth, if_pos hdepth]
    exact ⟨nofun, fun hle => absurd hdepth (UInt32.not_lt.2 hle)⟩
  · rw [check, hmaxDepth, if_neg hdepth]
    rw [check, if_neg (by decide)] at hdefault
    exact ⟨fun _ => UInt32.not_lt.1 hdepth, fun _ => hdefault⟩

theorem SampleRequest.check_ofDepth_eq_ok_iff {request : SampleRequest} {depth : UInt32}
    (hgrowth : request.growth = .ofDepth depth) :
    request.check = .ok () ↔ (request.count ≠ 0 ∧ request.count ≤ maxCount) ∧ depth ≤ depthLimit := by
  rw [check_eq_ok_iff, hgrowth, Growth.check_ofDepth_eq_ok_iff]

theorem Benchmark.check_eq_ok_iff {σ : Type} {exists? : String → StateM σ Bool}
    {benchmark : Benchmark} {state : σ}
    (htool : ((exists? benchmark.tool).run state).1 = true) :
    ((benchmark.check exists?).run state).1 = .ok () ↔ benchmark.runs ≠ 0 := by
  by_cases hruns : benchmark.runs = 0
  · rw [check, if_pos hruns]
    exact ⟨nofun, fun hne => absurd hruns hne⟩
  · rw [check, if_neg hruns, StateT.run_bind]
    cases hexists : (exists? benchmark.tool).run state with
    | mk found next =>
        obtain rfl : found = true := by rw [← htool, hexists]
        exact ⟨fun _ => hruns, fun _ => rfl⟩

end Checks

namespace CommandLine

/-! ## The flags of a command line -/

namespace FlagValues

/-- The numbers that are given are within their limits. -/
structure WithinLimits (given : FlagValues) : Prop where
  count : ∀ count, given.count = some count → count ≠ 0 ∧ count ≤ flagCountLimit
  maxDepth : ∀ depth, given.maxDepth = some depth → depth ≤ depthLimit
  runs : ∀ runs, given.runs = some runs → runs ≠ 0

variable {given given' : FlagValues} {flag : Flag} {values : List String}

theorem withinLimits_none : none.WithinLimits := ⟨nofun, nofun, nofun⟩

/-- Values without the numbers have the same limits. -/
theorem WithinLimits.congr (h : given.WithinLimits) (hcount : given'.count = given.count)
    (hdepth : given'.maxDepth = given.maxDepth) (hruns : given'.runs = given.runs) :
    given'.WithinLimits where
  count := hcount ▸ h.count
  maxDepth := hdepth ▸ h.maxDepth
  runs := hruns ▸ h.runs

/-- The values of a flag are taken over only if its number is within its limits. -/
theorem WithinLimits.take (h : given.WithinLimits) (htake : given.take flag values = .ok given') :
    given'.WithinLimits := by
  cases flag with
  | count =>
      obtain ⟨text, -, htake⟩ := exists_of_bind_ok htake
      obtain ⟨count, hcount, htake⟩ := exists_of_bind_ok htake
      obtain rfl := Except.ok.inj htake
      obtain ⟨hleast, hmost⟩ := bounds_of_readRange hcount
      refine ⟨fun count' hcount' => ?_, h.maxDepth, h.runs⟩
      obtain rfl := Option.some.inj hcount'
      exact ⟨one_le_iff_ne_zero.1 hleast, hmost⟩
  | maxDepth =>
      obtain ⟨text, -, htake⟩ := exists_of_bind_ok htake
      obtain ⟨depth, hdepth, htake⟩ := exists_of_bind_ok htake
      obtain rfl := Except.ok.inj htake
      refine ⟨h.count, fun depth' hdepth' => ?_, h.runs⟩
      obtain rfl := Option.some.inj hdepth'
      exact (bounds_of_readRange hdepth).2
  | runs =>
      obtain ⟨text, -, htake⟩ := exists_of_bind_ok htake
      obtain ⟨runs, hruns, htake⟩ := exists_of_bind_ok htake
      obtain rfl := Except.ok.inj htake
      refine ⟨h.count, h.maxDepth, fun runs' hruns' => ?_⟩
      obtain rfl := Option.some.inj hruns'
      exact one_le_iff_ne_zero.1 (bounds_of_readRange hruns).1
  | help => cases htake
  | version => cases htake
  | debug =>
      obtain rfl := Except.ok.inj htake
      exact h.congr rfl rfl rfl
  | dirs =>
      obtain ⟨more, -, htake⟩ := exists_of_bind_ok htake
      obtain rfl := Except.ok.inj htake
      exact h.congr rfl rfl rfl
  | config | seed | out | training | tool | format =>
      obtain ⟨text, -, htake⟩ := exists_of_bind_ok htake
      obtain ⟨value, -, htake⟩ := exists_of_bind_ok htake
      obtain rfl := Except.ok.inj htake
      exact h.congr rfl rfl rfl

end FlagValues

namespace Scanner

variable {s s' : Scanner} {f : Flag} {values : List String} {scope : Scope}

/-- The settled flags are within their limits; an open one is not looked at. -/
def WithinLimits (s : Scanner) : Prop := s.given.WithinLimits

theorem WithinLimits.accept (h : s.WithinLimits) (haccept : s.accept f values = .ok s') :
    s'.WithinLimits := by
  rw [Scanner.accept] at haccept
  split at haccept
  · cases haccept
  · split at haccept
    · cases haccept
    · obtain ⟨given, hgiven, haccept⟩ := exists_of_bind_ok haccept
      obtain rfl := Except.ok.inj haccept
      exact FlagValues.WithinLimits.take h hgiven

theorem WithinLimits.settle (h : s.WithinLimits) (hsettle : s.settle = .ok s') :
    s'.WithinLimits := by
  rw [Scanner.settle] at hsettle
  split at hsettle
  · obtain rfl := Except.ok.inj hsettle
    exact h
  · have hcleared : ({ s with pending := none, awaiting := false } : Scanner).WithinLimits := h
    exact hcleared.accept hsettle

theorem WithinLimits.push (h : s.WithinLimits) (value : String) : (s.push value).WithinLimits := by
  rw [Scanner.push]
  split <;> exact h

theorem WithinLimits.flag {attached : Option String} (h : s.WithinLimits)
    (hflag : s.flag f attached = .ok s') : s'.WithinLimits := by
  unfold Scanner.flag at hflag
  split at hflag
  · cases hflag
  · obtain ⟨settled, hsettled, hflag⟩ := exists_of_bind_ok hflag
    exact (h.settle hsettled).accept hflag
  · obtain ⟨settled, hsettled, hflag⟩ := exists_of_bind_ok hflag
    exact (h.settle hsettled).accept hflag
  · obtain ⟨settled, hsettled, hflag⟩ := exists_of_bind_ok hflag
    obtain rfl := Except.ok.inj hflag
    have hlimits : settled.WithinLimits := h.settle hsettled
    exact hlimits

theorem WithinLimits.word {text : String} (h : s.WithinLimits)
    (hword : s.word scope text = .ok s') : s'.WithinLimits := by
  rw [Scanner.word] at hword
  split at hword
  · -- A long flag.
    split at hword
    · exact h.flag hword
    · cases hword
  · -- A dash and letters.
    split at hword
    · obtain rfl := Except.ok.inj hword
      exact h.push text
    · split at hword
      · exact h.flag hword
      · cases hword
  · -- Any other word is a value or an error.
    split at hword
    · obtain rfl := Except.ok.inj hword
      exact h.push text
    · cases hword

theorem withinLimits_start : start.WithinLimits := FlagValues.withinLimits_none

/-- Going through words keeps what is given within its limits. -/
theorem WithinLimits.scan {words : List String} {command : Option (Subcommand × List String)}
    (h : s.WithinLimits) (hscan : scan scope s words = .ok (s', command)) : s'.WithinLimits := by
  induction words generalizing s with
  | nil =>
      obtain ⟨rfl, -⟩ := Prod.mk.inj (Except.ok.inj hscan)
      exact h
  | cons text rest ih =>
      rw [CommandLine.scan] at hscan
      split at hscan
      · obtain ⟨rfl, -⟩ := Prod.mk.inj (Except.ok.inj hscan)
        exact h
      · split at hscan
        · obtain ⟨-, -, hscan⟩ := exists_of_bind_ok hscan
          obtain ⟨rfl, -⟩ := Prod.mk.inj (Except.ok.inj hscan)
          exact h
        · obtain ⟨next, hnext, hscan⟩ := exists_of_bind_ok hscan
          exact ih (h.word hnext) hscan

end Scanner

/-! ## Invocations -/

/-- With the settings the command is completed to something that passes its check. -/
def Command.Passes (settings : HarnessSettings) : Command → Prop
  | .generate flags => (flags.complete settings.generate).check = .ok ()
  | .bench flags => 1 ≤ (flags.complete settings.bench).runs
  | .verify _ => True

variable {settings : HarnessSettings} {invocation : Invocation} {words : List String}

/-- The command of an invocation is made of flags within their limits. -/
theorem exists_withinLimits_of_read (h : Invocation.read words = .ok invocation) :
    ∃ scope given, FlagValues.WithinLimits given ∧
      Command.of? scope given = some invocation.command := by
  unfold Invocation.read at h
  obtain ⟨⟨top, command⟩, -, h⟩ := exists_of_bind_ok h
  match command with
  | none =>
      obtain ⟨top, -, h⟩ := exists_of_bind_ok h
      cases h
  | some (.help, rest) => cases h
  | some (.run scope, rest) =>
      obtain ⟨⟨inner, left⟩, hinner, h⟩ := exists_of_bind_ok h
      obtain ⟨settled, hsettled, h⟩ := exists_of_bind_ok h
      obtain ⟨top, -, h⟩ := exists_of_bind_ok h
      have hlimits := (Scanner.withinLimits_start.scan hinner).settle hsettled
      cases hcommand : Command.of? scope settled.given with
      | none =>
          simp only [hcommand] at h
          cases h
      | some command =>
          simp only [hcommand] at h
          obtain rfl := Except.ok.inj h
          exact ⟨scope, settled.given, hlimits, hcommand⟩

/-- What holds of a flag, of a setting and of the built-in value holds of the value chosen. -/
theorem getD_orElse {γ : Type} {p : γ → Prop} {given setting : Option γ} {builtIn : γ}
    (hgiven : ∀ value, given = some value → p value)
    (hsetting : ∀ value, setting = some value → p value) (hbuiltIn : p builtIn) :
    p ((given <|> setting).getD builtIn) := by
  cases given with
  | some value => exact hgiven value rfl
  | none =>
      cases setting with
      | some value => exact hsetting value rfl
      | none => exact hbuiltIn

theorem Command.passes_of_withinLimits {scope : Scope} {given : FlagValues} {command : Command}
    (hgiven : given.WithinLimits) (hcommand : Command.of? scope given = some command)
    (hsettings : settings.check = .ok ()) : command.Passes settings := by
  obtain ⟨hcount, hdepth, hruns⟩ := HarnessSettings.check_eq_ok_iff.1 hsettings
  have hflag := hgiven.count
  rw [flagCountLimit_eq] at hflag
  rw [settingCountLimit_eq] at hcount
  cases scope with
  | top => cases hcommand
  | generate =>
      obtain rfl := Option.some.inj hcommand
      exact (SampleRequest.check_ofDepth_eq_ok_iff rfl).2
        ⟨getD_orElse hflag hcount (by decide), getD_orElse hgiven.maxDepth hdepth (by decide)⟩
  | bench =>
      obtain rfl := Option.some.inj hcommand
      refine one_le_iff_ne_zero.2 (getD_orElse hgiven.runs ?_ (by decide))
      rintro runs h rfl
      exact hruns h
  | verify =>
      obtain rfl := Option.some.inj hcommand
      trivial

/-- Settings with a count and nothing else. -/
def settingsOfCount (v : UInt32) : HarnessSettings :=
  { HarnessSettings.unset with generate := { GenerateSettings.unset with count := some v } }

/-- Settings with a depth bound and nothing else. -/
def settingsOfDepth (v : UInt32) : HarnessSettings :=
  { HarnessSettings.unset with generate := { GenerateSettings.unset with maxDepth := some v } }

/-- Settings with a number of runs and nothing else. -/
def settingsOfRuns (v : UInt32) : HarnessSettings :=
  { HarnessSettings.unset with bench := { BenchSettings.unset with runs := some v } }

/-- A number, given as a text to a flag, is accepted by the flag, by the check of settings, and by the
check where it is used, or by none of the three. -/
structure SameLimits (v : UInt32) (text : String) : Prop where
  count_flag : ∀ given : FlagValues, (∃ given', given.take .count [text] = .ok given') ↔
    (settingsOfCount v).check = .ok ()
  count_request : (settingsOfCount v).check = .ok () ↔
    ({ SampleRequest.default with count := v }).check = .ok ()
  depth_flag : ∀ given : FlagValues, (∃ given', given.take .maxDepth [text] = .ok given') ↔
    (settingsOfDepth v).check = .ok ()
  depth_growth : (settingsOfDepth v).check = .ok () ↔
    ({ Growth.default with maxDepth := v }).check = .ok ()
  runs_flag : ∀ given : FlagValues, (∃ given', given.take .runs [text] = .ok given') ↔
    (settingsOfRuns v).check = .ok ()
  runs_benchmark : ∀ {σ : Type} (exists? : String → StateM σ Bool) (benchmark : Benchmark)
    (state : σ), ((exists? benchmark.tool).run state).1 = true →
      ((settingsOfRuns v).check = .ok () ↔
        ((({ benchmark with runs := v }).check exists?).run state).1 = .ok ())

section SameLimits

variable {v : UInt32} {text : String}

/-- A flag with a number accepts what is within its range. -/
theorem exists_take_number {least most : UInt32} (set : UInt32 → FlagValues)
    (htext : Text.readSigned? text.toList = some (v.toNat : Int)) :
    (∃ given', (do pure (set (← readRange least most (← single [text])))
      : Except UsageError FlagValues) = .ok given') ↔ least ≤ v ∧ v ≤ most := by
  have hread : readRange least most text =
      if least ≤ v ∧ v ≤ most then .ok v else .error .valueOutOfRange := readRange_of_numeral htext
  have hsingle : single [text] = .ok text := rfl
  by_cases hrange : least ≤ v ∧ v ≤ most
  · rw [if_pos hrange] at hread
    rw [hsingle]
    refine ⟨fun _ => hrange, fun _ => ⟨set v, ?_⟩⟩
    change (readRange least most text >>= fun n => pure (set n)) = .ok (set v)
    rw [hread]
    rfl
  · rw [if_neg hrange] at hread
    refine ⟨?_, fun h => absurd h hrange⟩
    rintro ⟨given', htake⟩
    obtain ⟨text', htext', htake⟩ := exists_of_bind_ok htake
    obtain rfl := Except.ok.inj (hsingle.symm.trans htext')
    obtain ⟨n, hn, -⟩ := exists_of_bind_ok htake
    rw [hread] at hn
    cases hn

theorem check_settingsOfCount_eq_ok_iff :
    (settingsOfCount v).check = .ok () ↔ v ≠ 0 ∧ v ≤ maxCount := by
  rw [HarnessSettings.check_eq_ok_iff, settingCountLimit_eq]
  simp [settingsOfCount, HarnessSettings.unset, GenerateSettings.unset, BenchSettings.unset]

theorem check_settingsOfDepth_eq_ok_iff :
    (settingsOfDepth v).check = .ok () ↔ v ≤ depthLimit := by
  rw [HarnessSettings.check_eq_ok_iff]
  simp [settingsOfDepth, HarnessSettings.unset, GenerateSettings.unset, BenchSettings.unset]

theorem check_settingsOfRuns_eq_ok_iff : (settingsOfRuns v).check = .ok () ↔ v ≠ 0 := by
  rw [HarnessSettings.check_eq_ok_iff]
  simp [settingsOfRuns, HarnessSettings.unset, GenerateSettings.unset, BenchSettings.unset]

theorem sameLimits_of_numeral (htext : Text.readSigned? text.toList = some (v.toNat : Int)) :
    SameLimits v text where
  count_flag given := by
    rw [check_settingsOfCount_eq_ok_iff, ← one_le_iff_ne_zero, ← flagCountLimit_eq]
    exact exists_take_number (fun n => { given with count := some n }) htext
  count_request := by
    rw [check_settingsOfCount_eq_ok_iff, SampleRequest.check_eq_ok_iff]
    exact ⟨fun h => ⟨h, Growth.check_default⟩, fun h => h.1⟩
  depth_flag given := by
    rw [check_settingsOfDepth_eq_ok_iff]
    exact (exists_take_number (fun n => { given with maxDepth := some n }) htext).trans
      (and_iff_right UInt32.zero_le)
  depth_growth := by
    rw [check_settingsOfDepth_eq_ok_iff]
    exact Growth.check_ofDepth_eq_ok_iff.symm
  runs_flag given := by
    rw [check_settingsOfRuns_eq_ok_iff, ← one_le_iff_ne_zero]
    have hmost : v ≤ 4294967295 := by
      rw [UInt32.le_iff_toNat_le]
      exact Nat.le_of_lt_succ v.toNat_lt
    exact (exists_take_number (fun n => { given with runs := some n }) htext).trans
      (and_iff_left hmost)
  runs_benchmark exists? benchmark state htool := by
    rw [check_settingsOfRuns_eq_ok_iff]
    exact (@Benchmark.check_eq_ok_iff _ exists? { benchmark with runs := v } state htool).symm

end SameLimits

/-- The three places have the same limits, for every number and every numeral of it, and so every
command that is read and completed passes the checks where its values are used, with settings that pass
theirs or with none. -/
theorem limits_agree :
    (∀ (v : UInt32) (text : String), Text.SignedNumeral text.toList v.toNat → SameLimits v text) ∧
    ∀ (words : List String) (invocation : Invocation) (settings : HarnessSettings),
      Invocation.read words = .ok invocation →
      settings = .unset ∨ settings.check = .ok () → invocation.command.Passes settings := by
  refine ⟨fun v text htext => sameLimits_of_numeral (Text.readSigned?_eq_some_iff.2 htext), ?_⟩
  intro words invocation settings hread hsettings
  obtain ⟨scope, given, hgiven, hcommand⟩ := exists_withinLimits_of_read hread
  refine Command.passes_of_withinLimits hgiven hcommand ?_
  rcases hsettings with rfl | hchecked
  · exact HarnessSettings.check_unset
  · exact hchecked

/-- The largest count is accepted in all three places, and a command line with it comes to a request that
passes its check. -/
theorem limits_agree_largest :
    SameLimits 9999 "9999" ∧ (settingsOfCount 9999).check = .ok () ∧
      ∃ invocation, Invocation.read ["generate", "--count", "9999"] = .ok invocation ∧
        invocation.command.Passes (settingsOfDepth 32) := by
  have hread : Invocation.read ["generate", "--count", "9999"] =
      .ok ⟨false, none, .generate ⟨some 9999, none, none, none, none⟩⟩ := by rfl
  have hnumeral : Text.SignedNumeral "9999".toList (9999 : UInt32).toNat :=
    Text.readSigned?_eq_some_iff.1 (by decide)
  refine ⟨limits_agree.1 9999 "9999" hnumeral, by decide, _, hread, ?_⟩
  exact limits_agree.2 _ _ (settingsOfDepth 32) hread (.inr (by decide))

end CommandLine
end SampleForge
