import SampleForge.Proofs.CommandLine.Limits

/-!
# Arguments

An `Argument` is a flag with a value it can have.  `Argument.Valued` says which words may stand behind
the flag for a value within its limits; such words are taken over, `FlagValues.take_of_valued`.

Taking over arguments of different flags one after another leaves a record that holds these arguments
and no others, `holds_valuesOf_iff`.  A record is given by what it holds, so the order of the arguments
leaves no trace in it.
-/

namespace SampleForge.CommandLine

/-- A flag with its value. -/
inductive Argument where
  | debug
  | config (path : String)
  | count (n : UInt32)
  | seed (i : Int64)
  | out (path : String)
  | training (path : String)
  | maxDepth (n : UInt32)
  | tool (path : String)
  | runs (n : UInt32)
  | dirs (paths : List String)
  | format (shown : ReportFormat)
deriving DecidableEq

/-- A path that is not mistaken for a flag. -/
structure IsPath (text : String) : Prop where
  nonempty : text ≠ ""
  unsigned : text.toList.head? ≠ some '-'

/-- The word for a format. -/
def ReportFormat.word : ReportFormat → String
  | .text => "text"
  | .json => "json"

namespace Argument

def flag : Argument → Flag
  | debug => .debug
  | config _ => .config
  | count _ => .count
  | seed _ => .seed
  | out _ => .out
  | training _ => .training
  | maxDepth _ => .maxDepth
  | tool _ => .tool
  | runs _ => .runs
  | dirs _ => .dirs
  | format _ => .format

/-- The words that stand behind a flag for a value within its limits.  Only a seed may be negative, and
directories may be any number of words. -/
inductive Valued : Argument → List String → Prop
  | debug : Valued .debug []
  | config {path : String} (path_ok : IsPath path) : Valued (.config path) [path]
  | count {n : UInt32} {text : String} (numeral : Text.UnsignedNumeral text.toList n.toNat)
      (least : 1 ≤ n) (most : n ≤ 9999) : Valued (.count n) [text]
  | seed {i : Int64} {text : String} (numeral : Text.SignedNumeral text.toList i.toInt) :
      Valued (.seed i) [text]
  | out {path : String} (path_ok : IsPath path) : Valued (.out path) [path]
  | training {path : String} (path_ok : IsPath path) : Valued (.training path) [path]
  | maxDepth {n : UInt32} {text : String} (numeral : Text.UnsignedNumeral text.toList n.toNat)
      (most : n ≤ 32) : Valued (.maxDepth n) [text]
  | tool {path : String} (path_ok : IsPath path) : Valued (.tool path) [path]
  | runs {n : UInt32} {text : String} (numeral : Text.UnsignedNumeral text.toList n.toNat)
      (least : 1 ≤ n) : Valued (.runs n) [text]
  | dirs {paths : List String} (paths_ok : ∀ path ∈ paths, IsPath path) : Valued (.dirs paths) paths
  | format (shown : ReportFormat) : Valued (.format shown) [shown.word]

/-- The argument is in the record. -/
def Holds (given : FlagValues) : Argument → Prop
  | debug => given.debug = true
  | config path => given.config = some path
  | count n => given.count = some n
  | seed i => given.seed = some i
  | out path => given.out = some path
  | training path => given.training = some path
  | maxDepth n => given.maxDepth = some n
  | tool path => given.tool = some path
  | runs n => given.runs = some n
  | dirs paths => given.dirs = some paths
  | format shown => given.format = some shown

end Argument

namespace FlagValues

/-- The record with a further argument. -/
def put (given : FlagValues) : Argument → FlagValues
  | .debug => { given with debug := true }
  | .config path => { given with config := some path }
  | .count n => { given with count := some n }
  | .seed i => { given with seed := some i }
  | .out path => { given with out := some path }
  | .training path => { given with training := some path }
  | .maxDepth n => { given with maxDepth := some n }
  | .tool path => { given with tool := some path }
  | .runs n => { given with runs := some n }
  | .dirs paths => { given with dirs := some (given.dirs.getD [] ++ paths) }
  | .format shown => { given with format := some shown }

end FlagValues

/-- The record of arguments taken over one after another. -/
def valuesOf (args : List Argument) : FlagValues := args.foldl FlagValues.put .none

variable {a b : Argument} {args args' : List Argument} {given given' : FlagValues}

/-! ## What is in the record -/

theorem Argument.not_holds_none : ¬ a.Holds .none := by
  cases a <;> exact nofun

/-- A further argument leaves alone what other flags gave. -/
theorem Argument.holds_put_of_ne (hflag : a.flag ≠ b.flag) :
    a.Holds (given.put b) ↔ a.Holds given := by
  cases b <;> cases a <;> first | exact Iff.rfl | exact absurd rfl hflag

/-- An argument of a flag that gave nothing so far is all that the flag gives. -/
theorem Argument.holds_put_of_eq (hflag : a.flag = b.flag)
    (hnew : ∀ c : Argument, c.flag = b.flag → ¬ c.Holds given) :
    a.Holds (given.put b) ↔ a = b := by
  cases b with
  | dirs paths =>
      -- Directories add up, and there are none to begin with.
      have hdirs : given.dirs = none :=
        Option.eq_none_iff_forall_ne_some.2 fun earlier => hnew (.dirs earlier) rfl
      cases a <;> cases hflag
      simp [Holds, FlagValues.put, hdirs, eq_comm]
  | _ =>
      cases a <;> cases hflag
      simp [Holds, FlagValues.put, eq_comm]

theorem Argument.holds_put (hnew : ∀ c : Argument, c.flag = b.flag → ¬ c.Holds given) :
    a.Holds (given.put b) ↔ a.Holds given ∨ a = b := by
  by_cases hflag : a.flag = b.flag
  · rw [holds_put_of_eq hflag hnew, or_iff_right (hnew a hflag)]
  · rw [holds_put_of_ne hflag, or_iff_left]
    rintro rfl
    exact hflag rfl

theorem valuesOf_concat (args : List Argument) (a : Argument) :
    valuesOf (args ++ [a]) = (valuesOf args).put a := List.foldl_append

/-- The record of arguments of different flags holds them and nothing else. -/
theorem holds_valuesOf_iff (hflags : (args.map Argument.flag).Nodup) :
    a.Holds (valuesOf args) ↔ a ∈ args := by
  induction args using List.reverseRecOn generalizing a with
  | nil => exact ⟨fun h => absurd h Argument.not_holds_none, nofun⟩
  | append_singleton args b ih =>
      rw [List.map_append, List.nodup_append] at hflags
      obtain ⟨hflags, -, hdisjoint⟩ := hflags
      have hnew (c : Argument) (hc : c.flag = b.flag) : ¬ c.Holds (valuesOf args) := by
        rw [ih hflags]
        exact fun hmem =>
          hdisjoint c.flag (List.mem_map_of_mem hmem) b.flag List.mem_cons_self hc
      rw [valuesOf_concat, Argument.holds_put hnew, ih hflags, List.mem_append, List.mem_singleton]

/-- A record is given by the arguments it holds. -/
theorem FlagValues.ext_of_holds (h : ∀ a : Argument, a.Holds given ↔ a.Holds given') :
    given = given' := by
  obtain ⟨debug, config, count, seed, out, training, maxDepth, tool, runs, dirs, format⟩ := given
  obtain ⟨debug', config', count', seed', out', training', maxDepth', tool', runs', dirs', format'⟩ :=
    given'
  obtain rfl : debug = debug' := Bool.eq_iff_iff.2 (h .debug)
  obtain rfl : config = config' := Option.ext fun path => h (.config path)
  obtain rfl : count = count' := Option.ext fun n => h (.count n)
  obtain rfl : seed = seed' := Option.ext fun i => h (.seed i)
  obtain rfl : out = out' := Option.ext fun path => h (.out path)
  obtain rfl : training = training' := Option.ext fun path => h (.training path)
  obtain rfl : maxDepth = maxDepth' := Option.ext fun n => h (.maxDepth n)
  obtain rfl : tool = tool' := Option.ext fun path => h (.tool path)
  obtain rfl : runs = runs' := Option.ext fun n => h (.runs n)
  obtain rfl : dirs = dirs' := Option.ext fun paths => h (.dirs paths)
  obtain rfl : format = format' := Option.ext fun format => h (.format format)
  rfl

/-! ## Taking over the words of an argument -/

theorem readPath_of_isPath {path : String} (h : IsPath path) : readPath path = .ok path := by
  rw [readPath, if_neg]
  rw [String.isEmpty_iff]
  exact h.nonempty

theorem mapM_readPath {paths : List String} (h : ∀ path ∈ paths, IsPath path) :
    paths.mapM readPath = .ok paths := by
  induction paths with
  | nil => rfl
  | cons path paths ih =>
      rw [List.mapM_cons, readPath_of_isPath (h path List.mem_cons_self),
        ih fun path hpath => h path (List.mem_cons_of_mem _ hpath)]
      rfl

theorem readRange_of_unsigned {least most n : UInt32} {text : String}
    (hnumeral : Text.UnsignedNumeral text.toList n.toNat) (hleast : least ≤ n) (hmost : n ≤ most) :
    readRange least most text = .ok n := by
  have htext := Text.readSigned?_eq_some_iff.2 hnumeral.signed
  rw [readRange_of_numeral htext, if_pos ⟨hleast, hmost⟩]

theorem readSeed_of_numeral {i : Int64} {text : String}
    (hnumeral : Text.SignedNumeral text.toList i.toInt) : readSeed text = .ok i := by
  rw [readSeed, Text.readInt64?_eq_some_iff.2 hnumeral]

theorem readFormat_word (format : ReportFormat) : readFormat format.word = .ok format := by
  cases format <;> decide

/-- A value behind a flag that takes one is taken over as it is read. -/
theorem take_single {α : Type} {read : String → Except UsageError α} {text : String} {value : α}
    (set : α → FlagValues) (hread : read text = .ok value) :
    (do pure (set (← read (← single [text]))) : Except UsageError FlagValues) = .ok (set value) := by
  change (read text >>= fun value => pure (set value)) = .ok (set value)
  rw [hread]
  rfl

/-- The words behind a flag are taken over as the value they stand for. -/
theorem FlagValues.take_of_valued {values : List String} (h : a.Valued values) :
    given.take a.flag values = .ok (given.put a) := by
  cases h with
  | debug => rfl
  | config hpath => exact take_single _ (readPath_of_isPath hpath)
  | count hnumeral hleast hmost => exact take_single _ (readRange_of_unsigned hnumeral hleast hmost)
  | seed hnumeral => exact take_single _ (readSeed_of_numeral hnumeral)
  | out hpath => exact take_single _ (readPath_of_isPath hpath)
  | training hpath => exact take_single _ (readPath_of_isPath hpath)
  | maxDepth hnumeral hmost =>
      exact take_single _ (readRange_of_unsigned hnumeral UInt32.zero_le hmost)
  | tool hpath => exact take_single _ (readPath_of_isPath hpath)
  | @runs n text hnumeral hleast =>
      have hmost : n ≤ 4294967295 := by
        rw [UInt32.le_iff_toNat_le]
        exact Nat.le_of_lt_succ n.toNat_lt
      exact take_single _ (readRange_of_unsigned hnumeral hleast hmost)
  | dirs hpaths =>
      simp only [Argument.flag, take, mapM_readPath hpaths]
      rfl
  | format shown => exact take_single _ (readFormat_word shown)

end SampleForge.CommandLine
