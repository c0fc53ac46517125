import SampleForge.Machine.Basic
import SampleForge.Program.Run
import SampleForge.Proofs.CommandLine.Reading
import SampleForge.Proofs.Settings.Keys

/-!
# Flags over settings over built-in values

A command line and a settings file come to a `Task`, and every field of a task is chosen on its own: the
argument of the command line if its flag is given, else what stands under its key in the file if the key
is there, else the built-in value, `Argument.Chosen`.

The fields of a task are arguments again, `Task.arguments`, so that one rule covers them all.  That the
rule looks at one flag and one key only is `Argument.Chosen.congr`, and that it leaves no choice is
`Argument.Chosen.unique`.  `flag_over_file_over_builtIn` puts the reading of the command line, the reading
of the file and the rule together.
-/

namespace SampleForge

open CommandLine Files Machine Program Settings

variable {args args' : List Argument} {document document' : Entries} {a b : Argument}
  {settings : HarnessSettings} {kind : Scope} {words : List String} {command : Command}

/-! ## The choice of one field -/

/-- The values that are built in. -/
def builtInArguments : List Argument :=
  [.count 500, .seed 1337, .out "tests/correct_samples", .training "training_data.txt", .maxDepth 3,
    .tool "build/linux-debug/curlee", .runs 1, .dirs ["tests/run"], .format .text]

namespace CommandLine.Argument

/-- The argument that counts for its flag: one that is given, else one that is in the file, else the one
that is built in. -/
inductive Chosen (args : List Argument) (document : Entries) (a : Argument) : Prop
  | given (h : a ∈ args)
  | filed (unset : ∀ b ∈ args, b.flag ≠ a.flag) (h : a.Filed document)
  | builtIn (unset : ∀ b ∈ args, b.flag ≠ a.flag) (absent : a.flag.valueIn? document = none)
      (h : a ∈ builtInArguments)

theorem eq_of_readFrom {value : Value} (ha : a.ReadFrom value) (hb : b.ReadFrom value)
    (h : a.flag = b.flag) : a = b := by
  cases a <;> cases b <;> cases h
  all_goals first | rfl | exact congrArg _ (Except.ok.inj (ha.symm.trans hb)) | exact ha.elim

/-- A flag has at most one argument that counts. -/
theorem Chosen.unique (hflags : (args.map flag).Nodup) (ha : a.Chosen args document)
    (hb : b.Chosen args document) (h : a.flag = b.flag) : a = b := by
  cases ha with
  | given ha =>
      cases hb with
      | given hb => exact List.inj_on_of_nodup_map hflags ha hb h
      | filed hunset | builtIn hunset => exact absurd h (hunset a ha)
  | filed hunset hfiled =>
      obtain ⟨value, hvalue, hread⟩ := hfiled
      rw [h] at hvalue
      cases hb with
      | given hb => exact absurd h.symm (hunset b hb)
      | filed _ hfiled =>
          obtain ⟨value', hvalue', hread'⟩ := hfiled
          obtain rfl := Option.some.inj (hvalue.symm.trans hvalue')
          exact eq_of_readFrom hread hread' h
      | builtIn _ habsent => cases hvalue.symm.trans habsent
  | builtIn hunset habsent hbuiltIn =>
      cases hb with
      | given hb => exact absurd h.symm (hunset b hb)
      | filed _ hfiled =>
          obtain ⟨value, hvalue, -⟩ := hfiled
          rw [← h, habsent] at hvalue
          cases hvalue
      | builtIn _ _ hbuiltIn' => exact List.inj_on_of_nodup_map (by decide) hbuiltIn hbuiltIn' h

/-- What counts for a flag is up to this flag and its key. -/
theorem Chosen.congr (h : a.Chosen args document)
    (hargs : ∀ b : Argument, b.flag = a.flag → (b ∈ args ↔ b ∈ args'))
    (hdocument : a.flag.valueIn? document = a.flag.valueIn? document') :
    a.Chosen args' document' := by
  have hunset (hunset : ∀ b ∈ args, b.flag ≠ a.flag) : ∀ b ∈ args', b.flag ≠ a.flag :=
    fun b hb hflag => hunset b ((hargs b hflag).2 hb) hflag
  cases h with
  | given h => exact .given ((hargs a rfl).1 h)
  | filed unset h =>
      obtain ⟨value, hvalue, hread⟩ := h
      exact .filed (hunset unset) ⟨value, hdocument ▸ hvalue, hread⟩
  | builtIn unset absent h => exact .builtIn (hunset unset) (hdocument ▸ absent) h

/-- A value that is given, or else one of the settings, or else the one that is built in. -/
theorem chosen_getD {β : Type} {given filed : Option β} {builtIn : β} (arg : β → Argument)
    (hflags : (args.map flag).Nodup) (hfits : harnessSection.fitEntries document = .ok settings)
    (harg : ∀ (b : Argument) (x : β), b.flag = (arg x).flag → ∃ y, b = arg y)
    (hgiven : ∀ x, (arg x).Holds (valuesOf args) ↔ given = some x)
    (hfiled : ∀ x, (arg x).Among settings ↔ filed = some x)
    (hbuiltIn : arg builtIn ∈ builtInArguments) :
    (arg ((given <|> filed).getD builtIn)).Chosen args document := by
  cases given with
  | some x => exact .given ((holds_valuesOf_iff hflags).1 ((hgiven x).2 rfl))
  | none =>
      have hunset (x : β) (b : Argument) (hb : b ∈ args) : b.flag ≠ (arg x).flag := by
        intro h
        obtain ⟨y, rfl⟩ := harg b x h
        cases (hgiven y).1 ((holds_valuesOf_iff hflags).2 hb)
      cases filed with
      | some x => exact .filed (hunset x) ((among_iff_filed hfits).1 ((hfiled x).2 rfl))
      | none =>
          refine .builtIn (hunset builtIn) (Option.eq_none_iff_forall_ne_some.2 ?_) hbuiltIn
          intro value hvalue
          obtain ⟨b, hb, hread⟩ := exists_readFrom hfits hvalue
          obtain ⟨y, rfl⟩ := harg b builtIn hb
          cases (hfiled y).1 ((among_iff_filed hfits).2 ⟨value, hb ▸ hvalue, hread⟩)

end CommandLine.Argument

/-! ## Tasks -/

namespace Program

/-- What a command comes to with the settings of a file. -/
inductive Task where
  | generate (request : SampleRequest)
  | bench (config : Benchmark) (format : ReportFormat)
  | verify (corpusPath : String)

namespace Task

variable {m : Type → Type} [Monad m]

/-- Carries a task out. -/
def run (host : Host m) : Task → m (Except Failure String)
  | generate request => generateCommand host request
  | bench config format => benchCommand host config format
  | verify corpusPath => verifyCommand host corpusPath

def scope : Task → Scope
  | generate _ => .generate
  | bench _ _ => .bench
  | verify _ => .verify

/-- The fields of a task. -/
def arguments : Task → List Argument
  | generate request =>
    [.count request.count, .seed request.seed, .out request.outDir, .training request.corpusPath,
      .maxDepth request.growth.maxDepth]
  | bench config format => [.tool config.tool, .runs config.runs, .dirs config.dirs, .format format]
  | verify corpusPath => [.training corpusPath]

/-- Expressions are grown in the usual way but for their depth. -/
def UsualGrowth : Task → Prop
  | generate request => request.growth = .ofDepth request.growth.maxDepth
  | bench _ _ | verify _ => True

/-- The task of a command line and a settings file. -/
structure Resolves (kind : Scope) (args : List Argument) (document : Entries) (task : Task) :
    Prop where
  scope : task.scope = kind
  chosen : ∀ a ∈ task.arguments, a.Chosen args document
  growth : task.UsualGrowth

end Task

/-- The task a command is completed to. -/
def taskOf (settings : HarnessSettings) : Command → Task
  | .generate flags => .generate (flags.complete settings.generate)
  | .bench flags => .bench (flags.complete settings.bench) flags.format
  | .verify flags => .verify (flags.complete settings.generate)

theorem runCommand_eq {m : Type → Type} [Monad m] (host : Host m) :
    runCommand host settings command = (taskOf settings command).run host := by
  cases command <;> rfl

/-- Completing a command chooses every field of its task. -/
theorem resolves_taskOf (hflags : (args.map Argument.flag).Nodup)
    (hfits : harnessSection.fitEntries document = .ok settings)
    (hcommand : Command.of? kind (valuesOf args) = some command) :
    Task.Resolves kind args document (taskOf settings command) := by
  have hfield {β : Type} {given filed : Option β} {builtIn : β} (arg : β → Argument) :=
    @Argument.chosen_getD args document settings β given filed builtIn arg hflags hfits
  have hformat : (valuesOf args).format.getD .text =
      ((valuesOf args).format <|> none).getD .text := by
    cases (valuesOf args).format <;> rfl
  cases kind with
  | top => cases hcommand
  | generate =>
      obtain rfl := Option.some.inj hcommand
      refine ⟨rfl, ?_, rfl⟩
      simp only [taskOf, Task.arguments, List.forall_mem_cons, List.not_mem_nil, false_imp_iff,
        implies_true, and_true]
      refine ⟨hfield .count ?_ (fun _ => Iff.rfl) (fun _ => Iff.rfl) (by decide),
        hfield .seed ?_ (fun _ => Iff.rfl) (fun _ => Iff.rfl) (by decide),
        hfield .out ?_ (fun _ => Iff.rfl) (fun _ => Iff.rfl) (by decide),
        hfield .training ?_ (fun _ => Iff.rfl) (fun _ => Iff.rfl) (by decide),
        hfield .maxDepth ?_ (fun _ => Iff.rfl) (fun _ => Iff.rfl) (by decide)⟩
      -- Whatever has the flag of a field is made by the constructor of the field.
      all_goals
        intro b x h
        cases b <;> first | exact ⟨_, rfl⟩ | cases h
  | bench =>
      obtain rfl := Option.some.inj hcommand
      refine ⟨rfl, ?_, trivial⟩
      simp only [taskOf, Task.arguments, List.forall_mem_cons, List.not_mem_nil, false_imp_iff,
        implies_true, and_true, hformat]
      refine ⟨hfield .tool ?_ (fun _ => Iff.rfl) (fun _ => Iff.rfl) (by decide),
        hfield .runs ?_ (fun _ => Iff.rfl) (fun _ => Iff.rfl) (by decide),
        hfield .dirs ?_ (fun _ => Iff.rfl) (fun _ => Iff.rfl) (by decide),
        hfield .format ?_ (fun _ => Iff.rfl) (fun _ => ⟨False.elim, nofun⟩) (by decide)⟩
      all_goals
        intro b x h
        cases b <;> first | exact ⟨_, rfl⟩ | cases h
  | verify =>
      obtain rfl := Option.some.inj hcommand
      refine ⟨rfl, List.forall_mem_singleton.2 ?_, trivial⟩
      refine hfield .training ?_ (fun _ => Iff.rfl) (fun _ => Iff.rfl) (by decide)
      intro b x h
      cases b <;> first | exact ⟨_, rfl⟩ | cases h

/-! ## Settings files -/

theorem eq_ok_of_mapError {ε ε' α : Type} {e : Except ε α} {f : ε → ε'} {a : α}
    (h : e.mapError f = .ok a) : e = .ok a := by
  cases e with
  | error cause => cases h
  | ok value => exact congrArg _ (Except.ok.inj h)

theorem fitEntries_of_settingsOfText {path text : String} (hparsed : readDocument? text = some document)
    (hvalid : settingsOfText path text = .ok settings) :
    harnessSection.fitEntries document = .ok settings := by
  rw [settingsOfText, hparsed] at hvalid
  obtain ⟨fitted, hfitted, hvalid⟩ := exists_of_bind_ok hvalid
  obtain ⟨-, -, hvalid⟩ := exists_of_bind_ok hvalid
  obtain rfl := Except.ok.inj hvalid
  exact eq_ok_of_mapError hfitted

variable {σ : Type} {host : Host (StateM σ)} {s s' : σ}

/-- The settings file that is named can be read and is valid, or none is named. -/
inductive Loads (host : Host (StateM σ)) (args : List Argument) (s : σ) : Entries → σ → Prop
  | unnamed (absent : ∀ path, .config path ∉ args) : Loads host args s [] s
  | named {path text : String} {document : Entries} {settings : HarnessSettings} {s' : σ}
      (given : .config path ∈ args) (read : (host.readText path).run s = (.ok text, s'))
      (parsed : readDocument? text = some document)
      (valid : settingsOfText path text = .ok settings) : Loads host args s document s'

theorem Loads.exists_settings {config : Option String} (h : Loads host args s document s')
    (hconfig : ∀ path, config = some path ↔ .config path ∈ args) :
    ∃ settings, harnessSection.fitEntries document = .ok settings ∧
      (loadSettings host config).run s = (.ok settings, s') := by
  cases h with
  | unnamed habsent =>
      have hnone : config = none :=
        Option.eq_none_iff_forall_ne_some.2 fun path hpath => habsent path ((hconfig path).1 hpath)
      rw [hnone]
      exact ⟨.unset, rfl, rfl⟩
  | @named path text document settings s' hgiven hread hparsed hvalid =>
      refine ⟨settings, fitEntries_of_settingsOfText hparsed hvalid, ?_⟩
      rw [(hconfig path).2 hgiven, loadSettings, StateT.run_bind, hread]
      change (((settingsOfText path text).mapError Failure.settings, s') :
        Except Failure HarnessSettings × σ) = _
      rw [hvalid]
      rfl

/-- After the file has been read, what was read from the command line is its task. -/
theorem run_execute {invocation : Invocation}
    (hload : (loadSettings host invocation.config).run s = (.ok settings, s')) :
    (execute host invocation).run s = ((taskOf settings invocation.command).run host).run s' := by
  rw [execute, StateT.run_bind, hload, ← runCommand_eq]
  rfl

/-! ## Command lines -/

/-- Command lines with settings files that agree but for one flag and its key. -/
structure SameBut (flag : Flag) (args : List Argument) (document : Entries) (args' : List Argument)
    (document' : Entries) : Prop where
  given : ∀ a : Argument, a.flag ≠ flag → (a ∈ args ↔ a ∈ args')
  filed : ∀ other : Flag, other ≠ flag → other.valueIn? document = other.valueIn? document'

namespace Task

variable {task task' : Task}

/-- A task has one field for every flag of its command, but for the flags of every command. -/
theorem map_flag_arguments (task : Task) :
    task.arguments.map Argument.flag = task.scope.flags.filter (· ∉ globalFlags) := by
  cases task <;> rfl

/-- A flag that is given stands. -/
theorem Resolves.mem_arguments (h : task.Resolves kind args document)
    (hflags : (args.map Argument.flag).Nodup) (ha : a ∈ args) (hknown : a.flag ∈ kind.flags)
    (hdebug : a.flag ≠ .debug) (hconfig : a.flag ≠ .config) : a ∈ task.arguments := by
  have hspecial : a.flag ∉ globalFlags := by
    intro hmem
    simp only [globalFlags, List.mem_cons, List.not_mem_nil, or_false] at hmem
    rcases hmem with hflag | hflag | hflag
    · exact hdebug hflag
    · exact hconfig hflag
    · cases a <;> cases hflag
  have hfield : a.flag ∈ task.arguments.map Argument.flag := by
    rw [map_flag_arguments, h.scope, List.mem_filter]
    exact ⟨hknown, decide_eq_true hspecial⟩
  obtain ⟨b, hb, hflag⟩ := List.mem_map.1 hfield
  obtain rfl := (h.chosen b hb).unique hflags (.given ha) hflag
  exact hb

/-- One flag and its key are about one field. -/
theorem Resolves.mem_arguments_of_sameBut {flag : Flag} (h : task.Resolves kind args document)
    (h' : task'.Resolves kind args' document') (hflags : (args.map Argument.flag).Nodup)
    (hsame : SameBut flag args document args' document') (ha : a ∈ task.arguments)
    (hflag : a.flag ≠ flag) : a ∈ task'.arguments := by
  have hfield : a.flag ∈ task'.arguments.map Argument.flag := by
    rw [map_flag_arguments, h'.scope, ← h.scope, ← map_flag_arguments]
    exact List.mem_map_of_mem ha
  obtain ⟨b, hb, hba⟩ := List.mem_map.1 hfield
  have hchosen : b.Chosen args document :=
    (h'.chosen b hb).congr
      (fun c hc => (hsame.given c (by rw [hc, hba]; exact hflag)).symm)
      (hsame.filed b.flag (by rw [hba]; exact hflag)).symm
  obtain rfl := hchosen.unique hflags (h.chosen a ha) hba
  exact hb

theorem mem_arguments_dirs {paths : List String} (task : Task) :
    .dirs paths ∈ task.arguments ↔
      ∃ config format, task = .bench config format ∧ config.dirs = paths := by
  cases task <;> simp [arguments, eq_comm]

/-- The rule leaves no choice. -/
theorem Resolves.unique (h : task.Resolves kind args document) (h' : task'.Resolves kind args document)
    (hflags : (args.map Argument.flag).Nodup) : task = task' := by
  have hmem (a : Argument) (ha : a ∈ task.arguments) : a ∈ task'.arguments := by
    have hhelp : a.flag ≠ .help := by cases a <;> exact nofun
    exact h.mem_arguments_of_sameBut h' hflags ⟨fun _ _ => Iff.rfl, fun _ _ => rfl⟩ ha hhelp
  have hscope := h.scope.trans h'.scope.symm
  have hgrowth := h.growth
  have hgrowth' := h'.growth
  cases task <;> cases task' <;> cases hscope
  case generate.generate.refl request request' =>
    obtain ⟨count, seed, outDir, corpusPath, growth⟩ := request
    obtain ⟨count', seed', outDir', corpusPath', growth'⟩ := request'
    simp only [arguments, List.mem_cons, List.not_mem_nil, or_false, forall_eq_or_imp,
      Argument.count.injEq, reduceCtorEq, or_self, Argument.seed.injEq, false_or,
      Argument.out.injEq, Argument.training.injEq, forall_eq, Argument.maxDepth.injEq] at hmem
    obtain ⟨rfl, rfl, rfl, rfl, hdepth⟩ := hmem
    simp only [UsualGrowth] at hgrowth hgrowth'
    rw [hgrowth, hgrowth', hdepth]
  case bench.bench.refl config format config' format' =>
    obtain ⟨tool, runs, dirs⟩ := config
    simp only [arguments, List.mem_cons, List.not_mem_nil, or_false, forall_eq_or_imp,
      Argument.tool.injEq, reduceCtorEq, or_self, Argument.runs.injEq, false_or,
      Argument.dirs.injEq, forall_eq, Argument.format.injEq] at hmem
    obtain ⟨rfl, rfl, rfl, rfl⟩ := hmem
    rfl
  case verify.verify.refl path path' =>
    simp only [arguments, List.mem_cons, List.not_mem_nil, or_false, forall_eq,
      Argument.training.injEq] at hmem
    rw [hmem]

end Task

/-- A command line with arguments in any order is accepted, and with a valid settings file or none it
comes to the one task whose fields are all chosen by the rule.  A flag that is given stands, so no
directories are none; what is changed of one flag and its key changes one field at most. -/
theorem flag_over_file_over_builtIn {kind : Scope} {args : List Argument} {words : List String}
    (hline : LineOf kind args words) :
    ∃ invocation, Invocation.read words = .ok invocation ∧
      (∀ words', LineOf kind args words' → Invocation.read words' = .ok invocation) ∧
      (invocation.debug = true ↔ .debug ∈ args) ∧
      ∀ (σ : Type) (host : Host (StateM σ)) (s s' : σ) (document : Entries),
        Loads host args s document s' →
        ∃ task : Task, task.Resolves kind args document ∧
          (∀ task' : Task, task'.Resolves kind args document → task' = task) ∧
          (execute host invocation).run s = (task.run host).run s' ∧
          (∀ a ∈ args, a.flag ≠ .debug → a.flag ≠ .config → a ∈ task.arguments) ∧
          (.dirs [] ∈ args → ∃ config format, task = .bench config format ∧ config.dirs = []) ∧
          ∀ flag args' document' task', SameBut flag args document args' document' →
            Task.Resolves kind args' document' task' →
            ∀ a ∈ task.arguments, a.flag ≠ flag → a ∈ task'.arguments := by
  have hflags := hline.nodup_flags
  obtain ⟨command, hcommand, hread⟩ := read_line hline
  refine ⟨_, hread, ?_, holds_valuesOf_iff (a := .debug) hflags, ?_⟩
  · intro words' hline'
    obtain ⟨command', hcommand', hread'⟩ := read_line hline'
    obtain rfl := Option.some.inj (hcommand.symm.trans hcommand')
    exact hread'
  · intro σ host s s' document hloads
    obtain ⟨settings, hfits, hload⟩ :=
      hloads.exists_settings fun path => holds_valuesOf_iff (a := .config path) hflags
    have hresolves := resolves_taskOf hflags hfits hcommand
    have hstands (a : Argument) (ha : a ∈ args) :=
      hresolves.mem_arguments hflags ha (hline.flag_mem ha)
    refine ⟨taskOf settings command, hresolves, fun task' h => h.unique hresolves hflags,
      run_execute hload, hstands, ?_, ?_⟩
    · intro hdirs
      exact (taskOf settings command).mem_arguments_dirs.1 (hstands _ hdirs (by decide) (by decide))
    · intro flag args' document' task' hsame hresolves' a ha hflag
      exact hresolves.mem_arguments_of_sameBut hresolves' hflags hsame ha hflag

/-- No directories and three passes on the command line, a checker and other values in the file. -/
theorem flag_over_file_over_builtIn_bench :
    let text := "[bench]\ncurlee = \"bin/curlee\"\nruns = 4\ndirs = [\"a\"]\n"
    let args : List Argument := [.runs 3, .dirs [], .debug, .config "h.toml"]
    let words := ["--debug", "bench", "--dirs", "--runs", "3", "--config", "h.toml"]
    let host : Host OnComputer := { Machine.host with readText := fun _ => pure (.ok text) }
    let computer : Computer := ⟨.empty, [], "", ""⟩
    LineOf .bench args words ∧
      ∃ invocation, Invocation.read words = .ok invocation ∧
        (execute host invocation).run computer =
          ((Task.bench ⟨"bin/curlee", 3, []⟩ .text).run host).run computer := by
  intro text args words host computer
  have hflags : (args.map Argument.flag).Nodup := by decide
  have hthree : Text.UnsignedNumeral "3".toList (3 : UInt32).toNat :=
    Text.readUnsigned?_eq_some_iff.1 (by decide)
  have hbehind : Spelled [.dirs [], .runs 3, .config "h.toml"]
      ["--dirs", "--runs", "3", "--config", "h.toml"] :=
    .cons (.dirs (List.forall_mem_nil _)) (.cons (.runs hthree (by decide))
      (.cons (.config ⟨by decide, by decide⟩) .nil))
  have hline : LineOf .bench args words :=
    @LineOf.intro .bench args "bench" [.debug] _ _ _ .bench (by decide) hflags (by decide) (by decide)
      (.cons .debug .nil) hbehind
  have hvalid : settingsOfText "h.toml" text =
      .ok ⟨.unset, ⟨some "bin/curlee", some 4, some ["a"]⟩⟩ := by decide +kernel
  have hsome : (readDocument? text).isSome = true := by decide +kernel
  obtain ⟨document, hparsed⟩ := Option.isSome_iff_exists.1 hsome
  have hfits := fitEntries_of_settingsOfText hparsed hvalid
  have hloads : Loads host args computer document computer :=
    .named (by decide) rfl hparsed hvalid
  obtain ⟨invocation, hread, -, -, htask⟩ := flag_over_file_over_builtIn hline
  obtain ⟨task, -, hunique, hrun, -⟩ := htask Computer host computer computer document hloads
  refine ⟨hline, invocation, hread, ?_⟩
  have hresolves : (Task.bench ⟨"bin/curlee", 3, []⟩ .text).Resolves .bench args document := by
    refine ⟨rfl, ?_, trivial⟩
    simp only [Task.arguments, List.forall_mem_cons, List.not_mem_nil, false_imp_iff, implies_true,
      and_true]
    exact ⟨.filed (by decide) ((among_iff_filed hfits).1 rfl), .given (by decide), .given (by decide),
      .builtIn (by decide) rfl (by decide)⟩
  rw [hrun, hunique _ hresolves]

end Program
end SampleForge
