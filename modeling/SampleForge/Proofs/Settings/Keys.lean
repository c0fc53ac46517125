import SampleForge.Proofs.CommandLine.Arguments
import SampleForge.Settings.Sections

/-!
# The keys of a settings file

Every flag but the general ones and the format has a key in a settings file, `Flag.key?`.  What a file
settles is looked up key by key: an argument is among the settings exactly if it is what stands under
the key of its flag, `among_iff_filed`, and whatever stands there is a value of the flag,
`exists_readFrom`.

The program goes through the entries of a section and takes each over into the record, `Section.Taken`.
`Section.Gives` is what one entry does to one field, and `Section.Taken.has_iff` what all of them do.
-/

namespace SampleForge

open CommandLine Settings

/-! ## Values under keys -/

/-- The value under a key, the last one if there are several. -/
def lastUnder? (entries : Entries) (key : String) : Option Value :=
  entries.reverse.lookup key

theorem lastUnder?_concat (entries : Entries) (name key : String) (value : Value) :
    lastUnder? (entries ++ [(name, value)]) key =
      if name = key then some value else lastUnder? entries key := by
  rw [lastUnder?, List.reverse_append, List.reverse_singleton, List.singleton_append,
    List.lookup_cons]
  by_cases h : name = key
  · rw [if_pos h, beq_iff_eq.2 h.symm]
  · rw [if_neg h, beq_false_of_ne (Ne.symm h)]
    rfl

namespace Section

variable {α β : Type} {s : Section α} {entries : Entries} {record : α}

def keys (s : Section α) : List String := s.fields.map Prod.fst

/-- The entries of a section.  It is a table, or a list of the values in the order of the keys. -/
def entries? (s : Section α) : Value → Option Entries
  | .table _ entries => some entries
  | value => value.items?.map s.keys.zip

/-! ## Going through the entries -/

/-- The record after entries have been taken over. -/
inductive Taken (s : Section α) : Entries → α → Prop
  | nil : Taken s [] s.empty
  | concat {entries : Entries} {name : String} {take : α → Value → Except Misfit α} {value : Value}
      {before after : α} (earlier : Taken s entries before) (field : (name, take) ∈ s.fields)
      (taken : take before value = .ok after) : Taken s (entries ++ [(name, value)]) after

/-- Taking over a list succeeds if taking over all but the last element does, and then the last. -/
theorem exists_of_foldlM_concat {γ : Type} {step : α → γ → Except Misfit α} {items : List γ} {item : γ}
    {start after : α} (h : (items ++ [item]).foldlM step start = .ok after) :
    ∃ before, items.foldlM step start = .ok before ∧ step before item = .ok after := by
  rw [List.foldlM_append] at h
  obtain ⟨before, hbefore, h⟩ := exists_of_bind_ok h
  rw [List.foldlM_cons] at h
  obtain ⟨after', hafter, h⟩ := exists_of_bind_ok h
  obtain rfl := Except.ok.inj h
  exact ⟨before, hbefore, hafter⟩

theorem taken_of_fitEntries (h : s.fitEntries entries = .ok record) : s.Taken entries record := by
  induction entries using List.reverseRecOn generalizing record with
  | nil =>
      obtain rfl := Except.ok.inj h
      exact .nil
  | append_singleton entries entry ih =>
      obtain ⟨before, hbefore, hafter⟩ := exists_of_foldlM_concat h
      cases htake : s.fields.lookup entry.1 with
      | none =>
          rw [htake] at hafter
          cases hafter
      | some take =>
          rw [htake] at hafter
          obtain ⟨_, _, hfields, -⟩ := List.lookup_eq_some_iff.1 htake
          have hfield : (entry.1, take) ∈ s.fields := by
            rw [hfields]
            exact List.mem_append_right _ List.mem_cons_self
          exact .concat (ih hbefore) hfield hafter

/-- Fields with their values, taken over in order. -/
theorem taken_of_foldlM {pairs : List ((String × (α → Value → Except Misfit α)) × Value)}
    (hfields : ∀ pair ∈ pairs, pair.1 ∈ s.fields)
    (h : pairs.foldlM (fun record pair => pair.1.2 record pair.2) s.empty = .ok record) :
    s.Taken (pairs.map (Prod.map Prod.fst id)) record := by
  induction pairs using List.reverseRecOn generalizing record with
  | nil =>
      obtain rfl := Except.ok.inj h
      exact .nil
  | append_singleton pairs pair ih =>
      obtain ⟨before, hbefore, hafter⟩ := exists_of_foldlM_concat h
      rw [List.map_append]
      exact .concat (ih (fun p hp => hfields p (List.mem_append_left _ hp)) hbefore)
        (hfields pair (List.mem_append_right _ List.mem_cons_self)) hafter

theorem taken_of_fitItems {items : List Value} (h : s.fitItems items = .ok record) :
    s.Taken (s.keys.zip items) record := by
  obtain ⟨record', hrecord, h⟩ := exists_of_bind_ok h
  have hsame : record' = record := by
    split at h
    · cases h
    · exact Except.ok.inj h
  rw [keys, List.zip_map_left]
  exact taken_of_foldlM (fun pair hpair => (List.of_mem_zip hpair).1) (hsame ▸ hrecord)

theorem exists_taken_of_fit {value : Value} (h : s.fit value = .ok record) :
    ∃ entries, s.entries? value = some entries ∧ s.Taken entries record := by
  cases value with
  | table kind entries => exact ⟨entries, rfl, taken_of_fitEntries h⟩
  | array items => exact ⟨_, rfl, taken_of_fitItems h⟩
  | tables latest => exact ⟨_, rfl, taken_of_fitItems h⟩
  | _ => cases h

/-! ## One field -/

/-- Whether a field of the record has a certain value depends on the entries with one key.  It has none
at first, and an entry with the key decides when it is taken over. -/
structure Gives (s : Section α) (key : String) (has : α → Prop) (reads : Value → Prop) : Prop where
  empty : ¬ has s.empty
  own : ∀ {take before value after}, (key, take) ∈ s.fields → take before value = .ok after →
    (has after ↔ reads value)
  other : ∀ {name take before value after}, (name, take) ∈ s.fields → name ≠ key →
    take before value = .ok after → (has after ↔ has before)

variable {key : String} {has : α → Prop} {reads : Value → Prop}

theorem Taken.has_iff (h : s.Taken entries record) (hgives : s.Gives key has reads) :
    has record ↔ ∃ value, lastUnder? entries key = some value ∧ reads value := by
  induction h with
  | nil => exact ⟨fun h => absurd h hgives.empty, nofun⟩
  | @concat entries name take value before after hbefore hfield htaken ih =>
      rw [lastUnder?_concat]
      by_cases hname : name = key
      · subst hname
        rw [hgives.own hfield htaken, if_pos rfl]
        simp only [Option.some.injEq, exists_eq_left']
      · rw [hgives.other hfield hname htaken, ih, if_neg hname]

/-- A value under a key was taken over. -/
theorem Taken.exists_take {value : Value} (h : s.Taken entries record)
    (hvalue : lastUnder? entries key = some value) :
    ∃ take before after, (key, take) ∈ s.fields ∧ take before value = .ok after := by
  induction h with
  | nil => cases hvalue
  | @concat entries name take value' before after hbefore hfield htaken ih =>
      rw [lastUnder?_concat] at hvalue
      by_cases hname : name = key
      · rw [if_pos hname] at hvalue
        obtain rfl := Option.some.inj hvalue
        exact ⟨take, before, after, hname ▸ hfield, htaken⟩
      · rw [if_neg hname] at hvalue
        exact ih hvalue

/-- The value under a key of a section. -/
def value? (s : Section α) (key : String) (value : Value) : Option Value :=
  (s.entries? value).bind (lastUnder? · key)

theorem has_iff_of_fit {value : Value} (h : s.fit value = .ok record)
    (hgives : s.Gives key has reads) :
    has record ↔ ∃ inner, s.value? key value = some inner ∧ reads inner := by
  obtain ⟨entries, hentries, htaken⟩ := exists_taken_of_fit h
  rw [htaken.has_iff hgives, value?, hentries]
  rfl

theorem exists_take_of_fit {value inner : Value} (h : s.fit value = .ok record)
    (hinner : s.value? key value = some inner) :
    ∃ take before after, (key, take) ∈ s.fields ∧ take before inner = .ok after := by
  obtain ⟨entries, hentries, htaken⟩ := exists_taken_of_fit h
  rw [value?, hentries] at hinner
  exact htaken.exists_take hinner

end Section

/-! ## The keys of the flags -/

/-- The sections of a settings file. -/
inductive Heading where
  | generate
  | bench
deriving DecidableEq

def Heading.word : Heading → String
  | generate => "generate"
  | bench => "bench"

/-- The value under a key of a section of this heading. -/
def Heading.value? (heading : Heading) (key : String) : Value → Option Value :=
  match heading with
  | generate => generateSection.value? key
  | bench => benchSection.value? key

/-- The key that stands for a flag in a settings file. -/
def CommandLine.Flag.key? : Flag → Option (Heading × String)
  | .count => some (.generate, "count")
  | .seed => some (.generate, "seed")
  | .out => some (.generate, "out")
  | .training => some (.generate, "training")
  | .maxDepth => some (.generate, "max_depth")
  | .tool => some (.bench, "curlee")
  | .runs => some (.bench, "runs")
  | .dirs => some (.bench, "dirs")
  | .debug | .config | .format | .help | .version => none

/-- No two flags share a key. -/
theorem CommandLine.Flag.key?_inj {flag flag' : Flag} {key : Heading × String}
    (h : flag.key? = some key) (h' : flag'.key? = some key) : flag = flag' := by
  rw [← h'] at h
  revert h h'
  cases flag <;> cases flag' <;> simp [key?]

/-- The value of a settings file under the key of a flag. -/
def CommandLine.Flag.valueIn? (document : Entries) (flag : Flag) : Option Value :=
  flag.key?.bind fun key => (lastUnder? document key.1.word).bind (key.1.value? key.2)

namespace CommandLine.Argument

/-- The argument is what a value of a settings file stands for. -/
def ReadFrom (value : Value) : Argument → Prop
  | count n | maxDepth n | runs n => fitUInt32 value = .ok n
  | seed i => fitInt64 value = .ok i
  | out path | training path | tool path => fitPath value = .ok path
  | dirs paths => fitPaths value = .ok paths
  | debug | config _ | format _ => False

/-- The argument is settled by a settings file. -/
def Filed (document : Entries) (a : Argument) : Prop :=
  ∃ value, a.flag.valueIn? document = some value ∧ a.ReadFrom value

/-- The argument is among the settings. -/
def Among (settings : HarnessSettings) : Argument → Prop
  | count n => settings.generate.count = some n
  | seed i => settings.generate.seed = some i
  | out path => settings.generate.out = some path
  | training path => settings.generate.training = some path
  | maxDepth n => settings.generate.maxDepth = some n
  | tool path => settings.bench.tool = some path
  | runs n => settings.bench.runs = some n
  | dirs paths => settings.bench.dirs = some paths
  | debug | config _ | format _ => False

end CommandLine.Argument

section Fields

variable {a : Argument} {name key : String} {value : Value} {document : Entries}
  {settings : HarnessSettings}

/-- The fields of the first section, and how each is taken over. -/
theorem generateSection_cases {take : GenerateSettings → Value → Except Misfit GenerateSettings}
    {before after : GenerateSettings} (hfield : (name, take) ∈ generateSection.fields)
    (htake : take before value = .ok after) :
    (name = "count" ∧ ∃ n, fitUInt32 value = .ok n ∧ after = { before with count := some n }) ∨
    (name = "seed" ∧ ∃ i, fitInt64 value = .ok i ∧ after = { before with seed := some i }) ∨
    (name = "out" ∧ ∃ path, fitPath value = .ok path ∧ after = { before with out := some path }) ∨
    (name = "training" ∧
      ∃ path, fitPath value = .ok path ∧ after = { before with training := some path }) ∨
    (name = "max_depth" ∧
      ∃ n, fitUInt32 value = .ok n ∧ after = { before with maxDepth := some n }) := by
  simp only [generateSection, List.mem_cons, List.not_mem_nil, or_false, Prod.mk.injEq] at hfield
  rcases hfield with ⟨rfl, rfl⟩ | ⟨rfl, rfl⟩ | ⟨rfl, rfl⟩ | ⟨rfl, rfl⟩ | ⟨rfl, rfl⟩
  all_goals
    obtain ⟨read, hread, htake⟩ := exists_of_bind_ok htake
    obtain rfl := Except.ok.inj htake
  · exact .inl ⟨rfl, read, hread, rfl⟩
  · exact .inr (.inl ⟨rfl, read, hread, rfl⟩)
  · exact .inr (.inr (.inl ⟨rfl, read, hread, rfl⟩))
  · exact .inr (.inr (.inr (.inl ⟨rfl, read, hread, rfl⟩)))
  · exact .inr (.inr (.inr (.inr ⟨rfl, read, hread, rfl⟩)))

theorem generateSection_gives (hkey : a.flag.key? = some (.generate, key)) :
    generateSection.Gives key (fun settings => a.Among ⟨settings, .unset⟩) (a.ReadFrom ·) where
  empty := by cases a <;> exact nofun
  own := by
    intro take before value after hfield htake
    have hcases := generateSection_cases hfield htake
    cases a <;> cases hkey
    all_goals
      rcases hcases with h | h | h | h | h
      all_goals
        obtain ⟨hname, read, hread, rfl⟩ := h
        first
        | exact absurd hname (by decide)
        | simp [Argument.Among, Argument.ReadFrom, hread]
  other := by
    intro name take before value after hfield hne htake
    have hcases := generateSection_cases hfield htake
    cases a <;> cases hkey
    all_goals
      rcases hcases with h | h | h | h | h
      all_goals
        obtain ⟨hname, read, hread, rfl⟩ := h
        first
        | exact absurd hname hne
        | exact Iff.rfl

/-- The fields of the second section, and how each is taken over. -/
theorem benchSection_cases {take : BenchSettings → Value → Except Misfit BenchSettings}
    {before after : BenchSettings} (hfield : (name, take) ∈ benchSection.fields)
    (htake : take before value = .ok after) :
    (name = "curlee" ∧ ∃ path, fitPath value = .ok path ∧ after = { before with tool := some path }) ∨
    (name = "runs" ∧ ∃ n, fitUInt32 value = .ok n ∧ after = { before with runs := some n }) ∨
    (name = "dirs" ∧
      ∃ paths, fitPaths value = .ok paths ∧ after = { before with dirs := some paths }) := by
  simp only [benchSection, List.mem_cons, List.not_mem_nil, or_false, Prod.mk.injEq] at hfield
  rcases hfield with ⟨rfl, rfl⟩ | ⟨rfl, rfl⟩ | ⟨rfl, rfl⟩
  all_goals
    obtain ⟨read, hread, htake⟩ := exists_of_bind_ok htake
    obtain rfl := Except.ok.inj htake
  · exact .inl ⟨rfl, read, hread, rfl⟩
  · exact .inr (.inl ⟨rfl, read, hread, rfl⟩)
  · exact .inr (.inr ⟨rfl, read, hread, rfl⟩)

theorem benchSection_gives (hkey : a.flag.key? = some (.bench, key)) :
    benchSection.Gives key (fun settings => a.Among ⟨.unset, settings⟩) (a.ReadFrom ·) where
  empty := by cases a <;> exact nofun
  own := by
    intro take before value after hfield htake
    have hcases := benchSection_cases hfield htake
    cases a <;> cases hkey
    all_goals
      rcases hcases with h | h | h
      all_goals
        obtain ⟨hname, read, hread, rfl⟩ := h
        first
        | exact absurd hname (by decide)
        | simp [Argument.Among, Argument.ReadFrom, hread]
  other := by
    intro name take before value after hfield hne htake
    have hcases := benchSection_cases hfield htake
    cases a <;> cases hkey
    all_goals
      rcases hcases with h | h | h
      all_goals
        obtain ⟨hname, read, hread, rfl⟩ := h
        first
        | exact absurd hname hne
        | exact Iff.rfl

/-! ## The whole file -/

theorem harnessSection_cases {take : HarnessSettings → Value → Except Misfit HarnessSettings}
    {before after : HarnessSettings} (hfield : (name, take) ∈ harnessSection.fields)
    (htake : take before value = .ok after) :
    (name = "generate" ∧
      ∃ g, generateSection.fit value = .ok g ∧ after = { before with generate := g }) ∨
    (name = "bench" ∧ ∃ b, benchSection.fit value = .ok b ∧ after = { before with bench := b }) := by
  simp only [harnessSection, List.mem_cons, List.not_mem_nil, or_false, Prod.mk.injEq] at hfield
  rcases hfield with ⟨rfl, rfl⟩ | ⟨rfl, rfl⟩
  all_goals
    obtain ⟨section', hsection, htake⟩ := exists_of_bind_ok htake
    obtain rfl := Except.ok.inj htake
  · exact .inl ⟨rfl, section', hsection, rfl⟩
  · exact .inr ⟨rfl, section', hsection, rfl⟩

theorem among_congr_generate {settings' : HarnessSettings}
    (hkey : a.flag.key? = some (.generate, key)) (h : settings.generate = settings'.generate) :
    a.Among settings ↔ a.Among settings' := by
  cases a <;> cases hkey <;> simp only [Argument.Among, h]

theorem among_congr_bench {settings' : HarnessSettings}
    (hkey : a.flag.key? = some (.bench, key)) (h : settings.bench = settings'.bench) :
    a.Among settings ↔ a.Among settings' := by
  cases a <;> cases hkey <;> simp only [Argument.Among, h]

theorem harnessSection_gives {heading : Heading} (hkey : a.flag.key? = some (heading, key)) :
    harnessSection.Gives heading.word a.Among
      (fun value => ∃ inner, heading.value? key value = some inner ∧ a.ReadFrom inner) where
  empty := by cases a <;> exact nofun
  own := by
    intro take before value after hfield htake
    cases heading with
    | generate =>
        rcases harnessSection_cases hfield htake with ⟨-, g, hg, rfl⟩ | ⟨hname, -⟩
        · have hown := Section.has_iff_of_fit hg (generateSection_gives hkey)
          refine (among_congr_generate hkey ?_).trans hown
          rfl
        · exact absurd hname (by decide)
    | bench =>
        rcases harnessSection_cases hfield htake with ⟨hname, -⟩ | ⟨-, b, hb, rfl⟩
        · exact absurd hname (by decide)
        · have hown := Section.has_iff_of_fit hb (benchSection_gives hkey)
          refine (among_congr_bench hkey ?_).trans hown
          rfl
  other := by
    intro name take before value after hfield hne htake
    cases heading with
    | generate =>
        rcases harnessSection_cases hfield htake with ⟨hname, -⟩ | ⟨-, b, -, rfl⟩
        · exact absurd hname hne
        · exact among_congr_generate hkey rfl
    | bench =>
        rcases harnessSection_cases hfield htake with ⟨-, g, -, rfl⟩ | ⟨hname, -⟩
        · exact among_congr_bench hkey rfl
        · exact absurd hname hne

/-- What a settings file settles is what stands under the keys of the flags. -/
theorem among_iff_filed (h : harnessSection.fitEntries document = .ok settings) :
    a.Among settings ↔ a.Filed document := by
  cases hkey : a.flag.key? with
  | none =>
      simp only [Argument.Filed, Flag.valueIn?, hkey, Option.bind_none]
      refine iff_of_false ?_ nofun
      cases a <;> first | exact id | cases hkey
  | some key =>
      rw [(Section.taken_of_fitEntries h).has_iff (harnessSection_gives hkey)]
      simp only [Argument.Filed, Flag.valueIn?, hkey, Option.bind_some]
      cases lastUnder? document key.1.word <;> simp

/-- A value that stands under the key of a flag is one the flag can have. -/
theorem exists_readFrom {flag : Flag} (h : harnessSection.fitEntries document = .ok settings)
    (hvalue : flag.valueIn? document = some value) :
    ∃ a : Argument, a.flag = flag ∧ a.ReadFrom value := by
  obtain ⟨⟨heading, key⟩, hkey, hvalue⟩ := Option.bind_eq_some_iff.1 hvalue
  obtain ⟨inner, hinner, hvalue⟩ := Option.bind_eq_some_iff.1 hvalue
  obtain ⟨take, before, after, hfield, htake⟩ := (Section.taken_of_fitEntries h).exists_take hinner
  cases heading with
  | generate =>
      rcases harnessSection_cases hfield htake with ⟨-, g, hg, -⟩ | ⟨hname, -⟩
      · obtain ⟨take, before, after, hfield, htake⟩ := Section.exists_take_of_fit hg hvalue
        rcases generateSection_cases hfield htake with
          ⟨rfl, n, hn, -⟩ | ⟨rfl, i, hi, -⟩ | ⟨rfl, path, hpath, -⟩ | ⟨rfl, path, hpath, -⟩ |
            ⟨rfl, n, hn, -⟩
        · exact ⟨.count n, Flag.key?_inj rfl hkey, hn⟩
        · exact ⟨.seed i, Flag.key?_inj rfl hkey, hi⟩
        · exact ⟨.out path, Flag.key?_inj rfl hkey, hpath⟩
        · exact ⟨.training path, Flag.key?_inj rfl hkey, hpath⟩
        · exact ⟨.maxDepth n, Flag.key?_inj rfl hkey, hn⟩
      · exact absurd hname (show "generate" ≠ "bench" by decide)
  | bench =>
      rcases harnessSection_cases hfield htake with ⟨hname, -⟩ | ⟨-, b, hb, -⟩
      · exact absurd hname (show "bench" ≠ "generate" by decide)
      · obtain ⟨take, before, after, hfield, htake⟩ := Section.exists_take_of_fit hb hvalue
        rcases benchSection_cases hfield htake with
          ⟨rfl, path, hpath, -⟩ | ⟨rfl, n, hn, -⟩ | ⟨rfl, paths, hpaths, -⟩
        · exact ⟨.tool path, Flag.key?_inj rfl hkey, hpath⟩
        · exact ⟨.runs n, Flag.key?_inj rfl hkey, hn⟩
        · exact ⟨.dirs paths, Flag.key?_inj rfl hkey, hpaths⟩

end Fields
end SampleForge
