import SampleForge.Proofs.CommandLine.Arguments

/-!
# Reading a command line

`LineOf` says which words name a command and give it arguments: in any order, and those that every
command knows before the name or behind it.

Every such line is accepted, and what is read does not depend on the order of the arguments nor on the
side they stand on: `read_line` names the invocation by the arguments alone.  `Scanner.HasRead` is what
holds between two arguments, `exists_scan_argument` takes in one more, and `exists_scan_arguments` all of
them.
-/

namespace SampleForge.CommandLine

/-- The word that brings up a flag. -/
def Flag.word (flag : Flag) : String := "--" ++ flag.name

/-- The words of arguments, each behind the word of its flag. -/
inductive Spelled : List Argument → List String → Prop
  | nil : Spelled [] []
  | cons {a : Argument} {args : List Argument} {values words : List String} (value : a.Valued values)
      (rest : Spelled args words) : Spelled (a :: args) (a.flag.word :: (values ++ words))

/-- The words for the commands. -/
inductive Names : String → Scope → Prop
  | generate : Names "generate" .generate
  | bench : Names "bench" .bench
  | verify : Names "verify" .verify

/-- A command line with the name of a command and arguments of it, no flag twice. -/
inductive LineOf (scope : Scope) (args : List Argument) : List String → Prop
  | intro {name : String} {before after : List Argument} {top inner : List String}
      (command : Names name scope) (order : (before ++ after).Perm args)
      (flags : (args.map Argument.flag).Nodup) (known : ∀ a ∈ args, a.flag ∈ scope.flags)
      (general : ∀ a ∈ before, a.flag = .debug ∨ a.flag = .config)
      (top_words : Spelled before top) (inner_words : Spelled after inner) :
      LineOf scope args (top ++ name :: inner)

variable {scope : Scope} {s : Scanner} {a : Argument} {args done : List Argument}
  {values words rest : List String}

/-! ## What words look like -/

section Words

variable {text : String} {c : Char} {cs : List Char}

theorem Word.of_flag (flag : Flag) : Word.of flag.word = .long flag.name none := by
  cases flag <;> decide

theorem Word.of_cons (htext : text.toList = c :: cs) (hc : c ≠ '-') : Word.of text = .plain := by
  unfold Word.of
  rw [htext]
  split <;> simp_all

theorem Word.of_isPath (h : IsPath text) : Word.of text = .plain := by
  cases htext : text.toList with
  | nil => exact absurd (String.toList_eq_nil_iff.1 htext) h.nonempty
  | cons c cs =>
      refine Word.of_cons htext ?_
      rintro rfl
      have hhead := h.unsigned
      rw [htext] at hhead
      exact hhead rfl

theorem Word.of_decimal {n : Nat} (h : Text.DecimalNumeral text.toList n) :
    Word.of text = .plain := by
  cases htext : text.toList with
  | nil => exact absurd htext h.nonempty
  | cons c cs =>
      rw [htext] at h
      exact Word.of_cons htext (h.head_ne (by decide))

theorem Word.of_unsigned {n : Nat} (h : Text.UnsignedNumeral text.toList n) :
    Word.of text = .plain := by
  generalize htext : text.toList = cs at h
  cases h with
  | plain h => exact Word.of_decimal (htext ▸ h)
  | plus h => exact Word.of_cons htext (by decide)

theorem looksLikeNumber_of_digits {atStart : Bool} (h : ∀ c ∈ cs, c.isDigit = true) :
    looksLikeNumber atStart false false cs = true := by
  induction cs generalizing atStart with
  | nil => rfl
  | cons c cs ih =>
      rw [looksLikeNumber, if_pos (h c List.mem_cons_self)]
      exact ih fun c hc => h c (List.mem_cons_of_mem _ hc)

/-- A word that an open flag takes as a value. -/
def Flag.Takes (flag : Flag) (text : String) : Prop :=
  Word.of text = .plain ∨
    flag.allowsNegativeNumbers = true ∧
      ∃ letters, Word.of text = .short letters ∧ looksLikeNumber true false false letters = true

theorem Flag.takes_of_signed {i : Int} (h : Text.SignedNumeral text.toList i) :
    Flag.seed.Takes text := by
  generalize htext : text.toList = cs at h
  cases h with
  | plain h => exact .inl (Word.of_decimal (htext ▸ h))
  | plus h => exact .inl (Word.of_cons htext (by decide))
  | @minus cs n h =>
      refine .inr ⟨rfl, cs, ?_, looksLikeNumber_of_digits h.digits⟩
      cases cs with
      | nil => exact absurd rfl h.nonempty
      | cons c cs =>
          have hc : c ≠ '-' := h.head_ne (by decide)
          unfold Word.of
          rw [htext]
          split <;> simp_all

theorem Argument.Valued.takes (h : a.Valued values) (htext : text ∈ values) : a.flag.Takes text := by
  cases h with
  | debug => cases htext
  | config hpath | out hpath | training hpath | tool hpath =>
      rw [List.mem_singleton.1 htext]
      exact .inl (Word.of_isPath hpath)
  | count hnumeral | maxDepth hnumeral | runs hnumeral =>
      rw [List.mem_singleton.1 htext]
      exact .inl (Word.of_unsigned hnumeral)
  | seed hnumeral =>
      rw [List.mem_singleton.1 htext]
      exact Flag.takes_of_signed hnumeral
  | dirs hpaths => exact .inl (Word.of_isPath (hpaths text htext))
  | format shown =>
      rw [List.mem_singleton.1 htext]
      refine .inl ?_
      cases shown <;> decide

theorem Argument.Valued.eq_nil_of_arity_none (h : a.Valued values) (harity : a.flag.arity = .none) :
    values = [] := by
  cases h with
  | debug => rfl
  | _ => cases harity

theorem Argument.Valued.exists_eq_of_arity_one (h : a.Valued values)
    (harity : a.flag.arity = .one) : ∃ text, values = [text] := by
  cases h with
  | debug | dirs => cases harity
  | _ => exact ⟨_, rfl⟩

end Words

/-! ## Taking in one argument -/

theorem Scope.find?_flags {flag : Flag} (h : flag ∈ scope.flags) :
    scope.flags.find? (fun f => f.name = flag.name) = some flag := by
  cases scope <;> cases flag <;> first | rfl | exact absurd h (by decide)

theorem Scope.subcommand?_flag (scope : Scope) (flag : Flag) :
    scope.subcommand? flag.word = none := by
  cases scope
  · cases flag <;> decide
  all_goals rfl

/-- A word that is no command and not two dashes leads on to the words after it. -/
theorem scan_cons {s' : Scanner} {text : String}
    (hcommand : (if s.awaiting then none else scope.subcommand? text) = none)
    (hescape : Word.of text ≠ .escape) (hword : s.word scope text = .ok s') :
    scan scope s (text :: rest) = scan scope s' rest := by
  rw [scan, hcommand]
  simp only [if_neg hescape, hword]
  rfl

theorem scan_flag {s' : Scanner} {flag : Flag} (hknown : flag ∈ scope.flags)
    (hflag : s.flag flag none = .ok s') :
    scan scope s (flag.word :: rest) = scan scope s' rest := by
  refine scan_cons ?_ ?_ ?_
  · rw [scope.subcommand?_flag, ite_self]
  · rw [Word.of_flag]
    exact nofun
  · simp only [Scanner.word, Word.of_flag, Scope.find?_flags hknown]
    exact hflag

/-- An open flag that awaits a value takes the word. -/
theorem scan_value {flag : Flag} {earlier : List String} {text : String}
    (hawaiting : s.awaiting = true) (hpending : s.pending = some (flag, earlier))
    (htakes : flag.Takes text) : scan scope s (text :: rest) = scan scope (s.push text) rest := by
  refine scan_cons (if_pos hawaiting) ?_ ?_
  · rcases htakes with hplain | ⟨-, letters, hshort, -⟩
    · rw [hplain]
      exact nofun
    · rw [hshort]
      exact nofun
  · rcases htakes with hplain | ⟨hnegative, letters, hshort, hnumber⟩
    · simp only [Scanner.word, hplain, if_pos hawaiting]
    · have htaken : s.takesNumber letters = true := by
        simp [Scanner.takesNumber, hawaiting, hpending, hnegative, hnumber]
      simp only [Scanner.word, hshort, if_pos htaken]

namespace Scanner

/-- The scanner that has settled arguments. -/
def settledOf (done : List Argument) : Scanner :=
  ⟨valuesOf done, (done.map Argument.flag).reverse, none, false⟩

/-- Settled arguments and an open flag with its values. -/
def opened (done : List Argument) (flag : Flag) (values : List String) (awaiting : Bool) : Scanner :=
  { settledOf done with pending := some (flag, values.reverse), awaiting := awaiting }

/-- What holds between arguments: those that have been read are settled, or will be next.  Only a flag
that takes any number of values may await more of them. -/
structure HasRead (s : Scanner) (done : List Argument) : Prop where
  settle : s.settle = .ok (settledOf done)
  awaiting : (∀ a ∈ done, a.flag.arity ≠ .any) → s.awaiting = false

theorem hasRead_start : start.HasRead [] := ⟨rfl, fun _ => rfl⟩

/-- The words of an argument of a new flag are accepted. -/
theorem accept_settledOf (hvalue : a.Valued values) (hnew : a.flag ∉ done.map Argument.flag) :
    (settledOf done).accept a.flag values = .ok (settledOf (done ++ [a])) := by
  have hgiven : ¬ (a.flag.arity = .one ∧ values.isEmpty = true) := by
    rintro ⟨hone, hempty⟩
    obtain ⟨text, rfl⟩ := hvalue.exists_eq_of_arity_one hone
    cases hempty
  have honce : ¬ (a.flag.arity ≠ .any ∧ a.flag ∈ (settledOf done).settled) :=
    fun h => hnew (List.mem_reverse.1 h.2)
  have htake : (settledOf done).given.take a.flag values = .ok (valuesOf (done ++ [a])) := by
    rw [valuesOf_concat]
    exact FlagValues.take_of_valued hvalue
  have hsettled : settledOf (done ++ [a]) =
      ⟨valuesOf (done ++ [a]), a.flag :: (done.map Argument.flag).reverse, none, false⟩ := by
    rw [settledOf, List.map_append, List.reverse_append]
    rfl
  rw [accept, if_neg hgiven, if_neg honce, htake, hsettled]
  rfl

theorem settle_opened {awaiting : Bool} (hvalue : a.Valued values)
    (hnew : a.flag ∉ done.map Argument.flag) :
    (opened done a.flag values awaiting).settle = .ok (settledOf (done ++ [a])) := by
  change (settledOf done).accept a.flag values.reverse.reverse = _
  rw [List.reverse_reverse]
  exact accept_settledOf hvalue hnew

/-- An open flag that takes any number of values takes them all. -/
theorem scan_opened_any {flag : Flag} {taken : List String} (hany : flag.arity = .any)
    (htakes : ∀ text ∈ values, flag.Takes text) :
    scan scope (opened done flag taken true) (values ++ rest) =
      scan scope (opened done flag (taken ++ values) true) rest := by
  induction values generalizing taken with
  | nil => rw [List.append_nil, List.nil_append]
  | cons text values ih =>
      have hpush : (opened done flag taken true).push text =
          opened done flag (taken ++ [text]) true := by
        simp [opened, push, hany]
      rw [List.cons_append, scan_value rfl rfl (htakes text List.mem_cons_self), hpush,
        ih fun text htext => htakes text (List.mem_cons_of_mem _ htext), List.append_assoc]
      rfl

section Flag

variable {flag : Flag} {t : Scanner}

theorem flag_of_arity_none (harity : flag.arity = .none) (hsettle : s.settle = .ok t) :
    s.flag flag none = t.accept flag [] := by
  unfold Scanner.flag
  rw [harity, hsettle]
  rfl

theorem flag_of_arity_ne_none (harity : flag.arity ≠ .none)
    (hsettle : s.settle = .ok (settledOf done)) :
    s.flag flag none = .ok (opened done flag [] true) := by
  unfold Scanner.flag
  cases hcase : flag.arity with
  | none => exact absurd hcase harity
  | one =>
      rw [hsettle]
      rfl
  | any =>
      rw [hsettle]
      rfl

end Flag

/-- One more argument is taken in. -/
theorem HasRead.exists_scan_argument (h : s.HasRead done) (hvalue : a.Valued values)
    (hknown : a.flag ∈ scope.flags) (hnew : a.flag ∉ done.map Argument.flag) :
    ∃ s' : Scanner, s'.HasRead (done ++ [a]) ∧
      ∀ rest, scan scope s (a.flag.word :: (values ++ rest)) = scan scope s' rest := by
  cases harity : a.flag.arity with
  | none =>
      -- Without values it is settled at once.
      obtain rfl := hvalue.eq_nil_of_arity_none harity
      refine ⟨settledOf (done ++ [a]), ⟨rfl, fun _ => rfl⟩, fun rest => scan_flag hknown ?_⟩
      rw [flag_of_arity_none harity h.settle, accept_settledOf hvalue hnew]
  | one =>
      obtain ⟨text, rfl⟩ := hvalue.exists_eq_of_arity_one harity
      refine ⟨opened done a.flag [text] false, ⟨settle_opened hvalue hnew, fun _ => rfl⟩,
        fun rest => ?_⟩
      have hflag : s.flag a.flag none = .ok (opened done a.flag [] true) :=
        flag_of_arity_ne_none (by rw [harity]; decide) h.settle
      have hpush : (opened done a.flag [] true).push text = opened done a.flag [text] false := by
        simp [opened, push, harity]
      rw [scan_flag hknown hflag, List.singleton_append,
        scan_value rfl rfl (hvalue.takes List.mem_cons_self), hpush]
  | any =>
      refine ⟨opened done a.flag values true, ⟨settle_opened hvalue hnew, fun hne => ?_⟩,
        fun rest => ?_⟩
      · exact absurd harity (hne a (List.mem_append_right done List.mem_cons_self))
      · have hflag : s.flag a.flag none = .ok (opened done a.flag [] true) :=
          flag_of_arity_ne_none (by rw [harity]; decide) h.settle
        rw [scan_flag hknown hflag, scan_opened_any harity fun text => hvalue.takes]
        rfl

/-! ## Taking in all arguments -/

theorem HasRead.exists_scan_arguments (h : s.HasRead done) (hwords : Spelled args words)
    (hknown : ∀ a ∈ args, a.flag ∈ scope.flags) (hnew : ((done ++ args).map Argument.flag).Nodup) :
    ∃ s' : Scanner, s'.HasRead (done ++ args) ∧
      ∀ rest, scan scope s (words ++ rest) = scan scope s' rest := by
  induction hwords generalizing s done with
  | nil => exact ⟨s, (List.append_nil done).symm ▸ h, fun rest => rfl⟩
  | @cons a args values words hvalue hrest ih =>
      have hfirst : a.flag ∉ done.map Argument.flag := by
        rw [List.map_append, List.nodup_append] at hnew
        exact fun hmem => hnew.2.2 a.flag hmem a.flag List.mem_cons_self rfl
      obtain ⟨t, ht, hargument⟩ := h.exists_scan_argument hvalue (hknown a List.mem_cons_self) hfirst
      rw [List.append_cons] at hnew
      obtain ⟨s', hs', harguments⟩ :=
        ih ht (fun b hb => hknown b (List.mem_cons_of_mem a hb)) hnew
      refine ⟨s', List.append_cons done a args ▸ hs', fun rest => ?_⟩
      rw [List.cons_append, List.append_assoc, hargument, harguments]

theorem exists_scan_start (hwords : Spelled args words) (hknown : ∀ a ∈ args, a.flag ∈ scope.flags)
    (hflags : (args.map Argument.flag).Nodup) :
    ∃ s : Scanner, s.HasRead args ∧ ∀ rest, scan scope start (words ++ rest) = scan scope s rest :=
  hasRead_start.exists_scan_arguments hwords hknown hflags

end Scanner

/-! ## Reading a line -/

section Lines

variable {name : String} {before after : List Argument} {given given' : FlagValues}

theorem LineOf.nodup_flags (h : LineOf scope args words) : (args.map Argument.flag).Nodup := by
  cases h with
  | intro command order flags known => exact flags

theorem LineOf.flag_mem (h : LineOf scope args words) (ha : a ∈ args) : a.flag ∈ scope.flags := by
  cases h with
  | intro command order flags known => exact known a ha

theorem Names.subcommand?_eq (h : Names name scope) :
    Scope.top.subcommand? name = some (.run scope) := by
  cases h <;> decide

theorem Names.exists_command (h : Names name scope) (given : FlagValues) :
    ∃ command, Command.of? scope given = some command := by
  cases h <;> exact ⟨_, rfl⟩

/-- A command is made of the arguments that not every command knows. -/
theorem Command.of?_congr (scope : Scope) (h : ∀ a : Argument, a.flag ≠ .debug → a.flag ≠ .config →
    (a.Holds given ↔ a.Holds given')) : Command.of? scope given = Command.of? scope given' := by
  have hgiven : given = { given' with debug := given.debug, config := given.config } := by
    refine FlagValues.ext_of_holds fun a => ?_
    cases a with
    | debug | config => exact Iff.rfl
    | _ => exact h _ nofun nofun
  rw [hgiven]
  cases scope <;> rfl

/-- Arguments of different flags, cut in two. -/
theorem holds_valuesOf_split (order : (before ++ after).Perm args)
    (hflags : (args.map Argument.flag).Nodup) :
    a.Holds (valuesOf args) ↔ a.Holds (valuesOf after) ∨ a.Holds (valuesOf before) := by
  have hsplit : ((before ++ after).map Argument.flag).Nodup :=
    (order.map Argument.flag).nodup_iff.2 hflags
  rw [List.map_append, List.nodup_append] at hsplit
  rw [holds_valuesOf_iff hflags, holds_valuesOf_iff hsplit.2.1, holds_valuesOf_iff hsplit.1,
    ← order.mem_iff, List.mem_append, or_comm]

/-- What the arguments before and behind the name of the command come to. -/
theorem Invocation.of_valuesOf (order : (before ++ after).Perm args)
    (hflags : (args.map Argument.flag).Nodup) (command : Command) :
    Invocation.of (valuesOf before) (valuesOf after) command =
      ⟨(valuesOf args).debug, (valuesOf args).config, command⟩ := by
  have hdebug : ((valuesOf before).debug || (valuesOf after).debug) = (valuesOf args).debug := by
    rw [Bool.or_comm, Bool.eq_iff_iff, Bool.or_eq_true]
    exact (holds_valuesOf_split (a := .debug) order hflags).symm
  have hconfig : ((valuesOf after).config <|> (valuesOf before).config) = (valuesOf args).config := by
    have hholds (path : String) : (valuesOf args).config = some path ↔
        (valuesOf after).config = some path ∨ (valuesOf before).config = some path :=
      holds_valuesOf_split (a := .config path) order hflags
    cases hafter : (valuesOf after).config with
    | some path => exact ((hholds path).2 (.inl hafter)).symm
    | none =>
        refine Option.ext fun path => ?_
        rw [hholds, hafter]
        simp
  rw [Invocation.of, hdebug, hconfig]

/-- A line is read in two parts: up to the name of its command, and from there on. -/
theorem Invocation.read_of_scan {top inner : Scanner} {command : Command}
    (htop : scan .top .start words = .ok (top, some (.run scope, rest)))
    (hinner : scan scope .start rest = .ok (inner, none)) (hbefore : top.HasRead before)
    (hafter : inner.HasRead after) (hcommand : Command.of? scope (valuesOf after) = some command) :
    Invocation.read words = .ok (.of (valuesOf before) (valuesOf after) command) := by
  rw [Invocation.read, htop]
  change (scan scope .start rest >>= _) = _
  rw [hinner]
  change (inner.settle >>= _) = _
  rw [hafter.settle]
  change (top.settle >>= _) = _
  rw [hbefore.settle]
  have hgiven : (Scanner.settledOf after).given = valuesOf after := rfl
  simp only [hgiven, hcommand]
  rfl

/-- A line is read as what its arguments say, whatever their order. -/
theorem read_line (h : LineOf scope args words) :
    ∃ command, Command.of? scope (valuesOf args) = some command ∧
      Invocation.read words = .ok ⟨(valuesOf args).debug, (valuesOf args).config, command⟩ := by
  obtain @⟨name, before, after, topWords, innerWords, hname, order, hflags, hknown, hgeneral, htop,
    hinner⟩ := h
  have hsplit : ((before ++ after).map Argument.flag).Nodup :=
    (order.map Argument.flag).nodup_iff.2 hflags
  rw [List.map_append, List.nodup_append] at hsplit
  obtain ⟨hbefore, hafter, -⟩ := hsplit
  have htopKnown (a : Argument) (ha : a ∈ before) : a.flag ∈ Scope.top.flags := by
    rcases hgeneral a ha with hflag | hflag <;> rw [hflag] <;> decide
  have hinnerKnown (a : Argument) (ha : a ∈ after) : a.flag ∈ scope.flags :=
    hknown a (order.mem_iff.1 (List.mem_append_right before ha))
  obtain ⟨top, hreadTop, hscanTop⟩ := Scanner.exists_scan_start htop htopKnown hbefore
  obtain ⟨inner, hreadInner, hscanInner⟩ := Scanner.exists_scan_start hinner hinnerKnown hafter
  -- No flag before the name awaits it as a further value.
  have hawaiting : top.awaiting = false := by
    refine hreadTop.awaiting fun a ha => ?_
    rcases hgeneral a ha with hflag | hflag <;> rw [hflag] <;> decide
  have hreached : scan .top .start (topWords ++ name :: innerWords) =
      .ok (top, some (.run scope, innerWords)) := by
    rw [hscanTop, scan, hawaiting, if_neg Bool.false_ne_true, hname.subcommand?_eq]
  have hended : scan scope .start innerWords = .ok (inner, none) := by
    rw [← List.append_nil innerWords, hscanInner]
    rfl
  obtain ⟨command, hcommand⟩ := hname.exists_command (valuesOf after)
  refine ⟨command, ?_, ?_⟩
  · rw [← hcommand]
    refine Command.of?_congr scope fun a hdebug hconfig => ?_
    have hbefore : ¬ a.Holds (valuesOf before) := by
      rw [holds_valuesOf_iff hbefore]
      exact fun ha => (hgeneral a ha).elim hdebug hconfig
    rw [holds_valuesOf_split order hflags, or_iff_left hbefore]
  · rw [Invocation.read_of_scan hreached hended hreadTop hreadInner hcommand,
      Invocation.of_valuesOf order hflags]

end Lines
end SampleForge.CommandLine
