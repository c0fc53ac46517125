import SampleForge.Corpus.Reader
import SampleForge.Proofs.Text.Numerals

/-!
# What a header says

A line carries a key when, apart from white space around it, it is `# key=` followed by the value.
Only the first line that carries a key counts.  `HeaderReading` says what a list of header lines
amounts to: the earliest bad value if there is one, else the first key that no line carries, else
the two numbers.  The reader goes through the lines once and keeps what it has found;
`HeaderFields.Holds` is the invariant of that run, and `readHeader_eq_iff` the result.

Nothing here says which lines belong to the header.
-/

namespace SampleForge

open Text

/-- What stands before the value on a line that carries the key. -/
def HeaderKey.opening (key : HeaderKey) : List Char :=
  ("# " ++ key.name ++ "=").toList

/-- The line is `# key=value` with white space around it. -/
def Carries (key : HeaderKey) (value : List Char) (line : Line) : Prop :=
  trim line = key.opening ++ value

/-- The values a key may have: numerals of 64 bits, with sign for the seed and without for the
count. -/
def HeaderKey.Accepts : HeaderKey → List Char → Prop
  | .seed, value => ∃ seed : Int64, SignedNumeral value seed.toInt
  | .count, value => ∃ count : UInt64, UnsignedNumeral value count.toNat

/-- The line at `position` carries the key, and none before it does. -/
structure FirstCarrier (header : List Line) (key : HeaderKey) (position : Nat)
    (value : List Char) : Prop where
  carries : ∃ line, header[position]? = some line ∧ Carries key value line
  first : ∀ earlier < position, ∀ line, header[earlier]? = some line →
    ∀ other, ¬ Carries key other line

/-- The line that counts for the key holds no value of the key. -/
def BadCarrier (header : List Line) (key : HeaderKey) (position : Nat) (value : List Char) :
    Prop :=
  FirstCarrier header key position value ∧ ¬ key.Accepts value

/-- What the lines of a header amount to. -/
inductive HeaderReading (header : List Line) : Except CorpusFault Provenance → Prop
  | badValue {key : HeaderKey} {position : Nat} {value : List Char}
      (bad : BadCarrier header key position value)
      (earliest : ∀ key' position' value',
        BadCarrier header key' position' value' → position ≤ position') :
      HeaderReading header (.error (.badHeader key (String.ofList value)))
  | noSeed (good : ∀ key position value, ¬ BadCarrier header key position value)
      (absent : ∀ line ∈ header, ∀ value, ¬ Carries .seed value line) :
      HeaderReading header (.error (.noHeader .seed))
  | noCount {position : Nat} {value : List Char}
      (good : ∀ key position value, ¬ BadCarrier header key position value)
      (seed : FirstCarrier header .seed position value)
      (absent : ∀ line ∈ header, ∀ value, ¬ Carries .count value line) :
      HeaderReading header (.error (.noHeader .count))
  | values {seed : Int64} {count : UInt64} {atSeed atCount : Nat} {seedText countText : List Char}
      (seedLine : FirstCarrier header .seed atSeed seedText)
      (seedValue : SignedNumeral seedText seed.toInt)
      (countLine : FirstCarrier header .count atCount countText)
      (countValue : UnsignedNumeral countText count.toNat) :
      HeaderReading header (.ok ⟨seed, count⟩)

/-! ## Lines that carry a key -/

theorem after?_eq_some_iff {start cs rest : List Char} :
    after? start cs = some rest ↔ cs = start ++ rest := by
  unfold after?
  constructor
  · intro h
    by_cases hprefix : start.isPrefixOf cs = true
    · rw [if_pos hprefix] at h
      obtain ⟨tail, rfl⟩ := List.isPrefixOf_iff_prefix.1 hprefix
      rw [← Option.some.inj h, List.drop_left]
    · rw [if_neg hprefix] at h
      contradiction
  · rintro rfl
    rw [if_pos (List.isPrefixOf_iff_prefix.2 (List.prefix_append start rest)), List.drop_left]

theorem headerValue?_eq_some_iff {key : HeaderKey} {line : Line} {value : List Char} :
    headerValue? key line = some value ↔ Carries key value line :=
  after?_eq_some_iff

theorem headerValue?_eq_none_iff {key : HeaderKey} {line : Line} :
    headerValue? key line = none ↔ ∀ value, ¬ Carries key value line := by
  simp only [← headerValue?_eq_some_iff, Option.eq_none_iff_forall_ne_some, ne_eq]

/-- The two keys begin differently, so a line carries one key and one value at most. -/
theorem Carries.unique {key key' : HeaderKey} {value value' : List Char} {line : Line}
    (h : Carries key value line) (h' : Carries key' value' line) : key = key' ∧ value = value' := by
  have hline : key.opening ++ value = key'.opening ++ value' := h.symm.trans h'
  cases key <;> cases key' <;> simp [HeaderKey.opening, HeaderKey.name] at hline ⊢ <;>
    exact hline

theorem FirstCarrier.unique {header : List Line} {key : HeaderKey} {position position' : Nat}
    {value value' : List Char} (h : FirstCarrier header key position value)
    (h' : FirstCarrier header key position' value') : position = position' ∧ value = value' := by
  obtain ⟨line, hline, hcarries⟩ := h.carries
  obtain ⟨line', hline', hcarries'⟩ := h'.carries
  have hle : ¬ position < position' := fun hlt =>
    h'.first position hlt line hline value hcarries
  have hge : ¬ position' < position := fun hlt =>
    h.first position' hlt line' hline' value' hcarries'
  obtain rfl : position = position' := by omega
  rw [hline] at hline'
  obtain rfl := Option.some.inj hline'
  exact ⟨rfl, (hcarries.unique hcarries').2⟩

/-! ## The run over the lines -/

/-- What is known of a key after the lines of `header`: the number on its first line, or that no
line carries it. -/
def Found {α : Type} (header : List Line) (key : HeaderKey) (denotes : List Char → α → Prop) :
    Option α → Prop
  | some a => ∃ position value, FirstCarrier header key position value ∧ denotes value a
  | none => ∀ line ∈ header, ∀ value, ¬ Carries key value line

/-- Looks for one key on one line, unless the key is settled. -/
def settle {α : Type} (key : HeaderKey) (read : List Char → Option α) (found : Option α)
    (line : Line) : Except CorpusFault (Option α) :=
  match found with
  | some a => pure (some a)
  | none => readHeaderValue key read line

theorem HeaderFields.read_eq_settle (fields : HeaderFields) (line : Line) :
    fields.read line = (do
      let seed ← settle .seed readInt64? fields.seed line
      let count ← settle .count readUInt64? fields.count line
      pure ⟨seed, count⟩) := by
  obtain ⟨seed, count⟩ := fields
  cases seed <;> cases count <;> rfl

/-- A first line that counts stays so when lines follow. -/
theorem FirstCarrier.append {before : List Line} {key : HeaderKey} {position : Nat}
    {value : List Char} (h : FirstCarrier before key position value) (after : List Line) :
    FirstCarrier (before ++ after) key position value := by
  obtain ⟨line, hline, hcarries⟩ := h.carries
  have hlt : position < before.length := (List.getElem?_eq_some_iff.1 hline).1
  refine ⟨⟨line, by rw [List.getElem?_append_left hlt]; exact hline, hcarries⟩, ?_⟩
  intro earlier hearlier other hother
  rw [List.getElem?_append_left (hearlier.trans hlt)] at hother
  exact h.first earlier hearlier other hother

/-- The first line of a key, seen when it is reached. -/
theorem firstCarrier_of_absent {before : List Line} {key : HeaderKey} {value : List Char}
    {line : Line} (hbefore : ∀ l ∈ before, ∀ other, ¬ Carries key other l)
    (hline : Carries key value line) (after : List Line) :
    FirstCarrier (before ++ line :: after) key before.length value := by
  refine ⟨⟨line, by simp, hline⟩, ?_⟩
  intro earlier hearlier l hl
  rw [List.getElem?_append_left hearlier] at hl
  exact hbefore l (List.mem_of_getElem? hl)

section Settle

variable {α : Type} {key : HeaderKey} {read : List Char → Option α}
  {denotes : List Char → α → Prop} {before : List Line} {line : Line} {found found' : Option α}

/-- One line keeps what is known of a key up to date. -/
theorem Found.settle_ok (hread : ∀ value a, read value = some a ↔ denotes value a)
    (h : Found before key denotes found) (hrun : settle key read found line = .ok found') :
    Found (before ++ [line]) key denotes found' := by
  cases found with
  | some a =>
      obtain rfl : some a = found' := Except.ok.inj hrun
      obtain ⟨position, value, hfirst, hvalue⟩ := h
      exact ⟨position, value, hfirst.append [line], hvalue⟩
  | none =>
      simp only [settle, readHeaderValue] at hrun
      cases hline : headerValue? key line with
      | none =>
          rw [hline] at hrun
          obtain rfl : none = found' := Except.ok.inj hrun
          intro l hl
          rcases List.mem_append.1 hl with hl | hl
          · exact h l hl
          · rw [List.mem_singleton.1 hl]
            exact headerValue?_eq_none_iff.1 hline
      | some value =>
          rw [hline] at hrun
          cases hvalue : read value with
          | none => simp [hvalue] at hrun
          | some a =>
              obtain rfl : some a = found' := by simpa [hvalue] using hrun
              exact ⟨before.length, value,
                firstCarrier_of_absent h (headerValue?_eq_some_iff.1 hline) [],
                (hread value a).1 hvalue⟩

/-- A line fails a key only as the first line that carries it, and with a bad value. -/
theorem Found.settle_error {fault : CorpusFault}
    (hread : ∀ value a, read value = some a ↔ denotes value a)
    (h : Found before key denotes found) (hrun : settle key read found line = .error fault) :
    ∃ value, fault = .badHeader key (String.ofList value) ∧ (∀ a, ¬ denotes value a) ∧
      ∀ after, FirstCarrier (before ++ line :: after) key before.length value := by
  cases found with
  | some a => cases hrun
  | none =>
      simp only [settle, readHeaderValue] at hrun
      cases hline : headerValue? key line with
      | none => simp [hline] at hrun
      | some value =>
          cases hvalue : read value with
          | some a => simp [hline, hvalue] at hrun
          | none =>
              refine ⟨value, ?_, ?_, ?_⟩
              · simpa [hline, hvalue] using hrun.symm
              · intro a ha
                rw [(hread value a).2 ha] at hvalue
                contradiction
              · exact firstCarrier_of_absent h (headerValue?_eq_some_iff.1 hline)

/-- A key that is settled has no bad line. -/
theorem Found.denotes_of_firstCarrier {position : Nat} {value : List Char}
    (h : Found before key denotes found) (hfirst : FirstCarrier before key position value) :
    ∃ a, denotes value a := by
  cases found with
  | some a =>
      obtain ⟨position', value', hfirst', hvalue'⟩ := h
      rw [(hfirst.unique hfirst').2]
      exact ⟨a, hvalue'⟩
  | none =>
      obtain ⟨line, hline, hcarries⟩ := hfirst.carries
      exact absurd hcarries (h line (List.mem_of_getElem? hline) value)

end Settle

/-- The fields hold what the lines so far say of the two keys. -/
structure HeaderFields.Holds (fields : HeaderFields) (header : List Line) : Prop where
  seed : Found header .seed (fun value (a : Int64) => SignedNumeral value a.toInt) fields.seed
  count : Found header .count (fun value (a : UInt64) => UnsignedNumeral value a.toNat)
    fields.count

theorem HeaderFields.holds_nil : HeaderFields.Holds ⟨none, none⟩ [] :=
  ⟨by simp [Found], by simp [Found]⟩

theorem HeaderFields.Holds.good {fields : HeaderFields} {header : List Line}
    (h : fields.Holds header) (key : HeaderKey) (position : Nat) (value : List Char) :
    ¬ BadCarrier header key position value := by
  rintro ⟨hfirst, hbad⟩
  cases key with
  | seed => exact hbad (h.seed.denotes_of_firstCarrier hfirst)
  | count => exact hbad (h.count.denotes_of_firstCarrier hfirst)

/-- A step of the run. -/
theorem HeaderFields.Holds.read_ok {fields fields' : HeaderFields} {before : List Line}
    {line : Line} (h : fields.Holds before) (hrun : fields.read line = .ok fields') :
    fields'.Holds (before ++ [line]) := by
  rw [HeaderFields.read_eq_settle] at hrun
  cases hseed : settle .seed readInt64? fields.seed line with
  | error fault => rw [hseed] at hrun; cases hrun
  | ok seed =>
      cases hcount : settle .count readUInt64? fields.count line with
      | error fault => rw [hseed, hcount] at hrun; cases hrun
      | ok count =>
          rw [hseed, hcount] at hrun
          obtain rfl : ⟨seed, count⟩ = fields' := Except.ok.inj hrun
          exact ⟨h.seed.settle_ok (fun _ _ => readInt64?_eq_some_iff) hseed,
            h.count.settle_ok (fun _ _ => readUInt64?_eq_some_iff) hcount⟩

/-- A step that fails does so at a bad value. -/
theorem HeaderFields.Holds.read_error {fields : HeaderFields} {before : List Line}
    {line : Line} {fault : CorpusFault} (h : fields.Holds before)
    (hrun : fields.read line = .error fault) :
    ∃ key value, fault = .badHeader key (String.ofList value) ∧
      ∀ after, BadCarrier (before ++ line :: after) key before.length value := by
  rw [HeaderFields.read_eq_settle] at hrun
  cases hseed : settle .seed readInt64? fields.seed line with
  | error fault' =>
      rw [hseed] at hrun
      obtain rfl : fault' = fault := Except.error.inj hrun
      obtain ⟨value, hfault, hbad, hfirst⟩ :=
        h.seed.settle_error (fun _ _ => readInt64?_eq_some_iff) hseed
      exact ⟨.seed, value, hfault, fun after => ⟨hfirst after, fun ⟨a, ha⟩ => hbad a ha⟩⟩
  | ok seed =>
      cases hcount : settle .count readUInt64? fields.count line with
      | ok count => rw [hseed, hcount] at hrun; cases hrun
      | error fault' =>
          rw [hseed, hcount] at hrun
          obtain rfl : fault' = fault := Except.error.inj hrun
          obtain ⟨value, hfault, hbad, hfirst⟩ :=
            h.count.settle_error (fun _ _ => readUInt64?_eq_some_iff) hcount
          exact ⟨.count, value, hfault, fun after => ⟨hfirst after, fun ⟨a, ha⟩ => hbad a ha⟩⟩

/-- A run that reaches the end has settled every line. -/
theorem HeaderFields.Holds.run_ok {fields fields' : HeaderFields} {before rest : List Line}
    (h : fields.Holds before) (hrun : rest.foldlM HeaderFields.read fields = .ok fields') :
    fields'.Holds (before ++ rest) := by
  -- Each line moves from the rest to what is settled.
  induction rest generalizing fields before with
  | nil =>
      obtain rfl : fields = fields' := Except.ok.inj hrun
      simpa using h
  | cons line rest ih =>
      rw [List.foldlM_cons] at hrun
      cases hline : fields.read line with
      | error fault => rw [hline] at hrun; cases hrun
      | ok next =>
          rw [hline] at hrun
          simpa using ih (h.read_ok hline) hrun

/-- A run that fails has settled every line before the one it fails at. -/
theorem HeaderFields.Holds.run_error {fields : HeaderFields} {before rest : List Line}
    {fault : CorpusFault} (h : fields.Holds before)
    (hrun : rest.foldlM HeaderFields.read fields = .error fault) :
    ∃ (settled : List Line) (line : Line) (after : List Line) (fields' : HeaderFields),
      rest = settled ++ line :: after ∧ fields'.Holds (before ++ settled) ∧
        fields'.read line = .error fault := by
  induction rest generalizing fields before with
  | nil => cases hrun
  | cons line rest ih =>
      rw [List.foldlM_cons] at hrun
      cases hline : fields.read line with
      | error fault' =>
          rw [hline] at hrun
          obtain rfl : fault' = fault := Except.error.inj hrun
          exact ⟨[], line, rest, fields, rfl, by simpa using h, hline⟩
      | ok next =>
          rw [hline] at hrun
          obtain ⟨settled, stop, after, fields', rfl, hholds, hstop⟩ :=
            ih (h.read_ok hline) hrun
          exact ⟨line :: settled, stop, after, fields', rfl, by simpa using hholds, hstop⟩

/-! ## The reader and the reading -/

/-- A bad line in front of all that follows is a bad line of what stands up to it. -/
theorem BadCarrier.restrict {before after : List Line} {key : HeaderKey} {position : Nat}
    {value : List Char} (h : BadCarrier (before ++ after) key position value)
    (hlt : position < before.length) : BadCarrier before key position value := by
  obtain ⟨⟨⟨line, hline, hcarries⟩, hfirst⟩, hbad⟩ := h
  rw [List.getElem?_append_left hlt] at hline
  refine ⟨⟨⟨line, hline, hcarries⟩, ?_⟩, hbad⟩
  intro earlier hearlier other hother
  refine hfirst earlier hearlier other ?_
  rw [List.getElem?_append_left (hearlier.trans hlt)]
  exact hother

theorem headerReading_readHeader (header : List Line) :
    HeaderReading header (readHeader header) := by
  unfold readHeader
  cases hrun : header.foldlM HeaderFields.read ⟨none, none⟩ with
  | ok fields =>
      have hholds := HeaderFields.holds_nil.run_ok hrun
      rw [List.nil_append] at hholds
      obtain ⟨seed, count⟩ := fields
      cases seed with
      | none => exact .noSeed hholds.good hholds.seed
      | some seed =>
          obtain ⟨atSeed, seedText, hseedLine, hseedValue⟩ := hholds.seed
          cases count with
          | none => exact .noCount hholds.good hseedLine hholds.count
          | some count =>
              obtain ⟨atCount, countText, hcountLine, hcountValue⟩ := hholds.count
              exact .values hseedLine hseedValue hcountLine hcountValue
  | error fault =>
      obtain ⟨settled, line, after, fields, rfl, hholds, hstop⟩ :=
        HeaderFields.holds_nil.run_error hrun
      rw [List.nil_append] at hholds
      obtain ⟨key, value, rfl, hbad⟩ := hholds.read_error hstop
      refine .badValue (hbad after) ?_
      intro key' position' value' hbad'
      by_contra hlt
      -- An earlier bad line would be one of the settled lines, and those are good.
      exact hholds.good key' position' value' (hbad'.restrict (by omega))

theorem BadCarrier.unique {header : List Line} {key key' : HeaderKey} {position : Nat}
    {value value' : List Char} (h : BadCarrier header key position value)
    (h' : BadCarrier header key' position value') : key = key' ∧ value = value' := by
  obtain ⟨line, hline, hcarries⟩ := h.1.carries
  obtain ⟨line', hline', hcarries'⟩ := h'.1.carries
  rw [hline] at hline'
  obtain rfl := Option.some.inj hline'
  exact hcarries.unique hcarries'

theorem FirstCarrier.not_absent {header : List Line} {key : HeaderKey} {position : Nat}
    {value : List Char} (h : FirstCarrier header key position value) :
    ¬ ∀ line ∈ header, ∀ other, ¬ Carries key other line := by
  intro habsent
  obtain ⟨line, hline, hcarries⟩ := h.carries
  exact habsent line (List.mem_of_getElem? hline) value hcarries

/-- Two good values leave no room for a bad one. -/
theorem FirstCarrier.good_of_accepts {header : List Line} {atSeed atCount : Nat}
    {seedText countText : List Char} (hseed : FirstCarrier header .seed atSeed seedText)
    (hseedText : HeaderKey.seed.Accepts seedText)
    (hcount : FirstCarrier header .count atCount countText)
    (hcountText : HeaderKey.count.Accepts countText) (key : HeaderKey) (position : Nat)
    (value : List Char) : ¬ BadCarrier header key position value := by
  rintro ⟨hfirst, hbad⟩
  cases key with
  | seed =>
      rw [(hfirst.unique hseed).2] at hbad
      exact hbad hseedText
  | count =>
      rw [(hfirst.unique hcount).2] at hbad
      exact hbad hcountText

/-- A header amounts to one outcome only. -/
theorem HeaderReading.unique {header : List Line} {outcome outcome' : Except CorpusFault Provenance}
    (h : HeaderReading header outcome) (h' : HeaderReading header outcome') :
    outcome = outcome' := by
  -- Each kind of outcome excludes the others, so the mixed cases are all contradictions.
  cases h with
  | badValue bad earliest =>
      cases h' with
      | badValue bad' earliest' =>
          have hle := earliest _ _ _ bad'
          have hge := earliest' _ _ _ bad
          obtain rfl := Nat.le_antisymm hle hge
          obtain ⟨rfl, rfl⟩ := bad.unique bad'
          rfl
      | noSeed good' => exact absurd bad (good' _ _ _)
      | noCount good' => exact absurd bad (good' _ _ _)
      | values seedLine' seedValue' countLine' countValue' =>
          exact absurd bad
            (seedLine'.good_of_accepts ⟨_, seedValue'⟩ countLine' ⟨_, countValue'⟩ _ _ _)
  | noSeed good absent =>
      cases h' with
      | badValue bad' => exact absurd bad' (good _ _ _)
      | noSeed => rfl
      | noCount _ seed' => exact absurd absent seed'.not_absent
      | values seedLine' => exact absurd absent seedLine'.not_absent
  | noCount good seed absent =>
      cases h' with
      | badValue bad' => exact absurd bad' (good _ _ _)
      | noSeed _ absent' => exact absurd absent' seed.not_absent
      | noCount => rfl
      | values _ _ countLine' => exact absurd absent countLine'.not_absent
  | values seedLine seedValue countLine countValue =>
      cases h' with
      | badValue bad' =>
          exact absurd bad'
            (seedLine.good_of_accepts ⟨_, seedValue⟩ countLine ⟨_, countValue⟩ _ _ _)
      | noSeed _ absent' => exact absurd absent' seedLine.not_absent
      | noCount _ _ absent' => exact absurd absent' countLine.not_absent
      | values seedLine' seedValue' countLine' countValue' =>
          rw [← (seedLine.unique seedLine').2] at seedValue'
          rw [← (countLine.unique countLine').2] at countValue'
          have hseed := (readInt64?_eq_some_iff.2 seedValue).symm.trans
            (readInt64?_eq_some_iff.2 seedValue')
          have hcount := (readUInt64?_eq_some_iff.2 countValue).symm.trans
            (readUInt64?_eq_some_iff.2 countValue')
          rw [Option.some.inj hseed, Option.some.inj hcount]

/-- The reader follows the reading and nothing else. -/
theorem readHeader_eq_iff {header : List Line} {outcome : Except CorpusFault Provenance} :
    readHeader header = outcome ↔ HeaderReading header outcome := by
  constructor
  · rintro rfl
    exact headerReading_readHeader header
  · intro h
    exact (headerReading_readHeader header).unique h

end SampleForge
