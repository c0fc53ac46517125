import SampleForge.Proofs.Expr.Rendering

/-!
# The grammar of printed expressions

A sum is a term or a term, ` + ` and a sum; a term is a numeral without superfluous zeros or a sum
in parentheses.  `SumText` relates a parse to the text it parses, all of it.  The grammar is
unambiguous: a parse determines its text, and the text determines the parse even when further text
follows, as long as that could not belong to it (`FlatSum.text_append_inj`).
-/

namespace SampleForge

open Text

mutual

/-- A numeral or a sum in parentheses. -/
inductive FlatTerm where
  | numeral (value : UInt32)
  | group (inner : FlatSum)

/-- Terms with plus signs between them, at least one. -/
inductive FlatSum where
  | last (term : FlatTerm)
  | plus (term : FlatTerm) (rest : FlatSum)

end

mutual

/-- The text parses as the term. -/
inductive TermText : FlatTerm → List Char → Prop
  | numeral {value : UInt32} {cs : List Char} (h : CanonicalNumeral cs value.toNat) :
      TermText (.numeral value) cs
  | group {inner : FlatSum} {cs : List Char} (h : SumText inner cs) :
      TermText (.group inner) ('(' :: (cs ++ [')']))

/-- The text parses as the sum. -/
inductive SumText : FlatSum → List Char → Prop
  | last {term : FlatTerm} {cs : List Char} (h : TermText term cs) : SumText (.last term) cs
  | plus {term : FlatTerm} {rest : FlatSum} {cs ds : List Char} (h : TermText term cs)
      (hrest : SumText rest ds) : SumText (.plus term rest) (cs ++ plusSign ++ ds)

end

/-! ## The text of a parse -/

mutual

def FlatTerm.text : FlatTerm → List Char
  | .numeral value => digits value.toNat
  | .group inner => '(' :: (inner.text ++ [')'])

def FlatSum.text : FlatSum → List Char
  | .last term => term.text
  | .plus term rest => term.text ++ plusSign ++ rest.text

end

mutual

theorem TermText.eq_text {term : FlatTerm} {cs : List Char} (h : TermText term cs) :
    cs = term.text := by
  cases h with
  | numeral h =>
      rw [FlatTerm.text]
      exact canonicalNumeral_iff.1 h
  | group h => rw [FlatTerm.text, ← h.eq_text]

theorem SumText.eq_text {sum : FlatSum} {cs : List Char} (h : SumText sum cs) :
    cs = sum.text := by
  cases h with
  | last h =>
      rw [FlatSum.text]
      exact h.eq_text
  | plus h hrest => rw [FlatSum.text, ← h.eq_text, ← hrest.eq_text]

end

mutual

theorem termText_text (term : FlatTerm) : TermText term term.text := by
  cases term with
  | numeral value =>
      rw [FlatTerm.text]
      exact .numeral (canonicalNumeral_iff.2 rfl)
  | group inner =>
      rw [FlatTerm.text]
      exact .group (sumText_text inner)

theorem sumText_text (sum : FlatSum) : SumText sum sum.text := by
  cases sum with
  | last term =>
      rw [FlatSum.text]
      exact .last (termText_text term)
  | plus term rest =>
      rw [FlatSum.text]
      exact .plus (termText_text term) (sumText_text rest)

end

/-- A parse has one text. -/
theorem sumText_iff {sum : FlatSum} {cs : List Char} : SumText sum cs ↔ cs = sum.text := by
  constructor
  · exact SumText.eq_text
  · rintro rfl
    exact sumText_text sum

/-! ## One parse only -/

/-- What may follow a term: no digit, which would lengthen its last numeral. -/
def EndsTerm (rest : List Char) : Prop :=
  ∀ c ∈ rest.head?, c.isDigit = false

/-- What may follow a sum: nothing that lengthens its last term, and no further term. -/
structure EndsSum (rest : List Char) : Prop where
  term : EndsTerm rest
  sign : ¬ plusSign <+: rest

theorem endsSum_nil : EndsSum [] :=
  ⟨by simp [EndsTerm], by decide⟩

theorem endsSum_close (rest : List Char) : EndsSum (')' :: rest) := by
  constructor
  · simp [EndsTerm]
  · rintro ⟨tail, htail⟩
    cases htail

theorem endsTerm_plusSign (rest : List Char) : EndsTerm (plusSign ++ rest) := by
  simp [EndsTerm, plusSign]

/-- A numeral and a parenthesis begin differently. -/
theorem digits_append_ne_open (n : Nat) (rest rest' : List Char) :
    digits n ++ rest ≠ '(' :: rest' := by
  intro h
  obtain ⟨c, cs, hcs, hc⟩ := exists_digits_cons n
  rw [hcs, List.cons_append] at h
  obtain ⟨rfl, -⟩ := List.cons.inj h
  exact absurd hc (by decide)

mutual

/-- The text of a term determines the term and where its text ends. -/
theorem FlatTerm.text_append_inj (term term' : FlatTerm) {rest rest' : List Char}
    (hrest : EndsTerm rest) (hrest' : EndsTerm rest') (h : term.text ++ rest = term'.text ++ rest') :
    term = term' ∧ rest = rest' := by
  cases term with
  | numeral value =>
      cases term' with
      | numeral value' =>
          rw [FlatTerm.text, FlatTerm.text] at h
          obtain ⟨hvalue, htail⟩ := digits_append_inj hrest hrest' h
          exact ⟨congrArg FlatTerm.numeral (UInt32.toNat_inj.1 hvalue), htail⟩
      | group inner' =>
          rw [FlatTerm.text, FlatTerm.text] at h
          exact absurd h (digits_append_ne_open _ _ _)
  | group inner =>
      cases term' with
      | numeral value' =>
          rw [FlatTerm.text, FlatTerm.text] at h
          exact absurd h.symm (digits_append_ne_open _ _ _)
      | group inner' =>
          rw [FlatTerm.text, FlatTerm.text] at h
          have hinner : inner.text ++ ')' :: rest = inner'.text ++ ')' :: rest' := by
            simpa using (List.cons.inj h).2
          obtain ⟨rfl, htail⟩ :=
            inner.text_append_inj inner' (endsSum_close rest) (endsSum_close rest') hinner
          exact ⟨rfl, (List.cons.inj htail).2⟩

/-- The text of a sum determines the sum and where its text ends. -/
theorem FlatSum.text_append_inj (sum sum' : FlatSum) {rest rest' : List Char}
    (hrest : EndsSum rest) (hrest' : EndsSum rest') (h : sum.text ++ rest = sum'.text ++ rest') :
    sum = sum' ∧ rest = rest' := by
  cases sum with
  | last term =>
      cases sum' with
      | last term' =>
          rw [FlatSum.text, FlatSum.text] at h
          obtain ⟨rfl, htail⟩ := term.text_append_inj term' hrest.term hrest'.term h
          exact ⟨rfl, htail⟩
      | plus term' more' =>
          -- The first term is the same, and then only one side goes on with a sign.
          rw [FlatSum.text, FlatSum.text, List.append_assoc, List.append_assoc] at h
          obtain ⟨-, htail⟩ := term.text_append_inj term' hrest.term (endsTerm_plusSign _) h
          exact absurd ⟨_, htail.symm⟩ hrest.sign
  | plus term more =>
      cases sum' with
      | last term' =>
          rw [FlatSum.text, FlatSum.text, List.append_assoc, List.append_assoc] at h
          obtain ⟨-, htail⟩ := term.text_append_inj term' (endsTerm_plusSign _) hrest'.term h
          exact absurd ⟨_, htail⟩ hrest'.sign
      | plus term' more' =>
          rw [FlatSum.text, FlatSum.text, List.append_assoc, List.append_assoc, List.append_assoc,
            List.append_assoc] at h
          obtain ⟨rfl, htail⟩ :=
            term.text_append_inj term' (endsTerm_plusSign _) (endsTerm_plusSign _) h
          obtain ⟨rfl, hend⟩ :=
            more.text_append_inj more' hrest hrest' (List.append_cancel_left htail)
          exact ⟨rfl, hend⟩

end

theorem FlatSum.text_injective {sum sum' : FlatSum} (h : sum.text = sum'.text) : sum = sum' :=
  (sum.text_append_inj sum' endsSum_nil endsSum_nil (by rw [h])).1

end SampleForge
