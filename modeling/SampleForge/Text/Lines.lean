/-!
# Lines

`lines` cuts a text at its line feeds.  A carriage return directly before a line feed belongs to the
line end; any other carriage return belongs to its line.  A text that ends with a line feed has no
empty line after it, and the empty text has no line at all.
-/

namespace SampleForge.Text

/-- Puts a character in front of the first line, which is made if there is none. -/
def consLine (c : Char) : List (List Char) → List (List Char)
  | [] => [[c]]
  | line :: rest => (c :: line) :: rest

/-- One step of cutting from the right.  The flag says that a line feed comes next. -/
def lineStep (c : Char) (state : Bool × List (List Char)) : Bool × List (List Char) :=
  if c = '\n' then (true, [] :: state.2)
  else if c = '\r' ∧ state.1 = true then (false, state.2)
  else (false, consLine c state.2)

/-- The lines of a text, without their line ends. -/
def lines (cs : List Char) : List (List Char) :=
  (cs.foldr lineStep (false, [])).2

@[simp] theorem lines_nil : lines [] = [] := rfl

@[simp] theorem lines_cons_feed (cs : List Char) : lines ('\n' :: cs) = [] :: lines cs := by
  simp [lines, lineStep]

@[simp] theorem lines_cons_return_feed (cs : List Char) :
    lines ('\r' :: '\n' :: cs) = [] :: lines cs := by
  simp [lines, lineStep]

/-- The flag of the cut is set exactly in front of a line feed. -/
theorem foldr_lineStep_fst (cs : List Char) :
    (cs.foldr lineStep (false, [])).1 = true ↔ cs.head? = some '\n' := by
  cases cs with
  | nil => simp
  | cons c cs =>
    simp only [List.foldr_cons, lineStep, List.head?_cons, Option.some.injEq]
    by_cases feed : c = '\n'
    · simp [feed]
    · by_cases back : c = '\r' ∧ (cs.foldr lineStep (false, [])).1 = true <;> simp [feed, back]

/-- Any other character belongs to the first line. -/
theorem lines_cons_of_ne {c : Char} {cs : List Char} (feed : c ≠ '\n')
    (back : ¬(c = '\r' ∧ cs.head? = some '\n')) : lines (c :: cs) = consLine c (lines cs) := by
  have flag : ¬(c = '\r' ∧ (cs.foldr lineStep (false, [])).1 = true) := by
    rw [foldr_lineStep_fst]; exact back
  simp [lines, lineStep, feed, flag]

end SampleForge.Text
