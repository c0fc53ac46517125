import Mathlib.Data.String.Basic
import Mathlib.Data.List.TakeWhile
import SampleForge.Proofs.Files.Joining

/-!
# The paths of entries

Programs put the name of an entry behind the path of its directory and go on with the whole path.  What
they ask of the path they could have asked of the name: its components are those of the directory and
then the name, `exists_components_joinPath`, so paths of one directory are in the order of their names,
its file name is the name, and its extension is that of the name.

A name has an extension exactly if it ends in a dot and the extension and has something in front of
that, `nameExtension?_eq_some_iff`.
-/

namespace SampleForge.Files

variable {dir : String}

/-! ## Components -/

theorem Name.ne_empty (name : Name) : name.text ≠ "" := name.isName.1

theorem Name.ne_dot (name : Name) : name.text ≠ "." := name.isName.2.1

theorem Name.ne_dots (name : Name) : name.text ≠ ".." := name.isName.2.2.1

theorem Name.ne_separator (name : Name) : name.text ≠ "/" := by
  intro heq
  refine name.separator_not_mem ?_
  rw [heq]
  decide

/-- All paths of one directory have the same components but for the last one. -/
theorem exists_components_joinPath (dir : String) :
    ∃ absolute names, ∀ name : Name,
      components (joinPath dir name.text) = ⟨absolute, names ++ [name.text]⟩ := by
  obtain ⟨before, hbefore⟩ := exists_splitPath_joinPath dir
  let isPlain : String → Bool := fun piece => piece ≠ "" && piece ≠ "."
  have hplain : ∀ name : Name,
      (before ++ [name.text]).filter isPlain = before.filter isPlain ++ [name.text] := by
    intro name
    have hname : isPlain name.text = true := by simp [isPlain, name.ne_empty, name.ne_dot]
    rw [List.filter_append, List.filter_cons_of_pos hname, List.filter_nil]
  -- A dot at the beginning is not the name, so it stands in front of all the names or of none.
  have hfirst : ∀ name : Name, (before ++ [name.text]).head? = some "." ↔ before.head? = some "." := by
    intro name
    cases before with
    | nil => simpa using name.ne_dot
    | cons piece before => simp
  by_cases habsolute : isAbsolute dir = true
  · refine ⟨true, before.filter isPlain, fun name => ?_⟩
    rw [components, hbefore, if_pos (by rw [isAbsolute_joinPath, habsolute])]
    exact congrArg _ (hplain name)
  by_cases hdot : before.head? = some "."
  · refine ⟨false, "." :: before.filter isPlain, fun name => ?_⟩
    rw [components, hbefore, if_neg (by rwa [isAbsolute_joinPath]),
      if_pos ((hfirst name).2 hdot)]
    exact congrArg (fun names => (⟨false, "." :: names⟩ : Components)) (hplain name)
  · refine ⟨false, before.filter isPlain, fun name => ?_⟩
    rw [components, hbefore, if_neg (by rwa [isAbsolute_joinPath]),
      if_neg (fun h => hdot ((hfirst name).1 h))]
    exact congrArg _ (hplain name)

/-! ## Order -/

theorem componentsBefore_append (common as bs : List String) :
    componentsBefore (common ++ as) (common ++ bs) = componentsBefore as bs := by
  induction common with
  | nil => rfl
  | cons component common ih =>
      rw [List.cons_append, List.cons_append, componentsBefore, if_pos rfl, ih]

theorem Name.componentRank_text (name : Name) : componentRank name.text = 3 := by
  rw [componentRank, if_neg name.ne_separator, if_neg name.ne_dot, if_neg name.ne_dots]

theorem componentsBefore_singleton (name name' : Name) :
    componentsBefore [name.text] [name'.text] = decide (name.text < name'.text) := by
  by_cases heq : name.text = name'.text
  · have hnot : ¬ name.text < name'.text := by
      rw [heq]
      exact lt_irrefl _
    rw [componentsBefore, if_pos heq, decide_eq_false hnot]
    rfl
  · rw [componentsBefore, if_neg heq, componentBefore, name.componentRank_text,
      name'.componentRank_text, if_pos rfl]

theorem Components.list_append (absolute : Bool) (names : List String) (name : String) :
    Components.list ⟨absolute, names ++ [name]⟩ =
      Components.list ⟨absolute, names⟩ ++ [name] := by
  cases absolute <;> rfl

/-- The paths of one directory are in the order of their names. -/
theorem pathBefore_joinPath (dir : String) (name name' : Name) :
    pathBefore (joinPath dir name.text) (joinPath dir name'.text) =
      decide (name.text < name'.text) := by
  obtain ⟨absolute, names, hcomponents⟩ := exists_components_joinPath dir
  rw [pathBefore, hcomponents, hcomponents, Components.list_append, Components.list_append,
    componentsBefore_append, componentsBefore_singleton]

/-! ## Extensions -/

theorem fileName?_joinPath (dir : String) (name : Name) :
    fileName? (joinPath dir name.text) = some name.text := by
  obtain ⟨absolute, names, hcomponents⟩ := exists_components_joinPath dir
  rw [fileName?, hcomponents, List.getLast?_append, List.getLast?_singleton]
  simp [name.ne_dot, name.ne_dots]

/-- The path of an entry tells its name. -/
theorem joinPath_inj {name name' : Name} (h : joinPath dir name.text = joinPath dir name'.text) :
    name.text = name'.text := by
  have hfile := congrArg fileName? h
  rw [fileName?_joinPath, fileName?_joinPath] at hfile
  exact Option.some.inj hfile

theorem extension?_joinPath (dir : String) (name : Name) :
    extension? (joinPath dir name.text) = nameExtension? name.text := by
  rw [extension?, fileName?_joinPath, Option.bind_some]

theorem isExtensionChar_iff {c : Char} : isExtensionChar c = true ↔ c ≠ '.' := by
  rw [isExtensionChar, decide_eq_true_iff]

theorem not_isExtensionChar_dot : ¬ isExtensionChar '.' = true := by decide

/-- An extension stands behind the last dot, and something stands before that. -/
theorem nameExtension?_eq_some_iff {name extension : String} :
    nameExtension? name = some extension ↔ '.' ∉ extension.toList ∧
      ∃ before, before ≠ [] ∧ name.toList = before ++ '.' :: extension.toList := by
  have hreversed : ∀ {before ending : List Char}, name.toList = before ++ '.' :: ending ↔
      name.toList.reverse = ending.reverse ++ '.' :: before.reverse := by
    intro before ending
    rw [← List.reverse_inj]
    simp
  constructor
  · intro h
    have hparts := List.takeWhile_append_dropWhile (p := isExtensionChar) (l := name.toList.reverse)
    simp only [nameExtension?] at h
    cases hrest : name.toList.reverse.dropWhile isExtensionChar with
    | nil => simp [hrest] at h
    | cons dot behind =>
        cases behind with
        | nil => simp [hrest] at h
        | cons last others =>
            simp only [hrest, Option.some.injEq] at h
            have hending : extension.toList =
                (name.toList.reverse.takeWhile isExtensionChar).reverse := by
              rw [← h, String.toList_ofList]
            obtain rfl : dot = '.' := by
              have hdot := List.head?_dropWhile_not isExtensionChar name.toList.reverse
              rw [hrest] at hdot
              exact not_not.1 (isExtensionChar_iff.not.1 (Bool.eq_false_iff.1 hdot))
            refine ⟨?_, (last :: others).reverse, by simp, hreversed.2 ?_⟩
            · intro hmem
              rw [hending, List.mem_reverse] at hmem
              exact isExtensionChar_iff.1 (List.mem_takeWhile_imp hmem) rfl
            · rw [hending, List.reverse_reverse, List.reverse_reverse, ← hrest]
              exact hparts.symm
  · rintro ⟨hplain, before, hfilled, hname⟩
    have hends : ∀ c ∈ extension.toList.reverse, isExtensionChar c = true := by
      intro c hc
      refine isExtensionChar_iff.2 ?_
      rintro rfl
      exact hplain (List.mem_reverse.1 hc)
    obtain ⟨last, others, hbefore⟩ := List.exists_cons_of_ne_nil (List.reverse_ne_nil_iff.2 hfilled)
    have hrest : name.toList.reverse.dropWhile isExtensionChar = '.' :: last :: others := by
      rw [hreversed.1 hname, List.dropWhile_append_of_pos hends,
        List.dropWhile_cons_of_neg not_isExtensionChar_dot, hbefore]
    have hending : name.toList.reverse.takeWhile isExtensionChar = extension.toList.reverse := by
      rw [hreversed.1 hname, List.takeWhile_append_of_pos hends,
        List.takeWhile_cons_of_neg not_isExtensionChar_dot, List.append_nil]
    simp only [nameExtension?, hrest, hending, List.reverse_reverse, String.ofList_toList]

end SampleForge.Files
