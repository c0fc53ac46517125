import SampleForge.Proofs.Files.Walking

/-!
# Names behind a directory

A path that `joinPath` makes of a directory and a name has the pieces of the directory and then the
name, `exists_splitPath_joinPath`.  Whatever stands before the name is walked in the same way for every
name, so the walks to all names of one directory get to the same place before they differ,
`Leads.sharedParent`.  Two names of one directory therefore lead to two locations, unless one of them
is the name of a link: `namesLink_of_locate_eq`.
-/

namespace SampleForge.Files

/-! ## Pieces of a joined path -/

theorem splitStep_separator (parts : List (List Char)) : splitStep separator parts = [] :: parts :=
  if_pos rfl

theorem splitStep_cons_of_ne {c : Char} (hc : c ≠ separator) (part : List Char)
    (rest : List (List Char)) : splitStep c (part :: rest) = (c :: part) :: rest :=
  if_neg hc

/-- At the left end of two lists of parts only the first list changes. -/
theorem splitStep_append (c : Char) {parts : List (List Char)} (hne : parts ≠ [])
    (rest : List (List Char)) : splitStep c (parts ++ rest) = splitStep c parts ++ rest := by
  obtain ⟨part, parts, rfl⟩ := List.exists_cons_of_ne_nil hne
  by_cases hc : c = separator
  · rw [hc, splitStep_separator, splitStep_separator]
    rfl
  · rw [List.cons_append, splitStep_cons_of_ne hc, splitStep_cons_of_ne hc, List.cons_append]

theorem foldr_splitStep_ne_nil (cs : List Char) : cs.foldr splitStep [[]] ≠ [] := by
  induction cs with
  | nil => simp
  | cons c cs ih =>
      obtain ⟨part, parts, hparts⟩ := List.exists_cons_of_ne_nil ih
      rw [List.foldr_cons, hparts]
      by_cases hc : c = separator
      · simp [hc, splitStep_separator]
      · simp [splitStep_cons_of_ne hc]

/-- A separator cuts what stands before it from what stands behind it. -/
theorem foldr_splitStep_separator (cs ds : List Char) :
    (cs ++ separator :: ds).foldr splitStep [[]] =
      cs.foldr splitStep [[]] ++ ds.foldr splitStep [[]] := by
  induction cs with
  | nil =>
      rw [List.nil_append, List.foldr_cons, splitStep_separator]
      rfl
  | cons c cs ih =>
      rw [List.cons_append, List.foldr_cons, ih, splitStep_append c (foldr_splitStep_ne_nil cs),
        List.foldr_cons]

theorem foldr_splitStep_of_not_mem {cs : List Char} (h : separator ∉ cs) :
    cs.foldr splitStep [[]] = [cs] := by
  induction cs with
  | nil => rfl
  | cons c cs ih =>
      obtain ⟨hc, hcs⟩ := not_or.1 (List.mem_cons.not.1 h)
      rw [List.foldr_cons, ih hcs, splitStep_cons_of_ne (Ne.symm hc)]

theorem Name.separator_not_mem (name : Name) : separator ∉ name.text.toList := by
  obtain ⟨-, -, -, hseparator, -⟩ := name.isName
  exact hseparator

theorem Name.splitPath_text (name : Name) : splitPath name.text = [name.text] := by
  rw [splitPath, foldr_splitStep_of_not_mem name.separator_not_mem]
  simp

theorem Name.isAbsolute_text (name : Name) : isAbsolute name.text = false := by
  refine decide_eq_false fun hfirst => ?_
  exact name.separator_not_mem (List.mem_of_mem_head? hfirst)

theorem Name.origin_text (name : Name) (here : Location) : Store.origin here name.text = here := by
  rw [Store.origin, name.isAbsolute_text, if_neg Bool.false_ne_true]

theorem joinPath_empty (name : Name) : joinPath "" name.text = name.text := by
  have hempty : "".isEmpty = true := rfl
  rw [joinPath, hempty, Bool.or_true, if_pos rfl]

theorem joinPath_of_ne_empty {dir : String} (hdir : dir ≠ "") (name : Name) :
    joinPath dir name.text =
      if dir.toList.getLast? = some separator then dir ++ name.text else dir ++ "/" ++ name.text := by
  have hfilled : dir.isEmpty = false := by simpa using hdir
  rw [joinPath, name.isAbsolute_text, hfilled, Bool.or_false, if_neg Bool.false_ne_true]

/-- One separator stands between a directory and a name. -/
theorem exists_toList_joinPath {dir : String} (hdir : dir ≠ "") :
    ∃ before, ∀ name : Name,
      (joinPath dir name.text).toList = before ++ separator :: name.text.toList := by
  by_cases hlast : dir.toList.getLast? = some separator
  · obtain ⟨before, hbefore⟩ := List.getLast?_eq_some_iff.1 hlast
    refine ⟨before, fun name => ?_⟩
    rw [joinPath_of_ne_empty hdir, if_pos hlast, String.toList_append, hbefore]
    simp
  · refine ⟨dir.toList, fun name => ?_⟩
    rw [joinPath_of_ne_empty hdir, if_neg hlast, String.toList_append, String.toList_append]
    simp [separator]

theorem exists_splitPath_joinPath (dir : String) :
    ∃ before, ∀ name : Name, splitPath (joinPath dir name.text) = before ++ [name.text] := by
  by_cases hdir : dir = ""
  · refine ⟨[], fun name => ?_⟩
    rw [hdir, joinPath_empty, name.splitPath_text, List.nil_append]
  · obtain ⟨before, hbefore⟩ := exists_toList_joinPath hdir
    refine ⟨(before.foldr splitStep [[]]).map String.ofList, fun name => ?_⟩
    rw [splitPath, hbefore, foldr_splitStep_separator, List.map_append, ← splitPath,
      name.splitPath_text]

theorem isAbsolute_joinPath (dir : String) (name : Name) :
    isAbsolute (joinPath dir name.text) = isAbsolute dir := by
  by_cases hdir : dir = ""
  · rw [hdir, joinPath_empty, name.isAbsolute_text]
    rfl
  · have hne : dir.toList ≠ [] := by simpa using hdir
    obtain ⟨c, cs, hcs⟩ := List.exists_cons_of_ne_nil hne
    rw [joinPath_of_ne_empty hdir, isAbsolute, isAbsolute]
    split
    · rw [String.toList_append, hcs]
      rfl
    · rw [String.toList_append, String.toList_append, hcs]
      rfl

namespace Store

variable {s : Store} {mode : LastName} {links : Nat} {here : Location} {pieces rest : List String}
  {name : Name} {place : Place}

/-! ## Walks to the names of one directory -/

theorem not_onlySeparators_name (pieces : List String) (name : Name) :
    onlySeparators (pieces ++ [name.text]) = false := by
  obtain ⟨hempty, -⟩ := name.isName
  simp [onlySeparators, hempty]

theorem allows_name (mode : LastName) (pieces : List String) (name : Name) :
    Allows mode (pieces ++ [name.text]) := by
  rintro ⟨-, hlast, -⟩
  rw [not_onlySeparators_name] at hlast
  contradiction

theorem not_meansEntry_name (pieces : List String) (name : Name) :
    ¬ MeansEntry mode (pieces ++ [name.text]) := by
  rintro ⟨-, hlast⟩
  rw [not_onlySeparators_name] at hlast
  contradiction

/-- All walks from `here` along the pieces get to one place before their last name. -/
def SharedParent (s : Store) (links : Nat) (here : Location) (pieces : List String) : Prop :=
  ∃ links' parent, ∀ (mode : LastName) (name : Name),
    s.walk mode links here (pieces ++ [name.text]) = s.walk mode links' parent [name.text]

theorem SharedParent.nil : SharedParent s links here [] :=
  ⟨links, here, fun _ _ => rfl⟩

/-- What holds further on holds before, if all walks go the same way up to there. -/
theorem SharedParent.of_advance {here' : Location} {pieces' : List String}
    (h : SharedParent s links here' pieces')
    (hadvance : ∀ (mode : LastName) (name : Name),
      s.advance mode here (pieces ++ [name.text]) = s.advance mode here' (pieces' ++ [name.text])) :
    SharedParent s links here pieces := by
  obtain ⟨links', parent, hwalk⟩ := h
  refine ⟨links', parent, fun mode name => ?_⟩
  rw [walk_eq_of_advance_eq (hadvance mode name), hwalk]

/-- A walk that ends behind a name shows the way to all other names. -/
theorem Leads.sharedParent (h : Leads s mode links here (pieces ++ [name.text]) place) :
    SharedParent s links here pieces := by
  generalize hpath : pieces ++ [name.text] = path at h
  induction h generalizing pieces with
  | arrived => simp at hpath
  | stay dir empty onward ih =>
      cases pieces with
      | nil => exact .nil
      | cons first pieces =>
          obtain ⟨rfl, hrest⟩ := List.cons.inj hpath
          exact (ih hrest).of_advance fun _ _ => advance_stay dir empty
  | up dir onward ih =>
      cases pieces with
      | nil => exact .nil
      | cons first pieces =>
          obtain ⟨rfl, hrest⟩ := List.cons.inj hpath
          exact (ih hrest).of_advance fun _ _ => advance_up dir
  | @missing links here entry rest dir allowed absent last =>
      cases pieces with
      | nil => exact .nil
      | cons first pieces =>
          -- A name that is missing is the last one.
          have hrest : pieces ++ [name.text] = rest := (List.cons.inj hpath).2
          rw [← hrest, not_onlySeparators_name] at last
          contradiction
  | entry dir meant present =>
      cases pieces with
      | nil => exact .nil
      | cons first pieces =>
          -- So is the name of an entry that is meant itself.
          obtain ⟨rfl, rfl⟩ := List.cons.inj hpath
          exact absurd meant (not_meansEntry_name pieces name)
  | enter dir allowed unmeant present solid onward ih =>
      cases pieces with
      | nil => exact .nil
      | cons first pieces =>
          obtain ⟨rfl, hrest⟩ := List.cons.inj hpath
          exact (ih hrest).of_advance fun mode' name' =>
            advance_enter dir (allows_name mode' pieces name') (not_meansEntry_name pieces name')
              present solid
  | @follow links here entry rest target place dir allowed unmeant present filled onward ih =>
      cases pieces with
      | nil => exact .nil
      | cons first pieces =>
          -- The pieces of the target come before those that are left.
          obtain ⟨rfl, rfl⟩ := List.cons.inj hpath
          obtain ⟨links', parent, hwalk⟩ := ih (List.append_assoc (splitPath target) pieces _)
          refine ⟨links', parent, fun mode' name' => ?_⟩
          have hlink := advance_follow dir (allows_name mode' pieces name')
            (not_meansEntry_name pieces name') present
          rw [← hwalk, List.cons_append, walk, hlink]
          simp only [if_neg filled, List.append_assoc]

/-! ## Names of links -/

/-- The last name of the path is that of a link. -/
def NamesLink (s : Store) (path : String) : Prop :=
  ∃ location target, s.resolve .entry path = .ok (.found location) ∧
    s.node? location = some (.link target)

/-- A last name that is not that of a link leads to the entry of that name. -/
theorem Leads.eq_of_name {parent location : Location}
    (h : Leads s .follow links parent [name.text] (.found location)) :
    location = name :: parent ∨ ∃ target, s.node? (name :: parent) = some (.link target) ∧
      s.walk .entry links parent [name.text] = .ok (.found (name :: parent)) := by
  have hadvance := exists_advance_of_walk h.walk_eq
  obtain ⟨progress, hprogress⟩ := hadvance
  have hdir := advance_cons_ok hprogress
  have hallowed := allows_nil .follow
  have hunmeant : ¬ MeansEntry .follow [] := not_meansEntry_of_ne (by decide) []
  cases hnode : s.node? (name :: parent) with
  | none =>
      have hmissing : Leads s .follow links parent [name.text] (.missing parent name false) :=
        .missing hdir hallowed hnode rfl
      cases h.unique hmissing
  | some node =>
      by_cases hsolid : ∀ target, node ≠ .link target
      · have hfound : Leads s .follow links parent [name.text] (.found (name :: parent)) :=
          .enter hdir hallowed hunmeant hnode hsolid .arrived
        exact .inl (Place.found.inj (h.unique hfound))
      · obtain ⟨target, htarget⟩ := not_forall.1 hsolid
        obtain rfl := not_not.1 htarget
        have hentry : MeansEntry .entry [] := ⟨rfl, rfl⟩
        exact .inr ⟨target, rfl, (Leads.entry hdir hentry hnode).walk_eq⟩

/-- A walk to a link goes on with its target. -/
theorem Leads.of_link {parent location : Location} {target : String}
    (h : Leads s .follow links parent [name.text] (.found location))
    (hlink : s.node? (name :: parent) = some (.link target)) :
    ∃ links', Leads s .follow links' (origin parent target) (splitPath target)
      (.found location) := by
  have hwalk := h.walk_eq
  obtain ⟨progress, hprogress⟩ := exists_advance_of_walk hwalk
  have hadvance := advance_follow (advance_cons_ok hprogress) (allows_nil .follow)
    (not_meansEntry_of_ne (by decide) []) hlink
  cases links with
  | zero => simp [walk, hadvance] at hwalk
  | succ links =>
      rw [walk, hadvance] at hwalk
      by_cases hempty : target = ""
      · simp [hempty] at hwalk
      · simp only [if_neg hempty, List.append_nil] at hwalk
        exact ⟨links, leads_of_walk hwalk⟩

/-- Two names of one directory lead to one location only through a link. -/
theorem namesLink_of_locate_eq {dir : String} {name name' : Name} {location : Location}
    (hne : name ≠ name') (h : s.locate (joinPath dir name.text) = .ok location)
    (h' : s.locate (joinPath dir name'.text) = .ok location) :
    s.NamesLink (joinPath dir name.text) ∨ s.NamesLink (joinPath dir name'.text) := by
  obtain ⟨hpath, hleads⟩ := resolve_eq_ok_iff.1 (locate_eq_ok_iff.1 h)
  obtain ⟨hpath', hleads'⟩ := resolve_eq_ok_iff.1 (locate_eq_ok_iff.1 h')
  obtain ⟨before, hbefore⟩ := exists_splitPath_joinPath dir
  have horigin : ∀ entry : Name,
      origin s.cwd (joinPath dir entry.text) = origin s.cwd dir := fun entry => by
    rw [origin, origin, isAbsolute_joinPath]
  rw [hbefore, horigin] at hleads hleads'
  obtain ⟨links, parent, hwalk⟩ := hleads.sharedParent
  -- A walk to the entry itself, once for each of the two names.
  have hlink : ∀ {entry : Name}, Admissible (joinPath dir entry.text) →
      (∃ target, s.node? (entry :: parent) = some (.link target) ∧
        s.walk .entry links parent [entry.text] = .ok (.found (entry :: parent))) →
      s.NamesLink (joinPath dir entry.text) := by
    rintro entry hadmissible ⟨target, hnode, hentry⟩
    refine ⟨entry :: parent, target, resolve_eq_ok_iff.2 ⟨hadmissible, ?_⟩, hnode⟩
    rw [hbefore, horigin, ← walk_eq_ok_iff, hwalk, hentry]
  rw [← walk_eq_ok_iff, hwalk, walk_eq_ok_iff] at hleads hleads'
  rcases hleads.eq_of_name with hhere | htarget
  · rcases hleads'.eq_of_name with hhere' | htarget'
    · exact absurd (List.cons.inj (hhere.symm.trans hhere')).1 hne
    · exact .inr (hlink hpath' htarget')
  · exact .inl (hlink hpath htarget)

end Store
end SampleForge.Files
