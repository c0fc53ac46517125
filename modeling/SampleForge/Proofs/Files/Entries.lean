import SampleForge.Proofs.Files.Joining

/-!
# What is in a directory

The names that are listed for a directory are those under which something stands in it, each of them
once.  Their paths are walked by way of the directory: a walk can be broken off behind any piece of a
path and goes on in the same way whatever the pieces after it are, `Leads.exists_middle`.  So the path
of an entry leads to a file if there is one under its name (`isRegularFile_joinPath`), and a path that
leads to an entry shows that there is a directory to hold it (`locate_dir_of_joinPath`).
-/

namespace SampleForge.Files.Store

variable {s : Store} {links : Nat} {here location : Location} {pieces rest : List String}
  {path dir : String} {name : Name}

theorem isDirectory_iff : s.isDirectory path = true ↔
    ∃ location, s.locate path = .ok location ∧ s.node? location = some .directory := by
  rw [isDirectory, decide_eq_true_iff, nodeAt?]
  cases s.locate path with
  | error error => simp
  | ok location => simp

theorem isRegularFile_iff : s.isRegularFile path = true ↔
    ∃ location content executable, s.locate path = .ok location ∧
      s.node? location = some (.file content executable) := by
  rw [isRegularFile, nodeAt?]
  cases s.locate path with
  | error error => simp
  | ok location =>
      cases hnode : s.node? location with
      | none => simp [hnode]
      | some node =>
          cases node with
          | directory => simp [hnode]
          | link target => simp [hnode]
          | file content executable => exact ⟨fun _ => ⟨location, content, executable, rfl, hnode⟩,
              fun _ => by simp [hnode]⟩

theorem exists?_of_isRegularFile (h : s.isRegularFile path = true) : s.exists? path = true := by
  obtain ⟨location, content, executable, hlocate, hnode⟩ := isRegularFile_iff.1 h
  rw [exists?, nodeAt?, hlocate]
  simp only [hnode, Option.isSome_some]

/-! ## Names in a directory -/

theorem mem_entriesAt {dir : Location} :
    name ∈ s.entriesAt dir ↔ (s.node? (name :: dir)).isSome = true := by
  have hnode : (s.node? (name :: dir)).isSome = true ↔ name :: dir ∈ s.nodes.keys := by
    rw [Std.HashMap.mem_keys, Std.HashMap.mem_iff_isSome_getElem?]
    rfl
  rw [hnode, entriesAt, List.mem_filterMap]
  constructor
  · rintro ⟨location, hmem, hname⟩
    cases location with
    | nil => cases hname
    | cons other parent =>
        by_cases hparent : parent = dir
        · simp only [if_pos hparent, Option.some.injEq] at hname
          rwa [← hname, ← hparent]
        · simp only [if_neg hparent] at hname
          cases hname
  · intro hmem
    exact ⟨name :: dir, hmem, if_pos rfl⟩

theorem nodup_entriesAt (s : Store) (dir : Location) : (s.entriesAt dir).Nodup := by
  refine List.Nodup.filterMap ?_ Std.HashMap.nodup_keys
  intro location location' name hname hname'
  -- A name and its directory make up the location.
  cases location with
  | nil => cases hname
  | cons first parent =>
      cases location' with
      | nil => cases hname'
      | cons first' parent' =>
          obtain ⟨rfl, hfirst⟩ := Option.mem_ite_none_right.1 hname
          obtain ⟨rfl, hfirst'⟩ := Option.mem_ite_none_right.1 hname'
          rw [Option.mem_some_iff.1 hfirst, Option.mem_some_iff.1 hfirst']

theorem entries_of_locate (hlocate : s.locate path = .ok location)
    (hdir : s.node? location = some .directory) :
    s.entries path = .ok ((s.entriesAt location).map Name.text) := by
  simp only [entries, hlocate, if_pos hdir]

/-! ## Walks by way of a directory -/

/-- A walk that ends can be broken off behind any of its pieces. -/
theorem Leads.exists_middle
    (h : Leads s .follow links here (pieces ++ rest) (.found location)) :
    ∃ links' middle, Leads s .follow links here pieces (.found middle) ∧
      ∀ rest', s.walk .follow links here (pieces ++ rest') = s.walk .follow links' middle rest' := by
  generalize hpath : pieces ++ rest = path at h
  generalize hplace : Place.found location = place at h
  have hunmeant : ∀ rest, ¬ MeansEntry .follow rest := not_meansEntry_of_ne (by decide)
  have hallowed : ∀ rest, Allows .follow rest := allows_of_ne (by decide)
  induction h generalizing pieces with
  | @arrived links here =>
      obtain ⟨rfl, -⟩ := List.append_eq_nil_iff.1 hpath
      exact ⟨links, here, .arrived, fun _ => rfl⟩
  | @stay links here piece _ _ dir empty onward ih =>
      cases pieces with
      | nil => exact ⟨links, here, .arrived, fun _ => rfl⟩
      | cons first pieces =>
          obtain ⟨rfl, hrest⟩ := List.cons.inj hpath
          obtain ⟨links', middle, hleads, hwalk⟩ := ih hrest hplace
          refine ⟨links', middle, .stay dir empty hleads, fun rest' => ?_⟩
          rw [← hwalk, List.cons_append, walk_eq_of_advance_eq (advance_stay dir empty)]
  | @up links here _ _ dir onward ih =>
      cases pieces with
      | nil => exact ⟨links, here, .arrived, fun _ => rfl⟩
      | cons first pieces =>
          obtain ⟨rfl, hrest⟩ := List.cons.inj hpath
          obtain ⟨links', middle, hleads, hwalk⟩ := ih hrest hplace
          refine ⟨links', middle, .up dir hleads, fun rest' => ?_⟩
          rw [← hwalk, List.cons_append, walk_eq_of_advance_eq (advance_up dir)]
  | missing dir allowed absent last => cases hplace
  | entry dir meant present => exact absurd meant (hunmeant _)
  | @enter links here entry _ node _ dir allowed unmeant present solid onward ih =>
      cases pieces with
      | nil => exact ⟨links, here, .arrived, fun _ => rfl⟩
      | cons first pieces =>
          obtain ⟨rfl, hrest⟩ := List.cons.inj hpath
          obtain ⟨links', middle, hleads, hwalk⟩ := ih hrest hplace
          refine ⟨links', middle, .enter dir (hallowed _) (hunmeant _) present solid hleads,
            fun rest' => ?_⟩
          rw [← hwalk, List.cons_append, walk_eq_of_advance_eq
            (advance_enter dir (hallowed _) (hunmeant _) present solid)]
  | @follow links here entry _ target _ dir allowed unmeant present filled onward ih =>
      cases pieces with
      | nil => exact ⟨links + 1, here, .arrived, fun _ => rfl⟩
      | cons first pieces =>
          -- The pieces of the target come before those that are left.
          obtain ⟨rfl, rfl⟩ := List.cons.inj hpath
          obtain ⟨links', middle, hleads, hwalk⟩ :=
            ih (List.append_assoc (splitPath target) pieces _) hplace
          refine ⟨links', middle,
            .follow dir (hallowed _) (hunmeant _) present filled hleads, fun rest' => ?_⟩
          rw [← hwalk, List.cons_append, walk,
            advance_follow dir (hallowed _) (hunmeant _) present]
          simp only [if_neg filled, List.append_assoc]

/-- A walk along an empty piece ends where it begins. -/
theorem eq_of_walk_empty {mode : LastName} (h : s.walk mode links here [""] = .ok (.found location)) :
    here = location := by
  obtain ⟨progress, hprogress⟩ := exists_advance_of_walk h
  have hstay : s.advance mode here [""] = s.advance mode here [] :=
    advance_stay (advance_cons_ok hprogress) (.inl rfl)
  have hhere : s.walk mode links here [] = .ok (.found here) := walk_of_arrived rfl links
  rw [walk_eq_of_advance_eq hstay, hhere] at h
  exact Place.found.inj (Except.ok.inj h)

/-- The pieces of a directory are those before the names in it, up to a separator at its end. -/
theorem splitPath_joinPath (hdir : dir ≠ "") :
    ∃ before, (splitPath dir = before ∨ splitPath dir = before ++ [""]) ∧
      ∀ name : Name, splitPath (joinPath dir name.text) = before ++ [name.text] := by
  by_cases hlast : dir.toList.getLast? = some separator
  · obtain ⟨before, hbefore⟩ := List.getLast?_eq_some_iff.1 hlast
    refine ⟨(before.foldr splitStep [[]]).map String.ofList, .inr ?_, fun name => ?_⟩
    · rw [splitPath, hbefore, foldr_splitStep_separator, List.map_append]
      rfl
    · have hpath : (joinPath dir name.text).toList = before ++ separator :: name.text.toList := by
        rw [joinPath_of_ne_empty hdir, if_pos hlast, String.toList_append, hbefore]
        simp
      rw [splitPath, hpath, foldr_splitStep_separator, List.map_append, ← splitPath,
        name.splitPath_text]
  · refine ⟨splitPath dir, .inl rfl, fun name => ?_⟩
    have hpath : (joinPath dir name.text).toList = dir.toList ++ separator :: name.text.toList := by
      rw [joinPath_of_ne_empty hdir, if_neg hlast, String.toList_append, String.toList_append]
      simp [separator]
    rw [splitPath, hpath, foldr_splitStep_separator, List.map_append, ← splitPath, ← splitPath,
      name.splitPath_text]

theorem origin_joinPath (here : Location) (dir : String) (name : Name) :
    origin here (joinPath dir name.text) = origin here dir := by
  rw [origin, origin, isAbsolute_joinPath]

/-- The entry of a directory is looked up from where the directory is. -/
theorem exists_walk_joinPath (hdir : s.locate dir = .ok location) :
    ∃ links', ∀ name : Name,
      s.walk .follow maxLinks (origin s.cwd dir) (splitPath (joinPath dir name.text)) =
        s.walk .follow links' location [name.text] := by
  obtain ⟨hadmissible, hleads⟩ := resolve_eq_ok_iff.1 (locate_eq_ok_iff.1 hdir)
  obtain ⟨before, hsplit, hjoined⟩ := splitPath_joinPath hadmissible.filled
  have hmiddle : ∃ links' middle,
      Leads s .follow maxLinks (origin s.cwd dir) (splitPath dir) (.found middle) ∧
        ∀ rest', s.walk .follow maxLinks (origin s.cwd dir) (before ++ rest') =
          s.walk .follow links' middle rest' := by
    rcases hsplit with heq | heq
    · rw [heq] at hleads ⊢
      rw [← List.append_nil before] at hleads
      exact hleads.exists_middle
    · -- Behind the separator at its end the walk stays where it is.
      rw [heq] at hleads ⊢
      obtain ⟨links', middle, hbefore, hwalk⟩ := hleads.exists_middle
      have hlast := hleads.walk_eq
      rw [hwalk] at hlast
      obtain rfl := eq_of_walk_empty hlast
      exact ⟨links', middle, hleads, hwalk⟩
  obtain ⟨links', middle, hreached, hwalk⟩ := hmiddle
  obtain rfl := Place.found.inj (hreached.unique hleads)
  exact ⟨links', fun name => by rw [hjoined, hwalk]⟩

/-- The path of a file in a directory leads to it, if it is not too long to be looked up. -/
theorem locate_joinPath (hlocate : s.locate dir = .ok location)
    (hdir : s.node? location = some .directory) (hpath : Admissible (joinPath dir name.text))
    {node : Node} (hnode : s.node? (name :: location) = some node)
    (hsolid : ∀ target, node ≠ .link target) :
    s.locate (joinPath dir name.text) = .ok (name :: location) := by
  obtain ⟨links', hwalk⟩ := exists_walk_joinPath hlocate
  rw [locate_eq_ok_iff, resolve_eq_ok_iff, origin_joinPath, ← walk_eq_ok_iff, hwalk, walk_eq_ok_iff]
  exact ⟨hpath, .enter hdir (allows_nil _) (not_meansEntry_of_ne (by decide) _) hnode hsolid .arrived⟩

theorem isRegularFile_joinPath (hlocate : s.locate dir = .ok location)
    (hdir : s.node? location = some .directory) (hpath : Admissible (joinPath dir name.text))
    {content : ByteArray} {executable : Bool}
    (hfile : s.node? (name :: location) = some (.file content executable)) :
    s.isRegularFile (joinPath dir name.text) = true :=
  isRegularFile_iff.2 ⟨name :: location, content, executable,
    locate_joinPath hlocate hdir hpath hfile (Node.file_ne_link content executable), hfile⟩

/-- Whether the path of an entry that is no link is that of a file depends on the entry alone. -/
theorem isRegularFile_joinPath_iff (hlocate : s.locate dir = .ok location)
    (hdir : s.node? location = some .directory) {node : Node}
    (hnode : s.node? (name :: location) = some node) (hsolid : ∀ target, node ≠ .link target) :
    s.isRegularFile (joinPath dir name.text) = true ↔ Admissible (joinPath dir name.text) ∧
      ∃ content executable, node = .file content executable := by
  constructor
  · intro hfile
    obtain ⟨found, content, executable, hfound, hcontent⟩ := isRegularFile_iff.1 hfile
    obtain ⟨hpath, -⟩ := resolve_eq_ok_iff.1 (locate_eq_ok_iff.1 hfound)
    have hentry := locate_joinPath hlocate hdir hpath hnode hsolid
    obtain rfl := Except.ok.inj (hfound.symm.trans hentry)
    exact ⟨hpath, content, executable, Option.some.inj (hnode.symm.trans hcontent)⟩
  · rintro ⟨hpath, content, executable, rfl⟩
    exact isRegularFile_joinPath hlocate hdir hpath hnode

theorem Admissible.of_joinPath (hdir : dir ≠ "") (h : Admissible (joinPath dir name.text)) :
    Admissible dir := by
  have hsplit : ∃ behind, joinPath dir name.text = dir ++ behind := by
    rw [joinPath_of_ne_empty hdir]
    split
    · exact ⟨name.text, rfl⟩
    · exact ⟨"/" ++ name.text, String.append_assoc⟩
  obtain ⟨behind, hbehind⟩ := hsplit
  obtain ⟨-, hnul, hshort⟩ := h
  rw [hbehind, String.toList_append] at hnul
  rw [hbehind, String.utf8ByteSize_append] at hshort
  exact ⟨hdir, fun hmem => hnul (List.mem_append_left _ hmem), by omega⟩

/-- A path that leads to an entry of a directory shows that the directory is there. -/
theorem locate_dir_of_joinPath (hdir : dir ≠ "")
    (h : s.locate (joinPath dir name.text) = .ok location) :
    ∃ parent links', s.locate dir = .ok parent ∧ s.node? parent = some .directory ∧
      Leads s .follow links' parent [name.text] (.found location) := by
  obtain ⟨hpath, hleads⟩ := resolve_eq_ok_iff.1 (locate_eq_ok_iff.1 h)
  obtain ⟨before, hsplit, hjoined⟩ := splitPath_joinPath hdir
  rw [hjoined, origin_joinPath] at hleads
  obtain ⟨links', parent, hbefore, hwalk⟩ := hleads.exists_middle
  have hlast := hleads.walk_eq
  rw [hwalk] at hlast
  obtain ⟨progress, hprogress⟩ := exists_advance_of_walk hlast
  have hparent := advance_cons_ok hprogress
  -- Behind the separator at its end the walk to the directory stays where it is.
  have hdirectory : Leads s .follow maxLinks (origin s.cwd dir) (splitPath dir) (.found parent) := by
    rcases hsplit with heq | heq
    · rw [heq]
      exact hbefore
    · rw [heq, ← walk_eq_ok_iff, hwalk, walk_eq_ok_iff]
      exact .stay hparent (.inl rfl) .arrived
  exact ⟨parent, links', locate_eq_ok_iff.2 (resolve_eq_ok_iff.2
    ⟨Admissible.of_joinPath hdir hpath, hdirectory⟩), hparent, leads_of_walk hlast⟩

end SampleForge.Files.Store
