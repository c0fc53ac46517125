import Mathlib.Tactic
import SampleForge.Files.Access

/-!
# Walks along a path

`Leads s mode links here pieces place` says that a walk from `here` along the pieces of a path ends at
`place`, following `links` links at most.  Every rule is one piece of the path and names what the store
has to hold for it; a link puts the pieces of its target in front of those that are left.

A walk that ends is what `Store.walk` computes, `walk_eq_ok_iff`, and so there is one place at most.
Statements about what a path leads to are proved by induction on the walk.  Of the errors only that of a
name that is missing on the way is described.
-/

namespace SampleForge.Files

theorem Name.of?_eq_some_iff {text : String} {name : Name} :
    Name.of? text = some name ↔ text = name.text := by
  unfold Name.of?
  constructor
  · intro h
    by_cases hname : IsName text
    · rw [dif_pos hname] at h
      rw [← Option.some.inj h]
    · rw [dif_neg hname] at h
      contradiction
  · rintro rfl
    rw [dif_pos name.isName]

theorem Name.of?_text (name : Name) : Name.of? name.text = some name :=
  Name.of?_eq_some_iff.2 rfl

theorem Node.file_ne_link (content : ByteArray) (executable : Bool) (target : String) :
    Node.file content executable ≠ .link target := by
  intro heq
  cases heq

/-- The location of the last name, whether something is there or not. -/
def Place.location : Place → Location
  | .found location => location
  | .missing dir name _ => name :: dir

@[simp] theorem Place.location_found (location : Location) :
    (Place.found location).location = location := rfl

@[simp] theorem Place.location_missing (dir : Location) (name : Name) (slashed : Bool) :
    (Place.missing dir name slashed).location = name :: dir := rfl

namespace Store

variable {s : Store} {mode : LastName} {links : Nat} {here : Location} {pieces rest : List String}
  {name : Name} {place : Place}

/-- A file is not to be written under a name with a separator behind it. -/
abbrev Allows (mode : LastName) (rest : List String) : Prop :=
  ¬ (mode = .create ∧ onlySeparators rest = true ∧ rest ≠ [])

/-- The entry itself is meant, and its name is the last one. -/
abbrev MeansEntry (mode : LastName) (rest : List String) : Prop :=
  mode = .entry ∧ onlySeparators rest = true

theorem allows_of_ne (hmode : mode ≠ .create) (rest : List String) : Allows mode rest :=
  fun hforbidden => hmode hforbidden.1

theorem allows_nil (mode : LastName) : Allows mode [] :=
  fun hforbidden => hforbidden.2.2 rfl

theorem not_meansEntry_of_ne (hmode : mode ≠ .entry) (rest : List String) :
    ¬ MeansEntry mode rest :=
  fun hmeant => hmode hmeant.1

/-- The walk along the pieces ends at the place. -/
inductive Leads (s : Store) (mode : LastName) :
    Nat → Location → List String → Place → Prop
  | arrived {links : Nat} {here : Location} : Leads s mode links here [] (.found here)
  | stay {links : Nat} {here : Location} {piece : String} {rest : List String} {place : Place}
      (dir : s.node? here = some .directory) (empty : piece = "" ∨ piece = ".")
      (onward : Leads s mode links here rest place) :
      Leads s mode links here (piece :: rest) place
  | up {links : Nat} {here : Location} {rest : List String} {place : Place}
      (dir : s.node? here = some .directory) (onward : Leads s mode links here.tail rest place) :
      Leads s mode links here (".." :: rest) place
  | missing {links : Nat} {here : Location} {name : Name} {rest : List String}
      (dir : s.node? here = some .directory) (allowed : Allows mode rest)
      (absent : s.node? (name :: here) = none) (last : onlySeparators rest = true) :
      Leads s mode links here (name.text :: rest) (.missing here name (rest ≠ []))
  | entry {links : Nat} {here : Location} {name : Name} {rest : List String} {node : Node}
      (dir : s.node? here = some .directory) (meant : MeansEntry mode rest)
      (present : s.node? (name :: here) = some node) :
      Leads s mode links here (name.text :: rest) (.found (name :: here))
  | enter {links : Nat} {here : Location} {name : Name} {rest : List String} {node : Node}
      {place : Place} (dir : s.node? here = some .directory) (allowed : Allows mode rest)
      (unmeant : ¬ MeansEntry mode rest) (present : s.node? (name :: here) = some node)
      (solid : ∀ target, node ≠ .link target)
      (onward : Leads s mode links (name :: here) rest place) :
      Leads s mode links here (name.text :: rest) place
  | follow {links : Nat} {here : Location} {name : Name} {rest : List String} {target : String}
      {place : Place} (dir : s.node? here = some .directory) (allowed : Allows mode rest)
      (unmeant : ¬ MeansEntry mode rest) (present : s.node? (name :: here) = some (.link target))
      (filled : target ≠ "")
      (onward : Leads s mode links (origin here target) (splitPath target ++ rest) place) :
      Leads s mode (links + 1) here (name.text :: rest) place

/-! ## One piece of a walk -/

theorem advance_stay {piece : String} (hdir : s.node? here = some .directory)
    (hpiece : piece = "" ∨ piece = ".") :
    s.advance mode here (piece :: rest) = s.advance mode here rest := by
  rw [advance, hdir]
  exact if_pos hpiece

theorem advance_up (hdir : s.node? here = some .directory) :
    s.advance mode here (".." :: rest) = s.advance mode here.tail rest := by
  rw [advance, hdir]
  simp

theorem advance_name (hdir : s.node? here = some .directory) (name : Name) :
    s.advance mode here (name.text :: rest) =
      s.step mode here name rest fun next => s.advance mode next rest := by
  obtain ⟨hempty, hdot, hdots, -⟩ := name.isName
  have hstay : ¬ (name.text = "" ∨ name.text = ".") := not_or.2 ⟨hempty, hdot⟩
  rw [advance, hdir]
  simp only [if_neg hstay, if_neg hdots, Name.of?_text]

theorem advance_missing (hdir : s.node? here = some .directory) (hallowed : Allows mode rest)
    (habsent : s.node? (name :: here) = none) (hlast : onlySeparators rest = true) :
    s.advance mode here (name.text :: rest) =
      .ok (.arrived (.missing here name (rest ≠ []))) := by
  rw [advance_name hdir]
  simp only [step, if_neg hallowed, habsent, if_pos hlast]

theorem advance_entry {node : Node} (hdir : s.node? here = some .directory)
    (hmeant : MeansEntry mode rest) (hpresent : s.node? (name :: here) = some node) :
    s.advance mode here (name.text :: rest) = .ok (.arrived (.found (name :: here))) := by
  have hallowed : ¬ (mode = .create ∧ onlySeparators rest = true ∧ rest ≠ []) := by
    rintro ⟨hcreate, -⟩
    rw [hmeant.1] at hcreate
    contradiction
  rw [advance_name hdir]
  cases node <;> simp only [step, if_neg hallowed, hpresent, if_pos hmeant]

theorem advance_enter {node : Node} (hdir : s.node? here = some .directory)
    (hallowed : Allows mode rest) (hunmeant : ¬ MeansEntry mode rest)
    (hpresent : s.node? (name :: here) = some node) (hsolid : ∀ target, node ≠ .link target) :
    s.advance mode here (name.text :: rest) = s.advance mode (name :: here) rest := by
  rw [advance_name hdir]
  cases node with
  | link target => exact absurd rfl (hsolid target)
  | directory => simp only [step, if_neg hallowed, hpresent, if_neg hunmeant]
  | file content executable => simp only [step, if_neg hallowed, hpresent, if_neg hunmeant]

theorem advance_follow {target : String} (hdir : s.node? here = some .directory)
    (hallowed : Allows mode rest) (hunmeant : ¬ MeansEntry mode rest)
    (hpresent : s.node? (name :: here) = some (.link target)) :
    s.advance mode here (name.text :: rest) = .ok (.link here target rest) := by
  rw [advance_name hdir]
  simp only [step, if_neg hallowed, hpresent, if_neg hunmeant]

/-- A walk depends on its beginning only through how far it gets before a link. -/
theorem walk_eq_of_advance_eq {here' : Location} {pieces' : List String}
    (h : s.advance mode here pieces = s.advance mode here' pieces') (links : Nat) :
    s.walk mode links here pieces = s.walk mode links here' pieces' := by
  cases links <;> simp only [walk, h]

theorem walk_of_arrived (h : s.advance mode here pieces = .ok (.arrived place)) (links : Nat) :
    s.walk mode links here pieces = .ok place := by
  cases links <;> simp only [walk, h]

/-- A name that is missing must be the last one. -/
theorem advance_absent (hdir : s.node? here = some .directory)
    (hlast : onlySeparators rest = false) (habsent : s.node? (name :: here) = none) :
    s.advance mode here (name.text :: rest) = .error .notFound := by
  have hallowed : ¬ (mode = .create ∧ onlySeparators rest = true ∧ rest ≠ []) := by
    rintro ⟨-, hlast', -⟩
    rw [hlast] at hlast'
    contradiction
  rw [advance_name hdir, step, if_neg hallowed]
  simp only [habsent, hlast, if_neg Bool.false_ne_true]

theorem walk_of_error {error : OsError} (h : s.advance mode here pieces = .error error)
    (links : Nat) : s.walk mode links here pieces = .error error := by
  cases links <;> simp only [walk, h]

/-! ## Walks and the function -/

theorem Leads.walk_eq (h : Leads s mode links here pieces place) :
    s.walk mode links here pieces = .ok place := by
  induction h with
  | arrived => exact walk_of_arrived rfl _
  | stay dir empty onward ih => rw [walk_eq_of_advance_eq (advance_stay dir empty), ih]
  | up dir onward ih => rw [walk_eq_of_advance_eq (advance_up dir), ih]
  | missing dir allowed absent last =>
      exact walk_of_arrived (advance_missing dir allowed absent last) _
  | entry dir meant present => exact walk_of_arrived (advance_entry dir meant present) _
  | enter dir allowed unmeant present solid onward ih =>
      rw [walk_eq_of_advance_eq (advance_enter dir allowed unmeant present solid), ih]
  | follow dir allowed unmeant present filled onward ih =>
      rw [walk, advance_follow dir allowed unmeant present]
      simp only [if_neg filled, ih]

/-- Only a directory has names to go on with. -/
theorem advance_cons_ok {piece : String} {progress : Progress}
    (h : s.advance mode here (piece :: rest) = .ok progress) :
    s.node? here = some .directory := by
  cases hnode : s.node? here with
  | none => simp [advance, hnode] at h
  | some node =>
      cases node with
      | directory => rfl
      | file content executable => simp [advance, hnode] at h
      | link target => simp [advance, hnode] at h

theorem exists_advance_of_walk (h : s.walk mode links here pieces = .ok place) :
    ∃ progress, s.advance mode here pieces = .ok progress := by
  cases hadvance : s.advance mode here pieces with
  | error error => cases links <;> simp [walk, hadvance] at h
  | ok progress => exact ⟨progress, rfl⟩

/-- A piece of a path is empty, one of the two special names, or a name. -/
theorem piece_cases {piece : String} {progress : Progress}
    (h : s.advance mode here (piece :: rest) = .ok progress) :
    (piece = "" ∨ piece = ".") ∨ piece = ".." ∨ ∃ name : Name, piece = name.text := by
  have hdir := advance_cons_ok h
  by_cases hstay : piece = "" ∨ piece = "."
  · exact .inl hstay
  by_cases hup : piece = ".."
  · exact .inr (.inl hup)
  cases hname : Name.of? piece with
  | none =>
      rw [advance, hdir] at h
      simp [hstay, hup, hname] at h
  | some name => exact .inr (.inr ⟨name, Name.of?_eq_some_iff.1 hname⟩)

theorem allows_of_advance {progress : Progress}
    (h : s.advance mode here (name.text :: rest) = .ok progress) : Allows mode rest := by
  intro hforbidden
  rw [advance_name (advance_cons_ok h), step, if_pos hforbidden] at h
  cases h

theorem last_of_advance {progress : Progress} (habsent : s.node? (name :: here) = none)
    (h : s.advance mode here (name.text :: rest) = .ok progress) :
    onlySeparators rest = true := by
  by_contra hlast
  have hallowed := allows_of_advance h
  rw [advance_name (advance_cons_ok h), step, if_neg hallowed] at h
  simp only [habsent, if_neg hlast] at h
  cases h

/-- What the function finds, a walk leads to. -/
theorem leads_of_walk : ∀ {links : Nat} {here : Location} {pieces : List String} {place : Place},
    s.walk mode links here pieces = .ok place → Leads s mode links here pieces place
  | links, here, [], place, h => by
      have hwalk : s.walk mode links here [] = .ok (.found here) := walk_of_arrived rfl links
      obtain rfl := Except.ok.inj (hwalk.symm.trans h)
      exact .arrived
  | links, here, piece :: rest, place, h => by
      obtain ⟨progress, hadvance⟩ := exists_advance_of_walk h
      have hdir := advance_cons_ok hadvance
      rcases piece_cases hadvance with hstay | rfl | ⟨name, rfl⟩
      · rw [walk_eq_of_advance_eq (advance_stay hdir hstay)] at h
        exact .stay hdir hstay (leads_of_walk h)
      · rw [walk_eq_of_advance_eq (advance_up hdir)] at h
        exact .up hdir (leads_of_walk h)
      -- The piece is a name; what stands there decides which rule it is.
      have hallowed := allows_of_advance hadvance
      cases hnode : s.node? (name :: here) with
      | none =>
          have hlast := last_of_advance hnode hadvance
          have hwalk := walk_of_arrived (advance_missing hdir hallowed hnode hlast) links
          obtain rfl := Except.ok.inj (hwalk.symm.trans h)
          exact .missing hdir hallowed hnode hlast
      | some node =>
          by_cases hmeant : MeansEntry mode rest
          · have hwalk := walk_of_arrived (advance_entry hdir hmeant hnode) links
            obtain rfl := Except.ok.inj (hwalk.symm.trans h)
            exact .entry hdir hmeant hnode
          by_cases hsolid : ∀ target, node ≠ .link target
          · rw [walk_eq_of_advance_eq (advance_enter hdir hallowed hmeant hnode hsolid)] at h
            exact .enter hdir hallowed hmeant hnode hsolid (leads_of_walk h)
          · obtain ⟨target, htarget⟩ := not_forall.1 hsolid
            obtain rfl := not_not.1 htarget
            -- A walk without links left, or along an empty link, is an error.
            cases links with
            | zero =>
                simp [walk, advance_follow hdir hallowed hmeant hnode] at h
            | succ links =>
                rw [walk, advance_follow hdir hallowed hmeant hnode] at h
                by_cases hempty : target = ""
                · simp [hempty] at h
                · simp only [if_neg hempty] at h
                  exact .follow hdir hallowed hmeant hnode hempty (leads_of_walk h)
  -- A link that is followed brings new pieces, but there is one link less to follow.
  termination_by links _ pieces => (links, pieces.length)

theorem walk_eq_ok_iff :
    s.walk mode links here pieces = .ok place ↔ Leads s mode links here pieces place :=
  ⟨leads_of_walk, Leads.walk_eq⟩

/-- A walk ends at one place. -/
theorem Leads.unique {place' : Place} (h : Leads s mode links here pieces place)
    (h' : Leads s mode links here pieces place') : place = place' :=
  Except.ok.inj (h.walk_eq.symm.trans h'.walk_eq)

/-- Nothing stands at a place that is missing. -/
theorem Leads.node?_of_missing {dir : Location} {slashed : Bool}
    (h : Leads s mode links here pieces (.missing dir name slashed)) :
    s.node? (name :: dir) = none := by
  generalize hplace : Place.missing dir name slashed = place at h
  induction h with
  | arrived => cases hplace
  | stay dir empty onward ih => exact ih hplace
  | up dir onward ih => exact ih hplace
  | missing dir allowed absent last =>
      obtain ⟨rfl, rfl, -⟩ := Place.missing.inj hplace
      exact absent
  | entry dir meant present => cases hplace
  | enter dir allowed unmeant present solid onward ih => exact ih hplace
  | follow dir allowed unmeant present filled onward ih => exact ih hplace

/-! ## Paths -/

/-- A path that can be looked up at all. -/
structure Admissible (path : String) : Prop where
  filled : path ≠ ""
  no_nul : '\x00' ∉ path.toList
  short : path.utf8ByteSize < maxPathLength

theorem resolve_of_admissible {path : String} (h : Admissible path) :
    s.resolve mode path = s.walk mode maxLinks (origin s.cwd path) (splitPath path) := by
  obtain ⟨hfilled, hnul, hshort⟩ := h
  have hlong : ¬ maxPathLength ≤ path.utf8ByteSize := by omega
  rw [resolve, if_neg hfilled, if_neg (by simpa using hnul), if_neg hlong]

theorem resolve_eq_ok_iff {path : String} :
    s.resolve mode path = .ok place ↔
      Admissible path ∧ Leads s mode maxLinks (origin s.cwd path) (splitPath path) place := by
  rw [← walk_eq_ok_iff]
  constructor
  · intro h
    rw [resolve] at h
    by_cases hempty : path = ""
    · simp [hempty] at h
    rw [if_neg hempty] at h
    by_cases hnul : path.toList.contains '\x00' = true
    · rw [if_pos hnul] at h
      cases h
    rw [if_neg hnul] at h
    by_cases hlong : maxPathLength ≤ path.utf8ByteSize
    · simp [hlong] at h
    rw [if_neg hlong] at h
    exact ⟨⟨hempty, by simpa using hnul, by omega⟩, h⟩
  · rintro ⟨hadmissible, hwalk⟩
    rw [resolve_of_admissible hadmissible, hwalk]

theorem locate_eq_ok_iff {path : String} {location : Location} :
    s.locate path = .ok location ↔ s.resolve .follow path = .ok (.found location) := by
  rw [locate]
  cases s.resolve .follow path with
  | error error => simp
  | ok place => cases place <;> simp

end Store
end SampleForge.Files
