import SerialTerminal.FileTree
import SerialTerminal.Proofs.Path
import SerialTerminal.Proofs.Results

/-!
# Trees that grow

Directories that are made and files that are opened are added to a tree, which changes in no other
way (`Grows`): what stands at a place stays there with its rights, and what is new there is a
directory or an empty file, with all rights. So a path that leads to a place goes on leading there
(`Grows.locate`), and what a file held at the start is what it holds when it is opened
(`exists_locate_of_openForAppend`).
-/

namespace SerialTerminal.FileTree

open SerialTerminal.Path (IsProper EndsIn)

/-- Holds of a tree and one that has directories and empty files besides. -/
structure Grows (tree later : FileTree) : Prop where
  workingDirectory : later.workingDirectory = tree.workingDirectory
  keeps : ∀ place entry, tree.entry? place = some entry → later.entry? place = some entry
  adds : ∀ place entry, later.entry? place = some entry →
    tree.entry? place = some entry ∨ entry = .directory ∨ entry = .file []

/-- What a file at a place holds, or would hold if it were made. A device holds nothing. -/
def held (tree : FileTree) (place : Place) : Option (List UInt8) :=
  match tree.kind? place with
  | some (.file contents) => some contents
  | some .device => none
  | _ => some []

/-- Holds of a place for a new entry that a path leads to. -/
inductive Vacant (tree : FileTree) (path : List Char) : Place → Prop where
  | intro {names : List (List Char)} {name : List Char} {parent : Place}
    (hcheck : checkPath path = .ok ())
    (hnames : properNames path = names ++ [name])
    (hwalk : tree.walk (tree.origin path) names = .ok parent)
    (hparent : tree.kind? parent = some .directory)
    (hsearch : tree.permits Rights.search parent) (hwrite : tree.permits Rights.write parent)
    (hname : name ≠ Path.here ∧ name ≠ Path.above ∧ byteLength name ≤ nameLimit)
    (hfree : tree.entry? (name :: parent) = none) : Vacant tree path (name :: parent)

variable {tree later : FileTree} {path : List Char} {place : Place} {entry : Entry}

/-- An entry that is put at a place stands there, and nothing else changes. -/
theorem entry?_put (tree : FileTree) (hplace : place ≠ []) (entry : Entry) (other : Place) :
    entry? (tree.put place entry) other =
      if other = place then some entry else tree.entry? other := by
  by_cases h : other = place
  · subst h
    simp [put, entry?, lastPut?, hplace]
  · have hne : ¬ place = other := fun he => h he.symm
    simp [put, entry?, lastPut?, h, hne, hplace]

/-- The kind of an entry is that of the entry. -/
theorem kind?_of_entry? (h : tree.entry? place = some entry) : tree.kind? place = some entry.kind :=
  congrArg _ h

/-- Where there is a kind there is an entry. -/
theorem exists_entry_of_kind {kind : EntryKind} (h : tree.kind? place = some kind) :
    ∃ entry, tree.entry? place = some entry ∧ entry.kind = kind :=
  Option.map_eq_some_iff.mp h

/-- The rights at a place are those of the entry there. -/
theorem permits_iff {right : Rights → Bool} :
    tree.permits right place ↔ ∃ entry, tree.entry? place = some entry ∧ right entry.rights := by
  cases h : tree.entry? place <;> simp [permits, h]

namespace Grows

/-- A tree is the same as itself. -/
theorem refl (tree : FileTree) : Grows tree tree :=
  ⟨rfl, fun _ _ h => h, fun _ _ h => .inl h⟩

/-- What grows twice has grown. -/
theorem trans {last : FileTree} (h : Grows tree later) (h' : Grows later last) :
    Grows tree last where
  workingDirectory := h'.workingDirectory.trans h.workingDirectory
  keeps place entry hentry := h'.keeps place entry (h.keeps place entry hentry)
  adds place entry hentry := by
    rcases h'.adds place entry hentry with hentry | hnew
    · exact h.adds place entry hentry
    · exact .inr hnew

/-- A tree grows by an entry at a free place. -/
theorem put (hfree : tree.entry? place = none) (hnew : entry = .directory ∨ entry = .file []) :
    Grows tree (tree.put place entry) where
  workingDirectory := rfl
  keeps other found hfound := by
    have hplace : place ≠ [] := fun h => by rw [h] at hfree; cases hfree
    have hne : other ≠ place := fun h => by rw [h, hfree] at hfound; cases hfound
    rw [entry?_put tree hplace, if_neg hne, hfound]
  adds other found hfound := by
    have hplace : place ≠ [] := fun h => by rw [h] at hfree; cases hfree
    rw [entry?_put tree hplace] at hfound
    split at hfound
    · exact .inr (Option.some.inj hfound ▸ hnew)
    · exact .inl hfound

/-- No file that was there holds anything else, and no new one holds anything. -/
theorem held_eq (h : Grows tree later) (place : Place) : later.held place = tree.held place := by
  rw [held, held, FileTree.kind?, FileTree.kind?]
  cases htree : tree.entry? place with
  | some entry => rw [h.keeps place entry htree]
  | none =>
    cases hlater : later.entry? place with
    | none => rfl
    | some entry =>
      rcases h.adds place entry hlater with hold | rfl | rfl
      · rw [htree] at hold
        cases hold
      · rfl
      · rfl

/-- An entry stays of its kind. -/
theorem kind? (h : Grows tree later) {kind : EntryKind} (hkind : tree.kind? place = some kind) :
    later.kind? place = some kind := by
  obtain ⟨entry, hentry, rfl⟩ := exists_entry_of_kind hkind
  exact kind?_of_entry? (h.keeps place entry hentry)

/-- It keeps its rights. -/
theorem permits (h : Grows tree later) {right : Rights → Bool}
    (hright : tree.permits right place) : later.permits right place := by
  obtain ⟨entry, hentry, hentry'⟩ := permits_iff.mp hright
  exact permits_iff.mpr ⟨entry, h.keeps place entry hentry, hentry'⟩

end Grows

/-- Where a name leads to. -/
theorem step_eq_ok_iff {name : List Char} {next : Place} :
    tree.step place name = .ok next ↔
      tree.kind? place = some .directory ∧ tree.permits Rights.search place ∧
      if name = Path.here then next = place
      else if name = Path.above then next = place.tail
      else byteLength name ≤ nameLimit ∧ next = name :: place ∧ (tree.entry? next).isSome := by
  rw [step]
  split
  · next hkind => exact ⟨fun h => (by cases h), fun h => absurd h.1 hkind⟩
  split
  · next hsearch => exact ⟨fun h => (by cases h), fun h => absurd h.2.1 hsearch⟩
  next hkind hsearch =>
  rw [and_iff_right (Decidable.not_not.mp hkind), and_iff_right (Decidable.not_not.mp hsearch)]
  split
  · simp [eq_comm]
  split
  · simp [eq_comm]
  split
  · next hlimit =>
    simp only [reduceCtorEq, false_iff, not_and]
    omega
  next hlimit =>
  rw [and_iff_right (Nat.not_lt.mp hlimit)]
  split
  · next hsome =>
    rw [Except.ok.injEq]
    exact ⟨fun h => ⟨h.symm, h ▸ hsome⟩, fun h => h.1.symm⟩
  · next hnone =>
    refine ⟨fun h => (by cases h), ?_⟩
    rintro ⟨rfl, hsome⟩
    exact absurd hsome hnone

/-- A step that can be taken can be taken later. -/
theorem Grows.step {name : List Char} {next : Place} (h : Grows tree later)
    (hstep : tree.step place name = .ok next) : later.step place name = .ok next := by
  rw [step_eq_ok_iff] at hstep ⊢
  obtain ⟨hkind, hsearch, hnext⟩ := hstep
  refine ⟨h.kind? hkind, h.permits hsearch, ?_⟩
  split
  · next hhere => rwa [if_pos hhere] at hnext
  · next hhere =>
    rw [if_neg hhere] at hnext
    split
    · next habove => rwa [if_pos habove] at hnext
    · next habove =>
      rw [if_neg habove] at hnext
      obtain ⟨entry, hentry⟩ := Option.isSome_iff_exists.mp hnext.2.2
      exact ⟨hnext.1, hnext.2.1, by rw [h.keeps next entry hentry]; rfl⟩

/-- So can a walk. -/
theorem Grows.walk {names : List (List Char)} {next : Place} (h : Grows tree later)
    (hwalk : tree.walk place names = .ok next) : later.walk place names = .ok next := by
  induction names generalizing place with
  | nil => exact hwalk
  | cons name rest ih =>
    rw [FileTree.walk] at hwalk ⊢
    cases hstep : tree.step place name with
    | error e =>
      rw [hstep] at hwalk
      cases hwalk
    | ok middle =>
      rw [hstep] at hwalk
      rw [h.step hstep]
      exact ih hwalk

/-- A walk along names goes on along more of them. -/
theorem walk_append (tree : FileTree) (place : Place) (xs ys : List (List Char)) :
    tree.walk place (xs ++ ys) = tree.walk place xs >>= fun next => tree.walk next ys := by
  induction xs generalizing place with
  | nil => rfl
  | cons name rest ih =>
    rw [List.cons_append, walk, walk]
    cases tree.step place name with
    | error e => rfl
    | ok middle => exact ih middle

/-- The path starts where it started before. -/
theorem Grows.origin (h : Grows tree later) (path : List Char) :
    later.origin path = tree.origin path := by
  rw [FileTree.origin, FileTree.origin, h.workingDirectory]

/-- The place that a path leads to, if its text can lead anywhere. -/
theorem locate_eq_ok_iff : tree.locate path = .ok place ↔ checkPath path = .ok () ∧
    tree.walk (tree.origin path) (properNames path) = .ok place ∧
    (path.getLast? = some '/' → tree.kind? place = some .directory) := by
  rw [locate]
  cases checkPath path with
  | error e => exact ⟨fun h => (by cases h), fun h => (by cases h.1)⟩
  | ok u =>
    cases tree.walk (tree.origin path) (properNames path) with
    | error e => exact ⟨fun h => (by cases h), fun h => (by cases h.2.1)⟩
    | ok found =>
      change (if path.getLast? = some '/' ∧ tree.kind? found ≠ some .directory
        then Except.error FileError.notDirectory else .ok found) = _ ↔ _
      split
      · next hslash =>
        refine ⟨fun h => (by cases h), ?_⟩
        rintro ⟨_, ⟨⟩, hdirectory⟩
        exact absurd (hdirectory hslash.1) hslash.2
      · next hslash =>
        rw [not_and, Decidable.not_not] at hslash
        refine ⟨?_, fun h => h.2.1⟩
        rintro ⟨⟩
        exact ⟨rfl, rfl, hslash⟩

/-- A path that leads to a place leads there later. -/
theorem Grows.locate (h : Grows tree later) (hlocate : tree.locate path = .ok place) :
    later.locate path = .ok place := by
  rw [locate_eq_ok_iff] at hlocate ⊢
  obtain ⟨hcheck, hwalk, hslash⟩ := hlocate
  exact ⟨hcheck, h.origin path ▸ h.walk hwalk, fun hlast => h.kind? (hslash hlast)⟩

/-- A vacancy is free, in a directory that is there and may be written to. -/
theorem vacant_of_vacancy (h : tree.vacancy path = .ok place) : Vacant tree path place := by
  obtain ⟨u, hcheck, h⟩ := exists_ok_of_bind h
  split at h
  · cases h
  · next name names hreverse =>
    obtain ⟨parent, hwalk, h⟩ := exists_ok_of_bind h
    have hnames : properNames path = names.reverse ++ [name] := by
      rw [← List.reverse_cons, ← hreverse, List.reverse_reverse]
    -- Each refusal is ruled out in turn.
    split at h
    · cases h
    split at h
    · cases h
    split at h
    · cases h
    split at h
    · cases h
    split at h
    · cases h
    split at h
    · cases h
    next hparent hsearch hdots hlimit hfree hwrite =>
    obtain rfl := Except.ok.inj h
    rw [not_or] at hdots
    exact .intro hcheck hnames hwalk (Decidable.not_not.mp hparent)
      (Decidable.not_not.mp hsearch) (Decidable.not_not.mp hwrite)
      ⟨hdots.1, hdots.2, Nat.not_lt.mp hlimit⟩ (by simpa using hfree)

/-- Nothing stands at a vacancy. -/
theorem Vacant.free (h : Vacant tree path place) : tree.entry? place = none := by
  obtain ⟨_, _, _, _, _, _, _, hfree⟩ := h
  exact hfree

/-- Where a vacancy is filled the path leads to the new entry. -/
theorem Vacant.locate_put (h : Vacant tree path place) (hlast : path.getLast? ≠ some '/')
    (hgrows : Grows tree (tree.put place entry)) :
    (tree.put place entry).locate path = .ok place := by
  obtain @⟨names, name, parent, hcheck, hnames, hwalk, hparent, hsearch, _,
    ⟨hhere, habove, hlimit⟩, _⟩ := h
  have hstep : (tree.put (name :: parent) entry).step parent name = .ok (name :: parent) := by
    rw [step_eq_ok_iff, if_neg hhere, if_neg habove, entry?_put tree (List.cons_ne_nil _ _) entry
      (name :: parent), if_pos rfl]
    exact ⟨hgrows.kind? hparent, hgrows.permits hsearch, hlimit, rfl, rfl⟩
  rw [locate_eq_ok_iff, hnames, walk_append, hgrows.origin, hgrows.walk hwalk]
  refine ⟨hcheck, ?_, fun hslash => absurd hslash hlast⟩
  change (tree.put (name :: parent) entry).walk parent [name] = _
  rw [walk, hstep]
  rfl

/-- A directory is made at a free place. -/
theorem grows_makeDirectory {made : FileTree} (h : tree.makeDirectory path = .ok made) :
    Grows tree made := by
  obtain ⟨place, hvacancy, rfl⟩ := exists_ok_of_map h
  exact .put (vacant_of_vacancy hvacancy).free (.inl rfl)

/-- A directory that is asked for is added at most. -/
theorem grows_ensureDirectory (tree : FileTree) (path : List Char) :
    Grows tree (tree.ensureDirectory path).1 := by
  rw [ensureDirectory]
  split
  · next made hmade => exact grows_makeDirectory hmade
  · exact .refl tree

/-- So are those that are missing above it. -/
theorem grows_makeDirectories (tree : FileTree) (path : List Char) :
    Grows tree (tree.makeDirectories path).1 := by
  fun_induction tree.makeDirectories path with
  | case1 path _ _ _ => exact grows_ensureDirectory tree path
  | case2 path _ _ _ made _ hmade _ _ ih =>
    rw [hmade] at ih
    exact ih
  | case3 path _ _ _ made _ hmade _ _ ih =>
    rw [hmade] at ih
    exact ih
  | case4 path _ _ _ made _ hmade _ _ ih =>
    rw [hmade] at ih
    exact ih.trans (grows_ensureDirectory made path)
  | case5 path _ => exact grows_ensureDirectory tree path

/-- Something stands where a path with a proper last name leads to. -/
theorem exists_entry_of_locate {name : List Char} (hends : EndsIn name path)
    (hname : IsProper name) (h : tree.locate path = .ok place) :
    ∃ entry, tree.entry? place = some entry := by
  obtain ⟨others, hothers⟩ := hends.names hname.2.2.2
  have hnames : properNames path = others.filter (· ≠ []) ++ [name] := by
    rw [properNames, hothers, List.filter_append]
    simp [hname.1]
  have hwalk := (locate_eq_ok_iff.mp h).2.1
  rw [hnames, walk_append] at hwalk
  obtain ⟨parent, _, hlast⟩ := exists_ok_of_bind hwalk
  rw [walk] at hlast
  split at hlast
  · next next hstep =>
    have hnext := (step_eq_ok_iff.mp hstep).2.2
    rw [if_neg hname.2.1, if_neg hname.2.2.1] at hnext
    exact Option.isSome_iff_exists.mp (Except.ok.inj hlast ▸ hnext.2.2)
  · cases hlast

/-- A file that is opened is where its path leads to, and holds what it held before. -/
theorem exists_locate_of_openForAppend {name : List Char} {opened : FileTree}
    {earlier : Option (List UInt8)} (hends : EndsIn name path) (hname : IsProper name)
    (h : tree.openForAppend path = .ok (opened, earlier)) :
    Grows tree opened ∧ ∃ place, opened.locate path = .ok place ∧ earlier = tree.held place := by
  rw [openForAppend] at h
  split at h
  · next place hlocate =>
    obtain ⟨entry, hentry⟩ := exists_entry_of_locate hends hname hlocate
    have hkind := kind?_of_entry? hentry
    split at h
    · cases h
    split at h
    · cases h
    next hfile hwrite =>
    rw [hkind] at h hfile
    cases he : entry.kind with
    | directory => exact absurd (congrArg some he) hfile
    | file contents =>
      rw [he] at h hkind
      obtain ⟨rfl, rfl⟩ := Prod.mk.inj (Except.ok.inj h)
      exact ⟨.refl tree, place, hlocate, by rw [held, hkind]⟩
    | device =>
      rw [he] at h hkind
      obtain ⟨rfl, rfl⟩ := Prod.mk.inj (Except.ok.inj h)
      exact ⟨.refl tree, place, hlocate, by rw [held, hkind]⟩
  · obtain ⟨place, hvacancy, hopened⟩ := exists_ok_of_map h
    obtain ⟨rfl, rfl⟩ := Prod.mk.inj hopened
    have hvacant := vacant_of_vacancy hvacancy
    have hgrows := Grows.put hvacant.free (.inr rfl)
    refine ⟨hgrows, place, hvacant.locate_put (hends.getLast?_ne hname) hgrows, ?_⟩
    rw [held, kind?, hvacant.free]
    rfl
  · cases h

end SerialTerminal.FileTree
