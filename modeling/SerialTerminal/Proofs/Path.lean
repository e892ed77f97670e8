import SerialTerminal.Path

/-!
# The last name of a path

A path that ends in a proper name still ends in it when it is seen from a base and brought into its
normal form (`EndsIn.absolute`). Whatever is put in front of the name, no slash comes behind it.
-/

namespace SerialTerminal.Path

/-- Holds of the texts that can name an entry of a directory. -/
def IsProper (name : List Char) : Prop := name ≠ [] ∧ name ≠ here ∧ name ≠ above ∧ '/' ∉ name

instance : DecidablePred IsProper := fun name =>
  inferInstanceAs (Decidable (name ≠ [] ∧ name ≠ here ∧ name ≠ above ∧ '/' ∉ name))

/-- Holds of a path whose last name is the given one. -/
def EndsIn (name path : List Char) : Prop := path = name ∨ ∃ front, path = front ++ '/' :: name

variable {name path : List Char}

/-- More names in front change nothing. -/
theorem EndsIn.append (h : EndsIn name path) (front : List Char) :
    EndsIn name (front ++ '/' :: path) := by
  rcases h with rfl | ⟨between, rfl⟩
  · exact .inr ⟨front, rfl⟩
  · exact .inr ⟨front ++ '/' :: between, by simp⟩

/-- A base puts names in front of a path, or nothing. -/
theorem join_eq (base path : List Char) :
    join base path = path ∨ ∃ front, join base path = front ++ '/' :: path := by
  rw [join]
  split
  · exact .inl rfl
  · split
    · next hlast =>
      obtain ⟨front, rfl⟩ := List.getLast?_eq_some_iff.mp hlast
      exact .inr ⟨front, by simp⟩
    · exact .inr ⟨base, rfl⟩

/-- A path ends in the same name from every base. -/
theorem EndsIn.join (h : EndsIn name path) (base : List Char) : EndsIn name (join base path) := by
  rcases join_eq base path with hjoin | ⟨front, hjoin⟩
  · rwa [hjoin]
  · rw [hjoin]
    exact h.append front

/-- Every path has a name, if only an empty one. -/
theorem names_ne_nil (path : List Char) : names path ≠ [] := by
  cases path with
  | nil => exact List.cons_ne_nil _ _
  | cons c rest =>
    rw [names]
    split
    · exact List.cons_ne_nil _ _
    · split <;> exact List.cons_ne_nil _ _

/-- The names in front of a slash and behind it. -/
theorem names_append (front behind : List Char) :
    names (front ++ '/' :: behind) = names front ++ names behind := by
  induction front with
  | nil => rfl
  | cons c rest ih =>
    rw [List.cons_append, names, names, ih]
    split
    · rfl
    · cases hrest : names rest with
      | nil => exact absurd hrest (names_ne_nil rest)
      | cons first others => rfl

/-- A text without slashes is one name. -/
theorem names_of_not_mem (h : '/' ∉ name) : names name = [name] := by
  induction name with
  | nil => rfl
  | cons c rest ih =>
    rw [List.mem_cons, not_or] at h
    rw [names, if_neg (Ne.symm h.1), ih h.2]

/-- The name that a path ends in is the last of its names. -/
theorem EndsIn.names (h : EndsIn name path) (hname : '/' ∉ name) :
    ∃ others, names path = others ++ [name] := by
  rcases h with rfl | ⟨front, rfl⟩
  · exact ⟨[], names_of_not_mem hname⟩
  · exact ⟨Path.names front, by rw [names_append, names_of_not_mem hname]⟩

/-- Names with slashes between them end in the last of them. -/
theorem endsIn_ofNames (others : List (List Char)) (name : List Char) :
    EndsIn name (ofNames (others ++ [name])) := by
  induction others with
  | nil => exact .inl rfl
  | cons first others ih =>
    have hcons : ofNames (first :: others ++ [name]) =
        first ++ '/' :: ofNames (others ++ [name]) := by
      cases others <;> rfl
    rw [hcons]
    exact ih.append first

/-- Slashes at the start of a path change nothing. -/
theorem EndsIn.slashes (h : EndsIn name path) (count : Nat) :
    EndsIn name (List.replicate count '/' ++ path) := by
  cases count with
  | zero => exact h
  | succ count =>
    rw [List.replicate_succ', List.append_assoc]
    exact h.append (List.replicate count '/')

/-- A proper name is never taken back. -/
theorem pushName_of_isProper (h : IsProper name) (rooted : Bool) (stack : List (List Char)) :
    pushName rooted stack name = name :: stack := by
  rw [pushName.eq_def, if_neg (not_or.mpr ⟨h.1, h.2.1⟩), if_pos h.2.2.1]

/-- The normal form of a path ends in its last name. -/
theorem EndsIn.normalize (h : EndsIn name path) (hname : IsProper name) :
    EndsIn name (normalize path) := by
  obtain ⟨others, hothers⟩ := h.names hname.2.2.2
  have hends := (endsIn_ofNames (others.foldl (pushName (rootSlashes path ≠ 0)) []).reverse
    name).slashes (rootSlashes path)
  rw [Path.normalize, hothers, List.foldl_append, List.foldl_cons, List.foldl_nil,
    pushName_of_isProper hname, List.reverse_cons]
  split
  · next hempty =>
    -- A path that ends in a name is not empty.
    rw [List.isEmpty_iff.mp hempty] at hends
    rcases hends with hnil | ⟨front, hnil⟩
    · exact absurd hnil.symm hname.1
    · simp at hnil
  · exact hends

/-- So does its absolute form. -/
theorem EndsIn.absolute (h : EndsIn name path) (hname : IsProper name) (base : List Char) :
    EndsIn name (absolute base path) :=
  (h.join base).normalize hname

/-- No slash is behind the name. -/
theorem EndsIn.getLast?_ne (h : EndsIn name path) (hname : IsProper name) :
    path.getLast? ≠ some '/' := by
  have hmem (hlast : name.getLast? = some '/') : False :=
    hname.2.2.2 (List.mem_of_getLast? hlast)
  rcases h with rfl | ⟨front, rfl⟩
  · exact hmem
  · obtain ⟨c, hc⟩ := Option.ne_none_iff_exists'.mp (mt List.getLast?_eq_none_iff.mp hname.1)
    rw [List.append_cons, List.getLast?_append, hc, Option.some_or, ← hc]
    exact hmem

end SerialTerminal.Path
