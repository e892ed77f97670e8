import Mathlib.Data.List.TakeWhile
import SerialTerminal.Text.Blank

/-!
# Trimming

What is put around a text of blanks does not outlast trimming (`trim_padded`), and what trimming
takes away are blanks (`exists_trim`). A text is cut before a mark where the mark first occurs
(`before_append_of_not_mem`, `before_slashes_append`, `before_mark`). A mark without blanks is not
found in blanks around a text, so trimming may come before the cut as well as behind it
(`exists_before_padded`).

`Blank` and `Trimmed` are the two ways in which a text can be at an end of trimming: nothing is left
of it, or all of it.
-/

namespace SerialTerminal

namespace Text

section Trim

variable {p : Char → Bool} {text : List Char}

/-- Characters at the end. -/
theorem trimEnd_append {behind : List Char} (h : ∀ c ∈ behind, p c) (text : List Char) :
    trimEnd p (text ++ behind) = trimEnd p text := by
  have hreverse : ∀ c ∈ behind.reverse, p c := fun c hc => h c (List.mem_reverse.mp hc)
  rw [trimEnd, trimEnd, List.reverse_append, List.dropWhile_append_of_pos hreverse]

/-- Characters at the beginning. -/
theorem trim_append {lead : List Char} (h : ∀ c ∈ lead, p c) (text : List Char) :
    trim p (lead ++ text) = trim p text := by
  rw [trim, trim, List.dropWhile_append_of_pos h]

/-- Characters at both ends. -/
theorem trim_padded {lead behind : List Char} (hlead : ∀ c ∈ lead, p c)
    (hbehind : ∀ c ∈ behind, p c) (text : List Char) :
    trim p (lead ++ (text ++ behind)) = trim p text := by
  rw [trim_append hlead, trim, trim, List.dropWhile_append]
  split
  · next hnone =>
    have hb : behind.dropWhile p = [] := List.dropWhile_eq_nil_iff.mpr hbehind
    rw [hb, List.isEmpty_iff.mp hnone]
  · exact trimEnd_append hbehind _

/-- Trimming takes characters away from both ends. -/
theorem exists_trim (p : Char → Bool) (text : List Char) :
    ∃ lead behind, text = lead ++ (trim p text ++ behind) ∧ (∀ c ∈ lead, p c) ∧
      ∀ c ∈ behind, p c := by
  refine ⟨text.takeWhile p, ((text.dropWhile p).reverse.takeWhile p).reverse, ?_, ?_, ?_⟩
  · rw [trim, trimEnd, ← List.reverse_append, List.takeWhile_append_dropWhile,
      List.reverse_reverse, List.takeWhile_append_dropWhile]
  · exact fun c hc => List.mem_takeWhile_imp hc
  · exact fun c hc => List.mem_takeWhile_imp (List.mem_reverse.mp hc)

/-- What trimming leaves was there before. -/
theorem mem_of_mem_trim {c : Char} (h : c ∈ trim p text) : c ∈ text := by
  obtain ⟨lead, behind, htext, _⟩ := exists_trim p text
  rw [htext]
  exact List.mem_append_right lead (List.mem_append_left behind h)

/-- Characters in front of another one stay where only the end is trimmed. -/
theorem trimEnd_append_cons {c : Char} (h : ¬ p c) (front rest : List Char) :
    trimEnd p (front ++ c :: rest) = front ++ c :: trimEnd p rest := by
  rw [trimEnd, trimEnd, List.reverse_append, List.reverse_cons, List.append_assoc,
    List.singleton_append, List.dropWhile_append]
  split
  · next hnone =>
    rw [List.isEmpty_iff.mp hnone, List.dropWhile_cons_of_neg h]
    simp
  · simp

/-- A text is trimmed on each side of a character that stays. -/
theorem trim_append_cons {c : Char} (h : ¬ p c) (front rest : List Char) :
    trim p (front ++ c :: rest) = front.dropWhile p ++ c :: trimEnd p rest := by
  rw [trim, List.dropWhile_append]
  split
  · next hnone =>
    rw [List.isEmpty_iff.mp hnone, List.dropWhile_cons_of_neg h, List.nil_append]
    exact trimEnd_append_cons h [] rest
  · exact trimEnd_append_cons h _ rest

/-- It makes no difference which end is trimmed first. -/
theorem dropWhile_trimEnd (p : Char → Bool) (text : List Char) :
    (trimEnd p text).dropWhile p = trim p text := by
  cases hd : text.dropWhile p with
  | nil =>
    have hall := List.dropWhile_eq_nil_iff.mp hd
    have hend : trimEnd p text = [] := by
      rw [← List.nil_append text, trimEnd_append hall]
      rfl
    rw [hend, trim, hd]
    rfl
  | cons c rest =>
    have hc : ¬ p c := by
      have hhead := List.head?_dropWhile_not p text
      rw [hd] at hhead
      simpa using hhead
    have hsplit : text.takeWhile p ++ c :: rest = text := by
      rw [← hd, List.takeWhile_append_dropWhile]
    have hfront : ∀ a ∈ text.takeWhile p, p a := fun a ha => List.mem_takeWhile_imp ha
    rw [trim, hd, ← hsplit, trimEnd_append_cons hc, List.dropWhile_append_of_pos hfront,
      List.dropWhile_cons_of_neg hc]
    exact (trimEnd_append_cons hc [] rest).symm

/-- Holds of the texts with no characters of a class at their ends. -/
def Trimmed (p : Char → Bool) (text : List Char) : Prop :=
  (∀ c, text.head? = some c → ¬ p c) ∧ ∀ c, text.getLast? = some c → ¬ p c

/-- From them nothing is taken away. -/
theorem Trimmed.trim_eq (h : Trimmed p text) : trim p text = text := by
  have hdrop (l : List Char) (hl : ∀ c, l.head? = some c → ¬ p c) : l.dropWhile p = l := by
    cases l with
    | nil => rfl
    | cons c rest => exact List.dropWhile_cons_of_neg (hl c rfl)
  have hreverse : ∀ c, text.reverse.head? = some c → ¬ p c := by
    rw [List.head?_reverse]
    exact h.2
  rw [trim, trimEnd, hdrop text h.1, hdrop _ hreverse, List.reverse_reverse]

end Trim

section Before

variable {mark text : List Char}

/-- What stands before a mark is part of the text. -/
theorem mem_of_mem_before {c : Char} (h : c ∈ before mark text) : c ∈ text := by
  induction text with
  | nil => exact h
  | cons d rest ih =>
    rw [before] at h
    split at h
    · exact absurd h List.not_mem_nil
    · rcases List.mem_cons.mp h with rfl | hrest
      · exact List.mem_cons_self
      · exact List.mem_cons_of_mem d (ih hrest)

/-- A mark does not begin in a text without its first character. -/
theorem before_append_of_not_mem {first : Char} (h : first ∉ text) (rest behind : List Char) :
    before (first :: rest) (text ++ behind) = text ++ before (first :: rest) behind := by
  induction text with
  | nil => rfl
  | cons c others ih =>
    obtain ⟨hc, hothers⟩ := not_or.mp (mt List.mem_cons.mpr h)
    have hprefix : ¬ (first :: rest).isPrefixOf (c :: (others ++ behind)) := by
      simp [List.isPrefixOf, hc]
    rw [List.cons_append, before, if_neg hprefix, ih hothers, List.cons_append]

/-- Two slashes do not begin in a text without them, unless one stands at its end. -/
theorem before_slashes_append {behind : List Char} (h : ¬ ['/', '/'] <:+: text)
    (hbehind : behind.head? ≠ some '/') :
    before ['/', '/'] (text ++ behind) = text ++ before ['/', '/'] behind := by
  induction text with
  | nil => rfl
  | cons c others ih =>
    have hprefix : ¬ ['/', '/'].isPrefixOf (c :: (others ++ behind)) := by
      intro hp
      obtain ⟨rest, hrest⟩ := List.isPrefixOf_iff_prefix.mp hp
      obtain ⟨rfl, htail⟩ := List.cons.inj hrest
      cases others with
      | nil =>
        have hslash : behind = '/' :: rest := htail.symm
        exact hbehind (by rw [hslash, List.head?_cons])
      | cons d others =>
        obtain ⟨rfl, _⟩ := List.cons.inj htail
        exact h ⟨[], others, rfl⟩
    have hothers : ¬ ['/', '/'] <:+: others := fun hi => h (List.infix_cons hi)
    rw [List.cons_append, before, if_neg hprefix, ih hothers, List.cons_append]

/-- At the mark a text ends. -/
theorem before_mark (hmark : mark ≠ []) (behind : List Char) :
    before mark (mark ++ behind) = [] := by
  cases mark with
  | nil => exact absurd rfl hmark
  | cons first rest =>
    have hprefix : (first :: rest).isPrefixOf (first :: (rest ++ behind)) :=
      List.isPrefixOf_iff_prefix.mpr ⟨behind, rfl⟩
    rw [List.cons_append, before, if_pos hprefix]

private theorem isPrefixOf_append {p : Char → Bool} {behind : List Char}
    (hmark : ∀ c ∈ mark, ¬ p c) (hbehind : ∀ c ∈ behind, p c) (text : List Char) :
    mark.isPrefixOf (text ++ behind) = mark.isPrefixOf text := by
  induction mark generalizing text with
  | nil => cases text <;> cases behind <;> rfl
  | cons m rest ih =>
    obtain ⟨hm, hrest⟩ := List.forall_mem_cons.mp hmark
    cases text with
    | cons c others => rw [List.cons_append, List.isPrefixOf, List.isPrefixOf, ih hrest]
    | nil =>
      cases behind with
      | nil => rfl
      | cons b others =>
        have hne : m ≠ b := fun he => hm (he ▸ hbehind b List.mem_cons_self)
        simp [List.isPrefixOf, hne]

private theorem exists_before_append {p : Char → Bool} {behind : List Char}
    (hmark : ∀ c ∈ mark, ¬ p c) (hbehind : ∀ c ∈ behind, p c) (text : List Char) :
    ∃ left, before mark (text ++ behind) = before mark text ++ left ∧ ∀ c ∈ left, p c := by
  induction text with
  | nil => exact ⟨before mark behind, rfl, fun c hc => hbehind c (mem_of_mem_before hc)⟩
  | cons c rest ih =>
    rw [List.cons_append, before, before, ← List.cons_append, isPrefixOf_append hmark hbehind]
    split
    · exact ⟨[], rfl, fun c hc => absurd hc List.not_mem_nil⟩
    · obtain ⟨left, hleft, hp⟩ := ih
      exact ⟨left, by rw [hleft, List.cons_append], hp⟩

/-- Around a text, characters that are not in a mark leave nothing but themselves. -/
theorem exists_before_padded {first : Char} {rest : List Char} {p : Char → Bool}
    (hmark : ∀ c ∈ first :: rest, ¬ p c) {lead behind : List Char} (hlead : ∀ c ∈ lead, p c)
    (hbehind : ∀ c ∈ behind, p c) (text : List Char) :
    ∃ left, before (first :: rest) (lead ++ (text ++ behind)) =
        lead ++ (before (first :: rest) text ++ left) ∧ ∀ c ∈ left, p c := by
  have hfirst : first ∉ lead := fun h => hmark first List.mem_cons_self (hlead first h)
  obtain ⟨left, hleft, hp⟩ := exists_before_append hmark hbehind text
  exact ⟨left, by rw [before_append_of_not_mem hfirst, hleft], hp⟩

end Before

/-- Only the capital letters of ASCII have small ones. -/
theorem toLower_of_not_capital {c : Char} (h : ¬ (65 ≤ c.toNat ∧ c.toNat ≤ 90)) : c.toLower = c :=
  dif_neg h

/-- Holds of the texts of nothing but blanks. -/
def Blank (text : List Char) : Prop := ∀ c ∈ text, isBlank c

instance (text : List Char) : Decidable (Blank text) :=
  decidable_of_iff (text.all isBlank = true) List.all_eq_true

/-- Other characters are not in them. -/
theorem Blank.not_mem {text : List Char} (h : Blank text) {c : Char} (hc : isBlank c = false) :
    c ∉ text := by
  intro hmem
  have hblank := h c hmem
  rw [hc] at hblank
  cases hblank

end Text

end SerialTerminal
