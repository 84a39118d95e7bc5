import Mathlib.Data.List.Basic
import Mathlib.Data.List.TakeWhile
import TextRecipes.Text.Trim

/-!
# Trimmed texts

A text is trimmed if it neither begins nor ends with a blank. Whatever is cut down by `trimChars`
is trimmed (`trimmed_trimChars`), and a trimmed text stays as it is (`Trimmed.trimChars_eq`). What
stands between two trimmed texts is never at an end (`Trimmed.between`).
-/

namespace TextRecipes.Text

/-- Neither the first nor the last character is blank. -/
structure Trimmed (cs : List Char) : Prop where
  first : ∀ c ∈ cs.head?, isBlank c = false
  last : ∀ c ∈ cs.getLast?, isBlank c = false

variable {c : Char} {cs ds : List Char}

instance : Decidable (Trimmed cs) :=
  decidable_of_iff (cs.head?.all (!isBlank ·) ∧ cs.getLast?.all (!isBlank ·)) <| by
    simp only [Option.all_eq_true, Bool.not_eq_true']
    exact ⟨fun h => ⟨h.1, h.2⟩, fun h => ⟨h.first, h.last⟩⟩

theorem trimmed_nil : Trimmed [] where
  first _ hc := nomatch hc
  last _ hc := nomatch hc

/-- A text that does not begin with a blank has nothing to trim there. -/
theorem trimStart_eq_self (h : ∀ c ∈ cs.head?, isBlank c = false) : trimStart cs = cs := by
  cases cs with
  | nil => rfl
  | cons c rest =>
      have hc : isBlank c = false := h c rfl
      rw [trimStart, List.dropWhile_cons, hc]
      rfl

/-- What is trimmed does not begin with a blank. -/
theorem first_trimStart (cs : List Char) : ∀ c ∈ (trimStart cs).head?, isBlank c = false := by
  intro c hc
  have hnot := List.head?_dropWhile_not isBlank cs
  rw [trimStart] at hc
  rw [hc] at hnot
  exact hnot

theorem trimEnd_eq_self (h : ∀ c ∈ cs.getLast?, isBlank c = false) : trimEnd cs = cs := by
  -- the end is the beginning of the text read backwards
  have hreverse : trimStart cs.reverse = cs.reverse := by
    apply trimStart_eq_self
    rwa [List.head?_reverse]
  rw [trimEnd, ← trimStart, hreverse, List.reverse_reverse]

theorem last_trimEnd (cs : List Char) : ∀ c ∈ (trimEnd cs).getLast?, isBlank c = false := by
  rw [trimEnd, List.getLast?_reverse]
  exact first_trimStart cs.reverse

/-- Blanks at the end are trimmed away, however many there are. -/
theorem trimEnd_append_of_blank (hblank : ∀ c ∈ ds, isBlank c = true) :
    trimEnd (cs ++ ds) = trimEnd cs := by
  rw [trimEnd, List.reverse_append, List.dropWhile_append_of_pos]
  · rfl
  · exact fun c hc => hblank c (List.mem_reverse.mp hc)

theorem isBlank_of_mem_leading (h : c ∈ leading cs) : isBlank c = true :=
  List.all_eq_true.mp List.all_takeWhile c h

theorem isBlank_of_mem_trailing (h : c ∈ trailing cs) : isBlank c = true :=
  List.all_eq_true.mp List.all_takeWhile c (List.mem_reverse.mp h)

/-- Trimming at the end leaves the first character where it is, unless it takes everything. -/
theorem head?_trimEnd (cs : List Char) : ∀ c ∈ (trimEnd cs).head?, c ∈ cs.head? := by
  intro c hc
  -- what is trimmed off stands behind it
  have happend : cs.head? = (trimEnd cs ++ trailing cs).head? := by rw [trimEnd_trailing]
  rw [happend, List.head?_append, hc]
  rfl

/-- A trimmed text is trimmed. -/
theorem trimmed_trimChars (cs : List Char) : Trimmed (trimChars cs) where
  first c hc := first_trimStart cs c (head?_trimEnd (trimStart cs) c hc)
  last := last_trimEnd (trimStart cs)

theorem Trimmed.trimChars_eq (h : Trimmed cs) : trimChars cs = cs := by
  rw [trimChars, trimStart_eq_self h.first, trimEnd_eq_self h.last]

theorem trimStart_append_of_blank (hblank : ∀ c ∈ cs, isBlank c = true) :
    trimStart (cs ++ ds) = trimStart ds :=
  List.dropWhile_append_of_pos hblank

/-- Nothing is inside blank text. -/
theorem trimChars_of_blank (hblank : ∀ c ∈ cs, isBlank c = true) : trimChars cs = [] := by
  have hstart : trimStart cs = [] := List.dropWhile_eq_nil_iff.mpr hblank
  rw [trimChars, hstart]
  rfl

theorem filter_not_blank_of_blank (hblank : ∀ c ∈ cs, isBlank c = true) :
    cs.filter (!isBlank ·) = [] :=
  List.filter_eq_nil_iff.mpr fun c hc => by simp [hblank c hc]

/-- Trimming takes blanks only. -/
theorem filter_not_blank_trimChars (cs : List Char) :
    (trimChars cs).filter (!isBlank ·) = cs.filter (!isBlank ·) := by
  calc (trimChars cs).filter (!isBlank ·)
      = (leading cs ++ trimChars cs ++ trailing (trimStart cs)).filter (!isBlank ·) := by
        rw [List.filter_append, List.filter_append,
          filter_not_blank_of_blank fun _ => isBlank_of_mem_leading,
          filter_not_blank_of_blank fun _ => isBlank_of_mem_trailing, List.nil_append,
          List.append_nil]
    _ = cs.filter (!isBlank ·) := by rw [leading_trim_trailing]

/-- Blanks around a trimmed text are told from it. -/
theorem Trimmed.around (h : Trimmed cs) (hne : cs ≠ []) {before after : List Char}
    (hbefore : ∀ c ∈ before, isBlank c = true) (hafter : ∀ c ∈ after, isBlank c = true) :
    leading (before ++ cs ++ after) = before ∧ trimChars (before ++ cs ++ after) = cs ∧
    trailing (trimStart (before ++ cs ++ after)) = after := by
  have hstart : trimStart (before ++ cs ++ after) = cs ++ after := by
    rw [List.append_assoc, trimStart_append_of_blank hbefore]
    apply trimStart_eq_self
    intro c hc
    rw [List.head?_append_of_ne_nil _ hne] at hc
    exact h.first c hc
  have hinside : trimEnd (cs ++ after) = cs := by
    rw [trimEnd_append_of_blank hafter, trimEnd_eq_self h.last]
  -- with the text itself known, what is behind it is told by cancelling
  have hbehind : trailing (cs ++ after) = after := by
    have hall := trimEnd_trailing (cs ++ after)
    rwa [hinside, List.append_cancel_left_eq] at hall
  have hfront : leading (before ++ cs ++ after) = before := by
    have hall := leading_trim_trailing (before ++ cs ++ after)
    rwa [trimChars, hstart, hinside, hbehind, List.append_cancel_right_eq,
      List.append_cancel_right_eq] at hall
  exact ⟨hfront, by rw [trimChars, hstart, hinside], by rw [hstart, hbehind]⟩

/-- A text that begins and ends with trimmed texts is trimmed. -/
theorem Trimmed.between (h : Trimmed cs) (h' : Trimmed ds) (hne : cs ≠ []) (hne' : ds ≠ [])
    (middle : List Char) : Trimmed (cs ++ middle ++ ds) := by
  constructor
  · intro c hc
    rw [List.append_assoc, List.head?_append_of_ne_nil _ hne] at hc
    exact h.first c hc
  · intro c hc
    rw [List.getLast?_append_of_ne_nil _ hne'] at hc
    exact h'.last c hc

end TextRecipes.Text
