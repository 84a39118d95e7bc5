import TextRecipes.Proofs.Text.Trimming

/-!
# Changing what is inside the blanks

A change of the word inside a text puts the blanks around it back where they were, and leaves blank
text as it is (`actsInside_changeInside`).

A program that holds texts as bytes finds the word by counting them: what is left of the text from
its first character on, and the trimmed text, have sizes that give two offsets (`insideStart`,
`insideEnd`). Both lie between characters (`exists_inside_slices`), so that the text can be cut
there (`ActsInside.exists_slices`).
-/

namespace TextRecipes.Text

variable {p w q s : String}

/-- A change of texts that acts on the word inside the blanks, and on nothing else. -/
structure ActsInside (change : String → String) : Prop where
  around {p w q : String} :
    (∀ c ∈ p.toList, isBlank c = true) → (∀ c ∈ q.toList, isBlank c = true) →
    Trimmed w.toList → w ≠ "" → change (p ++ w ++ q) = p ++ change w ++ q
  blank {s : String} : (∀ c ∈ s.toList, isBlank c = true) → change s = s

/-- A change inside the blanks leaves the blanks around a word alone. -/
theorem changeInside_around (hp : ∀ c ∈ p.toList, isBlank c = true)
    (hq : ∀ c ∈ q.toList, isBlank c = true) (hw : Trimmed w.toList) (hne : w ≠ "")
    (change : String → String) :
    changeInside change (p ++ w ++ q) = p ++ change w ++ q := by
  have hchars : w.toList ≠ [] := by simpa using hne
  obtain ⟨hfront, hinside, hbehind⟩ := hw.around hchars hp hq
  have hall : (p ++ w ++ q).toList = p.toList ++ w.toList ++ q.toList := by
    rw [String.toList_append, String.toList_append]
  simp only [changeInside, hall, hfront, hinside, hbehind, String.ofList_toList]
  rw [if_neg (by simpa using hne)]

theorem changeInside_of_trimmed (hw : Trimmed w.toList) (hne : w ≠ "")
    (change : String → String) : changeInside change w = change w := by
  have hnone : ∀ c ∈ "".toList, isBlank c = true := fun c hc => nomatch hc
  simpa using changeInside_around hnone hnone hw hne change

/-- In a text of blanks there is nothing to change. -/
theorem changeInside_of_blank (hs : ∀ c ∈ s.toList, isBlank c = true)
    (change : String → String) : changeInside change s = s := by
  simp [changeInside, trimChars_of_blank hs]

theorem actsInside_changeInside (change : String → String) : ActsInside (changeInside change) where
  around hp hq hw hne := by
    rw [changeInside_around hp hq hw hne, changeInside_of_trimmed hw hne]
  blank hs := changeInside_of_blank hs change

theorem actsInside_self : ActsInside fun s => s where
  around _ _ _ _ := rfl
  blank _ := rfl

/-! ## Offsets in bytes -/

/-- How many bytes stand in front of the first character that is not blank. -/
def insideStart (s : String) : Nat :=
  s.utf8ByteSize - (String.ofList (trimStart s.toList)).utf8ByteSize

/-- How many bytes stand in front of the blanks that the text ends with. -/
def insideEnd (s : String) : Nat := insideStart s + (trim s).utf8ByteSize

/-- Where one text ends and another begins there is a position between characters. -/
theorem exists_pos_splits {before after : String} (h : s = before ++ after) :
    ∃ pos : s.Pos, pos.offset.byteIdx = before.utf8ByteSize ∧ pos.Splits before after := by
  have hvalid : String.Pos.Raw.IsValid s before.rawEndPos :=
    String.Pos.Raw.isValid_iff_exists_append.mpr ⟨before, after, h, rfl⟩
  exact ⟨⟨before.rawEndPos, hvalid⟩, rfl, h, rfl⟩

/-- The word starts where the blanks in front of it end, counted in bytes. -/
theorem insideStart_eq (s : String) :
    insideStart s = (String.ofList (leading s.toList)).utf8ByteSize := by
  have hall : s = String.ofList (leading s.toList) ++ String.ofList (trimStart s.toList) := by
    rw [← String.ofList_append, leading, trimStart, List.takeWhile_append_dropWhile,
      String.ofList_toList]
  -- the sizes are compared as numbers, since the offset is a difference
  have hsize := congrArg String.utf8ByteSize hall
  rw [String.utf8ByteSize_append] at hsize
  rw [insideStart]
  omega

/-- **The offsets lie between characters**, and the trimmed text stands between them. -/
theorem exists_inside_slices (s : String) : ∃ start stop : s.Pos,
    start.offset.byteIdx = insideStart s ∧ stop.offset.byteIdx = insideEnd s ∧
    s = (s.sliceTo start).copy ++ trim s ++ (s.sliceFrom stop).copy ∧
    (∀ c ∈ (s.sliceTo start).copy.toList, isBlank c = true) ∧
    ∀ c ∈ (s.sliceFrom stop).copy.toList, isBlank c = true := by
  have hall : s = String.ofList (leading s.toList) ++ trim s
      ++ String.ofList (trailing (trimStart s.toList)) := by
    rw [trim, ← String.ofList_append, ← String.ofList_append, leading_trim_trailing,
      String.ofList_toList]
  -- the same text is cut in two ways, once for each offset
  have hstart : s = String.ofList (leading s.toList)
      ++ (trim s ++ String.ofList (trailing (trimStart s.toList))) := by
    rwa [← String.append_assoc]
  obtain ⟨start, hstartOffset, hstartSplits⟩ := exists_pos_splits hstart
  obtain ⟨stop, hstopOffset, hstopSplits⟩ := exists_pos_splits hall
  refine ⟨start, stop, ?_, ?_, ?_⟩
  · rw [hstartOffset, insideStart_eq]
  · rw [hstopOffset, insideEnd, insideStart_eq, String.utf8ByteSize_append]
  · rw [← hstartSplits.eq_left start.splits, ← hstopSplits.eq_right stop.splits,
      String.toList_ofList, String.toList_ofList]
    exact ⟨hall, fun _ => isBlank_of_mem_leading, fun _ => isBlank_of_mem_trailing⟩

/-- What acts inside the blanks puts back the slices of the text in front of the one offset and
behind the other. -/
theorem ActsInside.exists_slices (hs : trim s ≠ "") : ∃ start stop : s.Pos,
    start.offset.byteIdx = insideStart s ∧ stop.offset.byteIdx = insideEnd s ∧
    ∀ change, ActsInside change →
      change s = (s.sliceTo start).copy ++ change (trim s) ++ (s.sliceFrom stop).copy := by
  obtain ⟨start, stop, hstart, hstop, hall, hfront, hbehind⟩ := exists_inside_slices s
  have htrimmed : Trimmed (trim s).toList := by
    rw [trim, String.toList_ofList]
    exact trimmed_trimChars s.toList
  -- the offsets depend on the text alone, so they come before the change
  refine ⟨start, stop, hstart, hstop, fun change h => ?_⟩
  have haround := h.around hfront hbehind htrimmed hs
  rwa [← hall] at haround

end TextRecipes.Text
