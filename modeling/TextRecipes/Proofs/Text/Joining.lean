import TextRecipes.Proofs.Text.Trimming
import TextRecipes.Text.Joining

/-!
# Tokens inside tokens

A blank goes if the run of blanks that it belongs to ends at a mark that closes up. So it makes no
difference whether such blanks have gone from a piece of the text before (`closeUp_around`), and the
joined text of some tokens can stand as one token for all of them (`join_around`): whatever is
joined out of joined texts is joined out of their tokens, however deep these lie
(`join_texts_eq_join_leaves`).
-/

namespace TextRecipes.Text

variable {c : Char} {cs ds before after : List Char}

/-! ## Blanks in front of marks -/

theorem meetsMark_cons_of_blank (h : isBlank c = true) : meetsMark (c :: cs) = meetsMark cs := by
  simp [meetsMark, h]

theorem meetsMark_cons_of_not_blank (h : isBlank c = false) :
    meetsMark (c :: cs) = closesUp c := by
  simp [meetsMark, h]

theorem closeUp_cons_of_removed (h : isBlank c = true) (hmark : meetsMark cs = true) :
    closeUp (c :: cs) = closeUp cs := by
  simp [closeUp, h, hmark]

theorem closeUp_cons_of_kept (h : (isBlank c && meetsMark cs) = false) :
    closeUp (c :: cs) = c :: closeUp cs := by
  simp [closeUp, h]

theorem closeUp_singleton (c : Char) : closeUp [c] = [c] :=
  closeUp_cons_of_kept (by simp [meetsMark])

/-- Whether a mark comes first is not changed by what comes before the same texts. -/
theorem meetsMark_append_congr (h : meetsMark cs = meetsMark ds) (before : List Char) :
    meetsMark (before ++ cs) = meetsMark (before ++ ds) := by
  induction before with
  | nil => exact h
  | cons c rest ih =>
      cases hblank : isBlank c with
      | true =>
          rw [List.cons_append, List.cons_append, meetsMark_cons_of_blank hblank,
            meetsMark_cons_of_blank hblank, ih]
      | false =>
          rw [List.cons_append, List.cons_append, meetsMark_cons_of_not_blank hblank,
            meetsMark_cons_of_not_blank hblank]

/-- A mark that is met is met whatever follows. -/
theorem meetsMark_append (h : meetsMark cs = true) (after : List Char) :
    meetsMark (cs ++ after) = true := by
  induction cs with
  | nil => cases h
  | cons c rest ih =>
      cases hblank : isBlank c with
      | true =>
          rw [meetsMark_cons_of_blank hblank] at h
          rw [List.cons_append, meetsMark_cons_of_blank hblank, ih h]
      | false =>
          rw [meetsMark_cons_of_not_blank hblank] at h
          rw [List.cons_append, meetsMark_cons_of_not_blank hblank, h]

/-- Only blanks go, so the first character that is not blank stays the same. -/
theorem meetsMark_closeUp_append (cs after : List Char) :
    meetsMark (closeUp cs ++ after) = meetsMark (cs ++ after) := by
  induction cs with
  | nil => rfl
  | cons c rest ih =>
      cases hblank : isBlank c with
      | true =>
          have hrest : meetsMark (c :: rest ++ after) = meetsMark (rest ++ after) :=
            meetsMark_cons_of_blank hblank
          rw [hrest, ← ih]
          cases hmark : meetsMark rest with
          | true => rw [closeUp_cons_of_removed hblank hmark]
          | false =>
              rw [closeUp_cons_of_kept (by simp [hmark]), List.cons_append,
                meetsMark_cons_of_blank hblank]
      | false =>
          rw [closeUp_cons_of_kept (by simp [hblank]), List.cons_append, List.cons_append,
            meetsMark_cons_of_not_blank hblank, meetsMark_cons_of_not_blank hblank]

/-- **Blanks that have gone already make no difference** to what follows. -/
theorem closeUp_closeUp_append (cs after : List Char) :
    closeUp (closeUp cs ++ after) = closeUp (cs ++ after) := by
  induction cs with
  | nil => rfl
  | cons c rest ih =>
      cases hgoes : isBlank c && meetsMark rest with
      | true =>
          obtain ⟨hblank, hmark⟩ := Bool.and_eq_true_iff.mp hgoes
          rw [closeUp_cons_of_removed hblank hmark, ih, List.cons_append,
            closeUp_cons_of_removed hblank (meetsMark_append hmark after)]
      | false =>
          rw [closeUp_cons_of_kept hgoes]
          -- a blank that stayed before may still go, if the mark comes with what follows
          simp only [List.cons_append, closeUp, meetsMark_closeUp_append, ih]

/-- What stands in front is closed up by the first mark behind it only. -/
theorem closeUp_append_congr (hmark : meetsMark cs = meetsMark ds) (h : closeUp cs = closeUp ds)
    (before : List Char) : closeUp (before ++ cs) = closeUp (before ++ ds) := by
  induction before with
  | nil => exact h
  | cons c rest ih =>
      simp only [List.cons_append, closeUp, meetsMark_append_congr hmark rest, ih]

/-- Closing up a piece of a text first changes nothing. -/
theorem closeUp_around (before cs after : List Char) :
    closeUp (before ++ closeUp cs ++ after) = closeUp (before ++ cs ++ after) := by
  rw [List.append_assoc, List.append_assoc]
  exact closeUp_append_congr (meetsMark_closeUp_append cs after) (closeUp_closeUp_append cs after)
    before

/-- Closing up leaves the end of a text alone, and may only take blanks away in front of it. -/
theorem exists_closeUp_append (cs ds : List Char) :
    ∃ before, closeUp (cs ++ ds) = before ++ closeUp ds := by
  induction cs with
  | nil => exact ⟨[], rfl⟩
  | cons c rest ih =>
      obtain ⟨before, hbefore⟩ := ih
      rw [List.cons_append, closeUp, hbefore]
      split
      · exact ⟨before, rfl⟩
      · exact ⟨c :: before, rfl⟩

/-- A last character that is not blank stays where it is. -/
theorem last_closeUp (h : ∀ c ∈ cs.getLast?, isBlank c = false) :
    ∀ c ∈ (closeUp cs).getLast?, isBlank c = false := by
  intro c hc
  rcases List.eq_nil_or_concat cs with rfl | ⟨rest, last, rfl⟩
  · cases hc
  · have hlast : isBlank last = false := h last (by simp)
    obtain ⟨before, hbefore⟩ := exists_closeUp_append rest [last]
    rw [List.concat_eq_append, hbefore, closeUp_singleton, List.getLast?_concat] at hc
    cases hc
    exact hlast

/-- The first and the last character of a trimmed text stay where they are. -/
theorem Trimmed.closeUp (h : Trimmed cs) : Trimmed (closeUp cs) where
  first := by
    intro c hc
    cases cs with
    | nil => cases hc
    | cons first rest =>
        have hfirst : isBlank first = false := h.first first rfl
        rw [closeUp_cons_of_kept (by simp [hfirst])] at hc
        cases hc
        exact hfirst
  last := last_closeUp h.last

/-- A text that is not empty does not vanish, unless it is all blank. -/
theorem closeUp_eq_nil (h : Trimmed cs) (hnil : closeUp cs = []) : cs = [] := by
  cases cs with
  | nil => rfl
  | cons first rest =>
      have hfirst : isBlank first = false := h.first first rfl
      rw [closeUp_cons_of_kept (by simp [hfirst])] at hnil
      cases hnil

/-! ## Words set apart -/

/-- The trimmed tokens that are not blank. -/
def words (tokens : List (List Char)) : List (List Char) :=
  (tokens.map trimChars).filter (!·.isEmpty)

/-- Some words set apart by single spaces. -/
def setApart (ws : List (List Char)) : List Char := [' '].intercalate ws

/-- The words of tokens in a row are those of each, in a row. -/
theorem words_append (tokens tokens' : List (List Char)) :
    words (tokens ++ tokens') = words tokens ++ words tokens' := by
  rw [words, List.map_append, List.filter_append]
  rfl

theorem words_singleton (h : Trimmed cs) (hne : cs ≠ []) : words [cs] = [cs] := by
  simp [words, h.trimChars_eq, hne]

theorem trimmed_of_mem_words (tokens : List (List Char)) :
    ∀ word ∈ words tokens, Trimmed word ∧ word ≠ [] := by
  intro word h
  obtain ⟨hmem, hkept⟩ := List.mem_filter.mp h
  obtain ⟨token, _, rfl⟩ := List.mem_map.mp hmem
  exact ⟨trimmed_trimChars token, by simpa using hkept⟩

@[simp] theorem setApart_singleton (word : List Char) : setApart [word] = word :=
  List.intercalate_singleton

theorem setApart_cons (word : List Char) {rest : List (List Char)} (h : rest ≠ []) :
    setApart (word :: rest) = word ++ ' ' :: setApart rest := by
  cases rest with
  | nil => exact absurd rfl h
  | cons next rest => simp [setApart, List.intercalate_cons_cons]

/-- What stands around one of some words does not depend on the word. -/
theorem exists_setApart_around (ws ws' : List (List Char)) :
    ∃ before after, ∀ word, setApart (ws ++ word :: ws') = before ++ word ++ after := by
  induction ws with
  | nil =>
      cases ws' with
      | nil => exact ⟨[], [], fun word => by simp⟩
      | cons next rest =>
          exact ⟨[], ' ' :: setApart (next :: rest), fun word => setApart_cons word (by simp)⟩
  | cons first rest ih =>
      obtain ⟨before, after, haround⟩ := ih
      refine ⟨first ++ ' ' :: before, after, fun word => ?_⟩
      rw [List.cons_append, setApart_cons first (by simp), haround]
      simp only [List.append_assoc, List.cons_append]

/-- Two lists of words are set apart by one more space. -/
theorem setApart_append {ws ws' : List (List Char)} (h : ws ≠ []) (h' : ws' ≠ []) :
    setApart (ws ++ ws') = setApart ws ++ ' ' :: setApart ws' := by
  induction ws with
  | nil => exact absurd rfl h
  | cons word rest ih =>
      by_cases hrest : rest = []
      · subst hrest
        rw [List.singleton_append, setApart_cons word h', setApart_singleton]
      · have hne : rest ++ ws' ≠ [] := by simp [hrest]
        rw [List.cons_append, setApart_cons word hne, ih hrest, setApart_cons word hrest,
          List.append_assoc, List.cons_append]

/-- Words that are set apart can be set apart from others as if they were one. -/
theorem setApart_setApart (ws ws' : List (List Char)) {inner : List (List Char)} (h : inner ≠ []) :
    setApart (ws ++ setApart inner :: ws') = setApart (ws ++ (inner ++ ws')) := by
  induction ws with
  | nil =>
      by_cases hnil : ws' = []
      · subst hnil
        simp [setApart]
      · rw [List.nil_append, List.nil_append, setApart_cons _ hnil, setApart_append h hnil]
  | cons word rest ih =>
      have hne : rest ++ (inner ++ ws') ≠ [] := by simp [h]
      rw [List.cons_append, List.cons_append, setApart_cons word (by simp), ih,
        setApart_cons word hne]

/-- Trimmed words that are set apart have no blank at the ends. -/
theorem trimmed_setApart {ws : List (List Char)} (h : ∀ word ∈ ws, Trimmed word ∧ word ≠ []) :
    Trimmed (setApart ws) ∧ (setApart ws = [] → ws = []) := by
  induction ws with
  | nil => exact ⟨trimmed_nil, fun _ => rfl⟩
  | cons word rest ih =>
      obtain ⟨hword, hne⟩ := h word List.mem_cons_self
      obtain ⟨hrest, hnil⟩ := ih fun other hother => h other (List.mem_cons_of_mem _ hother)
      by_cases hlast : rest = []
      · subst hlast
        rw [setApart_singleton]
        exact ⟨hword, fun heq => absurd heq hne⟩
      · rw [setApart_cons word hlast]
        have hbetween := hword.between hrest hne (fun heq => hlast (hnil heq)) [' ']
        rw [List.append_assoc] at hbetween
        exact ⟨hbetween, fun heq => by simp at heq⟩

/-! ## Joined texts as tokens -/

/-- The trim at the end has nothing to do. -/
theorem joinChars_eq (tokens : List (List Char)) :
    joinChars tokens = closeUp (setApart (words tokens)) ∧ Trimmed (joinChars tokens) := by
  have htrimmed : Trimmed (closeUp (setApart (words tokens))) :=
    (trimmed_setApart (trimmed_of_mem_words tokens)).1.closeUp
  have heq : joinChars tokens = closeUp (setApart (words tokens)) := htrimmed.trimChars_eq
  exact ⟨heq, heq ▸ htrimmed⟩

/-- The joined text of some tokens is one word, unless they have none. -/
theorem words_joinChars (tokens : List (List Char)) :
    words [joinChars tokens] = if words tokens = [] then [] else [joinChars tokens] := by
  obtain ⟨heq, htrimmed⟩ := joinChars_eq tokens
  split
  · next hnil =>
      have hempty : joinChars tokens = [] := by rw [heq, hnil]; rfl
      rw [hempty]
      rfl
  · next hsome =>
      refine words_singleton htrimmed fun hempty => hsome ?_
      obtain ⟨happart, hnil⟩ := trimmed_setApart (trimmed_of_mem_words tokens)
      exact hnil (closeUp_eq_nil happart (heq.symm.trans hempty))

/-- A joined text may be taken apart again inside another, since joining it once more makes the same
of its words. -/
theorem joinChars_around (outer inner outer' : List (List Char)) :
    joinChars (outer ++ [joinChars inner] ++ outer') = joinChars (outer ++ inner ++ outer') := by
  rw [(joinChars_eq _).1, (joinChars_eq (outer ++ inner ++ outer')).1]
  simp only [words_append, words_joinChars]
  split
  · next hnil => rw [hnil]
  · next hsome =>
      -- the word may be closed up before or together with those around it
      obtain ⟨before, after, haround⟩ := exists_setApart_around (words outer) (words outer')
      calc closeUp (setApart (words outer ++ [joinChars inner] ++ words outer'))
          = closeUp (before ++ closeUp (setApart (words inner)) ++ after) := by
            rw [List.append_assoc, List.singleton_append, haround, (joinChars_eq inner).1]
        _ = closeUp (before ++ setApart (words inner) ++ after) := closeUp_around before _ after
        _ = closeUp (setApart (words outer ++ words inner ++ words outer')) := by
            rw [← haround, setApart_setApart _ _ hsome, List.append_assoc]

/-- **A joined text is as good as its tokens.** -/
theorem join_around (outer inner outer' : List String) :
    join (outer ++ [join inner] ++ outer') = join (outer ++ inner ++ outer') := by
  have hchars := joinChars_around (outer.map String.toList) (inner.map String.toList)
    (outer'.map String.toList)
  simp only [join, List.map_append, List.map_singleton, String.toList_ofList, hchars]

/-! ## Joined texts inside joined texts -/

/-- A token that is a text, or that is itself joined from tokens. -/
inductive Joined where
  | text (s : String)
  | joined (inner : List Joined)

namespace Joined

mutual

/-- The text of a token. -/
def toText : Joined → String
  | text s => s
  | joined inner => join (texts inner)

/-- The texts of some tokens. -/
def texts : List Joined → List String
  | [] => []
  | token :: rest => token.toText :: texts rest

end

mutual

/-- The texts that a token is made of in the end. -/
def leaves : Joined → List String
  | text s => [s]
  | joined inner => allLeaves inner

/-- The texts that some tokens are made of in the end, in order. -/
def allLeaves : List Joined → List String
  | [] => []
  | token :: rest => token.leaves ++ allLeaves rest

end

mutual

/-- A token that was joined itself may be replaced by its leaves. -/
theorem join_toText (before after : List String) :
    (token : Joined) → join (before ++ [token.toText] ++ after)
      = join (before ++ token.leaves ++ after)
  | text _ => by rw [toText, leaves]
  | joined inner => by rw [toText, leaves, join_around, join_texts before after inner]

/-- And so may all of them, one after the other. -/
theorem join_texts (before after : List String) :
    (tokens : List Joined) → join (before ++ texts tokens ++ after)
      = join (before ++ allLeaves tokens ++ after)
  | [] => by rw [texts, allLeaves]
  | token :: rest => by
      -- the first token and then the others, with what is settled moved in front
      calc join (before ++ texts (token :: rest) ++ after)
          = join (before ++ [token.toText] ++ (texts rest ++ after)) := by
            simp only [texts, List.append_assoc, List.cons_append, List.nil_append]
        _ = join (before ++ token.leaves ++ texts rest ++ after) := by
            rw [join_toText before _ token, List.append_assoc (before ++ _)]
        _ = join (before ++ allLeaves (token :: rest) ++ after) := by
            rw [join_texts (before ++ token.leaves) after rest, allLeaves, ← List.append_assoc]

end

/-- **However deep tokens lie inside others**, their texts are joined as if they stood side by
side. -/
theorem join_texts_eq_join_leaves (tokens : List Joined) :
    join (texts tokens) = join (allLeaves tokens) := by
  have h := join_texts [] [] tokens
  rwa [List.append_nil, List.append_nil] at h

end Joined

end TextRecipes.Text
