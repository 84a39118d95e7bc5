import Mathlib.Data.List.SplitBy
import Mathlib.Logic.ExistsUnique
import TextRecipes.Proofs.Text.Trimming
import TextRecipes.Text.TitleCase

/-!
# Titles word by word

A text has one layout: the blanks that it begins with, and then its words, each with the blanks
behind it (`existsUnique_layout`). Title case keeps the layout and changes each word on its own
(`titleRuns_runs_chars`): a particle that is not the first word is written in lower case, and in any
other word each segment between hyphens gets a capital on its first letter, if this stands before
the first apostrophe of the segment (`wordTitled_titleWord`).

It comes to the same to go through the text once, character by character, with the word that is not
finished yet in hand (`out_titled`).
-/

namespace TextRecipes.Text

variable {c : Char} {cs ds word segment : List Char} {words : List (List Char × List Char)}
  {particles : NameSet} {opening : Bool}

/-! ## Layouts -/

/-- Words, each with the blanks behind it, which must be there if another word follows. -/
inductive Spaced : List (List Char × List Char) → Prop
  | nil : Spaced []
  | cons {word gap : List Char} {rest : List (List Char × List Char)} :
      word ≠ [] → (∀ c ∈ word, isBlank c = false) → (∀ c ∈ gap, isBlank c = true) →
      (rest ≠ [] → gap ≠ []) → Spaced rest → Spaced ((word, gap) :: rest)

/-- The text of words with the blanks behind them. -/
def spread (words : List (List Char × List Char)) : List Char := words.flatMap fun w => w.1 ++ w.2

theorem spread_cons (word gap : List Char) (rest : List (List Char × List Char)) :
    spread ((word, gap) :: rest) = word ++ (gap ++ spread rest) := by
  simp [spread]

/-- The blanks that a text begins with, and its words with the blanks behind them. -/
@[ext] structure Layout where
  lead : List Char
  words : List (List Char × List Char)

namespace Layout

/-- The text with a layout. -/
def chars (l : Layout) : List Char := l.lead ++ spread l.words

/-- The text begins with nothing but blanks, and its words are spaced out. -/
structure Proper (l : Layout) : Prop where
  lead : ∀ c ∈ l.lead, isBlank c = true
  words : Spaced l.words

/-- The layout after one more blank in front. -/
def addBlank (c : Char) (l : Layout) : Layout := ⟨c :: l.lead, l.words⟩

/-- The layout after one more letter in front. It belongs to the first word, unless blanks stand
before that. -/
def addLetter (c : Char) : Layout → Layout
  | ⟨[], (word, gap) :: more⟩ => ⟨[], (c :: word, gap) :: more⟩
  | ⟨lead, words⟩ => ⟨[], ([c], lead) :: words⟩

end Layout

/-- The layout of a text. -/
def layout : List Char → Layout
  | [] => ⟨[], []⟩
  | c :: rest => if isBlank c then (layout rest).addBlank c else (layout rest).addLetter c

namespace Layout

variable {l : Layout}

theorem chars_addLetter (c : Char) (l : Layout) : (l.addLetter c).chars = c :: l.chars := by
  unfold addLetter
  split <;> simp [chars, spread]

theorem Proper.addBlank (h : l.Proper) (hc : isBlank c = true) : (l.addBlank c).Proper where
  lead := List.forall_mem_cons.mpr ⟨hc, h.lead⟩
  words := h.words

/-- A letter in front of a proper layout belongs to its first word, or is a word of its own. -/
theorem Proper.addLetter (h : l.Proper) (hc : isBlank c = false) : (l.addLetter c).Proper := by
  refine ⟨?_, ?_⟩ <;> unfold Layout.addLetter <;> split
  · exact fun d hd => nomatch hd
  · exact fun d hd => nomatch hd
  · cases h.words with
    | cons hne hword hgap hapart hrest =>
        exact .cons (List.cons_ne_nil _ _) (List.forall_mem_cons.mpr ⟨hc, hword⟩) hgap hapart hrest
  · next lead words hnew =>
      -- a word of its own, since blanks or the end of the text follow
      refine .cons (List.cons_ne_nil _ _) (by simp [hc]) h.lead ?_ h.words
      rintro hwords rfl
      obtain ⟨⟨word, gap⟩, more, rfl⟩ := List.exists_cons_of_ne_nil hwords
      exact hnew word gap more rfl rfl

end Layout

/-- A layout loses nothing of its text. -/
theorem chars_layout (cs : List Char) : (layout cs).chars = cs := by
  induction cs with
  | nil => rfl
  | cons c rest ih =>
      rw [layout]
      split
      · show c :: (layout rest).chars = c :: rest
        rw [ih]
      · rw [Layout.chars_addLetter, ih]

theorem proper_layout (cs : List Char) : (layout cs).Proper := by
  induction cs with
  | nil => exact ⟨fun _ hc => (nomatch hc), .nil⟩
  | cons c rest ih =>
      rw [layout]
      split
      · next hblank => exact ih.addBlank hblank
      · next hletter => exact ih.addLetter (by simpa using hletter)

/-! ## One layout only -/

/-- Blanks in front are part of the lead. -/
theorem layout_append_of_blank (hblank : ∀ c ∈ cs, isBlank c = true) (ds : List Char) :
    layout (cs ++ ds) = ⟨cs ++ (layout ds).lead, (layout ds).words⟩ := by
  induction cs with
  | nil => rfl
  | cons c rest ih =>
      rw [List.cons_append, layout, if_pos (hblank c List.mem_cons_self),
        ih fun d hd => hblank d (List.mem_cons_of_mem _ hd)]
      rfl

/-- A word is read as one, if blanks or the end of the text follow. -/
theorem layout_append_of_word (hne : cs ≠ []) (hword : ∀ c ∈ cs, isBlank c = false)
    (hend : (layout ds).words ≠ [] → (layout ds).lead ≠ []) :
    layout (cs ++ ds) = ⟨[], (cs, (layout ds).lead) :: (layout ds).words⟩ := by
  induction cs with
  | nil => exact absurd rfl hne
  | cons c rest ih =>
      have hc : ¬ isBlank c = true := by simp [hword c List.mem_cons_self]
      rw [List.cons_append, layout, if_neg hc]
      by_cases hrest : rest = []
      · subst hrest
        rw [List.nil_append]
        unfold Layout.addLetter
        split
        · next hlayout => simp [hlayout] at hend
        · next hlayout => rw [hlayout]
      · rw [ih hrest fun d hd => hword d (List.mem_cons_of_mem _ hd)]
        rfl

/-- Words that are spaced out are found again. -/
theorem layout_spread (h : Spaced words) : layout (spread words) = ⟨[], words⟩ := by
  induction h with
  | nil => rfl
  | @cons word gap rest hne hword hgap hapart _ ih =>
      have htail : layout (gap ++ spread rest) = ⟨gap, rest⟩ := by
        rw [layout_append_of_blank hgap, ih, List.append_nil]
      rw [spread_cons, layout_append_of_word hne hword (by rwa [htail]), htail]

/-- A layout can be read back from its text. -/
theorem Layout.Proper.layout_chars {l : Layout} (h : l.Proper) : layout l.chars = l := by
  rw [chars, layout_append_of_blank h.lead, layout_spread h.words, List.append_nil]

/-- **A text is laid out in one way.** -/
theorem existsUnique_layout (cs : List Char) : ∃! l : Layout, l.Proper ∧ l.chars = cs := by
  refine ⟨layout cs, ⟨proper_layout cs, chars_layout cs⟩, ?_⟩
  rintro l ⟨hproper, rfl⟩
  exact hproper.layout_chars.symm

/-! ## Runs and words -/

theorem runs_of_uniform {b : Bool} (hne : cs ≠ []) (h : ∀ c ∈ cs, isBlank c = b) :
    runs cs = [cs] := by
  refine List.splitBy_of_isChain hne (List.Pairwise.isChain ?_)
  exact List.pairwise_of_forall_mem_list fun c hc d hd => by simp [h c hc, h d hd]

/-- Where blanks and letters meet, one run ends and another begins. -/
theorem runs_append {b : Bool} (h : ∀ c ∈ cs, isBlank c = b) (h' : ∀ d ∈ ds.head?, isBlank d = !b) :
    runs (cs ++ ds) = runs cs ++ runs ds := by
  refine List.splitBy_append fun c hc d hd => ?_
  rw [h c (List.mem_of_getLast? hc), h' d hd]
  cases b <;> rfl

/-- A run of blanks stays as it is. -/
theorem titleRuns_append_of_blank (hblank : ∀ c ∈ cs, isBlank c = true)
    (hnext : ∀ d ∈ ds.head?, isBlank d = false) :
    titleRuns particles opening (runs (cs ++ ds))
      = cs ++ titleRuns particles opening (runs ds) := by
  by_cases hne : cs = []
  · subst hne
    rfl
  · have hall : cs.all isBlank = true := List.all_eq_true.mpr hblank
    rw [runs_append hblank hnext, runs_of_uniform hne hblank, List.singleton_append, titleRuns,
      if_pos hall]

/-- A word is written as a title has it, and none that comes later is the first. -/
theorem titleRuns_append_of_word (hne : cs ≠ []) (hword : ∀ c ∈ cs, isBlank c = false)
    (hnext : ∀ d ∈ ds.head?, isBlank d = true) :
    titleRuns particles opening (runs (cs ++ ds))
      = titleWord particles opening cs ++ titleRuns particles false (runs ds) := by
  have hall : ¬ cs.all isBlank = true := by
    obtain ⟨c, hc⟩ := List.exists_mem_of_ne_nil cs hne
    intro hblank
    simpa [hword c hc] using List.all_eq_true.mp hblank c hc
  rw [runs_append hword hnext, runs_of_uniform hne hword, List.singleton_append, titleRuns,
    if_neg hall]

/-- A word comes first, if there is one. -/
theorem Spaced.head?_spread (h : Spaced words) : ∀ c ∈ (spread words).head?, isBlank c = false := by
  cases h with
  | nil => exact fun c hc => nomatch hc
  | cons hne hword _ _ _ =>
      intro c hc
      rw [spread_cons, List.head?_append_of_ne_nil _ hne] at hc
      exact hword c (List.mem_of_mem_head? hc)

/-- The words of a title, where `opening` says whether no word came before. -/
def titledWords (particles : NameSet) (opening : Bool) :
    List (List Char × List Char) → List (List Char × List Char)
  | [] => []
  | (word, gap) :: rest =>
    (titleWord particles opening word, gap) :: titledWords particles false rest

/-- Of words that are spaced out each is changed on its own, and their gaps are kept. -/
theorem titleRuns_spread (h : Spaced words) (opening : Bool) :
    titleRuns particles opening (runs (spread words))
      = spread (titledWords particles opening words) := by
  induction h generalizing opening with
  | nil => rfl
  | @cons word gap rest hne hword hgap hapart hrest ih =>
      have hnext : ∀ c ∈ (gap ++ spread rest).head?, isBlank c = true := by
        intro c hc
        by_cases hnone : gap = []
        · have hlast : rest = [] := by_contra fun hmore => hapart hmore hnone
          subst hnone hlast
          cases hc
        · rw [List.head?_append_of_ne_nil _ hnone] at hc
          exact hgap c (List.mem_of_mem_head? hc)
      rw [spread_cons, titleRuns_append_of_word hne hword hnext,
        titleRuns_append_of_blank hgap hrest.head?_spread, ih, titledWords, spread_cons]

/-- **Title case keeps the layout of a text.** -/
theorem titleRuns_runs_chars {l : Layout} (h : l.Proper) :
    titleRuns particles true (runs l.chars)
      = Layout.chars ⟨l.lead, titledWords particles true l.words⟩ := by
  rw [Layout.chars, titleRuns_append_of_blank h.lead h.words.head?_spread, titleRuns_spread h.words]
  rfl

/-! ## Character by character -/

/-- How far a title is written: the finished text, the word that is not finished yet, and whether no
word came before that. -/
structure Draft where
  out : List Char := []
  word : List Char := []
  opening : Bool := true

namespace Draft

/-- The draft with its word finished, if it has one. -/
def finish (particles : NameSet) (d : Draft) : Draft :=
  if d.word.isEmpty then d else ⟨d.out ++ titleWord particles d.opening d.word, [], false⟩

/-- The draft after one more character. A blank finishes the word before it. -/
def step (particles : NameSet) (d : Draft) (c : Char) : Draft :=
  if isBlank c then { d.finish particles with out := (d.finish particles).out ++ [c] }
  else { d with word := d.word ++ [c] }

/-- The draft of a whole text. -/
def titled (particles : NameSet) (cs : List Char) : Draft :=
  (cs.foldl (step particles) {}).finish particles

end Draft

/-- A blank stays as it is, and the runs behind it are put together as before. -/
theorem titleRuns_runs_cons_of_blank (hc : isBlank c = true) (cs : List Char) :
    titleRuns particles opening (runs (c :: cs)) = c :: titleRuns particles opening (runs cs) := by
  have hblank : ∀ d ∈ cs.takeWhile isBlank, isBlank d = true :=
    fun d hd => List.mem_takeWhile_imp hd
  have hnext : ∀ d ∈ (cs.dropWhile isBlank).head?, isBlank d = false := by
    intro d hd
    have hstop := List.head?_dropWhile_not isBlank cs
    rw [Option.mem_def.mp hd] at hstop
    simpa using hstop
  have hcons : c :: cs = (c :: cs.takeWhile isBlank) ++ cs.dropWhile isBlank := by
    rw [List.cons_append, List.takeWhile_append_dropWhile]
  have hsplit : titleRuns particles opening (runs cs) = cs.takeWhile isBlank
      ++ titleRuns particles opening (runs (cs.dropWhile isBlank)) := by
    rw [← titleRuns_append_of_blank hblank hnext, List.takeWhile_append_dropWhile]
  rw [hcons, titleRuns_append_of_blank (List.forall_mem_cons.mpr ⟨hc, hblank⟩) hnext, hsplit,
    List.cons_append]

namespace Draft

variable {d : Draft}

theorem word_finish (particles : NameSet) (d : Draft) : (d.finish particles).word = [] := by
  unfold finish
  split
  · next hnone => exact List.isEmpty_iff.mp hnone
  · rfl

/-- Finishing a word makes no difference in front of a blank, or at the end. -/
theorem out_finish_append (hword : ∀ c ∈ d.word, isBlank c = false)
    (hnext : ∀ c ∈ cs.head?, isBlank c = true) :
    (d.finish particles).out ++ titleRuns particles (d.finish particles).opening (runs cs)
      = d.out ++ titleRuns particles d.opening (runs (d.word ++ cs)) := by
  unfold finish
  split
  · next hnone => rw [List.isEmpty_iff.mp hnone, List.nil_append]
  · next hsome =>
      have hne : d.word ≠ [] := fun hnone => hsome (List.isEmpty_iff.mpr hnone)
      rw [titleRuns_append_of_word hne hword hnext, List.append_assoc]

/-- In the end the title of the rest, with the unfinished word in front, is added to what was
written. -/
theorem out_foldl_step (hword : ∀ c ∈ d.word, isBlank c = false) :
    ((cs.foldl (step particles) d).finish particles).out
      = d.out ++ titleRuns particles d.opening (runs (d.word ++ cs)) := by
  -- by induction on the characters that are left, for every draft
  induction cs generalizing d with
  | nil =>
      have hend := @out_finish_append [] particles d hword fun c hc => nomatch hc
      rwa [show runs [] = [] from rfl, titleRuns, List.append_nil] at hend
  | cons c rest ih =>
      rw [List.foldl_cons]
      cases hc : isBlank c with
      | true =>
          have hstep : d.step particles c
              = { d.finish particles with out := (d.finish particles).out ++ [c] } := if_pos hc
          have hnone : (d.step particles c).word = [] := by rw [hstep, word_finish]
          rw [ih (by simp [hnone]), hnone, List.nil_append, hstep, List.append_assoc,
            List.singleton_append, ← titleRuns_runs_cons_of_blank hc]
          exact out_finish_append hword (by simp [hc])
      | false =>
          have hstep : d.step particles c = { d with word := d.word ++ [c] } :=
            if_neg (by simp [hc])
          rw [hstep, ih, List.append_assoc, List.singleton_append]
          exact List.forall_mem_append.mpr ⟨hword, List.forall_mem_singleton.mpr hc⟩

end Draft

/-- **A title can be written character by character.** -/
theorem out_titled (particles : NameSet) (cs : List Char) :
    (Draft.titled particles cs).out = titleRuns particles true (runs cs) :=
  Draft.out_foldl_step fun _ hc => nomatch hc

/-! ## Segments -/

/-- A segment without a letter before its first apostrophe, or a segment with a capital on its first
letter, before the first apostrophe. -/
inductive Capitalized : List Char → List Char → Prop
  | unchanged {segment : List Char} :
      (∀ c ∈ segment.takeWhile (!isApostrophe ·), isAlphabetic c = false) →
      Capitalized segment segment
  | letter {before after : List Char} {c : Char} :
      (∀ d ∈ before, isApostrophe d = false ∧ isAlphabetic d = false) →
      isApostrophe c = false → isAlphabetic c = true →
      Capitalized (before ++ c :: after) (before ++ (upperChar c ++ after))

theorem Capitalized.cons (h : Capitalized segment cs) (happ : isApostrophe c = false)
    (halpha : isAlphabetic c = false) : Capitalized (c :: segment) (c :: cs) := by
  cases h with
  | unchanged hnone => exact .unchanged (by simpa [happ, halpha] using hnone)
  | letter hbefore hc hletter =>
      exact .letter (List.forall_mem_cons.mpr ⟨⟨happ, halpha⟩, hbefore⟩) hc hletter

/-- What has its capital stays as it is until the next hyphen. -/
theorem capitalize_false (h : '-' ∉ segment) : capitalize false segment = segment := by
  induction segment with
  | nil => rfl
  | cons c rest ih =>
      obtain ⟨hc, hrest⟩ := List.ne_and_not_mem_of_not_mem_cons h
      simp [capitalize, hc.symm, ih hrest]

/-- Within a segment the first letter gets the capital, unless an apostrophe comes first. -/
theorem capitalized_capitalize (h : '-' ∉ segment) :
    Capitalized segment (capitalize true segment) := by
  induction segment with
  | nil => exact .unchanged fun c hc => nomatch hc
  | cons c rest ih =>
      obtain ⟨hc, hrest⟩ := List.ne_and_not_mem_of_not_mem_cons h
      have hhyphen : ¬ (c == '-') = true := by simpa using hc.symm
      rw [capitalize, if_neg hhyphen, capitalize_false hrest]
      cases happ : isApostrophe c with
      | true => exact .unchanged (by simp [happ])
      | false =>
          cases halpha : isAlphabetic c with
          | true =>
              show Capitalized ([] ++ c :: rest) ([] ++ (upperChar c ++ rest))
              exact .letter (fun d hd => nomatch hd) happ halpha
          | false => exact (ih hrest).cons happ halpha

/-- A hyphen starts a new segment, whatever the last one was like. -/
theorem capitalize_append_hyphen (h : '-' ∉ segment) (awaiting : Bool) (rest : List Char) :
    capitalize awaiting (segment ++ '-' :: rest)
      = capitalize awaiting segment ++ '-' :: capitalize true rest := by
  induction segment generalizing awaiting with
  | nil => rfl
  | cons c more ih =>
      obtain ⟨hc, hmore⟩ := List.ne_and_not_mem_of_not_mem_cons h
      have hhyphen : ¬ (c == '-') = true := by simpa using hc.symm
      rw [List.cons_append, capitalize, capitalize, if_neg hhyphen, if_neg hhyphen,
        ih hmore false, ih hmore awaiting]
      split
      · rfl
      · split <;> simp

/-- **Capitals go to the segments between hyphens.** -/
theorem capitalize_segments (word : List Char) :
    ∃ segments, List.Forall₂ Capitalized (word.splitOn '-') segments ∧
      capitalize true word = ['-'].intercalate segments := by
  by_cases h : '-' ∈ word
  · obtain ⟨segment, rest, hword, hsegment⟩ := List.eq_append_cons_of_mem h
    have hshorter : rest.length < word.length := by
      rw [hword, List.length_append, List.length_cons]
      omega
    obtain ⟨segments, hall, hrest⟩ := capitalize_segments rest
    have hsplit : word.splitOn '-' = segment :: rest.splitOn '-' := by
      rw [hword, List.splitOn_append_cons_self_of_not_mem hsegment]
    refine ⟨capitalize true segment :: segments, ?_, ?_⟩
    · rw [hsplit]
      exact .cons (capitalized_capitalize hsegment) hall
    · cases segments with
      | nil => exact absurd (List.forall₂_nil_right_iff.mp hall) (List.splitOn_ne_nil _ _)
      | cons next more =>
          rw [hword, capitalize_append_hyphen hsegment, hrest, List.intercalate_cons_cons,
            List.append_assoc, List.singleton_append]
  · refine ⟨[capitalize true word], ?_, ?_⟩
    · rw [List.splitOn_eq_singleton h]
      exact .cons (capitalized_capitalize h) .nil
    · rw [List.intercalate_singleton]
termination_by word.length

/-! ## Words -/

/-- What a word becomes in a title, where `opening` says whether it is the first. -/
structure WordTitled (particles : NameSet) (opening : Prop) (word out : List Char) : Prop where
  particle : ¬ opening → particles.contains (String.ofList (lowerChars word)) = true →
    out = lowerChars word
  capitals : opening ∨ particles.contains (String.ofList (lowerChars word)) = false →
    ∃ segments, List.Forall₂ Capitalized (word.splitOn '-') segments ∧
      out = ['-'].intercalate segments

/-- A word becomes what the rule for particles and segments says. -/
theorem wordTitled_titleWord (particles : NameSet) (opening : Bool) (word : List Char) :
    WordTitled particles (opening = true) word (titleWord particles opening word) where
  particle hlater hmem := by simp [titleWord, hlater, hmem]
  capitals hother := by
    have hword : titleWord particles opening word = capitalize true word := by
      rcases hother with hopening | hmem
      · simp [titleWord, hopening]
      · simp [titleWord, hmem]
    rw [hword]
    exact capitalize_segments word

/-- A title and the text that it is made of: the same blanks between words that correspond. -/
structure Layout.Titled (particles : NameSet) (l out : Layout) : Prop where
  lead : out.lead = l.lead
  gaps : out.words.map Prod.snd = l.words.map Prod.snd
  words : ∀ i w w', l.words[i]? = some w → out.words[i]? = some w' →
    WordTitled particles (i = 0) w.1 w'.1

theorem map_snd_titledWords (opening : Bool) (words : List (List Char × List Char)) :
    (titledWords particles opening words).map Prod.snd = words.map Prod.snd := by
  induction words generalizing opening with
  | nil => rfl
  | cons w rest ih => rw [titledWords, List.map_cons, List.map_cons, ih]

/-- Only the first word of a title can be the opening one. -/
theorem getElem?_titledWords (words : List (List Char × List Char)) (opening : Bool) (i : Nat) :
    (titledWords particles opening words)[i]?
      = words[i]?.map fun w => (titleWord particles (opening && i == 0) w.1, w.2) := by
  induction words generalizing opening i with
  | nil => rfl
  | cons w rest ih =>
      cases i with
      | zero => simp [titledWords]
      | succ i => simp [titledWords, ih]

theorem titled_titledWords (particles : NameSet) (l : Layout) :
    l.Titled particles ⟨l.lead, titledWords particles true l.words⟩ where
  lead := rfl
  gaps := map_snd_titledWords true l.words
  words i w w' hw hw' := by
    rw [getElem?_titledWords, hw, Option.map_some, Option.some_inj] at hw'
    subst hw'
    simpa using wordTitled_titleWord particles (true && i == 0) w.1

/-- **Title case goes word by word.** Every text has one layout as words and the blanks around them.
Its title has the same blanks. A word that is a particle when it is written in lower case, and that
is not the first, is written so. In any other word, the first one always included, each segment
between hyphens has its first letter replaced by the upper case, if that stands before the first
apostrophe of the segment, and all else stays as it is. The title is also what is written when the
characters are gone through one by one. -/
theorem titleCaseWith_word_by_word (particles : NameSet) (s : String) :
    (∃! l : Layout, l.Proper ∧ l.chars = s.toList) ∧
    (∀ l : Layout, l.Proper → l.chars = s.toList →
      ∃ out : Layout, l.Titled particles out ∧
        titleCaseWith particles s = String.ofList out.chars) ∧
    titleCaseWith particles s = String.ofList (Draft.titled particles s.toList).out := by
  refine ⟨existsUnique_layout s.toList, fun l hproper hchars => ?_, ?_⟩
  · refine ⟨_, titled_titledWords particles l, ?_⟩
    rw [titleCaseWith, ← hchars, titleRuns_runs_chars hproper]
  · rw [titleCaseWith, out_titled]

-- particles, an apostrophe, an empty segment, and a letter whose upper case is two letters
example : titleCaseWith (.ofList ["von", "of"]) " von d'artagnan\tVON -ßa-'x "
    = " Von D'artagnan\tvon -SSa-'x " := by decide +kernel

end TextRecipes.Text
