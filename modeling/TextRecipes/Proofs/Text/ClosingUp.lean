import Mathlib.Data.List.SplitBy
import TextRecipes.Text.TitleCase
import TextRecipes.Proofs.Text.Joining

/-!
# Closing up to the marks

A text is cut into its maximal runs, of blanks and of other characters in turn (`MaximalRuns`).
Closing up takes away just those runs of blanks that a mark that closes up follows immediately
(`MaximalRuns.closeUp_eq`). It comes to the same to write the text from left to right and to take
back, before each such mark, the blanks that were written last (`foldl_write`): nothing is taken
back beyond a character that is not blank, so the text falls apart there
(`closeUp_append_of_last`).

So the joined text of tokens keeps all their characters that are not blank, in order, and has no
blank at its ends or in front of such a mark (`join_assembles`).
-/

namespace TextRecipes.Text

variable {c : Char} {cs ds run : List Char} {rs : List (List Char)}

/-! ## Maximal runs -/

/-- A text as its maximal runs of blanks and of characters that are not blank. -/
structure MaximalRuns (cs : List Char) (rs : List (List Char)) : Prop where
  flatten : rs.flatten = cs
  nonempty : ∀ run ∈ rs, run ≠ []
  uniform : ∀ run ∈ rs, (∀ c ∈ run, isBlank c = true) ∨ ∀ c ∈ run, isBlank c = false
  alternate : rs.IsChain fun run next => ∀ c ∈ run, ∀ d ∈ next, isBlank c ≠ isBlank d

/-- The runs without those of blanks that a mark that closes up follows immediately. -/
def closedRuns : List (List Char) → List (List Char)
  | [] => []
  | run :: rest =>
    if run.all isBlank && rest.flatten.head?.any closesUp then closedRuns rest
    else run :: closedRuns rest

/-- The characters of a run are all blank, or none of them is. -/
theorem isBlank_eq_of_mem_runs (h : run ∈ runs cs) :
    ∀ c ∈ run, ∀ d ∈ run, isBlank c = isBlank d := by
  have hnext : (run.map isBlank).IsChain (· = ·) :=
    (List.isChain_map isBlank).mpr ((List.isChain_of_mem_splitBy h).imp fun _ _ => eq_of_beq)
  have hpairs : (run.map isBlank).Pairwise (· = ·) := List.isChain_iff_pairwise.mp hnext
  intro c hc d hd
  exact hpairs.forall_of_forall (fun _ _ => rfl) (List.mem_map_of_mem hc) (List.mem_map_of_mem hd)

theorem maximalRuns_runs (cs : List Char) : MaximalRuns cs (runs cs) where
  flatten := List.flatten_splitBy _ cs
  nonempty _ hrun := List.ne_nil_of_mem_splitBy hrun
  uniform run hrun := by
    obtain ⟨first, hfirst⟩ := List.exists_mem_of_ne_nil run (List.ne_nil_of_mem_splitBy hrun)
    cases hblank : isBlank first with
    | true => exact .inl fun c hc => (isBlank_eq_of_mem_runs hrun c hc first hfirst).trans hblank
    | false => exact .inr fun c hc => (isBlank_eq_of_mem_runs hrun c hc first hfirst).trans hblank
  alternate := by
    -- a run breaks off where two characters differ, and these stand for all of their runs
    refine List.IsChain.imp_of_mem_imp ?_ (List.isChain_getLast_head_splitBy _ cs)
    rintro run next hrun hnext ⟨hne, hne', hbreak⟩ c hc d hd
    rw [isBlank_eq_of_mem_runs hrun c hc _ (List.getLast_mem hne),
      isBlank_eq_of_mem_runs hnext d hd _ (List.head_mem hne')]
    exact beq_eq_false_iff_ne.mp hbreak

theorem MaximalRuns.tail (h : MaximalRuns cs (run :: rs)) : MaximalRuns rs.flatten rs where
  flatten := rfl
  nonempty other hother := h.nonempty other (List.mem_cons_of_mem _ hother)
  uniform other hother := h.uniform other (List.mem_cons_of_mem _ hother)
  alternate := h.alternate.tail

/-- After a run of blanks stands a character that is not blank, or nothing. -/
theorem MaximalRuns.head?_of_blank (h : MaximalRuns cs (run :: rs))
    (hblank : ∀ c ∈ run, isBlank c = true) : ∀ d ∈ rs.flatten.head?, isBlank d = false := by
  intro d hd
  cases rs with
  | nil => cases hd
  | cons next rest =>
      obtain ⟨c, hc⟩ := List.exists_mem_of_ne_nil run (h.nonempty run List.mem_cons_self)
      have hne : next ≠ [] := h.nonempty next (List.mem_cons_of_mem _ List.mem_cons_self)
      rw [List.flatten_cons, List.head?_append_of_ne_nil _ hne] at hd
      have hdiffer := (List.isChain_cons_cons.mp h.alternate).1 c hc d (List.mem_of_mem_head? hd)
      rw [hblank c hc] at hdiffer
      simpa using hdiffer.symm

/-! ## What goes -/

theorem meetsMark_append_of_blank (hblank : ∀ c ∈ cs, isBlank c = true) (ds : List Char) :
    meetsMark (cs ++ ds) = meetsMark ds := by
  induction cs with
  | nil => rfl
  | cons c rest ih =>
      rw [List.cons_append, meetsMark_cons_of_blank (hblank c List.mem_cons_self)]
      exact ih fun d hd => hblank d (List.mem_cons_of_mem _ hd)

theorem meetsMark_of_head? (h : ∀ d ∈ ds.head?, isBlank d = false) :
    meetsMark ds = ds.head?.any closesUp := by
  cases ds with
  | nil => rfl
  | cons d rest => exact meetsMark_cons_of_not_blank (h d rfl)

/-- Blanks go or stay all together. -/
theorem closeUp_append_of_blank (hblank : ∀ c ∈ cs, isBlank c = true) (ds : List Char) :
    closeUp (cs ++ ds) = if meetsMark ds then closeUp ds else cs ++ closeUp ds := by
  induction cs with
  | nil => simp
  | cons c rest ih =>
      have hrest : ∀ d ∈ rest, isBlank d = true := fun d hd => hblank d (List.mem_cons_of_mem _ hd)
      rw [List.cons_append, closeUp, hblank c List.mem_cons_self,
        meetsMark_append_of_blank hrest, ih hrest]
      cases meetsMark ds <;> rfl

theorem closeUp_append_of_not_blank (h : ∀ c ∈ cs, isBlank c = false) (ds : List Char) :
    closeUp (cs ++ ds) = cs ++ closeUp ds := by
  induction cs with
  | nil => rfl
  | cons c rest ih =>
      have hc : isBlank c = false := h c List.mem_cons_self
      rw [List.cons_append, closeUp_cons_of_kept (by simp [hc]),
        ih fun d hd => h d (List.mem_cons_of_mem _ hd), List.cons_append]

/-- **Just those runs of blanks go that a mark follows immediately.** -/
theorem MaximalRuns.closeUp_eq (h : MaximalRuns cs rs) : closeUp cs = (closedRuns rs).flatten := by
  rw [← h.flatten]
  induction rs generalizing cs with
  | nil => rfl
  | cons run rest ih =>
      rw [List.flatten_cons, closedRuns]
      rcases h.uniform run List.mem_cons_self with hblank | hword
      · have hall : run.all isBlank = true := List.all_eq_true.mpr hblank
        rw [closeUp_append_of_blank hblank, meetsMark_of_head? (h.head?_of_blank hblank), hall,
          Bool.true_and, ih h.tail]
        split <;> rfl
      · obtain ⟨c, hc⟩ := List.exists_mem_of_ne_nil run (h.nonempty run List.mem_cons_self)
        have hall : run.all isBlank = false :=
          List.all_eq_false.mpr ⟨c, hc, by simp [hword c hc]⟩
        rw [closeUp_append_of_not_blank hword, hall, ih h.tail]
        rfl

/-! ## Writing from left to right -/

/-- What is written after one more character: a mark that closes up takes back the blanks that
were written last. -/
def write (written : List Char) (c : Char) : List Char :=
  (if closesUp c then trimEnd written else written) ++ [c]

theorem isBlank_of_closesUp (h : closesUp c = true) : isBlank c = false := by
  simp only [closesUp, Bool.or_eq_true, beq_iff_eq, or_assoc] at h
  rcases h with rfl | rfl | rfl | rfl | rfl | rfl <;> decide

theorem closeUp_of_blank (hblank : ∀ c ∈ cs, isBlank c = true) : closeUp cs = cs := by
  have happend := closeUp_append_of_blank hblank []
  rwa [List.append_nil, closeUp, List.append_nil] at happend

/-- A mark is met or not before the text ends, if its last character is not blank. -/
theorem meetsMark_append_of_last (hne : cs ≠ []) (hlast : ∀ c ∈ cs.getLast?, isBlank c = false)
    (ds : List Char) : meetsMark (cs ++ ds) = meetsMark cs := by
  induction cs with
  | nil => exact absurd rfl hne
  | cons c rest ih =>
      cases hblank : isBlank c with
      | false =>
          rw [List.cons_append, meetsMark_cons_of_not_blank hblank,
            meetsMark_cons_of_not_blank hblank]
      | true =>
          have hrest : rest ≠ [] := by
            rintro rfl
            have hnot := hlast c rfl
            rw [hblank] at hnot
            cases hnot
          rw [List.cons_append, meetsMark_cons_of_blank hblank, meetsMark_cons_of_blank hblank]
          refine ih hrest fun d hd => hlast d ?_
          rwa [List.getLast?_cons_of_ne_nil hrest]

/-- **Nothing goes beyond a character that is not blank.** -/
theorem closeUp_append_of_last (hlast : ∀ c ∈ cs.getLast?, isBlank c = false) (ds : List Char) :
    closeUp (cs ++ ds) = closeUp cs ++ closeUp ds := by
  induction cs with
  | nil => rfl
  | cons c rest ih =>
      by_cases hrest : rest = []
      · subst hrest
        have hc : isBlank c = false := hlast c rfl
        rw [closeUp_singleton, List.singleton_append, closeUp_cons_of_kept (by simp [hc])]
        rfl
      · have hrestLast : ∀ d ∈ rest.getLast?, isBlank d = false := by
          intro d hd
          exact hlast d (by rwa [List.getLast?_cons_of_ne_nil hrest])
        rw [List.cons_append, closeUp, closeUp, meetsMark_append_of_last hrest hrestLast,
          ih hrestLast]
        split <;> rfl

/-- A mark closes up to the last character before it that is not blank. -/
theorem closeUp_concat_of_closesUp (hmark : closesUp c = true) (cs : List Char) :
    closeUp (cs ++ [c]) = trimEnd (closeUp cs) ++ [c] := by
  have hblank : ∀ d ∈ trailing cs, isBlank d = true := fun d hd => isBlank_of_mem_trailing hd
  have hlast : ∀ d ∈ (trimEnd cs).getLast?, isBlank d = false := last_trimEnd cs
  have hmeets : meetsMark [c] = true :=
    (meetsMark_cons_of_not_blank (isBlank_of_closesUp hmark)).trans hmark
  -- the text up to its last character that is not blank, and the blanks that go
  have hclosed : closeUp cs = closeUp (trimEnd cs) ++ trailing cs := by
    calc closeUp cs = closeUp (trimEnd cs ++ trailing cs) := by rw [trimEnd_trailing]
      _ = closeUp (trimEnd cs) ++ trailing cs := by
          rw [closeUp_append_of_last hlast, closeUp_of_blank hblank]
  calc closeUp (cs ++ [c])
      = closeUp (trimEnd cs ++ (trailing cs ++ [c])) := by
        rw [← List.append_assoc, trimEnd_trailing]
    _ = closeUp (trimEnd cs) ++ [c] := by
        rw [closeUp_append_of_last hlast, closeUp_append_of_blank hblank, if_pos hmeets,
          closeUp_singleton]
    _ = trimEnd (closeUp cs) ++ [c] := by
        rw [hclosed, trimEnd_append_of_blank hblank, trimEnd_eq_self (last_closeUp hlast)]

/-- Any other character is written as it comes. -/
theorem closeUp_concat_of_not_closesUp (hnot : closesUp c = false) (cs : List Char) :
    closeUp (cs ++ [c]) = closeUp cs ++ [c] := by
  have hmeets : meetsMark [c] = meetsMark [] := by
    cases hblank : isBlank c with
    | true => exact meetsMark_cons_of_blank hblank
    | false => exact (meetsMark_cons_of_not_blank hblank).trans hnot
  induction cs with
  | nil => exact closeUp_singleton c
  | cons d rest ih =>
      have hrest : meetsMark (rest ++ [c]) = meetsMark rest := by
        rw [meetsMark_append_congr hmeets, List.append_nil]
      rw [List.cons_append, closeUp, closeUp, hrest, ih]
      split <;> rfl

theorem closeUp_concat (cs : List Char) (c : Char) :
    closeUp (cs ++ [c]) = write (closeUp cs) c := by
  rw [write]
  cases hmark : closesUp c with
  | true => exact closeUp_concat_of_closesUp hmark cs
  | false => exact closeUp_concat_of_not_closesUp hmark cs

/-- **A text that is written from left to right is closed up.** -/
theorem foldl_write (cs : List Char) : cs.foldl write [] = closeUp cs := by
  induction cs using List.reverseRecOn with
  | nil => rfl
  | append_singleton rest c ih =>
      rw [List.foldl_append, ih, List.foldl_cons, List.foldl_nil, closeUp_concat]

/-! ## What stays -/

theorem filter_not_blank_closeUp (cs : List Char) :
    (closeUp cs).filter (!isBlank ·) = cs.filter (!isBlank ·) := by
  induction cs with
  | nil => rfl
  | cons c rest ih =>
      rw [closeUp]
      split
      · next hgoes =>
          have hblank : isBlank c = true := (Bool.and_eq_true_iff.mp hgoes).1
          rw [ih, List.filter_cons_of_neg (by simp [hblank])]
      · rw [List.filter_cons, List.filter_cons, ih]

theorem filter_not_blank_setApart (ws : List (List Char)) :
    (setApart ws).filter (!isBlank ·) = ws.flatten.filter (!isBlank ·) := by
  induction ws with
  | nil => rfl
  | cons word rest ih =>
      by_cases hrest : rest = []
      · subst hrest
        rw [setApart_singleton, List.flatten_singleton]
      · have hspace : (!isBlank ' ') = false := by decide
        rw [setApart_cons word hrest, List.filter_append,
          List.filter_cons_of_neg (by simp [hspace]),
          ih, List.flatten_cons, List.filter_append]

/-- The words of tokens have the characters of the tokens that are not blank. -/
theorem filter_not_blank_words (tokens : List (List Char)) :
    (words tokens).flatten.filter (!isBlank ·) = tokens.flatten.filter (!isBlank ·) := by
  have htrim : (List.filter (!isBlank ·)) ∘ trimChars = List.filter (!isBlank ·) :=
    funext filter_not_blank_trimChars
  rw [words, List.flatten_filter_not_isEmpty, List.filter_flatten, List.filter_flatten,
    List.map_map, htrim]

/-- No blank is left in front of a mark that closes up. -/
theorem isChain_closeUp (cs : List Char) :
    (closeUp cs).IsChain fun c mark => (isBlank c && closesUp mark) = false := by
  induction cs with
  | nil => exact List.isChain_nil
  | cons c rest ih =>
      rw [closeUp]
      split
      · exact ih
      · next hkept =>
          refine ih.cons fun mark hhead => ?_
          cases hmark : closesUp mark with
          | false => exact Bool.and_false _
          | true =>
              -- a mark that comes next would have taken the blank with it
              have hmeets : meetsMark rest = true := by
                have hclosed := meetsMark_closeUp_append rest []
                rw [List.append_nil, List.append_nil] at hclosed
                rw [← hclosed]
                cases hrest : closeUp rest with
                | nil =>
                    rw [hrest] at hhead
                    cases hhead
                | cons d after =>
                    rw [hrest] at hhead
                    cases hhead
                    exact (meetsMark_cons_of_not_blank (isBlank_of_closesUp hmark)).trans hmark
              simpa [hmeets] using hkept

/-! ## The joined text -/

/-- The words of tokens are the trimmed tokens that are not empty. -/
theorem words_toList (tokens : List String) :
    words (tokens.map String.toList)
      = ((tokens.map trim).filter (· ≠ "")).map String.toList := by
  have htrim : (tokens.map String.toList).map trimChars = (tokens.map trim).map String.toList := by
    rw [List.map_map, List.map_map]
    exact List.map_congr_left fun token _ => String.toList_ofList.symm
  have hempty : ((!·.isEmpty) ∘ String.toList : String → Bool) = fun token => token ≠ "" := by
    funext token
    by_cases h : token = "" <;> simp [h]
  rw [words, htrim, List.filter_map, hempty]

/-- **How tokens are joined.** Tokens are trimmed, the empty ones are dropped, and the rest are set
apart by single spaces. Of this text those maximal runs of blanks go that a mark that closes up
follows immediately, and nothing else; or, to the same effect, each such mark takes back the blanks
that were written last, and there is nothing left to trim. So the joined text has no blanks at its
ends and none in front of a mark, and of the other characters it has all that the tokens have, in
their order. -/
theorem join_assembles (tokens : List String) :
    let text := (" ".intercalate ((tokens.map trim).filter (· ≠ ""))).toList
    let joined := (join tokens).toList
    MaximalRuns text (runs text) ∧
    joined = (closedRuns (runs text)).flatten ∧
    joined = text.foldl write [] ∧
    trimChars (text.foldl write []) = text.foldl write [] ∧
    Trimmed joined ∧
    joined.IsChain (fun c mark => (isBlank c && closesUp mark) = false) ∧
    joined.filter (!isBlank ·) = (tokens.flatMap String.toList).filter (!isBlank ·) := by
  intro text joined
  have htext : text = setApart (words (tokens.map String.toList)) := by
    rw [words_toList]
    exact String.toList_intercalate
  have hchars : joined = joinChars (tokens.map String.toList) := String.toList_ofList
  obtain ⟨hclosed, htrimmed⟩ := joinChars_eq (tokens.map String.toList)
  rw [← hchars] at hclosed htrimmed
  rw [← htext] at hclosed
  have hruns : MaximalRuns text (runs text) := maximalRuns_runs text
  have hwritten : joined = text.foldl write [] := hclosed.trans (foldl_write text).symm
  refine ⟨hruns, hclosed.trans hruns.closeUp_eq, hwritten, ?_, htrimmed, ?_, ?_⟩
  · rw [← hwritten]
    exact htrimmed.trimChars_eq
  · rw [hclosed]
    exact isChain_closeUp text
  · calc joined.filter (!isBlank ·)
        = text.filter (!isBlank ·) := by rw [hclosed, filter_not_blank_closeUp]
      _ = (words (tokens.map String.toList)).flatten.filter (!isBlank ·) := by
          rw [htext, filter_not_blank_setApart]
      _ = (tokens.flatMap String.toList).filter (!isBlank ·) := by
          rw [filter_not_blank_words, List.flatMap_def]

-- blanks of any kind go, inside a token and between two of them
example : join [" Anna ", " ", ", world\u00a0!?", "..."] = "Anna, world!?..." := by decide +kernel

end TextRecipes.Text
