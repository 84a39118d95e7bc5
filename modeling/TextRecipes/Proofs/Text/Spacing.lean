import Mathlib.Data.List.Basic
import TextRecipes.Proofs.Text.Trimming
import TextRecipes.Transform

/-!
# Spacing and folding in any order

Trimming, collapsing and removing blanks and spelling letters plainly are the transforms of a text
other than title case. Each of them has nothing left to do after it is made (`run_run`), and of two
it does not matter which is made first (`run_comm`). For plain spelling this rests on two facts
about its table: it leaves blanks alone and makes none (`keepsBlanks_plainSpelling`), and no letter
that it writes is itself spelled differently (`plainSpelling_of_mem`).

So the text after a list of such steps depends only on which steps are in the list
(`runSteps_congr`).
-/

namespace TextRecipes

namespace Text

variable {b : Bool} {c d : Char} {cs ds : List Char} {f : Char → List Char}

/-! ## Single spaces -/

/-- Without blanks there is nothing to collapse. -/
theorem collapse_of_not_blank (h : ∀ c ∈ cs, isBlank c = false) : collapse b cs = cs := by
  induction cs generalizing b with
  | nil => rfl
  | cons c rest ih =>
      have hrest : collapse false rest = rest := ih fun d hd => h d (List.mem_cons_of_mem _ hd)
      simp [collapse, h c List.mem_cons_self, hrest]

/-- What follows a word is collapsed as if it stood at the beginning. -/
theorem collapse_append_of_not_blank (h : ∀ c ∈ cs, isBlank c = false) (hne : cs ≠ [])
    (b : Bool) (ds : List Char) : collapse b (cs ++ ds) = cs ++ collapse false ds := by
  induction cs generalizing b with
  | nil => exact absurd rfl hne
  | cons c rest ih =>
      have hrest : ∀ d ∈ rest, isBlank d = false := fun d hd => h d (List.mem_cons_of_mem _ hd)
      rw [List.cons_append, collapse, h c List.mem_cons_self]
      by_cases hnil : rest = []
      · subst hnil
        rfl
      · simp [ih hrest hnil]

/-- A text may be collapsed in two pieces, if the second knows whether the first ended with a blank.
-/
theorem exists_collapse_append (b : Bool) (cs ds : List Char) :
    ∃ b', collapse b (cs ++ ds) = collapse b cs ++ collapse b' ds := by
  induction cs generalizing b with
  | nil => exact ⟨b, rfl⟩
  | cons c rest ih =>
      obtain ⟨afterBlank, hblank⟩ := ih true
      obtain ⟨afterOther, hother⟩ := ih false
      rw [List.cons_append, collapse, collapse]
      split
      · refine ⟨afterBlank, ?_⟩
        split <;> simp [hblank]
      · exact ⟨afterOther, by simp [hother]⟩

theorem isBlank_of_mem_collapse (hblank : ∀ c ∈ cs, isBlank c = true) :
    ∀ c ∈ collapse b cs, isBlank c = true := by
  induction cs generalizing b with
  | nil => intro c hc; cases hc
  | cons first rest ih =>
      have hrest : ∀ c ∈ collapse true rest, isBlank c = true :=
        ih fun d hd => hblank d (List.mem_cons_of_mem _ hd)
      intro c hc
      rw [collapse, hblank first List.mem_cons_self, if_pos rfl] at hc
      split at hc
      · exact hrest c hc
      · rcases List.mem_cons.mp hc with rfl | hc
        · decide
        · exact hrest c hc

/-- What is collapsed stays as it is. -/
theorem collapse_collapse (b : Bool) (cs : List Char) :
    collapse b (collapse b cs) = collapse b cs := by
  have hspace : isBlank ' ' = true := by decide
  induction cs generalizing b with
  | nil => rfl
  | cons c rest ih =>
      cases hblank : isBlank c <;> cases b <;> simp [collapse, hblank, hspace, ih]

theorem filter_not_blank_collapse (b : Bool) (cs : List Char) :
    (collapse b cs).filter (!isBlank ·) = cs.filter (!isBlank ·) := by
  have hspace : isBlank ' ' = true := by decide
  induction cs generalizing b with
  | nil => rfl
  | cons c rest ih =>
      cases hblank : isBlank c <;> cases b <;> simp [collapse, hblank, hspace, ih]

/-- Trimming and collapsing may be done in either order at the front, where a collapsed blank would
be trimmed anyway. -/
theorem trimStart_collapse (b : Bool) (cs : List Char) :
    trimStart (collapse b cs) = collapse false (trimStart cs) := by
  have hspace : isBlank ' ' = true := by decide
  induction cs generalizing b with
  | nil => rfl
  | cons c rest ih =>
      cases hblank : isBlank c with
      | false => simp [collapse, trimStart, hblank]
      | true =>
          have hrest : trimStart (c :: rest) = trimStart rest := by simp [trimStart, hblank]
          rw [hrest, ← ih true]
          cases b <;> simp [collapse, trimStart, hblank, hspace]

/-- A last character that is not blank stays the last. -/
theorem last_collapse (hlast : ∀ c ∈ cs.getLast?, isBlank c = false) :
    ∀ c ∈ (collapse b cs).getLast?, isBlank c = false := by
  intro c hc
  rcases List.eq_nil_or_concat cs with rfl | ⟨rest, last, rfl⟩
  · cases hc
  · have hnot : isBlank last = false := hlast last (by simp)
    obtain ⟨b', happend⟩ := exists_collapse_append b rest [last]
    have hone : collapse b' [last] = [last] := collapse_of_not_blank (by simp [hnot])
    rw [List.concat_eq_append, happend, hone, List.getLast?_concat] at hc
    cases hc
    exact hnot

/-- And likewise at the end. -/
theorem trimEnd_collapse (b : Bool) (cs : List Char) :
    trimEnd (collapse b cs) = collapse b (trimEnd cs) := by
  obtain ⟨b', happend⟩ := exists_collapse_append b (trimEnd cs) (trailing cs)
  have hblank : ∀ c ∈ collapse b' (trailing cs), isBlank c = true :=
    isBlank_of_mem_collapse fun c hc => isBlank_of_mem_trailing hc
  calc trimEnd (collapse b cs)
      = trimEnd (collapse b (trimEnd cs) ++ collapse b' (trailing cs)) := by
        rw [← happend, trimEnd_trailing]
    _ = trimEnd (collapse b (trimEnd cs)) := trimEnd_append_of_blank hblank
    _ = collapse b (trimEnd cs) := trimEnd_eq_self (last_collapse (last_trimEnd cs))

theorem trimChars_collapse (cs : List Char) :
    trimChars (collapse false cs) = collapse false (trimChars cs) := by
  rw [trimChars, trimStart_collapse, trimEnd_collapse, ← trimChars]

/-! ## No blanks -/

theorem not_blank_of_mem_filter (h : c ∈ cs.filter (!isBlank ·)) : isBlank c = false := by
  simpa using (List.mem_filter.mp h).2

theorem trimChars_filter_not_blank (cs : List Char) :
    trimChars (cs.filter (!isBlank ·)) = cs.filter (!isBlank ·) := by
  apply Trimmed.trimChars_eq
  constructor
  · exact fun c hc => not_blank_of_mem_filter (List.mem_of_mem_head? hc)
  · exact fun c hc => not_blank_of_mem_filter (List.mem_of_getLast? hc)

theorem collapse_filter_not_blank (cs : List Char) :
    collapse b (cs.filter (!isBlank ·)) = cs.filter (!isBlank ·) :=
  collapse_of_not_blank fun _ => not_blank_of_mem_filter

/-! ## Spellings that keep the blanks -/

/-- Blanks are written as they are, and any other character as a word. -/
structure KeepsBlanks (f : Char → List Char) : Prop where
  blank : ∀ c, isBlank c = true → f c = [c]
  nonempty : ∀ c, isBlank c = false → f c ≠ []
  other : ∀ c, isBlank c = false → ∀ d ∈ f c, isBlank d = false

/-- A spelling that keeps blanks keeps them also if it is read from behind. -/
theorem KeepsBlanks.reverse (hf : KeepsBlanks f) : KeepsBlanks (List.reverse ∘ f) where
  blank c hc := by simp [hf.blank c hc]
  nonempty c hc := by simpa using hf.nonempty c hc
  other c hc d hd := hf.other c hc d (List.mem_reverse.mp hd)

theorem KeepsBlanks.trimStart_flatMap (hf : KeepsBlanks f) (cs : List Char) :
    trimStart (cs.flatMap f) = (trimStart cs).flatMap f := by
  induction cs with
  | nil => rfl
  | cons c rest ih =>
      cases hblank : isBlank c with
      | true =>
          have hrest : trimStart (c :: rest) = trimStart rest := by simp [trimStart, hblank]
          rw [hrest, ← ih, List.flatMap_cons, hf.blank c hblank]
          simp [trimStart, hblank]
      | false =>
          -- the first letter of a spelling is not blank either
          obtain ⟨first, more, hspelled⟩ := List.exists_cons_of_ne_nil (hf.nonempty c hblank)
          have hfirst : isBlank first = false := hf.other c hblank first (by simp [hspelled])
          simp [trimStart, hblank, hspelled, hfirst]

/-- A spelling that keeps blanks may change the letters before or after trimming. -/
theorem KeepsBlanks.trimChars_flatMap (hf : KeepsBlanks f) (cs : List Char) :
    trimChars (cs.flatMap f) = (trimChars cs).flatMap f := by
  have hend : ∀ ds : List Char, trimEnd (ds.flatMap f) = (trimEnd ds).flatMap f := by
    intro ds
    calc trimEnd (ds.flatMap f)
        = (trimStart (ds.reverse.flatMap (List.reverse ∘ f))).reverse := by
          rw [← List.reverse_flatMap]
          rfl
      _ = ((trimStart ds.reverse).flatMap (List.reverse ∘ f)).reverse := by
          rw [hf.reverse.trimStart_flatMap]
      _ = (trimEnd ds).flatMap f := by
          rw [List.reverse_flatMap]
          simp [trimEnd, trimStart, Function.comp_def]
  rw [trimChars, hf.trimStart_flatMap, hend, ← trimChars]

/-- It may do so before or after collapsing as well. -/
theorem KeepsBlanks.collapse_flatMap (hf : KeepsBlanks f) (b : Bool) (cs : List Char) :
    collapse b (cs.flatMap f) = (collapse b cs).flatMap f := by
  have hspace : f ' ' = [' '] := hf.blank ' ' (by decide)
  induction cs generalizing b with
  | nil => rfl
  | cons c rest ih =>
      cases hblank : isBlank c with
      | true =>
          rw [List.flatMap_cons, hf.blank c hblank]
          cases b <;> simp [collapse, hblank, hspace, ih]
      | false =>
          rw [List.flatMap_cons,
            collapse_append_of_not_blank (hf.other c hblank) (hf.nonempty c hblank), ih]
          simp [collapse, hblank]

theorem KeepsBlanks.filter_flatMap (hf : KeepsBlanks f) (cs : List Char) :
    (cs.flatMap f).filter (!isBlank ·) = (cs.filter (!isBlank ·)).flatMap f := by
  induction cs with
  | nil => rfl
  | cons c rest ih =>
      cases hblank : isBlank c with
      | true => simp [hf.blank c hblank, hblank, ih]
      | false =>
          have hword : (f c).filter (!isBlank ·) = f c :=
            List.filter_eq_self.mpr fun d hd => by simp [hf.other c hblank d hd]
          simp [hblank, hword, ih]

/-! ## Plain letters -/

/-- What the table of plain spellings holds: letters beyond the first 128 characters, with words of
letters among these. -/
theorem plainSpellings_entry : ∀ entry ∈ plainSpellings,
    (∀ c ∈ entry.1, isBlank c = false ∧ 128 ≤ c.toNat) ∧ entry.2.toList ≠ [] ∧
    ∀ d ∈ entry.2.toList, isBlank d = false ∧ d.toNat < 128 := by
  have hall : (plainSpellings.all fun entry =>
      (entry.1.all fun c => !isBlank c && Nat.ble 128 c.toNat) && !entry.2.toList.isEmpty &&
      entry.2.toList.all fun d => !isBlank d && Nat.blt d.toNat 128) = true := by
    decide +kernel
  simpa [List.all_eq_true, and_assoc] using hall

/-- A letter has an entry in the table of spellings, or it stays as it is. -/
theorem plainSpelling_cases (c : Char) : plainSpelling c = [c] ∨
    ∃ entry ∈ plainSpellings, c ∈ entry.1 ∧ plainSpelling c = entry.2.toList := by
  unfold plainSpelling
  split
  · next entry hfind =>
      exact .inr ⟨entry, List.mem_of_find?_eq_some hfind, by simpa using List.find?_some hfind, rfl⟩
  · exact .inl rfl

theorem plainSpelling_of_unmarked (h : ∀ entry ∈ plainSpellings, c ∉ entry.1) :
    plainSpelling c = [c] := by
  rcases plainSpelling_cases c with hself | ⟨entry, hentry, hc, -⟩
  · exact hself
  · exact absurd hc (h entry hentry)

theorem plainSpelling_of_lt (h : c.toNat < 128) : plainSpelling c = [c] := by
  apply plainSpelling_of_unmarked
  intro entry hentry hc
  have hbeyond : 128 ≤ c.toNat := ((plainSpellings_entry entry hentry).1 c hc).2
  omega

/-- No blank has an entry, and no spelling has a blank in it. -/
theorem keepsBlanks_plainSpelling : KeepsBlanks plainSpelling where
  blank c hc := by
    apply plainSpelling_of_unmarked
    intro entry hentry hmem
    have hnot : isBlank c = false := ((plainSpellings_entry entry hentry).1 c hmem).1
    rw [hc] at hnot
    cases hnot
  nonempty c hc := by
    rcases plainSpelling_cases c with hself | ⟨entry, hentry, -, hspelled⟩
    · simp [hself]
    · rw [hspelled]
      exact (plainSpellings_entry entry hentry).2.1
  other c hc d hd := by
    rcases plainSpelling_cases c with hself | ⟨entry, hentry, -, hspelled⟩
    · rw [hself, List.mem_singleton] at hd
      rwa [hd]
    · rw [hspelled] at hd
      exact ((plainSpellings_entry entry hentry).2.2 d hd).1

/-- What is spelled plainly stays so. -/
theorem plainSpelling_of_mem (h : d ∈ plainSpelling c) : plainSpelling d = [d] := by
  rcases plainSpelling_cases c with hself | ⟨entry, hentry, -, hspelled⟩
  · rw [hself, List.mem_singleton] at h
    rw [h, hself]
  · rw [hspelled] at h
    exact plainSpelling_of_lt ((plainSpellings_entry entry hentry).2.2 d h).2

/-- Plain spellings are spelled plainly. -/
theorem flatMap_plainSpelling_flatMap (cs : List Char) :
    (cs.flatMap plainSpelling).flatMap plainSpelling = cs.flatMap plainSpelling := by
  calc (cs.flatMap plainSpelling).flatMap plainSpelling
      = (cs.flatMap plainSpelling).flatMap fun d => [d] :=
        List.flatMap_congr fun d hd => by
          obtain ⟨c, -, hmem⟩ := List.mem_flatMap.mp hd
          exact plainSpelling_of_mem hmem
    _ = cs.flatMap plainSpelling := List.flatMap_singleton' _

end Text

namespace TextTransform

open Text

variable {t u : TextTransform} {steps steps' : List TextTransform} {names names' : List String}

/-! ## Two steps -/

/-- The transform on the characters of a text. -/
def onChars : TextTransform → List Char → List Char
  | trimSpaces => trimChars
  | collapseSpaces => collapse false
  | titleCase => fun cs => titleRuns particles true (runs cs)
  | concatNoSpace => List.filter (!isBlank ·)
  | normalizeUmlauts => List.flatMap plainSpelling

theorem run_eq_ofList (t : TextTransform) (s : String) :
    t.run s = String.ofList (t.onChars s.toList) := by
  cases t <;> rfl

theorem run_run_eq_ofList (t u : TextTransform) (s : String) :
    t.run (u.run s) = String.ofList (t.onChars (u.onChars s.toList)) := by
  rw [run_eq_ofList, run_eq_ofList, String.toList_ofList]

/-- **A step that has been made has nothing left to do.** -/
theorem run_run (ht : t ≠ titleCase) (s : String) : t.run (t.run s) = t.run s := by
  rw [run_run_eq_ofList, run_eq_ofList]
  congr 1
  cases t with
  | trimSpaces => exact (trimmed_trimChars _).trimChars_eq
  | collapseSpaces => exact collapse_collapse false _
  | titleCase => exact absurd rfl ht
  | concatNoSpace => exact List.filter_eq_self.mpr fun _ hc => (List.mem_filter.mp hc).2
  | normalizeUmlauts => exact flatMap_plainSpelling_flatMap _

/-- **Of two steps it does not matter which is made first.** -/
theorem run_comm (ht : t ≠ titleCase) (hu : u ≠ titleCase) (s : String) :
    t.run (u.run s) = u.run (t.run s) := by
  rw [run_run_eq_ofList, run_run_eq_ofList]
  congr 1
  -- each pair is settled by the lemma on how one of the two passes through the other
  cases t <;> cases u <;>
    simp [onChars, trimChars_collapse, filter_not_blank_trimChars, filter_not_blank_collapse,
      trimChars_filter_not_blank, collapse_filter_not_blank,
      keepsBlanks_plainSpelling.trimChars_flatMap, keepsBlanks_plainSpelling.collapse_flatMap,
      keepsBlanks_plainSpelling.filter_flatMap] at ht hu ⊢

/-- Where all blanks go, it does not matter what happens to the blanks. -/
theorem concatNoSpace_absorbs (ht : t = trimSpaces ∨ t = collapseSpaces) (s : String) :
    concatNoSpace.run (t.run s) = concatNoSpace.run s ∧
    t.run (concatNoSpace.run s) = concatNoSpace.run s := by
  have hplain : t ≠ titleCase := by rcases ht with rfl | rfl <;> simp
  have habsorbs : concatNoSpace.run (t.run s) = concatNoSpace.run s := by
    rw [run_run_eq_ofList, run_eq_ofList]
    congr 1
    rcases ht with rfl | rfl
    · exact filter_not_blank_trimChars _
    · exact filter_not_blank_collapse false _
  exact ⟨habsorbs, by rw [run_comm hplain (by simp), habsorbs]⟩

/-! ## Lists of steps -/

/-- The text after some steps in turn. -/
def runSteps (s : String) (steps : List TextTransform) : String :=
  steps.foldl (fun s t => t.run s) s

theorem runSteps_cons (t : TextTransform) (steps : List TextTransform) (s : String) :
    runSteps s (t :: steps) = runSteps (t.run s) steps := rfl

/-- A step can be made after the others as well as before them. -/
theorem runSteps_run (ht : t ≠ titleCase) (hsteps : ∀ u ∈ steps, u ≠ titleCase) (s : String) :
    runSteps (t.run s) steps = t.run (runSteps s steps) := by
  induction steps generalizing s with
  | nil => rfl
  | cons u rest ih =>
      have hu : u ≠ titleCase := hsteps u List.mem_cons_self
      have hrest : ∀ v ∈ rest, v ≠ titleCase := fun v hv => hsteps v (List.mem_cons_of_mem _ hv)
      rw [runSteps_cons, runSteps_cons, run_comm hu ht, ih hrest]

/-- A step that is one of some steps adds nothing to them. -/
theorem run_runSteps_of_mem (hsteps : ∀ u ∈ steps, u ≠ titleCase) (hmem : t ∈ steps) (s : String) :
    t.run (runSteps s steps) = runSteps s steps := by
  induction steps generalizing s with
  | nil => cases hmem
  | cons u rest ih =>
      have hrest : ∀ v ∈ rest, v ≠ titleCase := fun v hv => hsteps v (List.mem_cons_of_mem _ hv)
      rw [runSteps_cons]
      rcases List.mem_cons.mp hmem with rfl | hmem
      · have ht : t ≠ titleCase := hsteps t List.mem_cons_self
        rw [← runSteps_run ht hrest, run_run ht]
      · exact ih hrest hmem _

/-- Steps that are among those made add nothing to them. -/
theorem runSteps_runSteps_of_subset (hsteps : ∀ u ∈ steps, u ≠ titleCase)
    (hsubset : ∀ u ∈ steps', u ∈ steps) (s : String) :
    runSteps (runSteps s steps) steps' = runSteps s steps := by
  induction steps' with
  | nil => rfl
  | cons t rest ih =>
      rw [runSteps_cons, run_runSteps_of_mem hsteps (hsubset t List.mem_cons_self)]
      exact ih fun u hu => hsubset u (List.mem_cons_of_mem _ hu)

/-- Two lists of steps may be run in either order. -/
theorem runSteps_comm (hsteps : ∀ u ∈ steps, u ≠ titleCase) (hsteps' : ∀ u ∈ steps', u ≠ titleCase)
    (s : String) : runSteps (runSteps s steps) steps' = runSteps (runSteps s steps') steps := by
  induction steps' generalizing s with
  | nil => rfl
  | cons t rest ih =>
      have ht : t ≠ titleCase := hsteps' t List.mem_cons_self
      have hrest : ∀ u ∈ rest, u ≠ titleCase := fun u hu => hsteps' u (List.mem_cons_of_mem _ hu)
      rw [runSteps_cons, runSteps_cons, ← runSteps_run ht hsteps, ih hrest]

/-- **The same steps give the same text**, however often and in whatever order they are made. -/
theorem runSteps_congr (hsteps : ∀ u ∈ steps, u ≠ titleCase) (hsteps' : ∀ u ∈ steps', u ≠ titleCase)
    (hsame : ∀ u, u ∈ steps ↔ u ∈ steps') (s : String) : runSteps s steps = runSteps s steps' := by
  calc runSteps s steps
      = runSteps (runSteps s steps) steps' :=
        (runSteps_runSteps_of_subset hsteps (fun u hu => (hsame u).mpr hu) s).symm
    _ = runSteps (runSteps s steps') steps := runSteps_comm hsteps hsteps' s
    _ = runSteps s steps' :=
        runSteps_runSteps_of_subset hsteps' (fun u hu => (hsame u).mp hu) s

/-- **Spacing and folding go by the set of the steps.** Two lists of names that name the same steps,
in any order and any number of times and among names that are unknown, make the same of a text, if
title case is not among the steps. So these steps can be repeated and exchanged, and where blanks
are removed it does not matter whether they are also trimmed or collapsed. -/
theorem runAll_by_steps_named (hnames : ∀ name ∈ names, ofName? name ≠ some titleCase)
    (hnames' : ∀ name ∈ names', ofName? name ≠ some titleCase)
    (hsame : ∀ t ≠ titleCase,
      (∃ name ∈ names, ofName? name = some t) ↔ ∃ name ∈ names', ofName? name = some t)
    (s : String) :
    runAll s names = runAll s names' ∧
    (∀ t ≠ titleCase, t.run (t.run s) = t.run s) ∧
    (∀ t ≠ titleCase, ∀ u ≠ titleCase, t.run (u.run s) = u.run (t.run s)) ∧
    (∀ t, t = trimSpaces ∨ t = collapseSpaces →
      concatNoSpace.run (t.run s) = concatNoSpace.run s ∧
      t.run (concatNoSpace.run s) = concatNoSpace.run s) := by
  have hplain : ∀ {list : List String}, (∀ name ∈ list, ofName? name ≠ some titleCase) →
      ∀ t ∈ list.filterMap ofName?, t ≠ titleCase := by
    rintro list hlist t ht rfl
    obtain ⟨name, hname, hread⟩ := List.mem_filterMap.mp ht
    exact hlist name hname hread
  refine ⟨?_, fun t ht => run_run ht s, fun t ht u hu => run_comm ht hu s,
    fun t ht => concatNoSpace_absorbs ht s⟩
  refine runSteps_congr (hplain hnames) (hplain hnames') (fun t => ?_) s
  by_cases ht : t = titleCase
  · exact iff_of_false (fun h => hplain hnames t h ht) fun h => hplain hnames' t h ht
  · rw [List.mem_filterMap, List.mem_filterMap]
    exact hsame t ht

/-- The sign of a bakery as one word. -/
theorem bakery_one_word :
    let sign := " Bäckerei \u2003Groß "
    let names := ["CONCATNOSPACE", "Shout", "normalizeUmlauts", "CONCATNOSPACE"]
    let names' := ["normalizeUmlauts", "ConcatNoSpace"]
    ofName? "Shout" = none ∧ runAll sign names = runAll sign names' ∧
    runAll sign names' = "BaeckereiGross" := by
  intro sign names names'
  have hshout : ofName? "Shout" = none := by decide +kernel
  have hupper : ofName? "CONCATNOSPACE" = some concatNoSpace := by decide +kernel
  have hmixed : ofName? "ConcatNoSpace" = some concatNoSpace := by decide +kernel
  have humlauts : ofName? "normalizeUmlauts" = some normalizeUmlauts := by decide +kernel
  refine ⟨hshout, (runAll_by_steps_named ?_ ?_ ?_ sign).1, ?_⟩
  · simp [names, hshout, hupper, humlauts]
  · simp [names', hmixed, humlauts]
  · intro t _
    simp [names, names', hshout, hupper, hmixed, humlauts, or_comm]
  · show (names'.filterMap ofName?).foldl (fun s t => t.run s) sign = "BaeckereiGross"
    rw [show names'.filterMap ofName? = [normalizeUmlauts, concatNoSpace] by
      simp [names', hmixed, humlauts]]
    decide +kernel

end TextTransform

end TextRecipes
