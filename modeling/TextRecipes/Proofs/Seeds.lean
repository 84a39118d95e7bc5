import TextRecipes.Seed

/-!
# Seeds and the ways to them

The seed of a place is the seed of the run, followed by the steps on the way to the place, each of
them behind a colon. No step has a colon in its name, and different steps have different names. So
the way can be read off the seed, if only the seed of the run is known; that one may well have
colons of its own (`along_inj`).
-/

namespace TextRecipes.Seed

/-- A step on the way to a place of a run. -/
inductive Step where
  /-- To a block of a pattern. -/
  | block (index : Nat)
  /-- To a later attempt of a draw. The first attempt is made at the place itself. -/
  | retry (attempt : Nat) (later : 0 < attempt)
  /-- To the selection inside a phrase. -/
  | phrase
  /-- To a variant of a request. -/
  | variant (index : Nat)
deriving DecidableEq

namespace Step

variable {step step' : Step} {c : Char}

/-- The seed one step further. -/
def next (seed : Option String) : Step → Option String
  | block index => forBlock seed index
  | retry attempt _ => forRetry seed attempt
  | phrase => derive seed phraseStep
  | variant index => derive seed (variantStep index)

/-- What a step adds behind the colon. -/
def name : Step → String
  | block index => blockStep index
  | retry attempt _ => retryStep attempt
  | phrase => phraseStep
  | variant index => variantStep index

/-- Every step appends its name behind a colon, a first attempt apart, which is no step. -/
theorem next_eq_derive (seed : Option String) (step : Step) :
    step.next seed = derive seed step.name := by
  cases step with
  | retry attempt later => exact if_neg (Nat.ne_of_gt later)
  | _ => rfl

/-! ## Names of steps -/

/-- The word that the name of a step begins with. -/
def word : Step → String
  | block _ => "b"
  | retry _ _ => "retry"
  | phrase => "pp"
  | variant _ => "v"

/-- The number that the name of a step ends with, if it has one. -/
def number? : Step → Option Nat
  | block index => some index
  | retry attempt _ => some attempt
  | phrase => none
  | variant index => some index

theorem name_eq (step : Step) :
    step.name = step.word ++ (step.number?.map toString).getD "" := by
  cases step <;> rfl

theorem eq_of_word_of_number? (hword : step.word = step'.word)
    (hnumber : step.number? = step'.number?) : step = step' := by
  cases step <;> cases step' <;> simp_all [word, number?]

/-- The first letter of a name tells what kind of step it is. -/
theorem word_eq_of_name_eq (h : step.name = step'.name) : step.word = step'.word := by
  have hfirst : step.name.toList.head? = step'.name.toList.head? := by rw [h]
  rw [name_eq, name_eq, String.toList_append, String.toList_append] at hfirst
  cases step <;> cases step' <;> first | rfl | simp [word] at hfirst

/-- A number can be read back from its digits. -/
theorem toString_inj {m n : Nat} (h : toString m = toString n) : m = n := by
  have hdigits : Nat.toDigits 10 m = Nat.toDigits 10 n := by
    rw [← Nat.toList_repr, ← Nat.toList_repr]
    exact congrArg String.toList h
  rw [← Nat.ofDigitChars_ten_toDigits (n := m), hdigits, Nat.ofDigitChars_ten_toDigits]

/-- The name of a step tells the step: its word tells the sort, and the digits behind it the number.
-/
theorem name_inj : step.name = step'.name ↔ step = step' := by
  constructor
  · intro h
    have hword : step.word = step'.word := word_eq_of_name_eq h
    refine eq_of_word_of_number? hword ?_
    rw [name_eq, name_eq, hword, String.append_right_inj] at h
    -- the words agree, so the two are of one sort
    cases step <;> cases step' <;>
      first | rfl | exact congrArg some (toString_inj h) | simp [word] at hword
  · rintro rfl
    rfl

theorem isDigit_of_mem_toString {n : Nat} (h : c ∈ (toString n).toList) : c.isDigit = true := by
  rw [Nat.toString_eq_repr, Nat.toList_repr] at h
  exact Nat.isDigit_of_mem_toDigits (by decide) (by decide) h

/-- Colons stand between the names of steps only. -/
theorem colon_not_mem_name (step : Step) : ':' ∉ step.name.toList := by
  intro h
  rw [name_eq, String.toList_append, List.mem_append] at h
  -- a name is a word and digits, and neither has a colon
  rcases h with h | h
  · cases step <;> simp [word] at h
  · cases hnumber : step.number? with
    | none => simp [hnumber] at h
    | some n =>
        rw [hnumber, Option.map_some, Option.getD_some] at h
        simpa using isDigit_of_mem_toString h

end Step

/-! ## Ways -/

variable {s : String} {way way' : List Step}

/-- The seed at the end of a way. -/
def along (seed : Option String) (way : List Step) : Option String :=
  way.foldl Step.next seed

@[simp] theorem along_nil (seed : Option String) : along seed [] = seed := rfl

@[simp] theorem along_cons (seed : Option String) (step : Step) (way : List Step) :
    along seed (step :: way) = along (step.next seed) way := rfl

theorem along_append (seed : Option String) (way way' : List Step) :
    along seed (way ++ way') = along (along seed way) way' :=
  List.foldl_append ..

/-- What a way adds to a seed. -/
def trail : List Step → List Char
  | [] => []
  | step :: way => ':' :: step.name.toList ++ trail way

/-- A seed stays in front of all that is derived from it. -/
theorem along_some (s : String) (way : List Step) :
    along (some s) way = some (s ++ String.ofList (trail way)) := by
  induction way generalizing s with
  | nil => simp [trail]
  | cons step way ih =>
      rw [along_cons, Step.next_eq_derive, derive, Option.map_some, ih, String.append_assoc,
        String.append_assoc]
      congr 2
      apply String.toList_injective
      simp [trail]

/-- The steps of a way are written between colons. -/
theorem trail_eq_intercalate (way : List Step) :
    trail way = [':'].intercalate ([] :: way.map (·.name.toList)) := by
  induction way with
  | nil => rfl
  | cons step way ih => cases way <;> simp_all [trail, List.intercalate_cons_cons]

/-- The steps of a way are what stands between the colons. -/
theorem splitOn_trail (way : List Step) :
    (trail way).splitOn ':' = [] :: way.map (·.name.toList) := by
  rw [trail_eq_intercalate]
  refine List.splitOn_intercalate ':' ?_ (List.cons_ne_nil _ _)
  intro chars hchars
  rcases List.mem_cons.mp hchars with rfl | hname
  · exact List.not_mem_nil
  · obtain ⟨step, -, rfl⟩ := List.mem_map.mp hname
    exact step.colon_not_mem_name

/-- **A way can be read back from what it appends**, as no name has a colon in it. -/
theorem trail_inj : trail way = trail way' ↔ way = way' := by
  constructor
  · intro h
    -- no name has a colon, so the trail can be split at the colons
    have hnames : way.map (·.name.toList) = way'.map (·.name.toList) := by
      simpa [splitOn_trail] using congrArg (List.splitOn ':') h
    refine (List.map_inj_right fun step step' hname => ?_).mp hnames
    exact Step.name_inj.mp (String.toList_injective hname)
  · rintro rfl
    rfl

/-- **Two ways from one seed lead to the same seed only if they are the same way.** -/
theorem along_inj : along (some s) way = along (some s) way' ↔ way = way' := by
  rw [along_some, along_some, Option.some_inj, String.append_right_inj, String.ofList_inj,
    trail_inj]

/-- A seed comes back only on the way without steps. -/
theorem along_eq_self : along (some s) way = some s ↔ way = [] := by
  rw [← along_inj (s := s), along_nil]

end TextRecipes.Seed
