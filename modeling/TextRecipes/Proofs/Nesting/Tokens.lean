import TextRecipes.Proofs.Composition.Extending
import TextRecipes.Proofs.Nesting.Levels

/-!
# Recipes in the place where they are run

The text of a nested recipe is joined from its tokens and is then a single token of the recipe
around it. It comes to the same to put the tokens of the nested recipe there (`nested_in_place`):
assembling the text does not look at the recipes that it comes from, however deep they are nested.
-/

namespace TextRecipes

/-- Whether a block shows the part that it resolves to as it is. -/
def Block.showsPlainly : Block → Bool
  | select block => block.transform.isNone && !block.options.hidden
  | generate block => block.transform.isNone && !block.options.hidden
  | _ => false

namespace Scene

variable {scene : Scene} {parts : Parts} {draws : Draws} {block : Block} {part : Part}
  {pattern : Pattern} {index : Nat} {progress final : Progress}

/-! ## Tokens of a run -/

theorem token_selectionStep (bindAs : Option String) {transform : Option String}
    {options : BlockOptions} (h : (transform.isNone && !options.hidden) = true) :
    (scene.selectionStep parts bindAs transform options (some part)).token
      = some (scene.partText parts none part) := by
  obtain ⟨htransform, hshown⟩ := Bool.and_eq_true_iff.mp h
  rw [Bool.not_eq_true'] at hshown
  rw [Option.isNone_iff_eq_none.mp htransform]
  simp [selectionStep, hshown]

/-- A block that shows its part plainly has the text of the part as its token. -/
theorem token_of_showsPlainly (hplain : block.showsPlainly = true)
    (hresolve : scene.resolve parts draws block = .ok (some part)) :
    ∃ step, scene.step parts draws block = .ok step ∧
      step.token = some (scene.partText parts none part) := by
  cases block with
  | select block =>
      have hselect : scene.resolveSelect parts draws block = .ok (some part) := hresolve
      exact ⟨_, by rw [step, hselect]; rfl, token_selectionStep block.bindAs hplain⟩
  | generate block =>
      have hgenerate : scene.resolveGenerate parts draws block = .ok (some part) := hresolve
      exact ⟨_, by rw [step, hgenerate]; rfl, token_selectionStep block.bindAs hplain⟩
  | literal _ _ => cases hplain
  | phrase _ _ => cases hplain
  | reference _ => cases hplain

/-- A successful run comes to each of its blocks. It passes over the block or leaves it out, or the
block has a token among those of the run if it shows its part as it is. -/
theorem token_in_run (hrun : scene.runFrom 0 {} pattern = .ok final)
    (hblock : pattern[index]? = some block) (hplain : block.showsPlainly = true) :
    ∃ progress, scene.Reaches pattern index progress block ∧
      (scene.passesOver block = true ∨
        scene.resolve progress.parts (scene.forBlock index) block = .ok none ∨
        ∃ part later, scene.resolve progress.parts (scene.forBlock index) block = .ok (some part) ∧
          final.tokens
            = progress.tokens ++ [scene.partText progress.parts none part] ++ later) := by
  obtain ⟨progress, after, hreached, hadvance, hrest⟩ := Reaches.of_getElem? hrun hblock
  refine ⟨progress, hreached, ?_⟩
  rcases advance_eq_ok hadvance with ⟨hover, _⟩ | ⟨_, step, hstep, rfl⟩
  · exact .inl hover
  · obtain ⟨resolved, hresolve, _⟩ := step_eq_ok hstep
    cases resolved with
    | none => exact .inr (.inl hresolve)
    | some part =>
        obtain ⟨step', hstep', htoken⟩ := token_of_showsPlainly hplain hresolve
        rw [hstep] at hstep'
        cases hstep'
        have htokens := tokens_runFrom hrest
        rw [Progress.add, htoken] at htokens
        exact .inr (.inr ⟨part, _, hresolve, htokens⟩)

end Scene

namespace Engine

variable {engine : Engine} {levels : Nat} {call : RecipeCall}
  {run beyond : RecipeCall → Except ComposeError String}

/-! ## Nested recipes -/

/-- The text of a call is joined from the tokens of its recipe. -/
theorem runWithin_eq_ok {text : String}
    (h : engine.runWithin beyond (levels + 1) call = .ok text) :
    ∃ recipe final, engine.findRecipe call.id = .ok recipe ∧
      (engine.scene (engine.runWithin beyond levels) call).runFrom 0 {} recipe.pattern = .ok final ∧
      text = Text.join final.tokens := by
  cases hdeep : engine.exceeds call with
  | true =>
      rw [runWithin_of_exceeds hdeep] at h
      cases h
  | false =>
      rw [runWithin_succ hdeep, composeCall] at h
      obtain ⟨composition, hcompose, rfl⟩ := except_map_eq_ok h
      split at hcompose
      · cases hcompose
      · next recipe hrecipe =>
          obtain ⟨final, hrun, rfl⟩ := Scene.compose_eq_ok hcompose
          exact ⟨recipe, final, hrecipe, hrun, rfl⟩

/-- A recipe that runs becomes a part with its text. -/
theorem runRecipe_eq_ok {draws : Draws} {id : String} {part : Part}
    (h : (engine.scene run call).runRecipe draws id = .ok part) :
    ∃ text, run ((engine.scene run call).nestedCall draws id) = .ok text ∧
      part = .generated ⟨text, call.locale, id⟩ := by
  rw [runRecipe_scene] at h
  split at h
  · obtain ⟨text, hrun, rfl⟩ := except_map_eq_ok h
    exact ⟨text, hrun, rfl⟩
  · cases h

/-- **Nested recipes are told in their place.** A joined text can stand for its tokens among others,
and so can joined texts that have joined texts inside them, to any depth; a text that is joined once
more stays as it is. In the run of a call, let a block run a recipe and show it as it is. Then it is
passed over or left out, or the text of the run is joined from the tokens before the block, the
tokens of the nested recipe, and the tokens after the block. -/
theorem nested_in_place :
    (∀ outer inner outer', Text.join (outer ++ [Text.join inner] ++ outer')
      = Text.join (outer ++ inner ++ outer')) ∧
    (∀ tokens, Text.join [Text.join tokens] = Text.join tokens) ∧
    (∀ tokens, Text.join (Text.Joined.texts tokens) = Text.join (Text.Joined.allLeaves tokens)) ∧
    ∀ (engine : Engine) beyond levels call (pattern : Pattern) final index block nested,
      let scene := engine.scene (engine.runWithin beyond (levels + 1)) call
      scene.runFrom 0 {} pattern = .ok final → pattern[index]? = some block →
      block.showsPlainly = true → scene.nested? (scene.forBlock index) block = some nested →
      ∃ progress, scene.Reaches pattern index progress block ∧
        (scene.passesOver block = true ∨
          scene.resolve progress.parts (scene.forBlock index) block = .ok none ∨
          ∃ recipe inner later, engine.findRecipe nested = .ok recipe ∧
            (engine.scene (engine.runWithin beyond levels)
              (scene.nestedCall (block.selectionDraws (scene.forBlock index)) nested)).runFrom 0 {}
                recipe.pattern = .ok inner ∧
            final.tokens = progress.tokens ++ [inner.finish.text] ++ later ∧
            final.finish.text = Text.join (progress.tokens ++ inner.tokens ++ later)) := by
  refine ⟨Text.join_around, ?_, Text.Joined.join_texts_eq_join_leaves, ?_⟩
  · intro tokens
    have h := Text.join_around [] tokens []
    rwa [List.append_nil, List.append_nil, List.nil_append, List.nil_append] at h
  · intro engine beyond levels call pattern final index block nested scene hrun hblock hplain hnested
    obtain ⟨progress, hreached, hover | hnone | ⟨part, later, hresolve, htokens⟩⟩ :=
      Scene.token_in_run hrun hblock hplain
    · exact ⟨progress, hreached, .inl hover⟩
    · exact ⟨progress, hreached, .inr (.inl hnone)⟩
    · refine ⟨progress, hreached, .inr (.inr ?_)⟩
      -- the part is the text of the nested recipe, and that is joined from its tokens
      have hattempt := Scene.attempt_of_resolve_eq_some hresolve
      rw [Scene.attempt_of_nested hnested] at hattempt
      obtain ⟨part', hnestedRun, hpart⟩ := except_map_eq_ok hattempt
      cases hpart
      obtain ⟨text, htext, rfl⟩ := runRecipe_eq_ok hnestedRun
      obtain ⟨recipe, inner, hrecipe, hinner, rfl⟩ := runWithin_eq_ok htext
      have hjoined : final.tokens = progress.tokens ++ [Text.join inner.tokens] ++ later := htokens
      refine ⟨recipe, inner, later, hrecipe, hinner, hjoined, ?_⟩
      rw [Progress.finish, hjoined, Text.join_around]

end Engine

/-! ## A rumour in a tale

The rumour begins with a mark that closes up to the word before it, and so does what comes after
it. -/

namespace Rumour

def opening : Block := .literal (.ofPairs [("en", "They say ")]) {}

def rumour : Block := .generate { source := .recipe, key := some "rumour" }

def ending : Block := .literal (.ofPairs [("en", " !")]) {}

def tale : Pattern := [opening, rumour, ending]

def engine : Engine where
  recipes := .ofPairs
    [("tale", ⟨"tale", tale⟩),
     ("rumour", ⟨"rumour", [.literal (.ofPairs [("en", " : the duke")]) {},
       .literal (.ofPairs [("en", " \u2003")]) {}, .literal (.ofPairs [("en", "fled ")]) {}]⟩)]

def call : RecipeCall := { id := "tale", locale := "en", seed := some "s" }

def scene : Scene := engine.scene (engine.runWithin engine.refuse 1) call

/-- The tale with the rumour as one token. -/
def told : Progress where
  tokens := ["They say ", ": the duke fled", " !"]

theorem rumour_in_place : scene.runFrom 0 {} tale = .ok told ∧ tale[1]? = some rumour ∧
    rumour.showsPlainly = true ∧ scene.nested? (scene.forBlock 1) rumour = some "rumour" ∧
    told.finish.text = "They say: the duke fled!" ∧
    ∃ progress, scene.Reaches tale 1 progress rumour ∧
      (scene.passesOver rumour = true ∨
        scene.resolve progress.parts (scene.forBlock 1) rumour = .ok none ∨
        ∃ recipe inner later, engine.findRecipe "rumour" = .ok recipe ∧
          (engine.scene (engine.runWithin engine.refuse 0)
            (scene.nestedCall (rumour.selectionDraws (scene.forBlock 1)) "rumour")).runFrom 0 {}
              recipe.pattern = .ok inner ∧
          told.tokens = progress.tokens ++ [inner.finish.text] ++ later ∧
          told.finish.text = Text.join (progress.tokens ++ inner.tokens ++ later)) := by
  obtain ⟨_, _, _, hplace⟩ := Engine.nested_in_place
  exact ⟨rfl, rfl, rfl, rfl, rfl,
    hplace engine engine.refuse 0 call tale told 1 rumour "rumour" rfl rfl rfl rfl⟩

end Rumour

end TextRecipes
