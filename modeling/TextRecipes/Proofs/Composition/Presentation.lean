import Mathlib.Data.List.Forall2
import TextRecipes.Engine
import TextRecipes.Proofs.Composition.Failing

/-!
# Texts and tables

The texts of a run come from its table of aliases, but nothing goes back. A run can leave out all
its texts and still make the same table, or fail in the same way (`Scene.tableFrom`,
`compose_map_parts`). So it makes no difference to the table how the parts of a pattern are shown:
what its fixed texts say, which transforms and prepositions it has, and what is hidden
(`presentation_irrelevant`).
-/

namespace TextRecipes

/-! ## Blocks that differ in what they show -/

/-- The block without a transform and not hidden. -/
def SelectBlock.unshown (block : SelectBlock) : SelectBlock :=
  { block with transform := none, options := { block.options with hidden := false } }

/-- The block without a transform and not hidden. -/
def GenerateBlock.unshown (block : GenerateBlock) : GenerateBlock :=
  { block with transform := none, options := { block.options with hidden := false } }

namespace Block

/-- Blocks that both select nothing, or select in the same way and differ in what they show of
it. -/
inductive SelectsAlike : Block → Block → Prop where
  | text (block block' : Block) (hnone : block.selects = false) (hnone' : block'.selects = false) :
      SelectsAlike block block'
  | select (block block' : SelectBlock) (hsame : block.unshown = block'.unshown) :
      SelectsAlike (.select block) (.select block')
  | generate (block block' : GenerateBlock) (hsame : block.unshown = block'.unshown) :
      SelectsAlike (.generate block) (.generate block')
  | phrase (preposition preposition' : String) (block block' : SelectBlock)
      (hsame : block.unshown = block'.unshown) :
      SelectsAlike (.phrase preposition (.select block)) (.phrase preposition' (.select block'))

end Block

namespace Scene

variable {scene : Scene} {parts : Parts} {draws : Draws} {index : Nat} {progress : Progress}
  {block block' : Block} {pattern pattern' : Pattern}

/-! ## Runs without texts -/

/-- The table of aliases after the block at `index`. -/
def tableAfter (scene : Scene) (index : Nat) (parts : Parts) (block : Block) :
    Except ComposeError Parts :=
  if scene.passesOver block then .ok parts
  else
    match scene.resolve parts (scene.forBlock index) block with
    | .ok resolved => .ok (parts.insertAll (block.bindingOf resolved).toList)
    | .error e => .error (.inBlock index e)

/-- The table of aliases after all blocks of a pattern, the first of them at `index`. -/
def tableFrom (scene : Scene) (index : Nat) (parts : Parts) : Pattern → Except ComposeError Parts
  | [] => .ok parts
  | block :: rest =>
    match scene.tableAfter index parts block with
    | .ok parts => scene.tableFrom (index + 1) parts rest
    | .error e => .error e

theorem advance_map_parts (scene : Scene) (index : Nat) (progress : Progress) (block : Block) :
    (scene.advance index progress block).map (·.parts)
      = scene.tableAfter index progress.parts block := by
  unfold advance tableAfter
  split
  · rfl
  · cases hstep : scene.step progress.parts (scene.forBlock index) block with
    | ok step =>
        -- the token of the step is what the table leaves out
        obtain ⟨resolved, hresolve, hbinding⟩ := step_eq_ok hstep
        rw [hresolve]
        show Except.ok (progress.parts.insertAll step.binding.toList) = _
        rw [hbinding]
    | error e =>
        rw [step_eq_error hstep]
        rfl

theorem runFrom_map_parts (scene : Scene) (index : Nat) (progress : Progress) (pattern : Pattern) :
    (scene.runFrom index progress pattern).map (·.parts)
      = scene.tableFrom index progress.parts pattern := by
  -- the index and the table go on from block to block, so they are generalized
  induction pattern generalizing index progress with
  | nil => rfl
  | cons block rest ih =>
      have hadvance := advance_map_parts scene index progress block
      simp only [runFrom, tableFrom, ← hadvance]
      cases scene.advance index progress block with
      | ok after => exact ih (index + 1) after
      | error e => rfl

/-- **A run binds what it binds without texts**, and fails where it fails without them. -/
theorem compose_map_parts (scene : Scene) (pattern : Pattern) :
    (scene.compose pattern).map (·.parts) = scene.tableFrom 0 .empty pattern := by
  have hparts := runFrom_map_parts scene 0 {} pattern
  rw [compose, except_map_map]
  exact hparts

/-! ## Tables of patterns that select alike -/

theorem tableAfter_of_not_selects (h : block.selects = false) :
    scene.tableAfter index parts block = .ok parts := by
  have hresolve : scene.resolve parts (scene.forBlock index) block = .ok none :=
    resolve_of_attempt_eq_ok (attempt_of_not_selects h)
  unfold tableAfter
  split
  · rfl
  · rw [hresolve]
    rfl

/-- Neither a switch nor a selection nor a binding looks at what a block shows. -/
theorem tableAfter_alike (h : block.SelectsAlike block') :
    scene.tableAfter index parts block = scene.tableAfter index parts block' := by
  cases h with
  | text _ _ hnone hnone' =>
      rw [tableAfter_of_not_selects hnone, tableAfter_of_not_selects hnone']
  | select block block' hsame =>
      -- what a block shows is not looked at, so it may be taken away
      show scene.tableAfter index parts (.select block.unshown)
        = scene.tableAfter index parts (.select block'.unshown)
      rw [hsame]
  | generate block block' hsame =>
      show scene.tableAfter index parts (.generate block.unshown)
        = scene.tableAfter index parts (.generate block'.unshown)
      rw [hsame]
  | phrase preposition _ block block' hsame =>
      show scene.tableAfter index parts (.phrase preposition (.select block.unshown))
        = scene.tableAfter index parts (.phrase preposition (.select block'.unshown))
      rw [hsame]

theorem tableFrom_alike (h : List.Forall₂ Block.SelectsAlike pattern pattern') :
    scene.tableFrom index parts pattern = scene.tableFrom index parts pattern' := by
  induction h generalizing index parts with
  | nil => rfl
  | cons hblock _ ih =>
      simp only [tableFrom, tableAfter_alike hblock]
      split
      · exact ih
      · rfl

/-- **How parts are shown makes no difference to what is selected.** If the blocks of two patterns
select alike one by one, then both patterns fail on a scene, with the same error at the same block,
or both bind the same parts to the same aliases in the same order. -/
theorem presentation_irrelevant (scene : Scene) (pattern pattern' : Pattern)
    (h : List.Forall₂ Block.SelectsAlike pattern pattern') :
    (scene.compose pattern).map (·.parts) = (scene.compose pattern').map (·.parts) := by
  rw [compose_map_parts, compose_map_parts]
  exact tableFrom_alike h

end Scene

/-! ## An announcement and its headline

The headline hides the person, shows the place in capitals with another preposition, and has the
person again where the announcement has a fixed text. Both select the title that agrees with the
person. -/

namespace Announcement

def anna : Item := { text := .ofPairs [("en", "Anna")], tags := .ofList ["female"] }

def duke : Item := { text := .ofPairs [("en", "Duke")], tags := .ofList ["male"] }

def duchess : Item := { text := .ofPairs [("en", "Duchess")], tags := .ofList ["female"] }

def ulm : Item := { text := .ofPairs [("en", "old ulm")] }

def person : SelectBlock := { key := "persons", bindAs := some "Person" }

def agreement : Agreement where
  source := "Person"
  features := [.tags ["female", "male"]]

def title : Block :=
  .select { key := "titles", bindAs := some "Title", options := { agreeWith := some agreement } }

def place : SelectBlock := { key := "places", bindAs := some "Place" }

def announcement : Pattern :=
  [.select person, title, .phrase "of" (.select place), .literal (.ofPairs [("en", "arrives")]) {}]

def headline : Pattern :=
  [.select { person with options := { hidden := true } }, title,
    .phrase "near" (.select { place with transform := some "TitleCase" }), .reference "Person"]

def engine : Engine where
  catalogs := .ofPairs [("persons", ⟨[anna]⟩), ("titles", ⟨[duke, duchess]⟩), ("places", ⟨[ulm]⟩)]

def scene : Scene := engine.scene engine.run { id := "news", locale := "en", seed := some "s" }

theorem selectsAlike : List.Forall₂ Block.SelectsAlike announcement headline :=
  .cons (.select _ _ rfl) <| .cons (.select _ _ rfl) <| .cons (.phrase _ _ _ _ rfl) <|
    .cons (.text _ _ rfl rfl) .nil

theorem headline_same_parts : List.Forall₂ Block.SelectsAlike announcement headline ∧
    (scene.compose announcement).map (·.text) = .ok "Anna Duchess of old ulm arrives" ∧
    (scene.compose headline).map (·.text) = .ok "Duchess near Old Ulm Anna" ∧
    (scene.compose announcement).map (·.parts) = (scene.compose headline).map (·.parts) :=
  ⟨selectsAlike, rfl, rfl, Scene.presentation_irrelevant scene announcement headline selectsAlike⟩

end Announcement

end TextRecipes
