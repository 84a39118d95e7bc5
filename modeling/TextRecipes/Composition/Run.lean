import TextRecipes.Composition.Step
import TextRecipes.Text.Joining

/-!
# Running a pattern

The blocks run in order, each with the draws of its index, and each sees the bindings of those
before it. Optional blocks whose component is switched off do not run at all. The first block
that fails ends the run, and its index goes with the error. At the end the tokens are joined.
-/

namespace TextRecipes

/-- The text of a run with the parts that it bound. -/
structure Composition where
  text : String
  parts : Parts
deriving Inhabited

/-- How far a run has come: the tokens and bindings so far. -/
structure Progress where
  tokens : List String := []
  parts : Parts := .empty
deriving Inhabited

def Progress.add (progress : Progress) (step : Step) : Progress where
  tokens := progress.tokens ++ step.token.toList
  parts := progress.parts.insertAll step.binding.toList

def Progress.finish (progress : Progress) : Composition :=
  ⟨Text.join progress.tokens, progress.parts⟩

namespace Scene

def switchedOff (scene : Scene) (options : BlockOptions) : Bool :=
  options.isOptional
    && options.componentKey.any fun key => scene.components.bind (·.get? key) == some false

def passesOver (scene : Scene) (block : Block) : Bool :=
  block.options?.any scene.switchedOff

/-- The progress after the block at `index`. -/
def advance (scene : Scene) (index : Nat) (progress : Progress) (block : Block) :
    Except ComposeError Progress :=
  if scene.passesOver block then .ok progress
  else
    match scene.step progress.parts (scene.forBlock index) block with
    | .ok step => .ok (progress.add step)
    | .error e => .error (.inBlock index e)

/-- The progress after all blocks of a pattern, the first of them at `index`. -/
def runFrom (scene : Scene) (index : Nat) (progress : Progress) :
    Pattern → Except ComposeError Progress
  | [] => .ok progress
  | block :: rest =>
    match scene.advance index progress block with
    | .ok progress => scene.runFrom (index + 1) progress rest
    | .error e => .error e

/-- The composition that a pattern makes. -/
def compose (scene : Scene) (pattern : Pattern) : Except ComposeError Composition :=
  (scene.runFrom 0 {} pattern).map Progress.finish

end Scene

end TextRecipes
