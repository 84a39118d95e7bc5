import TextRecipes.Composition.Resolving
import TextRecipes.Transform

/-!
# What a block contributes

The step of a block: at most one token of text and at most one binding. Selections bind their
alias even if they are hidden; literals and references bind nothing; a phrase binds the alias of
the selection that stands inside it.
-/

namespace TextRecipes

/-- The contribution of a block to a run. -/
structure Step where
  token : Option String := none
  binding : Option (String × Part) := none
deriving Inhabited

def Step.nothing : Step := {}

namespace Scene

/-- The text of a part for the locale of the scene, after the named transform. -/
def partText (scene : Scene) (parts : Parts) (transform : Option String) (part : Part) : String :=
  let text := (part.text? scene.locale).getD ""
  match transform with
  | some name => Transform.runNamed name scene.rules scene.locale parts text
  | none => text

/-- The step of a selection: its text unless it is hidden, and its binding if it has an alias. -/
def selectionStep (scene : Scene) (parts : Parts) (bindAs transform : Option String)
    (options : BlockOptions) : Option Part → Step
  | none => .nothing
  | some part =>
    { token := if options.hidden then none else some (scene.partText parts transform part)
      binding := bindAs.map fun name => (name, part) }

/-- The step of a fixed text: its text for the locale, unless it is hidden or waits for an alias
that is not bound. -/
def literalStep (scene : Scene) (parts : Parts) (text : LocalizedText) (options : BlockOptions) :
    Step :=
  let awaited := match options.optionalWith with
    | some name => parts.contains name
    | none => true
  if awaited && !options.hidden then { token := text.forLocale scene.locale } else .nothing

/-- The form of a preposition before a part, by the part's gender. A preposition without rules
stays as it is. -/
def prepositionForm (scene : Scene) (preposition : String) (part : Part) : String :=
  let gender := (part.gramKey? "gender").map Language.normalizeGender
  let rule := (scene.rules.forLocale scene.locale).bind (·.prepositions.get? preposition)
  (rule.bind (·.form gender)).getD preposition

def phraseText (scene : Scene) (preposition : String) (part : Part) (text : String) : String :=
  scene.prepositionForm preposition part ++ " " ++ text

/-- The step of a phrase. A phrase whose part is not bound or left out contributes nothing. -/
def phraseStep (scene : Scene) (parts : Parts) (draws : Draws) (preposition : String) :
    PhraseTarget → Except ComposeError Step
  | .bound name =>
    .ok <| match parts.get? name with
      | some part =>
        { token := some (scene.phraseText preposition part (scene.partText parts none part)) }
      | none => .nothing
  | .select block =>
    match scene.resolveSelect parts draws.forPhrase block with
    | .error e => .error e
    | .ok none => .ok .nothing
    | .ok (some part) =>
      let text := scene.partText parts block.transform part
      .ok { token := some (scene.phraseText preposition part text)
            binding := block.bindAs.map fun name => (name, part) }

def step (scene : Scene) (parts : Parts) (draws : Draws) :
    Block → Except ComposeError Step
  | .select block =>
    (scene.resolveSelect parts draws block).map
      (scene.selectionStep parts block.bindAs block.transform block.options)
  | .generate block =>
    (scene.resolveGenerate parts draws block).map
      (scene.selectionStep parts block.bindAs block.transform block.options)
  | .literal text options => .ok (scene.literalStep parts text options)
  | .phrase preposition target => scene.phraseStep parts draws preposition target
  | .reference name => .ok { token := parts.text? name scene.locale }

end Scene

end TextRecipes
