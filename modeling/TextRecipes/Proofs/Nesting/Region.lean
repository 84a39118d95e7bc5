import TextRecipes.Proofs.Composition.Region
import TextRecipes.Proofs.Nesting.Levels

/-!
# Regional locales

A request may come for a region of a language, and an engine may know the language only. Then the
request is answered as if it had come for the language (`region_as_language`): the same text with
the same parts, or the same error. The recipes that run inside have the locale of the request, so
they are answered in the same way, level by level (`runWithin_inLanguage`).
-/

namespace TextRecipes

/-- A part read in one locale is as good as another part read in another. -/
structure Part.ReadsAs (locale : String) (part : Part) (locale' : String) (part' : Part) :
    Prop where
  identity : part.identity = part'.identity
  text : part.text? locale = part'.text? locale'
  tags : part.tags = part'.tags
  kinds : part.kinds = part'.kinds
  gram : ∀ path, part.gram? path = part'.gram? path

/-- Two compositions with the same text and the same aliases in the same order, bound to parts that
read the same. -/
structure Composition.ReadsAs (locale : String) (composition : Composition) (locale' : String)
    (composition' : Composition) : Prop where
  text : composition.text = composition'.text
  aliases : composition.parts.toList.map (·.1) = composition'.parts.toList.map (·.1)
  parts : ∀ name part, composition.parts.get? name = some part →
    ∃ part', composition'.parts.get? name = some part' ∧ part.ReadsAs locale locale' part'

/-- A part without a text for the region reads in the base language as it does in the region. -/
theorem Part.Lacks.readsAs {locale : String} {part : Part} (h : part.Lacks locale) :
    part.ReadsAs locale (baseLanguage locale) (part.relocate (baseLanguage locale)) :=
  { identity := (identity_relocate _ part).symm
    text := by rw [text?_relocate, h.text?_base]
    tags := (tags_relocate _ part).symm
    kinds := (kinds_relocate _ part).symm
    gram := fun path => (gram?_relocate _ part path).symm }

theorem Composition.readsAs_of_lacks {locale : String} {composition : Composition}
    (h : composition.parts.Lacks locale) :
    composition.ReadsAs locale (baseLanguage locale)
      (composition.relocate (baseLanguage locale)) :=
  { text := rfl
    aliases := by simp [relocate, Parts.relocate, Function.comp_def]
    parts := fun name part hpart => by
      refine ⟨part.relocate (baseLanguage locale), ?_, (h name part hpart).readsAs⟩
      exact (Parts.get?_relocate _ _ name).trans (congrArg _ hpart) }

/-- The call in the language of its locale. -/
def RecipeCall.inLanguage (call : RecipeCall) : RecipeCall :=
  { call with locale := baseLanguage call.locale }

/-- The request in the language of its locale. -/
def Request.inLanguage (request : Request) : Request :=
  { request with locale := baseLanguage request.locale }

namespace Engine

/-- Nothing in the engine is written for the locale itself: no item of its catalogs and packages, no
fixed text of its recipes and no language rules. -/
structure Lacks (engine : Engine) (locale : String) : Prop where
  catalogs : ∀ key catalog, engine.catalogs.get? key = some catalog →
    ∀ item ∈ catalog.items, item.text.get? locale = none
  packages : ∀ package catalogs key catalog, engine.packages.get? package = some catalogs →
    catalogs.get? key = some catalog → ∀ item ∈ catalog.items, item.text.get? locale = none
  recipes : ∀ id recipe, engine.recipes.get? id = some recipe →
    ∀ block ∈ recipe.pattern, block.Lacks locale
  rules : engine.rules.locales.get? locale = none

variable {engine : Engine} {call : RecipeCall} {run : RecipeCall → Except ComposeError String}

/-- All items that a run finds come from the catalogs of the engine or of its packages. -/
theorem Lacks.items {locale key : String} {catalog : Catalog} (h : engine.Lacks locale)
    (hfound : (engine.scene run call).findCatalog key = .ok catalog) :
    ∀ item ∈ catalog.items, item.text.get? locale = none := by
  unfold Scene.findCatalog at hfound
  dsimp only [scene, host] at hfound
  split at hfound
  · split at hfound
    · next hget =>
        cases hfound
        exact h.catalogs key catalog hget
    · cases hfound
  · next package name _ =>
      split at hfound
      · next hget =>
          cases hfound
          obtain ⟨catalogs, hpackage, hcatalog⟩ := Option.bind_eq_some_iff.mp hget
          exact h.packages package catalogs name catalog hpackage hcatalog
      · cases hfound

theorem Lacks.pattern {locale id : String} {recipe : Recipe} (h : engine.Lacks locale)
    (hfound : engine.findRecipe id = .ok recipe) :
    ∀ block ∈ recipe.pattern, block.Lacks locale :=
  h.recipes id recipe (get?_of_findRecipe hfound)

section

variable (h : engine.Lacks call.locale)
  (hnested : ∀ nested, nested.locale = call.locale → run nested.inLanguage = run nested)
include h hnested

/-- A scene of an engine without texts for the region has none itself. -/
theorem Lacks.scene : (engine.scene run call).LacksRegion where
  rules := h.rules
  items _ _ hfound := h.items hfound
  runRecipe draws id := by
    have hrun : run ((engine.scene run call.inLanguage).nestedCall draws id)
        = run ((engine.scene run call).nestedCall draws id) :=
      hnested ((engine.scene run call).nestedCall draws id) rfl
    show (engine.scene run call.inLanguage).runRecipe draws id = _
    rw [runRecipe_scene, runRecipe_scene, hrun]
    split
    · rw [except_map_map]
      rfl
    · rfl

/-- A call in the base language comes to the same composition, relocated. -/
theorem composeCall_inLanguage :
    engine.composeCall run call.inLanguage
      = (engine.composeCall run call).map (·.relocate (baseLanguage call.locale)) := by
  unfold composeCall
  dsimp only [RecipeCall.inLanguage]
  split
  · rfl
  · next recipe hrecipe =>
      exact (h.scene hnested).compose_inLanguage (h.pattern hrecipe)

theorem lacks_composeCall {composition : Composition}
    (hcompose : engine.composeCall run call = .ok composition) :
    composition.parts.Lacks call.locale := by
  unfold composeCall at hcompose
  split at hcompose
  · cases hcompose
  · exact (h.scene hnested).lacks_compose hcompose

end

theorem guarded_inLanguage (h : run call.inLanguage = run call) :
    engine.guarded run call.inLanguage = engine.guarded run call := by
  unfold guarded
  rw [h]
  -- the limit is compared with the depth, and a refusal names the recipe
  rfl

/-- **A nested recipe comes to the same in a region as in its language**, on every level. -/
theorem runWithin_inLanguage (h : engine.Lacks call.locale) (levels : Nat) :
    engine.runWithin engine.refuse levels call.inLanguage
      = engine.runWithin engine.refuse levels call := by
  induction levels generalizing call with
  | zero => exact guarded_inLanguage rfl
  | succ levels ih =>
      refine guarded_inLanguage ?_
      have hnested : ∀ nested, nested.locale = call.locale →
          engine.runWithin engine.refuse levels nested.inLanguage
            = engine.runWithin engine.refuse levels nested := by
        intro nested hlocale
        exact ih (hlocale ▸ h)
      rw [composeCall_inLanguage h hnested, except_map_map]
      rfl

/-- **A region that an engine does not know is answered in its language.** If no text and no rules
in an engine are for the locale of a request, then a recipe makes the same for the base language of
the locale: but for the locale that generated text remembers the composition is the same, and its
parts read the same, or the error is. -/
theorem region_as_language (engine : Engine) (id : String) (request : Request)
    (h : engine.Lacks request.locale) :
    engine.generate id request.inLanguage
      = (engine.generate id request).map (·.relocate (baseLanguage request.locale)) ∧
    ∀ composition, engine.generate id request = .ok composition →
      composition.ReadsAs request.locale (baseLanguage request.locale)
        (composition.relocate (baseLanguage request.locale)) := by
  have hnested : ∀ nested : RecipeCall, nested.locale = (outermost id request).locale →
      engine.runWithin engine.refuse engine.nestingLimit nested.inLanguage
        = engine.runWithin engine.refuse engine.nestingLimit nested := by
    intro nested hlocale
    have hlacks : engine.Lacks nested.locale := hlocale ▸ h
    exact runWithin_inLanguage hlacks engine.nestingLimit
  refine ⟨composeCall_inLanguage h hnested, ?_⟩
  intro composition hgenerate
  exact Composition.readsAs_of_lacks (lacks_composeCall h hnested hgenerate)

end Engine

/-! ## A letter to Vienna

The rules and texts are German. The sister who writes is called by the feminine title, the city is
entered by the form of `in` for its gender, and a second recipe makes the greeting. -/

namespace Vienna

def lena : Item where
  text := .ofPairs [("de", "Lena")]
  gram := [("gender", .text "f")]

def city : Item where
  text := .ofPairs [("de", "Donaustadt"), ("en", "Danube City")]
  gram := [("gender", .text "f")]

def rules : Language.LocaleRules where
  prepositions := .ofPairs [("in", { forms := .ofPairs [("f", "in die")] })]
  feminineSuffix := some "in"

def letter : Recipe where
  id := "letter"
  pattern :=
    [.select { key := "persons", bindAs := some "Person", options := { hidden := true } },
     .generate { source := .recipe, key := some "title", bindAs := some "Title"
                 transform := some "genderAdapt" },
     .reference "Person",
     .literal (.ofPairs [("de", "zieht"), ("en", "moves")]) {},
     .phrase "in" (.select { key := "cities", bindAs := some "City" }),
     .literal (.ofPairs [("de", "zu")]) {},
     .select { key := "cities", transform := some "demonym" },
     .literal (.ofPairs [("de", "Freunden")]) {}]

def title : Recipe where
  id := "title"
  pattern := [.literal (.ofPairs [("de", "Bürger")]) {}]

def engine : Engine where
  catalogs := .ofPairs [("cities", ⟨[city]⟩), ("persons", ⟨[lena]⟩)]
  recipes := .ofPairs [("letter", letter), ("title", title)]
  rules := ⟨.ofPairs [("de", rules)]⟩
  maxDepth := some 1

def request : Request where
  locale := "de-AT-1996"
  seed := some "s"

/-- There are texts for Austria and for all of German, but none for the orthography of 1996. -/
theorem lacks_vienna : engine.Lacks "de-AT-1996" where
  catalogs key catalog hget := by
    have hall : ∀ e ∈ engine.catalogs.entries, ∀ item ∈ e.2.items,
        item.text.get? "de-AT-1996" = none := by decide
    exact hall (key, catalog) (NameMap.get?_eq_some_iff.mp hget)
  packages package catalogs key catalog hget := by cases hget
  recipes id recipe hget := by
    have hall : ∀ e ∈ engine.recipes.entries, ∀ block ∈ e.2.pattern, block.Lacks "de-AT-1996" := by
      decide
    exact hall (id, recipe) (NameMap.get?_eq_some_iff.mp hget)
  rules := by decide

theorem vienna_in_german : engine.Lacks "de-AT-1996" ∧ baseLanguage "de-AT-1996" = "de" ∧
    (engine.generate "letter" request).map (·.text)
      = .ok "Bürgerin Lena zieht in die Donaustadt zu Donaustädter Freunden" ∧
    engine.generate "letter" request.inLanguage
      = (engine.generate "letter" request).map (·.relocate "de") :=
  ⟨lacks_vienna, rfl, rfl, (Engine.region_as_language engine "letter" request lacks_vienna).1⟩

end Vienna

end TextRecipes
