import TextRecipes.Proofs.Composition.Attempt
import TextRecipes.Proofs.Composition.Trace

/-!
# Where bound items come from

Every item in the alias table of a finished run was taken, as it stands, from the catalog that the
last block to bind its alias asks, and the clause that decided admits it (`item_from_catalog`).
Which clause that is, `Scene.DrawnBy` says in terms of the block, the caller's filters and the
table as it was when the block was reached. So nothing that comes later touches a bound item:
transforms, hidden blocks, references and blocks that bind other aliases only read it.
-/

namespace TextRecipes

namespace Scene

/-- **Bound items come from catalogs.** If an item is bound to `name` at the end of a run, then the
last block that bound `name` declares it, the item is one of those in the catalog that this block
asks, and a clause that can decide what the block comes to admits it. -/
theorem item_from_catalog (scene : Scene) (pattern : Pattern) (result : Composition)
    (name : String) (item : Item) (hrun : scene.compose pattern = .ok result)
    (hitem : result.parts.get? name = some (.item item)) :
    ∃ index progress block, scene.LastBinds pattern index progress block name (.item item) ∧
      block.bindAs? = some name ∧
      ∃ request catalog clause draws, scene.request? block = some request ∧
        scene.findCatalog request.key = .ok catalog ∧ item ∈ catalog.items ∧
        scene.DrawnBy catalog progress.parts (block.selectionDraws (scene.forBlock index)) request
          clause draws ∧
        clause.admits item = true := by
  obtain ⟨final, hfinal, rfl⟩ := compose_eq_ok hrun
  obtain ⟨index, progress, block, hlast⟩ := exists_lastBinds hfinal hitem
  -- what is bound at the end is what the last binding block was resolved to
  obtain ⟨hdeclares, hattempt⟩ := hlast.binds.attempt
  exact ⟨index, progress, block, hlast, hdeclares, item_of_attempt hattempt⟩

end Scene

/-! ## A title at court

Anna is bound first. No title agrees with her, since the only one for a woman or a man is the
duke's, so the fallback decides and the neutral title is taken. -/

namespace Court

def anna : Item := { text := .ofPairs [("en", "Anna")], tags := .ofList ["female"] }

def duke : Item := { text := .ofPairs [("en", "Duke")], tags := .ofList ["male"] }

def ruler : Item := { text := .ofPairs [("en", "Ruler")], tags := .ofList ["neutral"] }

def scene : Scene where
  catalogs := .ofPairs [("persons", ⟨[anna]⟩), ("titles", ⟨[duke, ruler]⟩)]
  rules := {}
  locale := "en"

/-- A title agrees with the person's gender, or else it is neutral. -/
def agreement : Agreement where
  source := "Person"
  features := [.tags ["female", "male"]]
  fallback := some (.retryWith { tags := ["neutral"] })

def pattern : Pattern :=
  [.select { key := "persons", bindAs := some "Person", options := { hidden := true } },
   .select { key := "titles", bindAs := some "Title"
             options := { hidden := true, agreeWith := some agreement } }]

def result : Composition :=
  ⟨"", ⟨[("Person", .item anna), ("Title", .item ruler)], by decide⟩⟩

theorem ruler_from_titles : scene.compose pattern = .ok result ∧
    result.parts.get? "Title" = some (.item ruler) ∧
    ∃ index progress block, scene.LastBinds pattern index progress block "Title" (.item ruler) ∧
      block.bindAs? = some "Title" ∧
      ∃ request catalog clause draws, scene.request? block = some request ∧
        scene.findCatalog request.key = .ok catalog ∧ ruler ∈ catalog.items ∧
        scene.DrawnBy catalog progress.parts (block.selectionDraws (scene.forBlock index)) request
          clause draws ∧
        clause.admits ruler = true :=
  ⟨rfl, rfl, Scene.item_from_catalog scene pattern result "Title" ruler rfl rfl⟩

end Court

end TextRecipes
