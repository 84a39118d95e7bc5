import TextRecipes.Proofs.Composition.Attempt
import TextRecipes.Proofs.Composition.Trace
import TextRecipes.Proofs.Agreeing
import TextRecipes.Proofs.Nesting.Independence

/-!
# What the filters of a request let through

A request may carry a clause for a catalog, and every selection from the catalog is made with this
filter merged into the clause of the block. The kinds, tags and none-of tags of a filter are asked
for as they stand, so by them it narrows the selection. Its any-of tags are not: any-of tags of
merged clauses count together, and a tag that the block lists is enough for the filter as well,
just as one that the filter lists is enough for the block (`passes_but_for_anyOf`). A filter
narrows in every respect if the block lists no any-of tags, or else lets items through that it
rejects by itself (`Journey.rejected_items_bound`).
-/

namespace TextRecipes

/-! ## One clause among others -/

def Clause.withoutAnyOf (c : Clause) : Clause := { c with anyOfTags := [] }

theorem Clause.admits_eq_withoutAnyOf (c : Clause) (item : Item) :
    c.admits item = (c.withoutAnyOf.admits item && meets c.anyOfTags item.tags) := by
  simp [admits, withoutAnyOf, meets, Bool.and_comm, Bool.and_left_comm]

namespace Demands

variable {cs : List Clause} {item : Item} {c : Clause}

/-- But for their any-of tags, clauses that are merged are asked for one by one. -/
theorem admits_withoutAnyOf (h : Demands cs item) (hc : c ∈ cs) :
    c.withoutAnyOf.admits item = true := by
  rw [Clause.admits_eq_true]
  refine ⟨?_, h.tags c hc, .inl rfl, h.noneOfTags c hc⟩
  rcases kinds_iff.mpr ⟨h.unmarked, h.kinds⟩ with hall | ⟨kind, hkind, hallows⟩
  · exact .inl (hall c hc)
  · exact .inr ⟨kind, hkind, hallows c hc⟩

theorem admits_iff_meets (h : Demands cs item) (hc : c ∈ cs) :
    c.admits item = true ↔ Clause.meets c.anyOfTags item.tags = true := by
  rw [Clause.admits_eq_withoutAnyOf, h.admits_withoutAnyOf hc, Bool.true_and]

/-- The any-of tags of clauses that are merged are asked for together. -/
theorem meets_anyOf (h : Demands cs item) :
    Clause.meets (cs.flatMap (·.anyOfTags)) item.tags = true :=
  Clause.meets_eq_true.mpr (anyOfTags_iff.mpr h.anyOfTags)

end Demands

/-! ## What decides a selection -/

/-- The clause that a block has for the items that it selects. -/
def Block.ownClause : Block → Clause
  | select block => block.clause
  | generate block => block.clause
  | phrase _ (.select block) => block.clause
  | _ => .all

namespace Scene

variable {scene : Scene} {pattern : Pattern} {index : Nat} {progress : Progress} {block : Block}
  {name : String} {item : Item} {asked : CatalogRequest} {filter : Clause}

/-- The clause that a block tries again with: there is one if nothing agrees and the fallback names
it. -/
def fallback? (scene : Scene) (index : Nat) (progress : Progress) (block : Block) :
    Option Clause := do
  let asked ← scene.request? block
  let agreement ← asked.agreement
  let catalog ← (scene.findCatalog asked.key).toOption
  let agreed := pick catalog asked progress.parts (block.selectionDraws (scene.forBlock index))
    ((scene.narrow asked.key asked.clause).merge (agreement.clause progress.parts))
  match agreed, agreement.fallback with
  | .error _, some (.retryWith clause) => some clause
  | _, _ => none

/-- The any-of tags that the fallback of a block adds. -/
def fallbackTags (scene : Scene) (index : Nat) (progress : Progress) (block : Block) :
    List String :=
  ((scene.fallback? index progress block).map (·.anyOfTags)).getD []

/-- A block asks for what its own clause asks for, and for the tags of a collection. -/
theorem request?_clause (h : scene.request? block = some asked) :
    ∃ tags, asked.clause = block.ownClause.merge (.ofTags tags) := by
  cases asks_of_request? h with
  | select block => exact ⟨[], (Clause.merge_all _).symm⟩
  | generate block key clause _ _ hclause =>
      unfold askedClause? at hclause
      split at hclause
      · cases hclause
        exact ⟨[], (Clause.merge_all _).symm⟩
      · obtain ⟨collection, _, rfl⟩ := Option.map_eq_some_iff.mp hclause
        exact ⟨collection.tags, rfl⟩
  | phrase _ block => exact ⟨[], (Clause.merge_all _).symm⟩

/-- An item that a block selects passes the narrowed clause merged with one more: that of the
agreement, which lists no any-of tags, or that of the fallback. -/
theorem admits_of_selectFromCatalog (hasked : scene.request? block = some asked)
    (h : scene.selectFromCatalog progress.parts (block.selectionDraws (scene.forBlock index)) asked
      = .ok (some (.item item))) :
    ∃ last : Clause, ((scene.narrow asked.key asked.clause).merge last).admits item = true ∧
      last.anyOfTags = scene.fallbackTags index progress block := by
  obtain ⟨catalog, clause, draws, hfound, hdrawn, hpick⟩ := selectFromCatalog_eq_some h
  obtain ⟨_, hitem, _, hadmits, _⟩ := pick_eq_ok hpick
  cases hitem
  -- whatever decided the draw is the clause that was merged last
  cases hdrawn with
  | plain hnone =>
      refine ⟨.all, by rwa [Clause.merge_all], ?_⟩
      simp [fallbackTags, fallback?, hasked, hnone, Clause.all]
  | agreeing agreement hagree =>
      refine ⟨agreement.clause progress.parts, hadmits, ?_⟩
      simp [fallbackTags, fallback?, hasked, hagree, hfound, hpick, Except.toOption,
        (agreement.frame_clause progress.parts).1]
  | fallback agreement clause e hagree hfallback hfailed =>
      refine ⟨clause, hadmits, ?_⟩
      simp [fallbackTags, fallback?, hasked, hagree, hfound, hfailed, hfallback, Except.toOption]

/-- Block, filter, and what else is merged with them, are asked for together. -/
theorem Binds.demands (h : scene.Binds pattern index progress block name (.item item))
    (hasked : scene.request? block = some asked)
    (hfilter : scene.filters.bind (·.get? asked.key) = some filter) :
    ∃ others : List Clause, Demands (block.ownClause :: filter :: others) item ∧
      others.flatMap (·.anyOfTags) = scene.fallbackTags index progress block := by
  obtain ⟨_, hattempt⟩ := h.attempt
  obtain ⟨asked', hasked', hselect⟩ :=
    request_of_attempt_eq_some (attempt_eq_item hattempt) hattempt
  obtain rfl : asked = asked' := Option.some.inj (hasked.symm.trans hasked')
  obtain ⟨last, hadmits, hlast⟩ := admits_of_selectFromCatalog hasked hselect
  obtain ⟨tags, hclause⟩ := request?_clause hasked
  have hnarrow : scene.narrow asked.key asked.clause
      = (block.ownClause.merge (.ofTags tags)).merge filter := by
    simp only [narrow, hfilter, hclause]
  rw [hnarrow] at hadmits
  have hdemands : Demands [block.ownClause, .ofTags tags, filter, last] item :=
    (Merging.admits_result (.both (.both (.both (.clause _) (.clause _)) (.clause _)) (.clause _))
      item).mp hadmits
  refine ⟨[.ofTags tags, last], (Demands.perm_iff (.cons _ (.swap _ _ _))).mp hdemands, ?_⟩
  simpa [Clause.ofTags] using hlast

end Scene

/-! ## Filters of a request -/

namespace Engine

/-- In the run of a request, the block at `index` binds `name` to `part`. -/
def Binds (engine : Engine) (id : String) (request : Request) (index : Nat) (progress : Progress)
    (block : Block) (name : String) (part : Part) : Prop :=
  ∃ recipe, engine.findRecipe id = .ok recipe ∧
    (engine.requestScene id request).Binds recipe.pattern index progress block name part

/-- **A filter narrows, but for any-of tags.** An item that a block binds from a catalog with a
filter passes the filter and the block's own clause but for their any-of tags, and those count
together: if the block, the filter or a fallback that is tried lists any, the item has one of them.
So it passes the filter itself if only the filter lists any, and the block's clause if only the
block does. -/
theorem passes_but_for_anyOf (engine : Engine) (id : String) (request : Request) (index : Nat)
    (progress : Progress) (block : Block) (name : String) (item : Item)
    (hbinds : engine.Binds id request index progress block name (.item item))
    (asked : CatalogRequest) (hasked : (engine.requestScene id request).request? block = some asked)
    (filter : Clause) (hfilter : request.filters.get? asked.key = some filter) :
    filter.withoutAnyOf.admits item = true ∧ block.ownClause.withoutAnyOf.admits item = true ∧
    Clause.meets (block.ownClause.anyOfTags ++ (filter.anyOfTags ++
      (engine.requestScene id request).fallbackTags index progress block)) item.tags = true ∧
    (filter.admits item = true ↔ Clause.meets filter.anyOfTags item.tags = true) ∧
    (block.ownClause.admits item = true ↔
      Clause.meets block.ownClause.anyOfTags item.tags = true) ∧
    ((engine.requestScene id request).fallbackTags index progress block = [] →
      (block.ownClause.anyOfTags = [] → filter.admits item = true) ∧
      (filter.anyOfTags = [] → block.ownClause.admits item = true)) := by
  obtain ⟨recipe, _, hrun⟩ := hbinds
  obtain ⟨others, hdemands, hothers⟩ := hrun.demands hasked hfilter
  have hown := hdemands.admits_iff_meets (c := block.ownClause) (by simp)
  have hfilter := hdemands.admits_iff_meets (c := filter) (by simp)
  have hmeets := hdemands.meets_anyOf
  rw [List.flatMap_cons, List.flatMap_cons, hothers] at hmeets
  refine ⟨hdemands.admits_withoutAnyOf (by simp), hdemands.admits_withoutAnyOf (by simp), hmeets,
    hfilter, hown, fun hnone => ⟨fun hnil => ?_, fun hnil => ?_⟩⟩
  · rw [hnil, hnone, List.nil_append, List.append_nil] at hmeets
    exact hfilter.mpr hmeets
  · rw [hnil, hnone, List.nil_append, List.append_nil] at hmeets
    exact hown.mpr hmeets

end Engine

/-! ## A journey

The recipe asks for a northern port and a northern spa, the request for southern ones. There is a
port in the north only and a spa in the south only, and both are bound. -/

namespace Journey

def hamburg : Item := { text := .ofPairs [("en", "Hamburg")], tags := .ofList ["north"] }

def ulm : Item := { text := .ofPairs [("en", "Ulm")], tags := .ofList ["south"] }

def northern : Clause := { anyOfTags := ["north"] }

def southern : Clause := { anyOfTags := ["south"] }

def port : Block :=
  .select { key := "ports", clause := northern, bindAs := some "From"
            options := { isOptional := true } }

def spa : Block :=
  .select { key := "spas", clause := northern, bindAs := some "To"
            options := { isOptional := true } }

def engine : Engine where
  catalogs := .ofPairs [("ports", ⟨[hamburg]⟩), ("spas", ⟨[ulm]⟩)]
  recipes := .ofPairs [("journey", ⟨"journey", [port, spa]⟩)]

def request : Request where
  locale := "en"
  filters := .ofPairs [("ports", southern), ("spas", southern)]

/-- The journey before the spa. -/
def departed : Progress where
  tokens := ["Hamburg"]
  parts := ⟨[("From", .item hamburg)], by decide⟩

def result : Composition :=
  ⟨"Hamburg Ulm", ⟨[("From", .item hamburg), ("To", .item ulm)], by decide⟩⟩

theorem port_binds : engine.Binds "journey" request 0 {} port "From" (.item hamburg) :=
  ⟨_, rfl, ⟨rfl, rfl⟩, rfl, _, rfl, rfl⟩

theorem spa_binds : engine.Binds "journey" request 1 departed spa "To" (.item ulm) :=
  ⟨_, rfl, ⟨rfl, rfl⟩, rfl, _, rfl, rfl⟩

/-- The filter rejects the port that is bound, and the recipe's own clause the spa. -/
theorem rejected_items_bound : engine.generate "journey" request = .ok result ∧
    engine.Binds "journey" request 0 {} port "From" (.item hamburg) ∧
    request.filters.get? "ports" = some southern ∧ southern.admits hamburg = false ∧
    engine.Binds "journey" request 1 departed spa "To" (.item ulm) ∧
    request.filters.get? "spas" = some southern ∧ spa.ownClause.admits ulm = false :=
  ⟨rfl, port_binds, rfl, rfl, spa_binds, rfl, rfl⟩

theorem hamburg_passes : engine.Binds "journey" request 0 {} port "From" (.item hamburg) ∧
    southern.withoutAnyOf.admits hamburg = true ∧
    Clause.meets (northern.anyOfTags ++ (southern.anyOfTags ++ [])) hamburg.tags = true := by
  obtain ⟨hfilter, _, hmeets, _⟩ := Engine.passes_but_for_anyOf engine "journey" request 0 {} port
    "From" hamburg port_binds _ rfl southern rfl
  exact ⟨port_binds, hfilter, hmeets⟩

end Journey

end TextRecipes
