import TextRecipes.Proofs.Composition.Resolution
import TextRecipes.Proofs.Selection

/-!
# What an attempt comes to

An attempt that comes to a part has either asked a catalog or run a recipe. `Scene.request?` is
what a block asks of a catalog and `Scene.nested?` is the recipe that it runs; both can be read
off the block and the host, whatever the catalogs hold and whatever the recipe comes to.

* `attempt_of_request?` / `attempt_of_nested`: a block that asks a catalog comes to what its
  request comes to, and a block that runs a recipe to what the recipe comes to.
* `selectFromCatalog_eq_some`: what a request comes to was picked from its catalog, and `DrawnBy`
  says by which clause: the plain one, the one narrowed by the agreement, or the fallback's.
* `item_of_attempt`: an item comes from the catalog that its block asks, and from nowhere else.
* `attempt_eq_error`: an error is the block's own, or it is the recipe's, handed on.
-/

namespace TextRecipes

/-- Whether an error is raised where it occurs, rather than handed on from a recipe that runs
there. The limit of the nesting is not the block's own either. -/
def ComposeError.isOwn : ComposeError → Bool
  | inBlock _ _ => false
  | tooDeep _ _ => false
  | _ => true

namespace Scene

/-- Whether an error can be a block's own on the scene: a host is not missed where there is one. -/
def canRaise (scene : Scene) : ComposeError → Bool
  | .missingHost _ => scene.host.isNone
  | e => e.isOwn

variable {scene : Scene} {parts : Parts} {draws : Draws} {block : Block}

theorem isOwn_of_canRaise {e : ComposeError} (h : scene.canRaise e = true) : e.isOwn = true := by
  cases e with
  | missingHost _ => rfl
  | _ => exact h

/-! ## What a block asks of a catalog -/

/-- The first collection that the host knows by a name. -/
def namedCollection? (scene : Scene) (name : String) : Option Collection :=
  scene.host.bind fun host => host.collections.find? (·.key == name)

/-- The clause of a generate block: its own, together with the tags of the collection that it
names. There is none if the collection is not there. -/
def askedClause? (scene : Scene) (block : GenerateBlock) : Option Clause :=
  match block.collection with
  | none => some block.clause
  | some name =>
    (scene.namedCollection? name).map fun collection =>
      block.clause.merge (.ofTags collection.tags)

/-- What a block asks of a catalog, if it asks one. -/
def request? (scene : Scene) : Block → Option CatalogRequest
  | .select block => if block.source = .catalog then some block.request else none
  | .generate block =>
    match block.source, block.key with
    | .catalog, some key => (scene.askedClause? block).map (block.request key)
    | _, _ => none
  | .phrase _ (.select block) => if block.source = .catalog then some block.request else none
  | _ => none

/-- A clause that is found is the one that the block asks for. -/
theorem askedClause?_of_collectionClause {block : GenerateBlock} {clause : Clause}
    (h : scene.collectionClause block = .ok clause) : scene.askedClause? block = some clause := by
  unfold collectionClause at h
  cases hcollection : block.collection with
  | none =>
      rw [hcollection] at h
      cases h
      simp only [askedClause?, hcollection]
  | some name =>
      rw [hcollection] at h
      cases hhost : scene.host with
      | none =>
          rw [hhost] at h
          cases h
      | some host =>
          simp only [hhost] at h
          split at h
          · next collection hfound =>
              cases h
              simp [askedClause?, namedCollection?, hcollection, hhost, hfound]
          · cases h

theorem collectionClause_of_askedClause? {block : GenerateBlock} {clause : Clause}
    (h : scene.askedClause? block = some clause) : scene.collectionClause block = .ok clause := by
  unfold askedClause? at h
  split at h
  · next hnone =>
      cases h
      simp only [collectionClause, hnone]
  · next name hname =>
      obtain ⟨collection, hfound, rfl⟩ := Option.map_eq_some_iff.mp h
      obtain ⟨host, hhost, hfind⟩ := Option.bind_eq_some_iff.mp hfound
      simp only [collectionClause, hname, hhost, hfind]

/-- A request, by the kind of the block that makes it. A phrase asks for what the selection inside
it asks for. -/
inductive Asks (scene : Scene) : Block → CatalogRequest → Prop where
  | select (block : SelectBlock) (hsource : block.source = .catalog) :
      Asks scene (.select block) block.request
  | generate (block : GenerateBlock) (key : String) (clause : Clause)
      (hsource : block.source = .catalog) (hkey : block.key = some key)
      (hclause : scene.askedClause? block = some clause) :
      Asks scene (.generate block) (block.request key clause)
  | phrase (preposition : String) (block : SelectBlock) (hsource : block.source = .catalog) :
      Asks scene (.phrase preposition (.select block)) block.request

/-- A request is what the block asks for. -/
theorem asks_of_request? {request : CatalogRequest} (h : scene.request? block = some request) :
    scene.Asks block request := by
  unfold request? at h
  split at h
  · next block =>
      obtain ⟨hsource, hrequest⟩ := Option.ite_none_right_eq_some.mp h
      cases hrequest
      exact .select block hsource
  · next block =>
      split at h
      · next key hsource hkey =>
          obtain ⟨clause, hclause, rfl⟩ := Option.map_eq_some_iff.mp h
          exact .generate block key clause hsource hkey hclause
      · cases h
  · next preposition block =>
      obtain ⟨hsource, hrequest⟩ := Option.ite_none_right_eq_some.mp h
      cases hrequest
      exact .phrase preposition block hsource
  · cases h

theorem request?_distinctFrom {request : CatalogRequest} (h : scene.request? block = some request) :
    request.distinctFrom = block.distinctFrom := by
  cases asks_of_request? h <;> rfl

/-! ## Asking a catalog -/

/-- A clause that can decide what a request comes to, with the draws that it is drawn by: the
clause of the request narrowed by the caller, that clause narrowed by the agreement, or narrowed
by the fallback of the agreement if nothing agreed. -/
inductive DrawnBy (scene : Scene) (catalog : Catalog) (parts : Parts) (draws : Draws)
    (request : CatalogRequest) : Clause → Draws → Prop where
  | plain (hnone : request.agreement = none) :
      DrawnBy scene catalog parts draws request (scene.narrow request.key request.clause) draws
  | agreeing (agreement : Agreement) (hagree : request.agreement = some agreement) :
      DrawnBy scene catalog parts draws request
        ((scene.narrow request.key request.clause).merge (agreement.clause parts)) draws
  | fallback (agreement : Agreement) (clause : Clause) (e : ComposeError)
      (hagree : request.agreement = some agreement)
      (hfallback : agreement.fallback = some (.retryWith clause))
      (hfailed : pick catalog request parts draws
        ((scene.narrow request.key request.clause).merge (agreement.clause parts)) = .error e) :
      DrawnBy scene catalog parts draws request
        ((scene.narrow request.key request.clause).merge clause) draws.again

/-- A pick that succeeds is sound: an item of the catalog that the clause admits and whose
identity is none of those that the request excludes. -/
theorem pick_eq_ok {catalog : Catalog} {request : CatalogRequest} {clause : Clause} {part : Part}
    (h : pick catalog request parts draws clause = .ok part) :
    ∃ item, part = .item item ∧ item ∈ catalog.items ∧ clause.admits item = true ∧
      item.identity ∉ boundIdentities parts request.distinctFrom := by
  unfold pick at h
  split at h
  · next c hselect =>
      cases h
      obtain ⟨hmem, hadmits, hfresh⟩ := Selection.select_eq_ok hselect
      exact ⟨c.1, rfl, hmem, hadmits, hfresh⟩
  · cases h

/-- **What a request comes to was picked** from the catalog at its key, by one of the clauses that
can decide. -/
theorem selectFromCatalog_eq_some {request : CatalogRequest} {part : Part}
    (h : scene.selectFromCatalog parts draws request = .ok (some part)) :
    ∃ catalog clause draws', scene.findCatalog request.key = .ok catalog ∧
      scene.DrawnBy catalog parts draws request clause draws' ∧
      pick catalog request parts draws' clause = .ok part := by
  unfold selectFromCatalog at h
  split at h
  · cases h
  next catalog hfound =>
    dsimp only at h
    split at h
    · next hnone =>
        obtain ⟨part', hpick, hpart⟩ := except_map_eq_ok h
        cases hpart
        exact ⟨catalog, _, _, hfound, .plain hnone, hpick⟩
    · next agreement hagree =>
        unfold pickAgreeing at h
        split at h
        · next hpick =>
            cases h
            exact ⟨catalog, _, _, hfound, .agreeing agreement hagree, hpick⟩
        · next e hfailed =>
            split at h
            · cases h
            · cases h
            · cases h
            · next clause hfallback =>
                obtain ⟨part', hpick, hpart⟩ := except_map_eq_ok h
                cases hpart
                exact ⟨catalog, _, _, hfound, .fallback agreement clause e hagree hfallback hfailed,
                  hpick⟩

/-- A look-up of a catalog fails with errors of its own only. -/
theorem findCatalog_canRaise {key : String} {e : ComposeError}
    (h : scene.findCatalog key = .error e) : scene.canRaise e = true := by
  unfold findCatalog at h
  split at h
  · split at h
    · cases h
    · cases h
      rfl
  · split at h
    · next hnone =>
        cases h
        exact congrArg Option.isNone hnone
    · split at h
      · cases h
      · cases h
        rfl

theorem pick_canRaise {catalog : Catalog} {request : CatalogRequest} {clause : Clause}
    {e : ComposeError} (h : pick catalog request parts draws clause = .error e) :
    scene.canRaise e = true := by
  unfold pick at h
  split at h
  · cases h
  · next failure _ =>
      cases h
      cases failure <;> rfl

/-- A request fails if its catalog is not found or if a pick from it fails. -/
theorem selectFromCatalog_eq_error {request : CatalogRequest} {e : ComposeError}
    (h : scene.selectFromCatalog parts draws request = .error e) :
    scene.findCatalog request.key = .error e ∨
      ∃ catalog draws' clause, pick catalog request parts draws' clause = .error e := by
  unfold selectFromCatalog at h
  split at h
  · next hnone =>
      cases h
      exact .inl hnone
  · dsimp only at h
    split at h
    · exact .inr ⟨_, _, _, except_map_eq_error h⟩
    · unfold pickAgreeing at h
      split at h
      · cases h
      · next hfailed =>
          split at h
          · cases h
            exact .inr ⟨_, _, _, hfailed⟩
          · cases h
            exact .inr ⟨_, _, _, hfailed⟩
          · cases h
          · exact .inr ⟨_, _, _, except_map_eq_error h⟩

/-- So a selection does, at its catalog or at its draw. -/
theorem selectFromCatalog_canRaise {request : CatalogRequest} {e : ComposeError}
    (h : scene.selectFromCatalog parts draws request = .error e) : scene.canRaise e = true := by
  rcases selectFromCatalog_eq_error h with hnone | ⟨_, _, _, hfailed⟩
  · exact findCatalog_canRaise hnone
  · exact pick_canRaise hfailed

theorem collectionClause_canRaise {block : GenerateBlock} {e : ComposeError}
    (h : scene.collectionClause block = .error e) : scene.canRaise e = true := by
  unfold collectionClause at h
  split at h
  · cases h
  · split at h
    · next hnone =>
        cases h
        exact congrArg Option.isNone hnone
    · split at h
      · cases h
      · cases h
        rfl

theorem attemptSelect_of_catalog {block : SelectBlock} (h : block.source = .catalog) :
    scene.attemptSelect parts draws block = scene.selectFromCatalog parts draws block.request := by
  unfold attemptSelect
  rw [h]

/-- **A block that has a request comes to what the request comes to.** -/
theorem attempt_of_request? {request : CatalogRequest} (h : scene.request? block = some request) :
    scene.attempt parts draws block
      = scene.selectFromCatalog parts (block.selectionDraws draws) request := by
  cases asks_of_request? h with
  | select block hsource => exact attemptSelect_of_catalog hsource
  | generate block key clause hsource hkey hclause =>
      have hcollection := collectionClause_of_askedClause? hclause
      simp only [attempt, attemptGenerate, hsource, hkey, generateFromCatalog, hcollection,
        Block.selectionDraws]
  | phrase _ block hsource => exact attemptSelect_of_catalog hsource

/-- A block that asks a catalog has a request. It has none if it lacks its key or its collection,
and then it fails by itself. -/
theorem attempt_of_asksCatalog (scene : Scene) (parts : Parts) (draws : Draws) {block : Block}
    (hasks : block.asksCatalog = true) :
    (∃ request, scene.request? block = some request ∧ scene.attempt parts draws block
        = scene.selectFromCatalog parts (block.selectionDraws draws) request) ∨
      ∃ e, scene.attempt parts draws block = .error e ∧ scene.canRaise e = true := by
  cases block with
  | select block =>
      have hrequest : scene.request? (.select block) = some block.request := if_pos (eq_of_beq hasks)
      exact .inl ⟨_, hrequest, attempt_of_request? hrequest⟩
  | generate block =>
      have hsource : block.source = .catalog := eq_of_beq hasks
      cases hkey : block.key with
      | none =>
          refine .inr ⟨keyMissing "Catalog", ?_, rfl⟩
          simp only [attempt, attemptGenerate, hsource, hkey]
      | some key =>
          cases hclause : scene.collectionClause block with
          | error e =>
              refine .inr ⟨e, ?_, collectionClause_canRaise hclause⟩
              simp only [attempt, attemptGenerate, hsource, hkey, generateFromCatalog, hclause]
          | ok clause =>
              have hrequest : scene.request? (.generate block) = some (block.request key clause) := by
                simp [request?, hsource, hkey, askedClause?_of_collectionClause hclause]
              exact .inl ⟨_, hrequest, attempt_of_request? hrequest⟩
  | phrase preposition target =>
      cases target with
      | bound _ => cases hasks
      | select block =>
          have hsource : block.source = .catalog := eq_of_beq hasks
          have hrequest : scene.request? (.phrase preposition (.select block))
              = some block.request := if_pos hsource
          exact .inl ⟨_, hrequest, attempt_of_request? hrequest⟩
  | literal _ _ => cases hasks
  | reference _ => cases hasks

/-- What such a block comes to, its request has come to. -/
theorem request_of_attempt_eq_some {part : Part} (hasks : block.asksCatalog = true)
    (h : scene.attempt parts draws block = .ok (some part)) :
    ∃ request, scene.request? block = some request ∧
      scene.selectFromCatalog parts (block.selectionDraws draws) request = .ok (some part) := by
  rcases attempt_of_asksCatalog scene parts draws hasks with ⟨request, hrequest, heq⟩ | ⟨e, he, _⟩
  · exact ⟨request, hrequest, heq.symm.trans h⟩
  · rw [he] at h
    cases h

/-- A block that asks a catalog fails by itself, whatever recipes may come to. -/
theorem asksCatalog_canRaise {e : ComposeError} (hasks : block.asksCatalog = true)
    (h : scene.attempt parts draws block = .error e) : scene.canRaise e = true := by
  rcases attempt_of_asksCatalog scene parts draws hasks with ⟨request, _, heq⟩ | ⟨f, hf, hown⟩
  · exact selectFromCatalog_canRaise (heq.symm.trans h)
  · rw [hf] at h
    cases h
    exact hown

/-! ## Running a recipe -/

/-- The collection that a package block chooses from. -/
def chosen? (scene : Scene) (package : String) (name : Option String) : Option Collection :=
  scene.host.bind fun host =>
    (chooseCollection package name (host.collections.filter (·.visibleFrom package))).toOption

/-- The recipe that a block runs, if it runs one. -/
def nested? (scene : Scene) (draws : Draws) : Block → Option String
  | .select block => if block.source = .recipe then some block.key else none
  | .generate block =>
    match block.source with
    | .recipe => block.key
    | .catalog => none
    | .package name => (scene.chosen? name block.collection).map (chooseRecipe draws)
  | .phrase _ (.select block) => if block.source = .recipe then some block.key else none
  | _ => none

/-- A recipe that runs comes to generated text. -/
theorem runRecipe_eq_ok {id : String} {part : Part} (h : scene.runRecipe draws id = .ok part) :
    ∃ text, part = .generated ⟨text, scene.locale, id⟩ := by
  unfold runRecipe at h
  split at h
  · cases h
  · split at h
    · split at h
      · next text _ =>
          cases h
          exact ⟨text, rfl⟩
      · cases h
    · cases h

/-- A collection is chosen among those that the package sees. -/
theorem chosen?_eq_some_iff {package : String} {name : Option String} {collection : Collection} :
    scene.chosen? package name = some collection ↔
      ∃ host, scene.host = some host ∧
        chooseCollection package name (host.collections.filter (·.visibleFrom package))
          = .ok collection := by
  simp only [chosen?, Option.bind_eq_some_iff]
  refine exists_congr fun host => and_congr_right fun _ => ?_
  cases chooseCollection package name (host.collections.filter (·.visibleFrom package)) <;>
    simp [Except.toOption]

/-- Once a collection is chosen, all that is left is to run the recipe drawn from it. -/
theorem generateFromPackage_of_chosen {package : String} {name : Option String}
    {collection : Collection} (h : scene.chosen? package name = some collection) :
    scene.generateFromPackage draws package name
      = scene.runRecipe draws (chooseRecipe draws collection) := by
  obtain ⟨host, hhost, hchoose⟩ := chosen?_eq_some_iff.mp h
  simp only [generateFromPackage, hhost, hchoose]

theorem attempt_of_nested_select {block : SelectBlock} {id : String}
    (h : scene.nested? draws (.select block) = some id) :
    scene.attemptSelect parts draws block = (scene.runRecipe draws id).map some := by
  simp only [nested?] at h
  split at h
  · next hsource =>
      cases h
      simp only [attemptSelect, hsource]
  · cases h

/-- **A block that runs a recipe comes to what the recipe comes to.** -/
theorem attempt_of_nested {id : String} (h : scene.nested? draws block = some id) :
    scene.attempt parts draws block
      = (scene.runRecipe (block.selectionDraws draws) id).map some := by
  cases block with
  | select block => exact attempt_of_nested_select h
  | generate block =>
      simp only [nested?] at h
      split at h
      · next hsource => simp only [attempt, attemptGenerate, hsource, h, Block.selectionDraws]
      · cases h
      · next name hsource =>
          obtain ⟨collection, hchosen, rfl⟩ := Option.map_eq_some_iff.mp h
          simp only [attempt, attemptGenerate, hsource, Block.selectionDraws,
            generateFromPackage_of_chosen hchosen]
  | phrase _ target =>
      cases target with
      | bound _ => cases h
      | select block =>
          -- the key of a selection does not depend on the draws, so those of the phrase will do
          have hselect : scene.nested? draws.forPhrase (.select block) = some id := h
          exact attempt_of_nested_select hselect
  | literal _ _ => cases h
  | reference _ => cases h

theorem chooseCollection_canRaise {package : String} {name : Option String}
    {visible : List Collection} {e : ComposeError}
    (h : chooseCollection package name visible = .error e) : scene.canRaise e = true := by
  unfold chooseCollection at h
  split at h
  · split at h
    · cases h
      rfl
    · split at h
      · cases h
      · cases h
        rfl
  · split at h
    · cases h
    · cases h
      rfl

/-- Where no collection can be chosen the block fails by itself. -/
theorem generateFromPackage_of_not_chosen (draws : Draws) {package : String} {name : Option String}
    (h : scene.chosen? package name = none) :
    ∃ e, scene.generateFromPackage draws package name = .error e ∧ scene.canRaise e = true := by
  unfold generateFromPackage
  split
  · next hnone => exact ⟨_, rfl, congrArg Option.isNone hnone⟩
  · next host hhost =>
      split
      · next e hchoose => exact ⟨e, rfl, chooseCollection_canRaise hchoose⟩
      · next found hchoose => simp [chosen?, hhost, hchoose, Except.toOption] at h

/-! ## How an attempt ends -/

/-- A block asks a catalog, or it runs a recipe, or it comes to nothing of either: then it selects
nothing or fails by itself. -/
theorem attempt_cases (scene : Scene) (parts : Parts) (draws : Draws) (block : Block) :
    block.asksCatalog = true ∨ (∃ id, scene.nested? draws block = some id) ∨
      scene.attempt parts draws block = .ok none ∨
      ∃ e, scene.attempt parts draws block = .error e ∧ scene.canRaise e = true := by
  cases block with
  | select block =>
      cases hsource : block.source with
      | catalog => exact .inl (by simp [Block.asksCatalog, hsource])
      | recipe => exact .inr (.inl ⟨block.key, by simp [nested?, hsource]⟩)
  | generate block =>
      cases hsource : block.source with
      | catalog => exact .inl (by simp [Block.asksCatalog, hsource])
      | recipe =>
          cases hkey : block.key with
          | some key => exact .inr (.inl ⟨key, by simp [nested?, hsource, hkey]⟩)
          | none =>
              refine .inr (.inr (.inr ⟨keyMissing "Recipe", ?_, rfl⟩))
              simp [attempt, attemptGenerate, hsource, hkey]
      | package name =>
          cases hchosen : scene.chosen? name block.collection with
          | some collection =>
              exact .inr (.inl ⟨chooseRecipe draws collection, by simp [nested?, hsource, hchosen]⟩)
          | none =>
              obtain ⟨e, he, hown⟩ := generateFromPackage_of_not_chosen draws hchosen
              refine .inr (.inr (.inr ⟨e, ?_, hown⟩))
              simp [attempt, attemptGenerate, hsource, he, Except.map]
  | phrase _ target =>
      cases target with
      | bound _ => exact .inr (.inr (.inl rfl))
      | select block =>
          cases hsource : block.source with
          | catalog => exact .inl (by simp [Block.asksCatalog, hsource])
          | recipe => exact .inr (.inl ⟨block.key, by simp [nested?, hsource]⟩)
  | literal _ _ => exact .inr (.inr (.inl rfl))
  | reference _ => exact .inr (.inr (.inl rfl))

/-- **An error is the block's own or it is handed on** from the recipe that the block runs. -/
theorem attempt_eq_error {e : ComposeError} (h : scene.attempt parts draws block = .error e) :
    scene.canRaise e = true ∨ ∃ id, scene.nested? draws block = some id ∧
      scene.runRecipe (block.selectionDraws draws) id = .error e := by
  rcases attempt_cases scene parts draws block with hasks | ⟨id, hid⟩ | hnone | ⟨f, hf, hown⟩
  · exact .inl (asksCatalog_canRaise hasks h)
  · rw [attempt_of_nested hid] at h
    exact .inr ⟨id, hid, except_map_eq_error h⟩
  · rw [hnone] at h
    cases h
  · rw [hf] at h
    cases h
    exact .inl hown

/-- Running a recipe fails by itself if the recipe is unknown, and otherwise as the recipe fails. -/
theorem runRecipe_eq_error {id : String} {e : ComposeError}
    (h : scene.runRecipe draws id = .error e) :
    scene.canRaise e = true ∨ ∃ host, scene.host = some host ∧ host.knows id = true ∧
      host.run (scene.nestedCall draws id) = .error e := by
  unfold runRecipe at h
  split at h
  · next hnone =>
      cases h
      exact .inl (congrArg Option.isNone hnone)
  · next host hhost =>
      split at h
      · next hknows =>
          split at h
          · cases h
          · next hrun =>
              cases h
              exact .inr ⟨host, hhost, hknows, hrun⟩
      · cases h
        exact .inl rfl

/-- **Only a catalog gives an item.** -/
theorem attempt_eq_item {item : Item}
    (h : scene.attempt parts draws block = .ok (some (.item item))) :
    block.asksCatalog = true := by
  rcases attempt_cases scene parts draws block with hasks | ⟨id, hid⟩ | hnone | ⟨e, he, _⟩
  · exact hasks
  · rw [attempt_of_nested hid] at h
    obtain ⟨part, hrun, hpart⟩ := except_map_eq_ok h
    obtain ⟨text, rfl⟩ := runRecipe_eq_ok hrun
    cases hpart
  · rw [hnone] at h
    cases h
  · rw [he] at h
    cases h

/-- **An item lies in the catalog that its block asks**, and the clause that decided admits it. -/
theorem item_of_attempt {item : Item}
    (h : scene.attempt parts draws block = .ok (some (.item item))) :
    ∃ request catalog clause draws', scene.request? block = some request ∧
      scene.findCatalog request.key = .ok catalog ∧ item ∈ catalog.items ∧
      scene.DrawnBy catalog parts (block.selectionDraws draws) request clause draws' ∧
      clause.admits item = true := by
  have hasks : block.asksCatalog = true := attempt_eq_item h
  obtain ⟨request, hrequest, hselect⟩ := request_of_attempt_eq_some hasks h
  obtain ⟨catalog, clause, draws', hfound, hdrawn, hpick⟩ := selectFromCatalog_eq_some hselect
  obtain ⟨item', hitem, hmem, hadmits, _⟩ := pick_eq_ok hpick
  cases hitem
  exact ⟨request, catalog, clause, draws', hrequest, hfound, hmem, hdrawn, hadmits⟩

end Scene

end TextRecipes
