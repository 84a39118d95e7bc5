import TextRecipes.Proofs.Assembly.Files

/-!
# What an assembled engine holds

For every catalog, every catalog of a package, every recipe and the rules of every locale it can be
said where an assembled engine has them from: from the files, or else from the provision that gave
them last (`Engine.contents_of_assemble`). This decides every look-up, so there is nothing in an
engine that was not provided, and provisions of data for different slots may change places.

A catalog is found by its key. No data file is for the empty key, since a file called `.ron` is left
alone, and the key `unknown` has also the files whose names are no text. So it is said of every tree
which file has the catalog of a key (`FileTree.CountsFor`).
-/

namespace TextRecipes

/-! ## What is provided -/

namespace FileTree

variable (tree : FileTree) (provisions : List Provision)

/-- The catalog that provisions provide under a key: that of its file in the directory of catalogs
that is named last, or else the one that is given last. -/
def providedCatalog (key : String) : Except AssemblyError (Option Catalog) :=
  let folder := (provisions.filterMap (·.catalogPlace?)).getLast?
  let given := (provisions.filterMap (·.givenCatalog? key)).getLast?
  (tree.catalogIn (folder.bind (tree.catalogFile? key))).map (·.or given)

/-- The catalog of a package that provisions provide under a key: that of its file in the last
directory of the package that has one, or else the one that is given last. -/
def providedPackaged (package key : String) : Except AssemblyError (Option Catalog) :=
  let files := (provisions.flatMap (·.packagePlaces)).filterMap (tree.packageFile? package key)
  let given := (provisions.filterMap (·.givenPackaged? package key)).getLast?
  (tree.catalogIn files.getLast?).map (·.or given)

/-- The recipe that provisions provide under an id: the last that has it, of all that are given and
then those of the recipe file that is named last. -/
def providedRecipe (id : String) : Except AssemblyError (Option Recipe) :=
  let place := (provisions.filterMap (·.recipePlace?)).getLast?
  (tree.foundAt (tree.readData Notation.recipes) place).map fun found =>
    ((provisions.flatMap (·.givenRecipes) ++ found.getD []).filter (·.id == id)).getLast?

/-- The rules that provisions provide for a locale: those of the rules file that is named last, or
else those that are given last. -/
def providedRules (locale : String) : Except AssemblyError (Option Language.LocaleRules) :=
  let place := (provisions.filterMap (·.rulesPlace?)).getLast?
  let given := (provisions.filterMap (·.givenRules? locale)).getLast?
  (tree.foundAt (tree.readData Notation.languageRules) place).map fun found =>
    (found.bind (·.locales.get? locale)).or given

end FileTree

/-! ## What the stages of a plan leave -/

namespace Plan.Stages

variable {plan : Plan} {tree : FileTree} {engine : Engine}

theorem catalogs_get? (stages : plan.Stages tree engine) (key : String) :
    (tree.catalogIn (plan.catalogFolder.bind (tree.catalogFile? key))).map
        (·.or (plan.given.catalogs.get? key))
      = .ok (engine.catalogs.get? key) := by
  have hkept : engine.catalogs = stages.withCatalogs.catalogs := by
    calc engine.catalogs
        = stages.withCollections.catalogs :=
          FileTree.frame_addFrom (·.catalogs) (fun _ => rfl) stages.rules
      _ = stages.withRecipes.catalogs :=
          FileTree.frame_addFrom (·.catalogs) (fun _ => rfl) stages.collections
      _ = stages.withPackages.catalogs :=
          FileTree.frame_addFrom (·.catalogs) (fun _ => rfl) stages.recipes
      _ = stages.withCatalogs.catalogs :=
          FileTree.frame_packageFolders (·.catalogs) (fun _ _ _ => rfl) stages.packages
  -- what the files of the folder add is left as it is by all later stages
  rw [hkept]
  exact FileTree.catalogs_addFrom stages.catalogs key

theorem packaged?_eq (stages : plan.Stages tree engine) (package key : String) :
    (tree.catalogIn
        (plan.packageFolders.filterMap (tree.packageFile? package key)).getLast?).map
        (·.or (plan.given.packaged? package key))
      = .ok (engine.packaged? package key) := by
  have hkept : engine.packaged? package key = stages.withPackages.packaged? package key := by
    calc engine.packaged? package key
        = stages.withCollections.packaged? package key :=
          FileTree.frame_addFrom (·.packaged? package key) (fun _ => rfl) stages.rules
      _ = stages.withRecipes.packaged? package key :=
          FileTree.frame_addFrom (·.packaged? package key) (fun _ => rfl) stages.collections
      _ = stages.withPackages.packaged? package key :=
          FileTree.frame_addFrom (·.packaged? package key) (fun _ => rfl) stages.recipes
  have hgiven : stages.withCatalogs.packaged? package key = plan.given.packaged? package key :=
    FileTree.frame_addFrom (·.packaged? package key) (fun _ => rfl) stages.catalogs
  -- the catalogs of the folder are read before, and they are of no package
  rw [hkept, ← hgiven]
  exact FileTree.packaged?_of_packageFolders stages.packages package key

theorem recipes_eq (stages : plan.Stages tree engine) :
    (tree.foundAt (tree.readData Notation.recipes) plan.recipeFile).map
        (fun found => plan.given.recipes.insertAll ((found.getD []).map fun r => (r.id, r)))
      = .ok engine.recipes := by
  have hkept : engine.recipes = stages.withRecipes.recipes := by
    calc engine.recipes
        = stages.withCollections.recipes :=
          FileTree.frame_addFrom (·.recipes) (fun _ => rfl) stages.rules
      _ = stages.withRecipes.recipes :=
          FileTree.frame_addFrom (·.recipes) (fun _ => rfl) stages.collections
  have hgiven : stages.withPackages.recipes = plan.given.recipes := by
    calc stages.withPackages.recipes
        = stages.withCatalogs.recipes :=
          FileTree.frame_packageFolders (·.recipes) (fun _ _ _ => rfl) stages.packages
      _ = plan.given.recipes :=
          FileTree.frame_addFrom (·.recipes) (fun _ => rfl) stages.catalogs
  obtain ⟨found, hfound, hrecipes⟩ := FileTree.addFrom_eq_ok stages.recipes
  rw [hfound, hkept, hrecipes, ← hgiven]
  cases found <;> rfl

theorem rules_get? (stages : plan.Stages tree engine) (locale : String) :
    (tree.foundAt (tree.readData Notation.languageRules) plan.rulesFile).map
        (fun found => (found.bind (·.locales.get? locale)).or
          (plan.given.rules.locales.get? locale))
      = .ok (engine.rules.locales.get? locale) := by
  have hgiven : stages.withCollections.rules = plan.given.rules := by
    calc stages.withCollections.rules
        = stages.withRecipes.rules :=
          FileTree.frame_addFrom (·.rules) (fun _ => rfl) stages.collections
      _ = stages.withPackages.rules :=
          FileTree.frame_addFrom (·.rules) (fun _ => rfl) stages.recipes
      _ = stages.withCatalogs.rules :=
          FileTree.frame_packageFolders (·.rules) (fun _ _ _ => rfl) stages.packages
      _ = plan.given.rules :=
          FileTree.frame_addFrom (·.rules) (fun _ => rfl) stages.catalogs
  obtain ⟨found, hfound, hrules⟩ := FileTree.addFrom_eq_ok stages.rules
  rw [hfound, hrules, ← hgiven]
  cases found with
  | none => rfl
  | some rules => exact congrArg Except.ok (stages.withCollections.rules_addRules rules locale).symm

end Plan.Stages

/-! ## What an engine holds -/

/-- Of the recipes with one id the last stays. -/
theorem get?_insertAll_recipes (recipes : List Recipe) (id : String) :
    (NameMap.empty.insertAll (recipes.map fun r => (r.id, r))).get? id
      = (recipes.filter (·.id == id)).getLast? := by
  have hlookup : ((recipes.map fun r => (r.id, r)).reverse).lookup id
      = (recipes.filter (·.id == id)).getLast? := by
    induction recipes with
    | nil => rfl
    | cons recipe rest ih =>
        rw [List.map_cons, List.reverse_cons, List.lookup_append, ih, Entries.lookup_cons,
          List.filter_cons]
        -- the first recipe counts only if no later one has its id
        by_cases hid : id = recipe.id
        · subst hid
          rw [if_pos rfl, if_pos (beq_self_eq_true recipe.id), List.getLast?_cons]
          cases (rest.filter (·.id == recipe.id)).getLast? <;> rfl
        · rw [if_neg hid, if_neg (by simpa using Ne.symm hid)]
          exact Option.or_none
  rw [NameMap.get?_insertAll, hlookup, NameMap.get?_empty, Option.or_none]

namespace Engine

variable {tree : FileTree} {provisions : List Provision} {engine : Engine}

theorem providedRecipe_of_assemble (h : assemble tree provisions = .ok engine) (id : String) :
    tree.providedRecipe provisions id = .ok (engine.recipes.get? id) := by
  obtain ⟨stages⟩ := Plan.engine_eq_ok h
  have hall := stages.recipes_eq
  rw [Plan.recipeFile_ofProvisions, Plan.ofProvisions, Plan.recipes_foldl_add] at hall
  obtain ⟨found, hfound, hrecipes⟩ := except_map_eq_ok hall
  unfold FileTree.providedRecipe
  dsimp only
  -- the recipes that are given and those of the file come into the table one after the other
  rw [hfound, ← hrecipes, ← NameMap.insertAll_append, ← List.map_append]
  exact congrArg Except.ok (get?_insertAll_recipes _ id).symm

/-- **What an engine holds.** If an engine is assembled from provisions, then it has under every
key, for every package and key, under every id and for every locale just what is provided there. The
file that a directory has for a key is the last of those whose names are for the key. And if two
provisions that stand next to each other give data for different slots, the same engine is assembled
with the two the other way round. -/
theorem contents_of_assemble (tree : FileTree) (provisions : List Provision) (engine : Engine)
    (h : assemble tree provisions = .ok engine) :
    (∀ key, tree.providedCatalog provisions key = .ok (engine.catalogs.get? key)) ∧
    (∀ package key,
      tree.providedPackaged provisions package key = .ok (engine.packaged? package key)) ∧
    (∀ id, tree.providedRecipe provisions id = .ok (engine.recipes.get? id)) ∧
    (∀ locale, tree.providedRules provisions locale = .ok (engine.rules.locales.get? locale)) ∧
    (∀ key path file, tree.catalogFile? key path = some file ↔
      ∃ name, tree.CountsFor key path name ∧ file = path ++ [name]) ∧
    ∀ before first second after a b, provisions = before ++ first :: second :: after →
      first.given? = some a → second.given? = some b → a.Apart b →
      assemble tree (before ++ second :: first :: after) = .ok engine := by
  obtain ⟨stages⟩ := Plan.engine_eq_ok h
  refine ⟨?_, ?_, providedRecipe_of_assemble h, ?_,
    fun _ _ _ => FileTree.catalogFile?_eq_some, ?_⟩
  · intro key
    have hcatalog := stages.catalogs_get? key
    rwa [Plan.catalogFolder_ofProvisions, Plan.catalogs_ofProvisions] at hcatalog
  · intro package key
    have hcatalog := stages.packaged?_eq package key
    rwa [Plan.packageFolders_ofProvisions, Plan.packaged?_ofProvisions] at hcatalog
  · intro locale
    have hrules := stages.rules_get? locale
    rwa [Plan.rulesFile_ofProvisions, Plan.rules_ofProvisions] at hrules
  · -- the plan is the same for both orders, so nothing is left to be read
    rintro before first second after a b rfl hfirst hsecond hapart
    rw [assemble, Plan.ofProvisions_swap hfirst hsecond hapart] at h
    exact h

end Engine

/-! ## A garden

Roses lie in the garden, where the tulips that were given for them are not looked for any more. The
shop has the same garden. A second file there has no name in front of its ending. When the garden is
overgrown there are nettles in it, in a file with a name that is no text. -/

namespace Garden

def tulip : Item := { text := .ofPairs [("en", "tulip")] }

def bunch : Recipe := ⟨"bunch", [.select { key := "roses" }]⟩

def weeds : Recipe := ⟨"weeds", [.select { key := "" }]⟩

def roses : FileNode := .file "(items:[(text:\x7b\"en\":\"rose\"\x7d)])".toUTF8

def nettles : FileNode := .file "(items:[(text:\x7b\"en\":\"nettle\"\x7d)])".toUTF8

def garden : Path := [.ofText "garden"]

def tended : FileTree :=
  ⟨[(garden ++ [.ofText "roses.ron"], roses), (garden ++ [.ofText ".ron"], roses)]⟩

/-- A name whose first byte begins no character. -/
def illegible : FileName := ⟨[0xff]⟩ ++ .ofText ".ron"

def overgrown : FileTree :=
  ⟨tended.nodes ++ [(garden ++ [illegible], nettles), (garden ++ [.ofText "unknown.ron"], roses)]⟩

def before : List Provision := [.packageFolder "shop" garden, .recipes [weeds]]

def after : List Provision :=
  [.recipes [bunch], .catalogFolder [.ofText "field"], .catalogFolder garden]

def tulipsForRoses : Provision := .catalog "roses" ⟨[tulip]⟩

def tulips : Provision := .catalogs (.ofPairs [("tulips", ⟨[tulip]⟩)])

def provisions : List Provision := before ++ tulipsForRoses :: tulips :: after

/-- What is assembled. -/
def engine (tree : FileTree) : Engine := (Engine.assemble tree provisions).toOption.getD {}

def request : Request := { locale := "en" }

def texts (catalog : Catalog) : List (List (String × String)) :=
  catalog.items.map (·.text.entries)

theorem assembled {tree : FileTree}
    (h : (Engine.assemble tree provisions).toOption.isSome = true) :
    Engine.assemble tree provisions = .ok (engine tree) := by
  unfold engine
  cases hassemble : Engine.assemble tree provisions with
  | ok engine => rfl
  | error e =>
      rw [hassemble] at h
      cases h

theorem roses_from_garden : Engine.assemble overgrown provisions = .ok (engine overgrown) ∧
    (overgrown.providedCatalog provisions "roses"
        = .ok ((engine overgrown).catalogs.get? "roses") ∧
      ((engine overgrown).catalogs.get? "roses").map texts = some [[("en", "rose")]]) ∧
    (overgrown.providedCatalog provisions "tulips"
        = .ok ((engine overgrown).catalogs.get? "tulips") ∧
      ((engine overgrown).catalogs.get? "tulips").map texts = some [[("en", "tulip")]]) ∧
    (overgrown.providedCatalog provisions "unknown"
        = .ok ((engine overgrown).catalogs.get? "unknown") ∧
      overgrown.CountsFor "unknown" garden illegible ∧
      ((engine overgrown).catalogs.get? "unknown").map texts = some [[("en", "nettle")]]) ∧
    (overgrown.providedPackaged provisions "shop" "roses"
        = .ok ((engine overgrown).packaged? "shop" "roses") ∧
      ((engine overgrown).packaged? "shop" "roses").map texts = some [[("en", "rose")]]) ∧
    (overgrown.providedRecipe provisions "bunch"
        = .ok ((engine overgrown).recipes.get? "bunch") ∧
      ((engine overgrown).generate "bunch" request).toOption.map (·.text) = some "rose") ∧
    (overgrown.providedRules provisions "en" = .ok ((engine overgrown).rules.locales.get? "en") ∧
      (engine overgrown).rules.locales.get? "en" = none) ∧
    tulipsForRoses.given? = some (.catalogs (.ofPairs [("roses", ⟨[tulip]⟩)])) ∧
    tulips.given? = some (.catalogs (.ofPairs [("tulips", ⟨[tulip]⟩)])) ∧
    Engine.assemble overgrown (before ++ tulips :: tulipsForRoses :: after)
      = .ok (engine overgrown) := by
  have hassembled := @assembled overgrown (by decide +kernel)
  obtain ⟨hcatalogs, hpackaged, hrecipes, hrules, hfile, hswap⟩ :=
    Engine.contents_of_assemble overgrown provisions (engine overgrown) hassembled
  have hunknown : overgrown.catalogFile? "unknown" garden = some (garden ++ [illegible]) := by
    decide +kernel
  obtain ⟨name, hcounts, hname⟩ := (hfile _ _ _).mp hunknown
  obtain rfl : illegible = name := List.head_eq_of_cons_eq (List.append_cancel_left hname)
  refine ⟨hassembled, ⟨hcatalogs "roses", ?_⟩, ⟨hcatalogs "tulips", ?_⟩,
    ⟨hcatalogs "unknown", hcounts, ?_⟩, ⟨hpackaged "shop" "roses", ?_⟩, ⟨hrecipes "bunch", ?_⟩,
    ⟨hrules "en", ?_⟩, rfl, rfl,
    hswap before tulipsForRoses tulips after _ _ rfl rfl rfl (by decide)⟩
  all_goals decide +kernel

/-- The file `.ron` holds a catalog and lies in the last directory of catalogs, but no catalog is
found under the empty key that would go with it. And though `unknown.ron` holds roses, it is the
nettles of the illegible name that are found under `unknown`. -/
theorem nameless_and_illegible_files :
    (Engine.assemble tended provisions = .ok (engine tended) ∧
      (provisions.filterMap (·.catalogPlace?)).getLast? = some garden ∧
      tended.list? garden = some [.ofText ("" ++ ".ron"), .ofText "roses.ron"] ∧
      (tended.readData Notation.catalog (garden ++ [.ofText ("" ++ ".ron")])).toOption.map texts
        = some [[("en", "rose")]] ∧
      (engine tended).catalogs.get? "" = none ∧
      ((engine tended).generate "weeds" request).toOption.isNone = true) ∧
    Engine.assemble overgrown provisions = .ok (engine overgrown) ∧
      (overgrown.readData Notation.catalog (garden ++ [.ofText ("unknown" ++ ".ron")])).toOption.map
        texts = some [[("en", "rose")]] ∧
      ((engine overgrown).catalogs.get? "unknown").map texts = some [[("en", "nettle")]] := by
  refine ⟨⟨assembled (by decide +kernel), rfl, ?_, ?_, ?_, ?_⟩,
    assembled (by decide +kernel), ?_, ?_⟩
  all_goals decide +kernel

end Garden

end TextRecipes
