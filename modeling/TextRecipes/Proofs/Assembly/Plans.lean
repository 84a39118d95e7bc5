import TextRecipes.Assembly

/-!
# What provisions put into a plan

A plan is put together one provision after the other, and each part of it follows one of two rules:
the last provision that has something for a place replaces what was there (`Plan.foldl_or`), or what
the provisions have is put in a row (`Plan.foldl_append`). So for every catalog, package, recipe and
locale it can be said which provision the plan has it from.

Data given directly fill slots of their own: a catalog under a key, one of a package, a recipe, the
rules of a locale. Provisions that fill different slots may change places (`Plan.add_comm`).
-/

namespace TextRecipes

/-! ## What a provision has -/

namespace Provision

/-- The catalog that is given directly under a key. -/
def givenCatalog? (key : String) : Provision → Option Catalog
  | .catalog key' given => if key = key' then some given else none
  | .catalogs given => given.get? key
  | _ => none

/-- The catalog of a package that is given directly under a key. -/
def givenPackaged? (package key : String) : Provision → Option Catalog
  | .package name given => if package = name then given.get? key else none
  | _ => none

def givenRecipes : Provision → List Recipe
  | .recipes given => given
  | _ => []

/-- The rules that are given directly for a locale. -/
def givenRules? (locale : String) : Provision → Option Language.LocaleRules
  | .rules given => given.locales.get? locale
  | _ => none

def catalogPlace? : Provision → Option Path
  | .catalogFolder path => some path
  | _ => none

/-- The places of catalogs of packages, with the names of the packages. -/
def packagePlaces : Provision → List (String × Path)
  | .packageFolder name path => [(name, path)]
  | _ => []

def recipePlace? : Provision → Option Path
  | .recipeFile path => some path
  | _ => none

def rulesPlace? : Provision → Option Path
  | .rulesFile path => some path
  | _ => none

end Provision

/-- The catalog of a package under a key. -/
def Engine.packaged? (engine : Engine) (package key : String) : Option Catalog :=
  (engine.packages.get? package).bind (·.get? key)

/-! ## Look-ups after an addition -/

namespace Engine

variable (engine : Engine)

/-- Further catalogs of a package replace those that it had under the same keys. -/
theorem packaged?_addPackage (name package key : String) (catalogs : Catalogs) :
    (engine.addPackage name catalogs).packaged? package key
      = (if package = name then catalogs.get? key else none).or (engine.packaged? package key) := by
  unfold packaged? addPackage
  rw [NameMap.get?_insert]
  split
  · next hname =>
      subst hname
      rw [Option.bind_some, NameMap.get?_extend]
      -- a package without catalogs so far has none under the key
      cases engine.packages.get? package <;> rfl
  · exact Option.none_or.symm

theorem rules_addRules (rules : Language.Rules) (locale : String) :
    (engine.addRules rules).rules.locales.get? locale
      = (rules.locales.get? locale).or (engine.rules.locales.get? locale) :=
  NameMap.get?_extend engine.rules.locales rules.locales locale

theorem catalogs_addCatalogs (catalogs : Catalogs) (key : String) :
    (engine.addCatalogs catalogs).catalogs.get? key
      = (catalogs.get? key).or (engine.catalogs.get? key) :=
  NameMap.get?_extend engine.catalogs catalogs key

end Engine

/-! ## The plan of some provisions -/

namespace Plan

variable {β : Type} {plan : Plan}

/-- Where every provision replaces what was there, the last one that has something counts. -/
theorem foldl_or (view : Plan → Option β) (gives : Provision → Option β)
    (hadd : ∀ plan provision, view (plan.add provision) = (gives provision).or (view plan))
    (plan : Plan) (provisions : List Provision) :
    view (provisions.foldl add plan)
      = (provisions.filterMap gives).getLast?.or (view plan) := by
  induction provisions generalizing plan with
  | nil => rfl
  | cons provision rest ih =>
      rw [List.foldl_cons, ih, hadd]
      cases hgives : gives provision with
      | none => rw [List.filterMap_cons_none hgives, Option.none_or]
      | some b =>
          -- this one counts just if no later one has something
          rw [List.filterMap_cons_some hgives, List.getLast?_cons, Option.some_or]
          cases (rest.filterMap gives).getLast? <;> rfl

/-- Of all provisions that have something for a place, the last one counts. -/
theorem ofProvisions_or (view : Plan → Option β) (gives : Provision → Option β)
    (hadd : ∀ plan provision, view (plan.add provision) = (gives provision).or (view plan))
    (hempty : view {} = none) (provisions : List Provision) :
    view (ofProvisions provisions) = (provisions.filterMap gives).getLast? := by
  rw [ofProvisions, foldl_or view gives hadd, hempty, Option.or_none]

/-- Where every provision adds at the end, all that they have is there in a row. -/
theorem foldl_append (view : Plan → List β) (gives : Provision → List β)
    (hadd : ∀ plan provision, view (plan.add provision) = view plan ++ gives provision)
    (plan : Plan) (provisions : List Provision) :
    view (provisions.foldl add plan) = view plan ++ provisions.flatMap gives := by
  induction provisions generalizing plan with
  | nil => exact (List.append_nil _).symm
  | cons provision rest ih =>
      rw [List.foldl_cons, ih, hadd, List.flatMap_cons, List.append_assoc]

/-- A provision of catalogs replaces those of its keys. -/
theorem catalogs_add (plan : Plan) (provision : Provision) (key : String) :
    (plan.add provision).given.catalogs.get? key
      = (provision.givenCatalog? key).or (plan.given.catalogs.get? key) := by
  cases provision with
  | catalog key' catalog =>
      refine (plan.given.catalogs_addCatalogs _ key).trans (congrArg (Option.or · _) ?_)
      exact NameMap.get?_insert .empty key' key catalog
  | catalogs catalogs => exact plan.given.catalogs_addCatalogs catalogs key
  | _ => rfl

theorem packaged?_add (plan : Plan) (provision : Provision) (package key : String) :
    (plan.add provision).given.packaged? package key
      = (provision.givenPackaged? package key).or (plan.given.packaged? package key) := by
  cases provision with
  | package name catalogs => exact plan.given.packaged?_addPackage name package key catalogs
  | _ => rfl

theorem rules_add (plan : Plan) (provision : Provision) (locale : String) :
    (plan.add provision).given.rules.locales.get? locale
      = (provision.givenRules? locale).or (plan.given.rules.locales.get? locale) := by
  cases provision with
  | rules rules => exact plan.given.rules_addRules rules locale
  | _ => rfl

variable (provisions : List Provision)

theorem catalogs_ofProvisions (key : String) :
    (ofProvisions provisions).given.catalogs.get? key
      = (provisions.filterMap (·.givenCatalog? key)).getLast? :=
  ofProvisions_or (·.given.catalogs.get? key) (·.givenCatalog? key) (catalogs_add · · key) rfl
    provisions

theorem packaged?_ofProvisions (package key : String) :
    (ofProvisions provisions).given.packaged? package key
      = (provisions.filterMap (·.givenPackaged? package key)).getLast? :=
  ofProvisions_or (·.given.packaged? package key) (·.givenPackaged? package key)
    (packaged?_add · · package key) rfl provisions

theorem rules_ofProvisions (locale : String) :
    (ofProvisions provisions).given.rules.locales.get? locale
      = (provisions.filterMap (·.givenRules? locale)).getLast? :=
  ofProvisions_or (·.given.rules.locales.get? locale) (·.givenRules? locale) (rules_add · · locale)
    rfl provisions

/-! ### Places -/

/-- Of all directories of catalogs the one that is named last counts. -/
theorem catalogFolder_ofProvisions :
    (ofProvisions provisions).catalogFolder
      = (provisions.filterMap (·.catalogPlace?)).getLast? :=
  ofProvisions_or (·.catalogFolder) (·.catalogPlace?)
    (fun _ provision => by cases provision <;> rfl) rfl provisions

theorem recipeFile_ofProvisions :
    (ofProvisions provisions).recipeFile = (provisions.filterMap (·.recipePlace?)).getLast? :=
  ofProvisions_or (·.recipeFile) (·.recipePlace?)
    (fun _ provision => by cases provision <;> rfl) rfl provisions

theorem rulesFile_ofProvisions :
    (ofProvisions provisions).rulesFile = (provisions.filterMap (·.rulesPlace?)).getLast? :=
  ofProvisions_or (·.rulesFile) (·.rulesPlace?)
    (fun _ provision => by cases provision <;> rfl) rfl provisions

/-- The directories of packages are all kept, in their order. -/
theorem packageFolders_ofProvisions :
    (ofProvisions provisions).packageFolders = provisions.flatMap (·.packagePlaces) :=
  foldl_append (·.packageFolders) (·.packagePlaces)
    (fun plan provision => by cases provision <;> simp [add, Provision.packagePlaces]) {} provisions

/-! ### Recipes -/

/-- The recipes are put in one after the other. -/
theorem recipes_foldl_add (plan : Plan) :
    (provisions.foldl add plan).given.recipes
      = plan.given.recipes.insertAll
          ((provisions.flatMap (·.givenRecipes)).map fun r => (r.id, r)) := by
  induction provisions generalizing plan with
  | nil => rfl
  | cons provision rest ih =>
      have hadd : (plan.add provision).given.recipes
          = plan.given.recipes.insertAll (provision.givenRecipes.map fun r => (r.id, r)) := by
        cases provision <;> rfl
      rw [List.foldl_cons, ih, hadd, List.flatMap_cons, List.map_append, NameMap.insertAll_append]

end Plan

/-! ## Order -/

/-- Data that are given directly. A single catalog is given as a map of one. -/
inductive Given where
  | catalogs (catalogs : Catalogs)
  | package (name : String) (catalogs : Catalogs)
  | recipes (recipes : List Recipe)
  | rules (rules : Language.Rules)

/-- What data can be given for. -/
inductive Slot where
  | catalog (key : String)
  | packaged (package key : String)
  | recipe (id : String)
  | rules (locale : String)
deriving DecidableEq

namespace Given

def slots : Given → List Slot
  | .catalogs given => given.keys.map .catalog
  | .package name given => given.keys.map (.packaged name)
  | .recipes given => given.map (.recipe ·.id)
  | .rules given => given.locales.keys.map .rules

/-- The data fill no slot that the other data fill. -/
def Apart (a b : Given) : Prop := ∀ slot ∈ a.slots, slot ∉ b.slots

instance (a b : Given) : Decidable (a.Apart b) :=
  inferInstanceAs (Decidable (∀ slot ∈ a.slots, slot ∉ b.slots))

def addTo (engine : Engine) : Given → Engine
  | .catalogs given => engine.addCatalogs given
  | .package name given => engine.addPackage name given
  | .recipes given => engine.addRecipes given
  | .rules given => engine.addRules given

end Given

/-- The data of a provision that gives some. -/
def Provision.given? : Provision → Option Given
  | .catalog key given => some (.catalogs (.ofPairs [(key, given)]))
  | .catalogs given => some (.catalogs given)
  | .package name given => some (.package name given)
  | .recipes given => some (.recipes given)
  | .rules given => some (.rules given)
  | _ => none

/-- What a provision of data does to a plan, it does to the engine of data in it. -/
theorem Plan.add_of_given {provision : Provision} {given : Given}
    (h : provision.given? = some given) (plan : Plan) :
    plan.add provision = { plan with given := given.addTo plan.given } := by
  cases provision <;> cases h <;> rfl

/-- Catalogs of packages may be given in either order, if none is given twice. -/
theorem Engine.addPackage_comm (engine : Engine) {name name' : String} {first second : Catalogs}
    (h : name = name' → ∀ key ∈ first.keys, key ∉ second.keys) :
    (engine.addPackage name first).addPackage name' second
      = (engine.addPackage name' second).addPackage name first := by
  unfold addPackage
  by_cases hname : name = name'
  · subst hname
    -- both orders put the same catalogs in place of those of the package
    simp only [NameMap.get?_insert, if_pos, Option.getD_some, NameMap.insert_insert,
      NameMap.extend_comm _ (h rfl)]
  · simp only [NameMap.get?_insert, if_neg hname, if_neg (Ne.symm hname),
      NameMap.insert_comm _ _ _ hname]

/-- Recipes with different ids may be given in either order. -/
theorem Engine.addRecipes_comm (engine : Engine) {first second : List Recipe}
    (h : ∀ r ∈ first, ∀ r' ∈ second, r.id ≠ r'.id) :
    (engine.addRecipes first).addRecipes second = (engine.addRecipes second).addRecipes first := by
  have hids : ∀ p ∈ first.map (fun r => (r.id, r)), ∀ q ∈ second.map (fun r => (r.id, r)),
      p.1 ≠ q.1 := by
    intro p hp q hq
    obtain ⟨r, hr, rfl⟩ := List.mem_map.mp hp
    obtain ⟨r', hr', rfl⟩ := List.mem_map.mp hq
    exact h r hr r' hr'
  simp only [addRecipes, NameMap.insertAll_comm _ hids]

/-- Data for different slots may be given in either order. -/
theorem Given.addTo_comm {a b : Given} (h : a.Apart b) (engine : Engine) :
    b.addTo (a.addTo engine) = a.addTo (b.addTo engine) := by
  cases a with
  | catalogs first =>
      cases b with
      | catalogs second =>
          have hkeys : ∀ key ∈ first.keys, key ∉ second.keys := fun key hfirst hsecond =>
            h (.catalog key) (List.mem_map_of_mem hfirst) (List.mem_map_of_mem hsecond)
          simp only [addTo, Engine.addCatalogs, NameMap.extend_comm _ hkeys]
      | _ => rfl
  | package name first =>
      cases b with
      | package name' second =>
          refine engine.addPackage_comm fun hname key hfirst hsecond => ?_
          subst hname
          exact h (.packaged name key) (List.mem_map_of_mem hfirst) (List.mem_map_of_mem hsecond)
      | _ => rfl
  | recipes first =>
      cases b with
      | recipes second =>
          refine engine.addRecipes_comm fun r hfirst r' hsecond hid => ?_
          have hslot : Slot.recipe r.id ∈ (recipes second).slots :=
            hid ▸ List.mem_map_of_mem hsecond
          exact h (.recipe r.id) (List.mem_map_of_mem hfirst) hslot
      | _ => rfl
  | rules first =>
      cases b with
      | rules second =>
          have hkeys : ∀ key ∈ first.locales.keys, key ∉ second.locales.keys :=
            fun key hfirst hsecond =>
              h (.rules key) (List.mem_map_of_mem hfirst) (List.mem_map_of_mem hsecond)
          simp only [addTo, Engine.addRules, Language.Rules.merge, NameMap.extend_comm _ hkeys]
      | _ => rfl

/-- **Provisions of data for different slots may change places.** -/
theorem Plan.ofProvisions_swap {first second : Provision} {a b : Given}
    (hfirst : first.given? = some a) (hsecond : second.given? = some b) (h : a.Apart b)
    (before after : List Provision) :
    ofProvisions (before ++ first :: second :: after)
      = ofProvisions (before ++ second :: first :: after) := by
  have hswap : ∀ plan : Plan, (plan.add first).add second = (plan.add second).add first := by
    intro plan
    simp only [add_of_given hfirst, add_of_given hsecond, Given.addTo_comm h]
  simp only [ofProvisions, List.foldl_append, List.foldl_cons, hswap]

end TextRecipes
