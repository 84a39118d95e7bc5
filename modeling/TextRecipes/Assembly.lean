import TextRecipes.Engine
import TextRecipes.FileTree
import TextRecipes.Notation.Library

/-!
# Assembling an engine

An engine is made of provisions: data given directly, and places where data files may lie. Data
given directly is put together in the order in which it is given. Files come after that: the
directory of catalogs, the directories of packages, and the files of recipes, collections and
language rules. Whatever comes later replaces what was there under the same name. Only the
collections are all kept, one after the other.

A package may have several directories, which are read in the order in which they are named. Of
each other sort of place the one named last counts. A place where nothing lies is passed over.

In a directory, the files whose names end in `.ron` are read in the order of their names. The key of
a catalog is the name of its file without the ending. If that is no text the key is `unknown`.
-/

namespace TextRecipes

/-- One statement about what an engine is made of. -/
inductive Provision where
  | catalog (key : String) (catalog : Catalog)
  | catalogs (catalogs : Catalogs)
  /-- Further catalogs of a package. -/
  | package (name : String) (catalogs : Catalogs)
  | recipes (recipes : List Recipe)
  | collections (collections : List Collection)
  | rules (rules : Language.Rules)
  | maxDepth (limit : Nat)
  /-- A directory with a data file for each catalog. -/
  | catalogFolder (path : Path)
  /-- A directory with a data file for each catalog of a package. -/
  | packageFolder (name : String) (path : Path)
  | recipeFile (path : Path)
  | collectionFile (path : Path)
  | rulesFile (path : Path)
deriving Inhabited

/-- Why an engine cannot be assembled. -/
inductive AssemblyError where
  /-- There is no text to read at the path. -/
  | unreadable (path : Path)
  /-- What should be a directory is none. -/
  | noDirectory (path : Path)
  /-- The text of a data file has a fault. -/
  | faulty (fault : Notation.Fault)
deriving DecidableEq, Inhabited

/-! ## Adding data to an engine -/

namespace Engine

def addCatalogs (engine : Engine) (catalogs : Catalogs) : Engine :=
  { engine with catalogs := engine.catalogs.extend catalogs }

def addPackage (engine : Engine) (name : String) (catalogs : Catalogs) : Engine :=
  let known := (engine.packages.get? name).getD .empty
  { engine with packages := engine.packages.insert name (known.extend catalogs) }

def addRecipes (engine : Engine) (recipes : List Recipe) : Engine :=
  { engine with recipes := engine.recipes.insertAll (recipes.map fun r => (r.id, r)) }

def addCollections (engine : Engine) (collections : List Collection) : Engine :=
  { engine with collections := engine.collections ++ collections }

def addRules (engine : Engine) (rules : Language.Rules) : Engine :=
  { engine with rules := engine.rules.merge rules }

end Engine

/-! ## Plans -/

/-- What provisions come to: an engine with the data given directly, and the places of the
files. -/
structure Plan where
  given : Engine := {}
  catalogFolder : Option Path := none
  /-- The directories of packages, in order. -/
  packageFolders : List (String × Path) := []
  recipeFile : Option Path := none
  collectionFile : Option Path := none
  rulesFile : Option Path := none
deriving Inhabited

namespace Plan

def add (plan : Plan) : Provision → Plan
  | .catalog key catalog =>
    { plan with given := plan.given.addCatalogs (.ofPairs [(key, catalog)]) }
  | .catalogs catalogs => { plan with given := plan.given.addCatalogs catalogs }
  | .package name catalogs => { plan with given := plan.given.addPackage name catalogs }
  | .recipes recipes => { plan with given := plan.given.addRecipes recipes }
  | .collections collections => { plan with given := plan.given.addCollections collections }
  | .rules rules => { plan with given := plan.given.addRules rules }
  | .maxDepth limit => { plan with given := { plan.given with maxDepth := some limit } }
  | .catalogFolder path => { plan with catalogFolder := some path }
  | .packageFolder name path =>
    { plan with packageFolders := plan.packageFolders ++ [(name, path)] }
  | .recipeFile path => { plan with recipeFile := some path }
  | .collectionFile path => { plan with collectionFile := some path }
  | .rulesFile path => { plan with rulesFile := some path }

def ofProvisions (provisions : List Provision) : Plan := provisions.foldl add {}

end Plan

/-! ## Reading the files -/

namespace FileName

/-- The ending of the names of data files. -/
def ending : FileName := .ofText ".ron"

/-- What stands before the ending of a data file. There is no data file with nothing before it. -/
def stem? (name : FileName) : Option FileName :=
  if ending.bytes.isSuffixOf name.bytes && ending.bytes.length < name.bytes.length then
    some ⟨name.bytes.take (name.bytes.length - ending.bytes.length)⟩
  else none

end FileName

namespace FileTree

/-- What a data file holds. -/
def readData {α : Type} (tree : FileTree) (reader : Notation.Reader α) (path : Path) :
    Except AssemblyError α :=
  match tree.readText? path with
  | none => .error (.unreadable path)
  | some text =>
    match Notation.parse reader text with
    | .ok x => .ok x
    | .error fault => .error (.faulty fault)

/-- The key of the catalog in a file with this name, if that is the name of a data file. -/
def catalogKey? (name : FileName) : Option String :=
  name.stem?.map fun stem => stem.text?.getD "unknown"

/-- The data files of a directory, in order of their names, with the keys of their catalogs. -/
def catalogFiles (tree : FileTree) (path : Path) : Except AssemblyError (List (String × Path)) :=
  match tree.list? path with
  | none => .error (.noDirectory path)
  | some names =>
    .ok (names.filterMap fun name => (catalogKey? name).map fun key => (key, path ++ [name]))

def readCatalogs (tree : FileTree) (path : Path) : Except AssemblyError Catalogs := do
  let files ← tree.catalogFiles path
  let catalogs ← files.mapM fun file => return (file.1, ← tree.readData Notation.catalog file.2)
  return .ofPairs catalogs

/-- The engine with what `read` finds at a place added to it. A place where nothing is changes
nothing. -/
def addFrom {α : Type} (tree : FileTree) (place : Option Path)
    (read : Path → Except AssemblyError α) (put : Engine → α → Engine) (engine : Engine) :
    Except AssemblyError Engine :=
  match place with
  | none => .ok engine
  | some path => if tree.contains path then (read path).map (put engine) else .ok engine

end FileTree

/-! ## The engine of a plan -/

namespace Plan

def addPackageFolder (tree : FileTree) (engine : Engine) (folder : String × Path) :
    Except AssemblyError Engine :=
  tree.addFrom (some folder.2) tree.readCatalogs (·.addPackage folder.1) engine

def engine (plan : Plan) (tree : FileTree) : Except AssemblyError Engine := do
  let engine ← tree.addFrom plan.catalogFolder tree.readCatalogs Engine.addCatalogs plan.given
  let engine ← plan.packageFolders.foldlM (addPackageFolder tree) engine
  let engine ← tree.addFrom plan.recipeFile (tree.readData Notation.recipes)
    Engine.addRecipes engine
  let engine ← tree.addFrom plan.collectionFile (tree.readData Notation.collections)
    Engine.addCollections engine
  tree.addFrom plan.rulesFile (tree.readData Notation.languageRules) Engine.addRules engine

end Plan

/-- The engine that is assembled from provisions and the files of a tree. -/
def Engine.assemble (tree : FileTree) (provisions : List Provision) :
    Except AssemblyError Engine :=
  (Plan.ofProvisions provisions).engine tree

end TextRecipes
