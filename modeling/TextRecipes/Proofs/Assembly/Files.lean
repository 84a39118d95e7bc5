import TextRecipes.Proofs.Assembly.Plans
import TextRecipes.Proofs.Composition.Resolution

/-!
# What the files of a tree add

After the data given directly, an engine gets what lies at the places of its plan, one sort of place
after the other (`Plan.engine_eq_ok`). A place where nothing is adds nothing, and each sort changes
its own part of the engine only (`FileTree.frame_addFrom`).

The catalogs of a directory lie in the data files in it. A file is for the catalog with a key if its
name is the key with the ending (`FileName.IsFor`), and a file whose name is nothing but the ending
is no data file. Names that are no text are all for the key `unknown`, so that key is the only one
that several files of a directory can be for, and the last of them counts (`catalogFile?_eq_some`).
-/

namespace TextRecipes

theorem except_bind_eq_ok {ε α β : Type} {x : Except ε α} {f : α → Except ε β} {b : β}
    (h : (x >>= f) = .ok b) : ∃ a, x = .ok a ∧ f a = .ok b := by
  cases x with
  | error e => cases h
  | ok a => exact ⟨a, rfl, h⟩

/-! ## The names of data files -/

namespace FileName

theorem stem?_eq_some {name stem : FileName} :
    name.stem? = some stem ↔ name = stem ++ ending ∧ stem.bytes ≠ [] := by
  unfold stem?
  rw [Option.ite_none_right_eq_some, Bool.and_eq_true, List.isSuffixOf_iff_suffix,
    decide_eq_true_eq]
  constructor
  · rintro ⟨⟨⟨before, hbefore⟩, hlength⟩, hstem⟩
    rw [← hbefore, List.length_append, Nat.add_sub_cancel, List.take_left] at hstem
    cases hstem
    constructor
    · exact congrArg FileName.mk hbefore.symm
    · rintro rfl
      rw [← hbefore, List.nil_append] at hlength
      exact absurd hlength (Nat.lt_irrefl _)
  · rintro ⟨rfl, hne⟩
    have hlength : (stem ++ ending).bytes.length = stem.bytes.length + ending.bytes.length :=
      List.length_append
    have hpos : 0 < stem.bytes.length := List.length_pos_iff.mpr hne
    refine ⟨⟨⟨stem.bytes, rfl⟩, by omega⟩, ?_⟩
    rw [hlength, Nat.add_sub_cancel, bytes_append, List.take_left]

theorem ofText_inj {s t : String} : ofText s = ofText t ↔ s = t := by
  refine ⟨fun h => ?_, congrArg ofText⟩
  have htext := congrArg text? h
  rw [text?_ofText, text?_ofText] at htext
  exact Option.some.inj htext

theorem bytes_ofText_eq_nil {s : String} : (ofText s).bytes = [] ↔ s = "" := by
  constructor
  · intro h
    exact ofText_inj.mp (congrArg FileName.mk h)
  · rintro rfl
    rfl

/-- The last of names in order is the greatest. -/
theorem getLast?_eq_some_iff {names : List FileName}
    (h : names.Pairwise (· < ·)) {name : FileName} :
    names.getLast? = some name ↔ name ∈ names ∧ ∀ other ∈ names, other ≤ name := by
  constructor
  · intro hlast
    obtain ⟨before, rfl⟩ := List.getLast?_eq_some_iff.mp hlast
    obtain ⟨_, _, hbefore⟩ := List.pairwise_append.mp h
    refine ⟨List.mem_append_right _ List.mem_cons_self, fun other hother => ?_⟩
    rcases List.mem_append.mp hother with hother | hother
    · exact le_of_lt (hbefore other hother name List.mem_cons_self)
    · rw [List.mem_singleton.mp hother]
      exact List.le_refl _
  · rintro ⟨hname, hgreatest⟩
    obtain ⟨before, after, rfl⟩ := List.append_of_mem hname
    cases after with
    | nil => exact List.getLast?_concat
    | cons next rest =>
        -- what comes after the greatest name would be greater
        obtain ⟨_, hafter, _⟩ := List.pairwise_append.mp h
        have hlt : name < next := List.rel_of_pairwise_cons hafter List.mem_cons_self
        exact absurd hlt (List.not_lt.mpr (hgreatest next (by simp)))

/-- A file is for the catalog with a key if it is called after the key. What has no text before the
ending is for the catalog `unknown`. -/
inductive IsFor : String → FileName → Prop
  | named {key : String} (h : key ≠ "") : IsFor key (.ofText (key ++ ".ron"))
  | unnamed {stem : FileName} (h : stem.text? = none) : IsFor "unknown" (stem ++ .ofText ".ron")

end FileName

namespace FileTree

variable {tree : FileTree} {engine engine' : Engine}

/-! ## Places -/

/-- What `read` finds at a place, if there is a place and something lies there. -/
def foundAt {α : Type} (tree : FileTree) (read : Path → Except AssemblyError α)
    (place : Option Path) : Except AssemblyError (Option α) :=
  match place with
  | none => .ok none
  | some path => if tree.contains path then (read path).map some else .ok none

section

variable {α β : Type} {place : Option Path} {read : Path → Except AssemblyError α}
  {put : Engine → α → Engine}

theorem addFrom_eq_ok (h : tree.addFrom place read put engine = .ok engine') :
    ∃ found, tree.foundAt read place = .ok found ∧
      engine' = found.elim engine (put engine) := by
  cases place with
  | none =>
      cases h
      exact ⟨none, rfl, rfl⟩
  | some path =>
      have hfound : tree.foundAt read (some path)
          = if tree.contains path then (read path).map some else .ok none := rfl
      change (if tree.contains path then (read path).map (put engine) else .ok engine) = _ at h
      rw [hfound]
      split at h
      · next hthere =>
          obtain ⟨x, hread, rfl⟩ := except_map_eq_ok h
          refine ⟨some x, ?_, rfl⟩
          rw [if_pos hthere, hread]
          rfl
      · next hthere =>
          cases h
          exact ⟨none, if_neg hthere, rfl⟩

/-- What a place is not for, it leaves alone. -/
theorem frame_addFrom (view : Engine → β) (hput : ∀ x, view (put engine x) = view engine)
    (h : tree.addFrom place read put engine = .ok engine') : view engine' = view engine := by
  obtain ⟨found, _, rfl⟩ := addFrom_eq_ok h
  cases found with
  | none => rfl
  | some x => exact hput x

end

/-! ## Catalog files -/

theorem catalogKey?_eq_some {name : FileName} {key : String} :
    catalogKey? name = some key ↔ name.IsFor key := by
  rw [catalogKey?, Option.map_eq_some_iff]
  constructor
  · rintro ⟨stem, hstem, rfl⟩
    obtain ⟨rfl, hne⟩ := FileName.stem?_eq_some.mp hstem
    cases htext : stem.text? with
    | none => exact .unnamed htext
    | some key =>
        obtain rfl := FileName.text?_eq_some.mp htext
        have hkey : key ≠ "" := fun hempty => hne (FileName.bytes_ofText_eq_nil.mpr hempty)
        rw [Option.getD_some, FileName.ending, ← FileName.ofText_append]
        exact .named hkey
  · rintro (⟨hkey⟩ | ⟨htext⟩)
    · refine ⟨.ofText key, FileName.stem?_eq_some.mpr ⟨FileName.ofText_append key ".ron", ?_⟩, ?_⟩
      · exact fun hempty => hkey (FileName.bytes_ofText_eq_nil.mp hempty)
      · rw [FileName.text?_ofText, Option.getD_some]
    · next stem =>
        refine ⟨stem, FileName.stem?_eq_some.mpr ⟨rfl, fun hempty => ?_⟩, by rw [htext]; rfl⟩
        -- a stem without bytes is the empty text
        have hstem : stem = .ofText "" := congrArg FileName.mk hempty
        rw [hstem, FileName.text?_ofText] at htext
        cases htext

instance (key : String) (name : FileName) : Decidable (name.IsFor key) :=
  decidable_of_iff (catalogKey? name = some key) catalogKey?_eq_some

/-- The file of the catalog with a key in the directory at a path, if there is one. Of several it is
the last in the order of their names. -/
def catalogFile? (tree : FileTree) (key : String) (path : Path) : Option Path :=
  (tree.list? path).bind fun names =>
    (names.filter (·.IsFor key)).getLast?.map fun name => path ++ [name]

/-- The catalog in a file, if there is one. -/
def catalogIn (tree : FileTree) (file : Option Path) : Except AssemblyError (Option Catalog) :=
  match file with
  | none => .ok none
  | some path => (tree.readData Notation.catalog path).map some

/-- The name that counts for a key in a directory: it is there, it is for the key, and no later name
is. -/
structure CountsFor (tree : FileTree) (key : String) (path : Path) (name : FileName) : Prop where
  directory : tree.node? path = some .directory
  there : tree.contains (path ++ [name]) = true
  isFor : name.IsFor key
  last : ∀ other : FileName, tree.contains (path ++ [other]) = true → other.IsFor key →
    other ≤ name

/-- In a directory the last name for a key counts. -/
theorem catalogFile?_eq_some {key : String} {path file : Path} :
    tree.catalogFile? key path = some file ↔
      ∃ name, tree.CountsFor key path name ∧ file = path ++ [name] := by
  unfold catalogFile?
  cases hlist : tree.list? path with
  | none =>
      refine iff_of_false (by simp) ?_
      rintro ⟨name, hcounts, _⟩
      rw [list?, hcounts.directory] at hlist
      cases hlist
  | some names =>
      rw [Option.bind_some, Option.map_eq_some_iff]
      refine exists_congr fun name => and_congr ?_ eq_comm
      rw [FileName.getLast?_eq_some_iff ((pairwise_of_list? hlist).filter _)]
      constructor
      · rintro ⟨hname, hlast⟩
        obtain ⟨hthere, hfor⟩ := List.mem_filter.mp hname
        refine ⟨node?_of_list? hlist, (mem_of_list? hlist name).mp hthere,
          of_decide_eq_true hfor, fun other hother hotherFor => ?_⟩
        exact hlast other (List.mem_filter.mpr
          ⟨(mem_of_list? hlist other).mpr hother, decide_eq_true hotherFor⟩)
      · intro hcounts
        refine ⟨List.mem_filter.mpr ⟨(mem_of_list? hlist name).mpr hcounts.there,
          decide_eq_true hcounts.isFor⟩, fun other hother => ?_⟩
        obtain ⟨hthere, hfor⟩ := List.mem_filter.mp hother
        exact hcounts.last other ((mem_of_list? hlist other).mp hthere) (of_decide_eq_true hfor)

/-- The first of some names for a key has the first entry with the key. -/
theorem lookup_filterMap_catalogKey? (names : List FileName) (key : String) (path : Path) :
    (names.filterMap fun name => (catalogKey? name).map fun key => (key, path ++ [name])).lookup key
      = (names.find? (·.IsFor key)).map fun name => path ++ [name] := by
  induction names with
  | nil => rfl
  | cons name rest ih =>
      rw [List.find?_cons]
      cases hname : catalogKey? name with
      | none =>
          have hfor : ¬ name.IsFor key := fun h => by
            rw [catalogKey?_eq_some.mpr h] at hname
            cases hname
          rw [List.filterMap_cons_none (by rw [hname]; rfl), ih, decide_eq_false hfor]
      | some other =>
          rw [List.filterMap_cons_some (by rw [hname]; rfl), Entries.lookup_cons, ih]
          have hfor : name.IsFor key ↔ key = other := by
            rw [← catalogKey?_eq_some, hname, Option.some_inj, eq_comm]
          by_cases hkey : key = other
          · rw [if_pos hkey, decide_eq_true (hfor.mpr hkey)]
            rfl
          · rw [if_neg hkey, decide_eq_false (mt hfor.mp hkey)]

/-- The last of the files with a key is the one that counts. -/
theorem lookup_catalogFiles {path : Path} {files : List (String × Path)}
    (h : tree.catalogFiles path = .ok files) (key : String) :
    files.reverse.lookup key = tree.catalogFile? key path := by
  unfold catalogFiles at h
  split at h
  · cases h
  · next names hlist =>
      cases h
      rw [catalogFile?, hlist, Option.bind_some, ← List.filterMap_reverse,
        lookup_filterMap_catalogKey?, ← List.head?_reverse, ← List.filter_reverse,
        List.head?_filter]

/-- Of the catalogs that are read from some files, the one with a key is that of the last file with
the key. -/
theorem catalogIn_of_mapM {files : List (String × Path)} {entries : List (String × Catalog)}
    (h : files.mapM (fun file => return (file.1, ← tree.readData Notation.catalog file.2))
      = .ok entries) (key : String) :
    tree.catalogIn (files.reverse.lookup key) = .ok (entries.reverse.lookup key) := by
  induction files generalizing entries with
  | nil =>
      cases h
      rfl
  | cons file rest ih =>
      rw [List.mapM_cons] at h
      obtain ⟨entry, hentry, h⟩ := except_bind_eq_ok h
      obtain ⟨others, hothers, h⟩ := except_bind_eq_ok h
      cases h
      obtain ⟨catalog, hread, h⟩ := except_bind_eq_ok hentry
      cases h
      have hrest := ih hothers
      rw [List.reverse_cons, List.lookup_append, List.reverse_cons, List.lookup_append]
      cases hfile : rest.reverse.lookup key with
      | some later =>
          -- a later file has the key, so its catalog stays
          rw [hfile] at hrest
          obtain ⟨catalog', _, hcatalog⟩ := except_map_eq_ok hrest
          rw [Option.some_or, ← hcatalog, Option.some_or, hrest, hcatalog]
      | none =>
          rw [hfile] at hrest
          rw [Option.none_or, ← Except.ok.inj hrest, Option.none_or, Entries.lookup_cons,
            Entries.lookup_cons]
          split
          · rw [catalogIn, hread]
            rfl
          · rfl

/-- **A directory has the catalogs of its data files**, and no others. -/
theorem catalogIn_readCatalogs {path : Path} {catalogs : Catalogs}
    (h : tree.readCatalogs path = .ok catalogs) (key : String) :
    tree.catalogIn (tree.catalogFile? key path) = .ok (catalogs.get? key) := by
  unfold readCatalogs at h
  obtain ⟨files, hfiles, h⟩ := except_bind_eq_ok h
  obtain ⟨entries, hentries, h⟩ := except_bind_eq_ok h
  cases h
  rw [← lookup_catalogFiles hfiles, NameMap.get?_ofPairs]
  exact catalogIn_of_mapM hentries key

theorem catalogFile?_of_not_contains {path : Path} (h : tree.contains path = false) (key : String) :
    tree.catalogFile? key path = none := by
  have hnode : tree.node? path = none := by simpa [contains] using h
  simp [catalogFile?, list?, hnode]

/-- What is found at a place of catalogs has the catalogs of the files that lie there. -/
theorem catalogIn_foundAt {place : Option Path} {found : Option Catalogs}
    (h : tree.foundAt tree.readCatalogs place = .ok found) (key : String) :
    tree.catalogIn (place.bind (tree.catalogFile? key)) = .ok (found.bind (·.get? key)) := by
  unfold foundAt at h
  split at h
  · cases h
    rfl
  · rw [Option.bind_some]
    split at h
    · obtain ⟨catalogs, hread, rfl⟩ := except_map_eq_ok h
      exact catalogIn_readCatalogs hread key
    · next hthere =>
        cases h
        rw [catalogFile?_of_not_contains (by simpa using hthere)]
        rfl

theorem catalogs_addFrom {place : Option Path}
    (h : tree.addFrom place tree.readCatalogs Engine.addCatalogs engine = .ok engine')
    (key : String) :
    (tree.catalogIn (place.bind (tree.catalogFile? key))).map (·.or (engine.catalogs.get? key))
      = .ok (engine'.catalogs.get? key) := by
  obtain ⟨found, hfound, rfl⟩ := addFrom_eq_ok h
  rw [catalogIn_foundAt hfound]
  cases found with
  | none => rfl
  | some catalogs => exact congrArg Except.ok (engine.catalogs_addCatalogs catalogs key).symm

/-! ## Packages -/

/-- The file that a directory of some package has for the catalog of `package` with the key `key`:
none, if the directory is one of another package. -/
def packageFile? (tree : FileTree) (package key : String) (folder : String × Path) : Option Path :=
  if package = folder.1 then tree.catalogFile? key folder.2 else none

/-- A catalog that is read from a file counts. -/
theorem catalogIn_map_or_of_some {file : Path} (known known' : Option Catalog) :
    (tree.catalogIn (some file)).map (·.or known)
      = (tree.catalogIn (some file)).map (·.or known') := by
  dsimp only [catalogIn]
  cases tree.readData Notation.catalog file <;> rfl

theorem packaged?_addPackageFolder {folder : String × Path}
    (h : Plan.addPackageFolder tree engine folder = .ok engine') (package key : String) :
    (tree.catalogIn (tree.packageFile? package key folder)).map
        (·.or (engine.packaged? package key))
      = .ok (engine'.packaged? package key) := by
  obtain ⟨found, hfound, rfl⟩ := addFrom_eq_ok h
  have hfile : tree.catalogIn (tree.catalogFile? key folder.2) = .ok (found.bind (·.get? key)) :=
    catalogIn_foundAt hfound key
  unfold packageFile?
  cases found with
  | none =>
      split
      · rw [hfile]
        rfl
      · rfl
  | some catalogs =>
      rw [Option.elim_some, Engine.packaged?_addPackage]
      split
      · rw [hfile]
        rfl
      · rfl

/-- **Of the directories of a package the last that has a catalog counts.** -/
theorem packaged?_of_packageFolders {folders : List (String × Path)}
    (h : folders.foldlM (Plan.addPackageFolder tree) engine = .ok engine')
    (package key : String) :
    (tree.catalogIn (folders.filterMap (tree.packageFile? package key)).getLast?).map
        (·.or (engine.packaged? package key))
      = .ok (engine'.packaged? package key) := by
  induction folders generalizing engine with
  | nil =>
      cases h
      rfl
  | cons folder rest ih =>
      rw [List.foldlM_cons] at h
      obtain ⟨next, hfolder, hrest⟩ := except_bind_eq_ok h
      have hnext := packaged?_addPackageFolder hfolder package key
      have hlater := ih hrest
      cases hfile : tree.packageFile? package key folder with
      | none =>
          rw [hfile] at hnext
          rw [List.filterMap_cons_none hfile, ← hlater, ← Except.ok.inj hnext]
          rfl
      | some file =>
          rw [List.filterMap_cons_some hfile, List.getLast?_cons]
          cases hlast : (rest.filterMap (tree.packageFile? package key)).getLast? with
          | none =>
              -- no later directory has the catalog, so the one of this directory stays
              rw [hlast] at hlater
              rw [hfile] at hnext
              exact hnext.trans hlater
          | some last =>
              rw [hlast] at hlater
              exact (catalogIn_map_or_of_some _ _).trans hlater

theorem frame_packageFolders {β : Type} {folders : List (String × Path)} (view : Engine → β)
    (hput : ∀ engine name catalogs, view (Engine.addPackage engine name catalogs) = view engine)
    (h : folders.foldlM (Plan.addPackageFolder tree) engine = .ok engine') :
    view engine' = view engine := by
  induction folders generalizing engine with
  | nil =>
      cases h
      rfl
  | cons folder rest ih =>
      rw [List.foldlM_cons] at h
      obtain ⟨next, hfolder, hrest⟩ := except_bind_eq_ok h
      have hnext : view next = view engine := frame_addFrom view (hput engine folder.1) hfolder
      exact (ih hrest).trans hnext

end FileTree

/-! ## All files of a plan -/

/-- The engines between the five sorts of files of a plan. -/
structure Plan.Stages (plan : Plan) (tree : FileTree) (engine : Engine) where
  withCatalogs : Engine
  withPackages : Engine
  withRecipes : Engine
  withCollections : Engine
  catalogs : tree.addFrom plan.catalogFolder tree.readCatalogs Engine.addCatalogs plan.given
    = .ok withCatalogs
  packages : plan.packageFolders.foldlM (addPackageFolder tree) withCatalogs = .ok withPackages
  recipes : tree.addFrom plan.recipeFile (tree.readData Notation.recipes) Engine.addRecipes
    withPackages = .ok withRecipes
  collections : tree.addFrom plan.collectionFile (tree.readData Notation.collections)
    Engine.addCollections withRecipes = .ok withCollections
  rules : tree.addFrom plan.rulesFile (tree.readData Notation.languageRules) Engine.addRules
    withCollections = .ok engine

theorem Plan.engine_eq_ok {plan : Plan} {tree : FileTree} {engine : Engine}
    (h : plan.engine tree = .ok engine) : Nonempty (plan.Stages tree engine) := by
  unfold Plan.engine at h
  obtain ⟨withCatalogs, hcatalogs, h⟩ := except_bind_eq_ok h
  obtain ⟨withPackages, hpackages, h⟩ := except_bind_eq_ok h
  obtain ⟨withRecipes, hrecipes, h⟩ := except_bind_eq_ok h
  obtain ⟨withCollections, hcollections, hrules⟩ := except_bind_eq_ok h
  exact ⟨⟨_, _, _, _, hcatalogs, hpackages, hrecipes, hcollections, hrules⟩⟩

end TextRecipes
