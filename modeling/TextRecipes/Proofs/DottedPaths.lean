import TextRecipes.Gram

/-!
# Dotted paths

A dotted path is read as the names between its points, and it is the only way to write these names
(`pathNames_eq_iff`): points may stand next to each other or at the ends of the path, with empty
names between them. Following the names is entering one value after the other (`enter`), and only
tables can be entered. So a path leads to what its names lead to (`LeadsTo`), and a longer path
leads on from where its first part has led, if that is a table (`paths_compose`).
-/

namespace TextRecipes

namespace Gram

variable {entries : GramTable} {path : String} {names : List String} {value : Gram}

/-- A list of names leads through tables to a value. -/
inductive LeadsTo : GramTable → List String → Gram → Prop
  | here {entries : GramTable} {name : String} {value : Gram}
      (h : entries.lookup name = some value) : LeadsTo entries [name] value
  | inside {entries inner : GramTable} {name : String} {rest : List String} {value : Gram}
      (h : entries.lookup name = some (.table inner)) (hrest : LeadsTo inner rest value) :
      LeadsTo entries (name :: rest) value

/-! ## The names of a path -/

/-- What stands between separators holds none of them. -/
theorem not_mem_of_mem_splitOn {sep : Char} {chars piece : List Char}
    (h : piece ∈ chars.splitOn sep) : sep ∉ piece := by
  induction chars generalizing piece with
  | nil =>
      rw [List.splitOn_nil, List.mem_singleton] at h
      rw [h]
      exact List.not_mem_nil
  | cons c rest ih =>
      rw [List.splitOn_cons_eq_if_modifyHead] at h
      split at h
      · rcases List.mem_cons.mp h with rfl | h
        · exact List.not_mem_nil
        · exact ih h
      · next hc =>
          obtain ⟨first, others, hsplit⟩ := List.exists_cons_of_ne_nil (List.splitOn_ne_nil sep rest)
          rw [hsplit, List.modifyHead_cons] at h
          rw [hsplit] at ih
          rcases List.mem_cons.mp h with rfl | h
          · have hne : sep ≠ c := fun heq => hc (by simp [heq])
            exact List.not_mem_cons_of_ne_of_not_mem hne (ih List.mem_cons_self)
          · exact ih (List.mem_cons_of_mem first h)

theorem pathNames_ne_nil (path : String) : pathNames path ≠ [] := by
  simp [pathNames, List.splitOn_ne_nil]

theorem map_toList_pathNames (path : String) :
    (pathNames path).map String.toList = path.toList.splitOn '.' := by
  simp [pathNames, Function.comp_def]

/-- The names of a path are those names without points that make up the path. -/
theorem pathNames_eq_iff :
    pathNames path = names ↔
      names ≠ [] ∧ (∀ name ∈ names, '.' ∉ name.toList) ∧ ".".intercalate names = path := by
  constructor
  · rintro rfl
    refine ⟨pathNames_ne_nil path, fun name hname => ?_, ?_⟩
    · have hpiece : name.toList ∈ path.toList.splitOn '.' := by
        rw [← map_toList_pathNames]
        exact List.mem_map_of_mem hname
      exact not_mem_of_mem_splitOn hpiece
    · apply String.toList_injective
      rw [String.toList_intercalate, map_toList_pathNames]
      exact List.intercalate_splitOn '.'
  · rintro ⟨hne, hplain, rfl⟩
    have hsplit : (".".intercalate names).toList.splitOn '.' = names.map String.toList := by
      rw [String.toList_intercalate]
      refine List.splitOn_intercalate '.' ?_ (by simpa using hne)
      intro chars hchars
      obtain ⟨name, hname, rfl⟩ := List.mem_map.mp hchars
      exact hplain name hname
    rw [pathNames, hsplit]
    simp [Function.comp_def]

/-- A point between two paths sets their names apart. -/
theorem pathNames_append (path rest : String) :
    pathNames (path ++ "." ++ rest) = pathNames path ++ pathNames rest := by
  have hchars : (path ++ "." ++ rest).toList = path.toList ++ '.' :: rest.toList := by simp
  rw [pathNames, hchars, List.splitOn_append_cons_self, List.map_append]
  rfl

/-! ## Following names -/

/-- The value under a name inside a value. Only tables have anything inside. -/
def enter : Gram → String → Option Gram
  | table inner, name => inner.lookup name
  | _, _ => none

/-- Names are followed by entering one value after the other. -/
theorem follow_eq_foldlM (entries : GramTable) (hne : names ≠ []) :
    follow entries names = names.foldlM enter (table entries) := by
  induction names generalizing entries with
  | nil => exact absurd rfl hne
  | cons name rest ih =>
      rw [List.foldlM_cons, enter]
      cases rest with
      | nil => simp [follow]
      | cons next rest =>
          rw [follow]
          · cases entries.lookup name with
            | none => rfl
            | some found =>
                -- another name follows, so only a table leads on
                cases found with
                | table inner => exact ih inner (List.cons_ne_nil next rest)
                | _ => rfl
          · exact List.cons_ne_nil next rest

/-- What lies further inside a value is found if the value is a table. -/
theorem foldlM_enter (value : Gram) (hne : names ≠ []) :
    names.foldlM enter value =
      match value with
      | table inner => follow inner names
      | _ => none := by
  cases value with
  | table inner => exact (follow_eq_foldlM inner hne).symm
  | _ =>
      obtain ⟨name, rest, rfl⟩ := List.exists_cons_of_ne_nil hne
      rfl

theorem follow_eq_some : follow entries names = some value ↔ LeadsTo entries names value := by
  constructor
  · intro h
    induction names generalizing entries with
    | nil => cases h
    | cons name rest ih =>
        cases rest with
        | nil => exact .here h
        | cons next rest =>
            rw [follow] at h
            · split at h
              · next inner hinner => exact .inside hinner (ih h)
              · cases h
            · exact List.cons_ne_nil next rest
  · intro h
    induction h with
    | here h => exact h
    | inside h hrest ih =>
        rw [follow, h]
        · exact ih
        · rintro rfl
          cases hrest

/-! ## Values at paths -/

/-- Behind a point a path goes on from where it has led so far. -/
theorem lookupPath_append (entries : GramTable) (path rest : String) :
    lookupPath entries (path ++ "." ++ rest) =
      match lookupPath entries path with
      | some (table inner) => lookupPath inner rest
      | _ => none := by
  have hpath := pathNames_ne_nil path
  have hrest := pathNames_ne_nil rest
  have hwhole := List.append_ne_nil_of_left_ne_nil hpath (pathNames rest)
  rw [lookupPath, pathNames_append, follow_eq_foldlM entries hwhole, List.foldlM_append,
    ← follow_eq_foldlM entries hpath, ← lookupPath]
  cases lookupPath entries path with
  | none => rfl
  | some value =>
      rw [Option.bind_eq_bind, Option.bind_some, foldlM_enter value hrest]
      cases value <;> rfl

/-- A value is found where names without points lead to it. -/
theorem lookupPath_eq_some :
    lookupPath entries path = some value ↔
      ∃ names, (∀ name ∈ names, '.' ∉ name.toList) ∧ ".".intercalate names = path ∧
        LeadsTo entries names value := by
  constructor
  · intro h
    obtain ⟨-, hplain, hjoin⟩ := pathNames_eq_iff.mp (Eq.refl (pathNames path))
    exact ⟨pathNames path, hplain, hjoin, follow_eq_some.mp h⟩
  · rintro ⟨names, hplain, hjoin, hleads⟩
    have hne : names ≠ [] := by
      rintro rfl
      cases hleads
    rw [lookupPath, pathNames_eq_iff.mpr ⟨hne, hplain, hjoin⟩]
    exact follow_eq_some.mpr hleads

/-- **Dotted paths compose.** Behind a point the search goes on inside the table found so far, and
ends without a value where none was found or one that is no table, be it a list. So a value is found
at the path of the names that lead to it through tables, and no other value is ever found. -/
theorem paths_compose (entries : GramTable) :
    (∀ path rest inner, lookupPath entries path = some (table inner) →
      lookupPath entries (path ++ "." ++ rest) = lookupPath inner rest) ∧
    (∀ path rest, (∀ inner, lookupPath entries path ≠ some (table inner)) →
      lookupPath entries (path ++ "." ++ rest) = none) ∧
    (∀ names value, (∀ name ∈ names, '.' ∉ name.toList) → LeadsTo entries names value →
      lookupPath entries (".".intercalate names) = some value) ∧
    ∀ path value, lookupPath entries path = some value →
      ∃ names, (∀ name ∈ names, '.' ∉ name.toList) ∧ ".".intercalate names = path ∧
        LeadsTo entries names value := by
  refine ⟨?_, ?_, ?_, ?_⟩
  · intro path rest inner hpath
    rw [lookupPath_append, hpath]
  · intro path rest hnot
    rw [lookupPath_append]
    split
    · next inner hinner => exact absurd hinner (hnot inner)
    · rfl
  · intro names value hplain hleads
    exact lookupPath_eq_some.mpr ⟨names, hplain, rfl, hleads⟩
  · intro path value hfound
    exact lookupPath_eq_some.mp hfound

end Gram

/-! ## The forms of a noun

The gender is a value among the forms. The cases are a list, and a path cannot go on into it. The
form without a name lies at the end of a path with a point at its end. -/

namespace Noun

open Gram

def forms : GramTable :=
  [("gender", .text "f"), ("cases", .list [.text "nominative"]), ("", .text "Frau")]

def entries : GramTable := [("forms", .table forms)]

theorem gender_among_forms :
    lookupPath entries "forms" = some (.table forms) ∧
    lookupPath entries ("forms" ++ "." ++ "gender") = lookupPath forms "gender" ∧
    (∀ inner, lookupPath entries "forms.cases" ≠ some (.table inner)) ∧
    lookupPath entries ("forms.cases" ++ "." ++ "0") = none ∧
    LeadsTo entries ["forms", ""] (.text "Frau") ∧
    lookupPath entries (".".intercalate ["forms", ""]) = some (.text "Frau") ∧
    lookupPath entries "forms.gender" = some (.text "f") ∧
    ∃ names, (∀ name ∈ names, '.' ∉ name.toList) ∧ ".".intercalate names = "forms.gender" ∧
      LeadsTo entries names (.text "f") := by
  obtain ⟨hinside, hoff, hleads, hfound⟩ := paths_compose entries
  have hforms : lookupPath entries "forms" = some (.table forms) := rfl
  have hcases : ∀ inner, lookupPath entries "forms.cases" ≠ some (.table inner) := nofun
  have hnameless : LeadsTo entries ["forms", ""] (.text "Frau") := .inside rfl (.here rfl)
  have hgender : lookupPath entries "forms.gender" = some (.text "f") := rfl
  exact ⟨hforms, hinside _ "gender" forms hforms, hcases, hoff _ "0" hcases, hnameless,
    hleads _ _ (by decide) hnameless, hgender, hfound _ _ hgender⟩

end Noun

end TextRecipes
