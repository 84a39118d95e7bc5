import TextRecipes.Part
import Mathlib.Data.List.Basic
import Mathlib.Data.List.Induction

/-!
# The alias table as a map with an order

What a sequence of insertions leaves in the table can be said without the table: `ListingOf` tells
which entries it has and in which order, and the look-ups are read off the entries (`ReadOff`).

The table can also be kept in two places, the parts in a map and the aliases in a list
(`IndexedParts`). A listing then passes over an alias that the map does not have, so that it is
complete only as long as both are in step. They are, after any insertions (`Represents.insertAll`),
and so both tables come to the same (`Parts.insertion_ordered`).
-/

namespace TextRecipes

variable {name other : String} {part : Part} {entries bindings : List (String × Part)}

/-! ## What insertions leave -/

/-- `part` is what `name` was bound to last. -/
def LastBound (bindings : List (String × Part)) (name : String) (part : Part) : Prop :=
  ∃ before after, bindings = before ++ (name, part) :: after ∧ ∀ later ∈ after, later.1 ≠ name

/-- The entries of a table after the insertions `bindings`: each alias with what it was bound to
last, in the order in which the aliases were bound first. -/
structure ListingOf (bindings entries : List (String × Part)) : Prop where
  mem_iff : ∀ name part, (name, part) ∈ entries ↔ LastBound bindings name part
  /-- No alias is listed twice, and `idxOf` is where a name occurs first. -/
  ordered : (entries.map (·.1)).Pairwise
    fun name other => (bindings.map (·.1)).idxOf name < (bindings.map (·.1)).idxOf other

/-- Look-ups that say what is in the entries. -/
structure ReadOff (entries : List (String × Part)) (get? : String → Option Part)
    (contains : String → Bool) (text? : String → String → Option String) (size : Nat)
    (isEmpty : Bool) : Prop where
  get?_iff : ∀ name part, get? name = some part ↔ (name, part) ∈ entries
  contains_iff : ∀ name, contains name = true ↔ name ∈ entries.map (·.1)
  text?_iff : ∀ name locale text, text? name locale = some text ↔
    ∃ part, (name, part) ∈ entries ∧ part.text? locale = some text
  size_eq : size = entries.length
  isEmpty_iff : isEmpty = true ↔ entries = []

/-- The last binding of a name is the first one from behind. -/
theorem lastBound_iff :
    LastBound bindings name part ↔ bindings.reverse.lookup name = some part := by
  rw [List.lookup_eq_some_iff]
  constructor
  · rintro ⟨before, after, rfl, hafter⟩
    refine ⟨after.reverse, before.reverse, by simp, ?_⟩
    intro later hlater
    have hne := hafter later (List.mem_reverse.mp hlater)
    simpa using hne.symm
  · rintro ⟨after, before, hsplit, hafter⟩
    refine ⟨before.reverse, after.reverse, ?_, ?_⟩
    · rw [← List.reverse_reverse bindings, hsplit]
      simp
    · intro later hlater
      have hne := hafter later (List.mem_reverse.mp hlater)
      exact (bne_iff_ne.mp hne).symm

/-! ## The table -/

/-- Binding an alias that is there changes its entry only. -/
theorem bindIn_of_mem (hnodup : (entries.map (·.1)).Nodup) (hmem : name ∈ entries.map (·.1))
    (part : Part) : bindIn name part entries
      = entries.map fun entry => if entry.1 = name then (name, part) else entry := by
  induction entries with
  | nil => cases hmem
  | cons entry rest ih =>
      obtain ⟨other, bound⟩ := entry
      rw [List.map_cons] at hnodup hmem
      obtain ⟨hother, hrest⟩ := List.nodup_cons.mp hnodup
      by_cases hname : name = other
      · subst hname
        have hsame : ∀ entry ∈ rest, (if entry.1 = name then (name, part) else entry) = entry := by
          intro entry hentry
          exact if_neg fun hname => hother (List.mem_map.mpr ⟨entry, hentry, hname⟩)
        rw [bindIn, if_pos rfl, List.map_cons, if_pos rfl, List.map_congr_left hsame, List.map_id']
      · have hmem' : name ∈ rest.map (·.1) := (List.mem_cons.mp hmem).resolve_left hname
        rw [bindIn, if_neg hname, List.map_cons, if_neg (Ne.symm hname), ih hrest hmem']

namespace Parts

/-- The aliases in the order of the table. -/
def aliases (parts : Parts) : List String := parts.toList.map (·.1)

/-- The table that insertions one after the other lead to. -/
def ofBindings (bindings : List (String × Part)) : Parts := empty.insertAll bindings

variable {parts : Parts}

/-- A new name comes last, and one that is bound again stays where it is. -/
theorem aliases_insert (parts : Parts) (name : String) (part : Part) :
    (parts.insert name part).aliases
      = if name ∈ parts.aliases then parts.aliases else parts.aliases ++ [name] :=
  map_fst_bindIn name part parts.toList

theorem get?_eq_some_iff : parts.get? name = some part ↔ (name, part) ∈ parts.toList :=
  Entries.lookup_eq_some_iff_mem parts.nodup

theorem contains_iff : parts.contains name = true ↔ name ∈ parts.aliases := by
  simp only [contains, aliases, List.mem_map, Prod.exists, exists_and_right, exists_eq_right,
    Option.isSome_iff_exists, get?_eq_some_iff]

/-- All that a table answers can be read off its listing. -/
theorem readOff (parts : Parts) :
    ReadOff parts.toList parts.get? parts.contains parts.text? parts.size parts.isEmpty where
  get?_iff := fun _ _ => get?_eq_some_iff
  contains_iff := fun _ => contains_iff
  text?_iff := by
    intro name locale text
    simp only [text?, Option.bind_eq_some_iff, get?_eq_some_iff]
  size_eq := rfl
  isEmpty_iff := List.isEmpty_iff

/-- After all insertions, an alias has its last part. -/
theorem get?_ofBindings (bindings : List (String × Part)) (name : String) :
    (ofBindings bindings).get? name = bindings.reverse.lookup name :=
  (Entries.look_foldl get?_insert empty bindings name).trans Option.or_none

/-- The names of a table are those that were bound. -/
theorem mem_aliases_ofBindings :
    name ∈ (ofBindings bindings).aliases ↔ name ∈ bindings.map (·.1) := by
  rw [← contains_iff, contains, get?_ofBindings, List.lookup_isSome_iff]
  simp only [List.mem_reverse, List.mem_map, beq_iff_eq, @eq_comm _ name]

theorem ofBindings_concat (bindings : List (String × Part)) (name : String) (part : Part) :
    ofBindings (bindings ++ [(name, part)]) = (ofBindings bindings).insert name part := by
  rw [ofBindings, insertAll, List.foldl_append]
  rfl

/-- The aliases are in the order in which they were bound first. -/
theorem ordered_ofBindings (bindings : List (String × Part)) :
    (ofBindings bindings).aliases.Pairwise
      fun name other => (bindings.map (·.1)).idxOf name < (bindings.map (·.1)).idxOf other := by
  induction bindings using List.reverseRecOn with
  | nil => exact List.Pairwise.nil
  | append_singleton bindings binding ih =>
      obtain ⟨name, part⟩ := binding
      -- where a name occurs first does not change
      have hearlier : (ofBindings bindings).aliases.Pairwise fun name' other =>
          ((bindings ++ [(name, part)]).map (·.1)).idxOf name'
            < ((bindings ++ [(name, part)]).map (·.1)).idxOf other := by
        refine ih.imp_of_mem ?_
        intro name' other hname' hother hlt
        rw [List.map_append, List.idxOf_append_of_mem (mem_aliases_ofBindings.mp hname'),
          List.idxOf_append_of_mem (mem_aliases_ofBindings.mp hother)]
        exact hlt
      rw [ofBindings_concat, aliases_insert]
      split
      · exact hearlier
      · next hnew =>
          refine List.pairwise_append.mpr ⟨hearlier, List.pairwise_singleton _ _, ?_⟩
          intro name' hname' other hother
          obtain rfl := List.mem_singleton.mp hother
          rw [mem_aliases_ofBindings] at hname' hnew
          rw [List.map_append, List.idxOf_append_of_mem hname', List.idxOf_append, if_neg hnew]
          have hlt := List.idxOf_lt_length_of_mem hname'
          omega

/-- The listing of a table is that of its bindings, in the order of the first binding of each name.
-/
theorem listingOf_ofBindings (bindings : List (String × Part)) :
    ListingOf bindings (ofBindings bindings).toList where
  mem_iff := by
    intro name part
    rw [← get?_eq_some_iff, get?_ofBindings, lastBound_iff]
  ordered := ordered_ofBindings bindings

end Parts

/-! ## The table in two places -/

/-- A table with the parts in a map and the aliases in the order in which they were bound first. -/
structure IndexedParts where
  byName : NameMap Part
  order : List String

namespace IndexedParts

def empty : IndexedParts := ⟨.empty, []⟩

/-- The table with `part` bound to `name`. -/
def insert (table : IndexedParts) (name : String) (part : Part) : IndexedParts where
  byName := table.byName.insert name part
  order := if table.byName.contains name then table.order else table.order ++ [name]

/-- The table with one binding after the other inserted. -/
def insertAll (table : IndexedParts) (bindings : List (String × Part)) : IndexedParts :=
  bindings.foldl (fun table binding => table.insert binding.1 binding.2) table

/-- The aliases in their order with their parts. An alias without a part is passed over. -/
def toList (table : IndexedParts) : List (String × Part) :=
  table.order.filterMap fun name => (table.byName.get? name).map fun part => (name, part)

/-- How many aliases are bound. -/
def size (table : IndexedParts) : Nat := table.byName.size

/-- Whether no alias is bound. -/
def isEmpty (table : IndexedParts) : Bool := table.byName.entries.isEmpty

/-- The text for a locale of the part bound to an alias. -/
def text? (table : IndexedParts) (name locale : String) : Option String :=
  (table.byName.get? name).bind (·.text? locale)

/-- The table that insertions one after the other lead to. -/
def ofBindings (bindings : List (String × Part)) : IndexedParts := empty.insertAll bindings

end IndexedParts

/-- A table in two places holds what the other table holds. -/
structure Represents (table : IndexedParts) (parts : Parts) : Prop where
  order_eq : table.order = parts.aliases
  get?_eq : ∀ name, table.byName.get? name = parts.get? name

namespace Represents

variable {table : IndexedParts} {parts : Parts}

theorem empty : Represents .empty .empty := ⟨rfl, fun _ => rfl⟩

theorem contains_eq (h : Represents table parts) (name : String) :
    table.byName.contains name = parts.contains name := by
  rw [NameMap.contains, Parts.contains, h.get?_eq]

/-- Binding a name keeps the two tables together: a name that is known keeps its place in the order,
and a new one goes to its end. -/
theorem insert (h : Represents table parts) (name : String) (part : Part) :
    Represents (table.insert name part) (parts.insert name part) where
  order_eq := by
    simp only [IndexedParts.insert, Parts.aliases_insert, h.order_eq, h.contains_eq,
      Parts.contains_iff]
  get?_eq := by
    intro other
    rw [IndexedParts.insert, NameMap.get?_insert, Parts.get?_insert, h.get?_eq]

/-- So do any number of bindings, one after the other. -/
theorem insertAll (h : Represents table parts) (bindings : List (String × Part)) :
    Represents (table.insertAll bindings) (parts.insertAll bindings) := by
  induction bindings generalizing table parts with
  | nil => exact h
  | cons binding rest ih => exact ih (h.insert binding.1 binding.2)

/-- The order, with the parts looked up by name, is the listing. -/
theorem toList_eq (h : Represents table parts) : table.toList = parts.toList := by
  rw [IndexedParts.toList, h.order_eq, Parts.aliases, List.filterMap_map]
  have hsome : ∀ entry ∈ parts.toList, ((fun name =>
      (table.byName.get? name).map fun part => (name, part)) ∘ (·.1)) entry = some entry := by
    rintro ⟨name, part⟩ hmem
    simp [h.get?_eq, Parts.get?_eq_some_iff.mpr hmem]
  rw [List.filterMap_congr hsome, List.filterMap_some]

/-- Both list the same aliases, each once. -/
theorem size_eq (h : Represents table parts) : table.size = parts.size := by
  have hmem : ∀ name, name ∈ table.byName.keys ↔ name ∈ parts.aliases := by
    intro name
    rw [NameMap.mem_keys_iff, h.contains_eq, Parts.contains_iff]
  have hperm := (List.perm_ext_iff_of_nodup table.byName.nodup_keys parts.nodup).mpr hmem
  calc table.size
      = table.byName.keys.length := (List.length_map _).symm
    _ = parts.aliases.length := hperm.length_eq
    _ = parts.size := List.length_map _

theorem isEmpty_eq (h : Represents table parts) : table.isEmpty = parts.isEmpty := by
  have hlength : table.byName.entries.length = parts.toList.length := h.size_eq
  rw [IndexedParts.isEmpty, Parts.isEmpty, Bool.eq_iff_iff, List.isEmpty_iff_length_eq_zero,
    List.isEmpty_iff_length_eq_zero, hlength]

theorem readOff (h : Represents table parts) :
    ReadOff table.toList table.byName.get? table.byName.contains table.text? table.size
      table.isEmpty := by
  have hget : table.byName.get? = parts.get? := funext h.get?_eq
  have hcontains : table.byName.contains = parts.contains := funext h.contains_eq
  have htext : table.text? = parts.text? := by
    funext name locale
    rw [IndexedParts.text?, Parts.text?, h.get?_eq]
  rw [h.toList_eq, hget, hcontains, htext, h.size_eq, h.isEmpty_eq]
  exact parts.readOff

theorem ofBindings (bindings : List (String × Part)) :
    Represents (.ofBindings bindings) (.ofBindings bindings) :=
  empty.insertAll bindings

end Represents

/-- **The table is a map in the order of insertion.** After any insertions it lists each alias once,
in the order of the first bindings, with the part that was bound last; all look-ups agree with the
listing, and so do those of a table that keeps parts and order apart. Binding an alias again
replaces its part and changes neither another entry nor the place of any. -/
theorem Parts.insertion_ordered (bindings : List (String × Part)) :
    let parts := Parts.ofBindings bindings
    let table := IndexedParts.ofBindings bindings
    ListingOf bindings parts.toList ∧
    ReadOff parts.toList parts.get? parts.contains parts.text? parts.size parts.isEmpty ∧
    table.toList = parts.toList ∧
    ReadOff table.toList table.byName.get? table.byName.contains table.text? table.size
      table.isEmpty ∧
    ∀ name part, name ∈ bindings.map (·.1) →
      (Parts.ofBindings (bindings ++ [(name, part)])).toList
        = parts.toList.map fun entry => if entry.1 = name then (name, part) else entry := by
  intro parts table
  have hrepresents := Represents.ofBindings bindings
  refine ⟨Parts.listingOf_ofBindings bindings, parts.readOff, hrepresents.toList_eq,
    hrepresents.readOff, ?_⟩
  intro name part hname
  rw [Parts.ofBindings_concat]
  exact bindIn_of_mem parts.nodup (Parts.mem_aliases_ofBindings.mpr hname) part

/-- A person that is bound again stays in front of the place. -/
theorem Parts.person_bound_again :
    let anna : Part := .generated ⟨"Anna", "de", "name"⟩
    let bremen : Part := .generated ⟨"Bremen", "de", "town"⟩
    let berta : Part := .generated ⟨"Berta", "de", "name"⟩
    "Person" ∈ [("Person", anna), ("Place", bremen)].map (·.1) ∧
    (Parts.ofBindings ([("Person", anna), ("Place", bremen)] ++ [("Person", berta)])).toList
      = [("Person", berta), ("Place", bremen)] := by
  intro anna bremen berta
  have hbound : "Person" ∈ [("Person", anna), ("Place", bremen)].map (·.1) := List.mem_cons_self
  exact ⟨hbound, (Parts.insertion_ordered _).2.2.2.2 "Person" berta hbound⟩

end TextRecipes
