import TextRecipes.NameMap

/-!
# Sets of names

The tags and kinds of an item, and the words that a title keeps in lower case, are sets of
names. A `NameSet` is a map to the one-element type, so its listing is sorted and free of
repetitions, and membership decides equality.
-/

namespace TextRecipes

structure NameSet where
  /-- The members, as the names of a map. -/
  members : NameMap Unit

namespace NameSet

def empty : NameSet := ⟨.empty⟩

instance : EmptyCollection NameSet := ⟨empty⟩

instance : Inhabited NameSet := ⟨empty⟩

def contains (s : NameSet) (name : String) : Bool := s.members.contains name

def insert (s : NameSet) (name : String) : NameSet := ⟨s.members.insert name ()⟩

def ofList (names : List String) : NameSet := names.foldl insert empty

/-- The members, in order. -/
def toList (s : NameSet) : List String := s.members.keys

@[simp] theorem contains_empty (name : String) : empty.contains name = false := rfl

@[simp] theorem contains_insert (s : NameSet) (a b : String) :
    (s.insert a).contains b = (b == a || s.contains b) := by
  unfold contains insert NameMap.contains
  rw [NameMap.get?_insert]
  by_cases h : b = a <;> simp [h]

/-- Sets with the same members are the same set. -/
theorem ext_contains {s t : NameSet} (h : ∀ name, s.contains name = t.contains name) : s = t := by
  obtain ⟨m⟩ := s
  obtain ⟨n⟩ := t
  congr 1
  refine NameMap.ext_get? fun k => ?_
  have hk : (m.get? k).isSome = (n.get? k).isSome := h k
  match hm : m.get? k, hn : n.get? k with
  | none, none => rfl
  | some (), some () => rfl
  | none, some () => simp [hm, hn] at hk
  | some (), none => simp [hm, hn] at hk

theorem contains_foldl_insert (names : List String) (s : NameSet) (name : String) :
    (names.foldl insert s).contains name = (s.contains name || names.contains name) := by
  induction names generalizing s with
  | nil => simp
  | cons a rest ih =>
    rw [List.foldl_cons, ih, contains_insert, List.contains_cons]
    cases s.contains name <;> cases name == a <;> rfl

/-- The set of a list has exactly the names of the list. -/
@[simp] theorem contains_ofList (names : List String) (name : String) :
    (ofList names).contains name = names.contains name := by
  rw [ofList, contains_foldl_insert]
  simp

end NameSet

end TextRecipes
