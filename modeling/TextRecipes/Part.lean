import TextRecipes.Item

/-!
# Parts and the alias table

What a block resolves to is a part: an item of a catalog, or text that a recipe made. A run keeps
the parts that were given an alias in a table, listed in the order in which the aliases were
first bound. Binding an alias again replaces its part and leaves the order as it is.
-/

namespace TextRecipes

structure Generated where
  text : String
  /-- The locale it was made for. -/
  locale : String
  /-- The id of the recipe. -/
  source : String
deriving DecidableEq, Inhabited

def generatedTag : String := "generated"

/-- The written form that identifies generated text. -/
def Generated.form (g : Generated) : String := "synthetic:" ++ g.source ++ ":" ++ g.text

inductive Part where
  | item (item : Item)
  | generated (g : Generated)
deriving Inhabited

namespace Part

/-- The text for a locale. Generated text is the same for all locales. -/
def text? (p : Part) (locale : String) : Option String :=
  match p with
  | item i => i.text.forLocale locale
  | generated g => some g.text

def form : Part → String
  | item i => i.form
  | generated g => g.form

def identity (p : Part) : Identity := .ofForm p.form

def tags : Part → NameSet
  | item i => i.tags
  | generated _ => .ofList [generatedTag]

/-- The kinds of the part. Generated text has none. -/
def kinds : Part → NameSet
  | item i => i.kinds
  | generated _ => .empty

/-- The grammatical value at a dotted path. Generated text has none. -/
def gram? (p : Part) (path : String) : Option Gram :=
  match p with
  | item i => Gram.lookupPath i.gram path
  | generated _ => none

/-- The text of the grammatical value at a dotted path, by which rules refer to it. -/
def gramKey? (p : Part) (path : String) : Option String := (p.gram? path).bind Gram.key?

end Part

/-! ## The alias table -/

/-- The bindings with `p` under `name`: in place of the part bound to it, or else at the end. -/
def bindIn (name : String) (p : Part) : List (String × Part) → List (String × Part)
  | [] => [(name, p)]
  | (name', p') :: rest =>
    if name = name' then (name, p) :: rest else (name', p') :: bindIn name p rest

theorem map_fst_bindIn (name : String) (p : Part) (bs : List (String × Part)) :
    (bindIn name p bs).map (·.1)
      = if name ∈ bs.map (·.1) then bs.map (·.1) else bs.map (·.1) ++ [name] := by
  induction bs with
  | nil => simp [bindIn]
  | cons b rest ih =>
    obtain ⟨name', p'⟩ := b
    by_cases h : name = name'
    · subst h
      simp [bindIn]
    · have hcons : (bindIn name p ((name', p') :: rest)).map (·.1)
          = name' :: (bindIn name p rest).map (·.1) := by simp [bindIn, h]
      rw [hcons, ih, List.map_cons]
      by_cases hm : name ∈ rest.map (·.1)
      · rw [if_pos hm, if_pos (List.mem_cons_of_mem _ hm)]
      · have hn : ¬ name ∈ name' :: rest.map (·.1) := fun hc => (List.mem_cons.1 hc).elim h hm
        rw [if_neg hm, if_neg hn, List.cons_append]

theorem nodup_bindIn (name : String) (p : Part) {bs : List (String × Part)}
    (h : (bs.map (·.1)).Nodup) : ((bindIn name p bs).map (·.1)).Nodup := by
  rw [map_fst_bindIn]
  split
  · exact h
  · rename_i hn
    refine List.nodup_append.2 ⟨h, by simp, fun a ha b hb => ?_⟩
    simp only [List.mem_singleton] at hb
    subst hb
    exact fun heq => hn (heq ▸ ha)

theorem lookup_bindIn (name other : String) (p : Part) (bs : List (String × Part)) :
    (bindIn name p bs).lookup other = if other = name then some p else bs.lookup other := by
  induction bs with
  | nil => rw [bindIn, Entries.lookup_cons]
  | cons b rest ih =>
      obtain ⟨name', p'⟩ := b
      by_cases h : name = name'
      · subst h
        rw [bindIn, if_pos rfl, Entries.lookup_cons, Entries.lookup_cons]
        split <;> rfl
      · rw [bindIn, if_neg h, Entries.lookup_cons, Entries.lookup_cons, ih]
        by_cases ho : other = name
        · subst ho
          simp [h]
        · rw [if_neg ho, if_neg ho]

/-- The aliases of a run with their parts. -/
structure Parts where
  /-- The bindings, in the order in which the aliases were first bound. -/
  toList : List (String × Part)
  /-- Each alias is listed once. -/
  nodup : (toList.map (·.1)).Nodup

namespace Parts

def empty : Parts := ⟨[], List.nodup_nil⟩

instance : Inhabited Parts := ⟨empty⟩

def get? (parts : Parts) (name : String) : Option Part := parts.toList.lookup name

def contains (parts : Parts) (name : String) : Bool := (parts.get? name).isSome

def size (parts : Parts) : Nat := parts.toList.length

def isEmpty (parts : Parts) : Bool := parts.toList.isEmpty

def text? (parts : Parts) (name locale : String) : Option String :=
  (parts.get? name).bind (·.text? locale)

def insert (parts : Parts) (name : String) (p : Part) : Parts :=
  ⟨bindIn name p parts.toList, nodup_bindIn name p parts.nodup⟩

def insertAll (parts : Parts) (bindings : List (String × Part)) : Parts :=
  bindings.foldl (fun parts b => parts.insert b.1 b.2) parts

@[simp] theorem get?_empty (name : String) : empty.get? name = none := rfl

@[simp] theorem get?_insert (parts : Parts) (name other : String) (p : Part) :
    (parts.insert name p).get? other = if other = name then some p else parts.get? other :=
  lookup_bindIn name other p parts.toList

@[simp] theorem insertAll_nil (parts : Parts) : parts.insertAll [] = parts := rfl

@[simp] theorem insertAll_cons (parts : Parts) (b : String × Part) (bs : List (String × Part)) :
    parts.insertAll (b :: bs) = (parts.insert b.1 b.2).insertAll bs := rfl

end Parts

end TextRecipes
