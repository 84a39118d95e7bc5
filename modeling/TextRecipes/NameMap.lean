/-!
# Maps from names

Locales, catalog keys, recipe ids and filter keys are all names, and most of what the library
holds is a finite map from names to something. A `NameMap` keeps its entries in increasing order
of the names, each name once. Listing a map is therefore listing it in order, and two maps with
the same look-ups are the same map (`NameMap.ext_get?`).

The statements about entry lists, `Entries.lookup_insert` first of all, need no order: they hold
for every list of pairs. Only the order of the listing is an invariant.
-/

namespace TextRecipes

/-! ## Entry lists -/

namespace Entries

variable {α β : Type}

/-- The entries with `v` under `k`: in front of the first larger name, or in place of the entry
that already has this name. -/
def insert (k : String) (v : α) : List (String × α) → List (String × α)
  | [] => [(k, v)]
  | (k', v') :: rest =>
    if k < k' then (k, v) :: (k', v') :: rest
    else if k = k' then (k, v) :: rest
    else (k', v') :: insert k v rest

/-- Names strictly increase along the list. -/
def Sorted (es : List (String × α)) : Prop := es.Pairwise (fun a b => a.1 < b.1)

/-- The value of the last pair with each name, in order of the names. -/
def ofPairs (pairs : List (String × α)) : List (String × α) :=
  pairs.foldl (fun es p => insert p.1 p.2 es) []

theorem lt_of_not_lt_of_ne {a b : String} (h : ¬ a < b) (hne : a ≠ b) : b < a := by
  apply Decidable.byContradiction
  intro h'
  exact hne (String.le_antisymm (String.not_lt.1 h') (String.not_lt.1 h))

theorem lookup_cons (k j : String) (v : α) (es : List (String × α)) :
    ((k, v) :: es).lookup j = if j = k then some v else es.lookup j := by
  by_cases h : j = k
  · simp [h]
  · have hb : (j == k) = false := by simp [h]
    simp [List.lookup_cons, hb, h]

@[simp] theorem lookup_insert (k j : String) (v : α) (es : List (String × α)) :
    (insert k v es).lookup j = if j = k then some v else es.lookup j := by
  induction es with
  | nil => rw [insert, lookup_cons]
  | cons e rest ih =>
    obtain ⟨k', v'⟩ := e
    unfold insert
    split
    · rw [lookup_cons]
    · split
      · rename_i hk
        subst hk
        simp only [lookup_cons]
        split <;> rfl
      · rename_i hk
        rw [lookup_cons, lookup_cons, ih]
        by_cases h : j = k
        · subst h
          simp [hk]
        · simp [h]

theorem mem_insert {k : String} {v : α} {es : List (String × α)} {e : String × α}
    (h : e ∈ insert k v es) : e = (k, v) ∨ e ∈ es := by
  induction es with
  | nil => simpa [insert] using h
  | cons e' rest ih =>
    obtain ⟨k', v'⟩ := e'
    unfold insert at h
    split at h
    · simpa using h
    · split at h
      · rcases List.mem_cons.1 h with h | h
        · exact .inl h
        · exact .inr (List.mem_cons_of_mem _ h)
      · rcases List.mem_cons.1 h with h | h
        · exact .inr (by simp [h])
        · exact (ih h).imp id (List.mem_cons_of_mem _)

theorem sorted_insert (k : String) (v : α) {es : List (String × α)} (h : Sorted es) :
    Sorted (insert k v es) := by
  induction es with
  | nil => simp [insert, Sorted]
  | cons e rest ih =>
    obtain ⟨k', v'⟩ := e
    have hhead : ∀ {e}, e ∈ rest → k' < e.1 := fun he => List.rel_of_pairwise_cons h he
    unfold insert
    split
    · rename_i hlt
      refine List.Pairwise.cons (fun e he => ?_) h
      rcases List.mem_cons.1 he with rfl | he
      · exact hlt
      · exact String.lt_trans hlt (hhead he)
    · split
      · rename_i hk
        subst hk
        exact List.Pairwise.cons (fun e he => hhead he) h.of_cons
      · rename_i hlt hk
        refine List.Pairwise.cons (fun e he => ?_) (ih h.of_cons)
        rcases mem_insert he with rfl | he
        · exact lt_of_not_lt_of_ne hlt hk
        · exact hhead he

theorem mem_of_lookup {k : String} {v : α} {es : List (String × α)} (h : es.lookup k = some v) :
    (k, v) ∈ es := by
  obtain ⟨before, after, rfl, _⟩ := List.lookup_eq_some_iff.mp h
  exact List.mem_append_right before List.mem_cons_self

/-- Among entries that have each name once, the order of the search does not matter. -/
theorem lookup_eq_some_iff_mem {k : String} {v : α} {es : List (String × α)}
    (h : (es.map (·.1)).Nodup) : es.lookup k = some v ↔ (k, v) ∈ es := by
  constructor
  · exact mem_of_lookup
  · intro hmem
    obtain ⟨before, after, rfl⟩ := List.append_of_mem hmem
    rw [List.map_append, List.map_cons, List.nodup_append] at h
    refine List.lookup_eq_some_iff.mpr ⟨before, after, rfl, ?_⟩
    intro e he
    have hne : e.1 ≠ k := h.2.2 e.1 (List.mem_map_of_mem he) k List.mem_cons_self
    simpa using hne.symm

theorem Sorted.nodup {es : List (String × α)} (h : Sorted es) : (es.map (·.1)).Nodup := by
  rw [List.Nodup, List.pairwise_map]
  refine h.imp ?_
  intro e e' hlt heq
  exact String.lt_irrefl e'.1 (heq ▸ hlt)

theorem lookup_eq_none_of_lt {k : String} {es : List (String × α)}
    (h : ∀ e ∈ es, k < e.1) : es.lookup k = none := by
  induction es with
  | nil => rfl
  | cons e rest ih =>
    obtain ⟨k', v'⟩ := e
    have hlt : k < k' := h (k', v') (by simp)
    have hne : ¬ k = k' := fun heq => String.lt_irrefl k' (heq ▸ hlt)
    rw [lookup_cons, ih fun e he => h e (by simp [he])]
    simp [hne]

/-- In a sorted list every name is found from either end. -/
theorem lookup_reverse {es : List (String × α)} (h : Sorted es) (k : String) :
    es.reverse.lookup k = es.lookup k := by
  induction es with
  | nil => rfl
  | cons e rest ih =>
    obtain ⟨k', v'⟩ := e
    have hhead : ∀ e ∈ rest, k' < e.1 := fun e he => List.rel_of_pairwise_cons h he
    rw [List.reverse_cons, List.lookup_append, ih h.of_cons, lookup_cons, lookup_cons]
    split
    · rename_i hk
      subst hk
      rw [lookup_eq_none_of_lt hhead, Option.none_or]
    · exact Option.or_none

/-- Wherever a look-up sees the last insertion, it sees the last of many. -/
theorem look_foldl {σ : Type} {look : σ → String → Option α} {put : σ → String → α → σ}
    (hput : ∀ (table : σ) (k j : String) (v : α),
      look (put table k v) j = if j = k then some v else look table j)
    (table : σ) (pairs : List (String × α)) (k : String) :
    look (pairs.foldl (fun table p => put table p.1 p.2) table) k
      = (pairs.reverse.lookup k).or (look table k) := by
  induction pairs generalizing table with
  | nil => simp
  | cons p rest ih =>
    obtain ⟨j, v⟩ := p
    rw [List.foldl_cons, ih, hput, List.reverse_cons, List.lookup_append, lookup_cons]
    by_cases h : k = j <;> cases rest.reverse.lookup k <;> simp [h]

/-- No name of a sorted list comes before the first. -/
theorem Sorted.not_lt_head {k : String} {v : α} {e : String × α} {es : List (String × α)}
    (h : Sorted (e :: es)) (hlookup : (e :: es).lookup k = some v) : ¬ k < e.1 := by
  intro hlt
  have hnone : (e :: es).lookup k = none := lookup_eq_none_of_lt fun e' hmem => by
    rcases List.mem_cons.1 hmem with rfl | hmem
    · exact hlt
    · exact String.lt_trans hlt (List.rel_of_pairwise_cons h hmem)
  rw [hnone] at hlookup
  cases hlookup

/-- Sorted entry lists with the same look-ups are the same list. -/
theorem eq_of_lookup_eq {es fs : List (String × α)} (he : Sorted es) (hf : Sorted fs)
    (h : ∀ k, es.lookup k = fs.lookup k) : es = fs := by
  induction es generalizing fs with
  | nil =>
    match fs with
    | [] => rfl
    | (k, v) :: rest => simpa using h k
  | cons e es ih =>
    obtain ⟨k, v⟩ := e
    match fs with
    | [] => simpa using h k
    | (k', v') :: fs =>
      have hke : ∀ e ∈ es, k < e.1 := fun e hm => List.rel_of_pairwise_cons he hm
      have hkf : ∀ e ∈ fs, k' < e.1 := fun e hm => List.rel_of_pairwise_cons hf hm
      -- each list has the first name of the other
      have hk : k = k' := by
        have hin : ((k', v') :: fs).lookup k = some v := by rw [← h k, lookup_cons, if_pos rfl]
        have hin' : ((k, v) :: es).lookup k' = some v' := by rw [h k', lookup_cons, if_pos rfl]
        exact String.le_antisymm (String.not_lt.1 (he.not_lt_head hin'))
          (String.not_lt.1 (hf.not_lt_head hin))
      subst hk
      have hv : v = v' := by simpa using h k
      subst hv
      have hrest : es = fs := by
        refine ih he.of_cons hf.of_cons fun j => ?_
        by_cases hj : j = k
        · subst hj
          rw [lookup_eq_none_of_lt hke, lookup_eq_none_of_lt hkf]
        · have h1 := h j
          simpa [lookup_cons, hj] using h1
      rw [hrest]

end Entries

/-! ## Maps -/

/-- A finite map from names to values, listed in order of the names. -/
structure NameMap (α : Type) where
  /-- The names with their values. -/
  entries : List (String × α)
  /-- Each name occurs once, and the names increase. -/
  sorted : Entries.Sorted entries

namespace NameMap

variable {α β : Type}

def empty : NameMap α := ⟨[], List.Pairwise.nil⟩

instance : EmptyCollection (NameMap α) := ⟨empty⟩

instance : Inhabited (NameMap α) := ⟨empty⟩

def get? (m : NameMap α) (k : String) : Option α := m.entries.lookup k

def contains (m : NameMap α) (k : String) : Bool := (m.get? k).isSome

def insert (m : NameMap α) (k : String) (v : α) : NameMap α :=
  ⟨Entries.insert k v m.entries, Entries.sorted_insert k v m.sorted⟩

/-- The pairs one after the other: of two pairs with the same name the later one counts. -/
def insertAll (m : NameMap α) (pairs : List (String × α)) : NameMap α :=
  pairs.foldl (fun m p => m.insert p.1 p.2) m

/-- The map of a list of pairs; of two pairs with the same name the later one counts. -/
def ofPairs (pairs : List (String × α)) : NameMap α := insertAll empty pairs

/-- Both maps together; where both have a name, `other` counts. -/
def extend (m other : NameMap α) : NameMap α := m.insertAll other.entries

def keys (m : NameMap α) : List String := m.entries.map (·.1)

def values (m : NameMap α) : List α := m.entries.map (·.2)

def size (m : NameMap α) : Nat := m.entries.length

@[simp] theorem get?_empty (k : String) : (empty : NameMap α).get? k = none := rfl

@[simp] theorem get?_insert (m : NameMap α) (k j : String) (v : α) :
    (m.insert k v).get? j = if j = k then some v else m.get? j :=
  Entries.lookup_insert k j v m.entries

theorem nodup_keys (m : NameMap α) : m.keys.Nodup := m.sorted.nodup

theorem get?_eq_some_iff {m : NameMap α} {k : String} {v : α} :
    m.get? k = some v ↔ (k, v) ∈ m.entries :=
  Entries.lookup_eq_some_iff_mem m.sorted.nodup

theorem mem_keys_iff {m : NameMap α} {k : String} : k ∈ m.keys ↔ m.contains k = true := by
  simp only [keys, contains, List.mem_map, Prod.exists, exists_and_right, exists_eq_right,
    Option.isSome_iff_exists, get?_eq_some_iff]

/-- Maps with the same look-ups are the same map. -/
theorem ext_get? {m n : NameMap α} (h : ∀ k, m.get? k = n.get? k) : m = n := by
  obtain ⟨es, hes⟩ := m
  obtain ⟨fs, hfs⟩ := n
  have : es = fs := Entries.eq_of_lookup_eq hes hfs h
  subst this
  rfl

theorem insertAll_append (m : NameMap α) (first rest : List (String × α)) :
    m.insertAll (first ++ rest) = (m.insertAll first).insertAll rest :=
  List.foldl_append

/-- After all pairs are inserted, a name has the value of its last pair. -/
theorem get?_insertAll (m : NameMap α) (pairs : List (String × α)) (k : String) :
    (m.insertAll pairs).get? k = (pairs.reverse.lookup k).or (m.get? k) :=
  Entries.look_foldl get?_insert m pairs k

theorem get?_ofPairs (pairs : List (String × α)) (k : String) :
    (ofPairs pairs).get? k = pairs.reverse.lookup k :=
  (get?_insertAll empty pairs k).trans Option.or_none

/-- Pairs with different names may be inserted in either order. -/
theorem insertAll_comm (m : NameMap α) {first second : List (String × α)}
    (h : ∀ p ∈ first, ∀ q ∈ second, p.1 ≠ q.1) :
    (m.insertAll first).insertAll second = (m.insertAll second).insertAll first := by
  apply ext_get?
  intro k
  rw [get?_insertAll, get?_insertAll, get?_insertAll, get?_insertAll]
  -- at most one of the two has the name
  cases hfirst : first.reverse.lookup k with
  | none => rw [Option.none_or, Option.none_or]
  | some v =>
    cases hsecond : second.reverse.lookup k with
    | none => rw [Option.none_or, Option.none_or]
    | some w =>
      have hv : (k, v) ∈ first := List.mem_reverse.mp (Entries.mem_of_lookup hfirst)
      have hw : (k, w) ∈ second := List.mem_reverse.mp (Entries.mem_of_lookup hsecond)
      exact absurd rfl (h (k, v) hv (k, w) hw)

theorem extend_comm (m : NameMap α) {first second : NameMap α}
    (h : ∀ k ∈ first.keys, k ∉ second.keys) :
    (m.extend first).extend second = (m.extend second).extend first := by
  apply insertAll_comm
  intro p hp q hq hname
  exact h p.1 (List.mem_map_of_mem hp) (hname ▸ List.mem_map_of_mem hq)

theorem insert_insert (m : NameMap α) (k : String) (v w : α) :
    (m.insert k v).insert k w = m.insert k w := by
  apply ext_get?
  intro j
  rw [get?_insert, get?_insert, get?_insert]
  split <;> rfl

theorem insert_comm (m : NameMap α) {j k : String} (v w : α) (h : j ≠ k) :
    (m.insert j v).insert k w = (m.insert k w).insert j v := by
  apply ext_get?
  intro i
  rw [get?_insert, get?_insert, get?_insert, get?_insert]
  by_cases hk : i = k
  · have hj : i ≠ j := fun hj => h (hj.symm.trans hk)
    rw [if_pos hk, if_pos hk, if_neg hj]
  · rw [if_neg hk, if_neg hk]

/-- Where both maps have a name, the other one counts. -/
theorem get?_extend (m other : NameMap α) (k : String) :
    (m.extend other).get? k = (other.get? k).or (m.get? k) := by
  rw [extend, get?_insertAll, Entries.lookup_reverse other.sorted]
  rfl

end NameMap

end TextRecipes
