import TextRecipes.Clause

/-!
# What merged clauses ask for

Clauses are merged two at a time, in some order and with some bracketing; a `Merging` is such a
way. What the result admits depends on the clauses only and not on the way (`Demands`), although
its list of kinds may: an empty list asks for nothing, so a clause whose kinds exclude each other
has to say so by its mark, and once the mark is set the list means nothing any more.

* `allowsAllKinds_merge`, `allowsKind_merge`: of kinds, a merged clause allows what both clauses
  allow. With the mark as part of what "allow" means, this holds without exception.
* `admits_of_merge`, `admits_merge`: when a merged clause admits what both clauses admit.
* `merge_assoc`: the bracketing makes no difference to a clause without the mark.
* `admits_iff_demands`: the meaning of merged clauses.
-/

namespace TextRecipes

namespace Clause

variable {a b c : Clause} {item : Item}

/-! ## What a clause allows -/

/-- A clause that lets items of every kind pass, and those without a kind as well. -/
def AllowsAllKinds (c : Clause) : Prop := c.kindsConflict = false ∧ c.kinds = []

/-- A clause that lets items of a kind pass. -/
def AllowsKind (c : Clause) (kind : String) : Prop :=
  c.kindsConflict = false ∧ (c.kinds = [] ∨ kind ∈ c.kinds)

theorem meets_eq_true {wanted : List String} {present : NameSet} :
    meets wanted present = true ↔
      wanted = [] ∨ ∃ name ∈ wanted, present.contains name = true := by
  simp [meets]

/-- **What a clause asks for**, list by list. -/
theorem admits_eq_true : c.admits item = true ↔
    (c.AllowsAllKinds ∨ ∃ kind, item.kinds.contains kind = true ∧ c.AllowsKind kind) ∧
      (∀ tag ∈ c.tags, item.tags.contains tag = true) ∧
      (c.anyOfTags = [] ∨ ∃ tag ∈ c.anyOfTags, item.tags.contains tag = true) ∧
      ∀ tag ∈ c.noneOfTags, item.tags.contains tag = false := by
  have hkinds : (c.kindsConflict = false ∧ meets c.kinds item.kinds = true) ↔
      (c.AllowsAllKinds ∨ ∃ kind, item.kinds.contains kind = true ∧ c.AllowsKind kind) := by
    rw [meets_eq_true]
    constructor
    · rintro ⟨hmark, hnil | ⟨kind, hmem, hkind⟩⟩
      · exact .inl ⟨hmark, hnil⟩
      · exact .inr ⟨kind, hkind, hmark, .inr hmem⟩
    · rintro (⟨hmark, hnil⟩ | ⟨kind, hkind, hmark, hnil | hmem⟩)
      · exact ⟨hmark, .inl hnil⟩
      · exact ⟨hmark, .inl hnil⟩
      · exact ⟨hmark, .inr ⟨kind, hmem, hkind⟩⟩
  rw [← hkinds, ← meets_eq_true]
  simp [admits, and_assoc]

/-- The mark is set if no kind is allowed, and not even an item without one. -/
theorem kindsConflict_eq_false :
    c.kindsConflict = false ↔ c.AllowsAllKinds ∨ ∃ kind, c.AllowsKind kind := by
  constructor
  · intro hmark
    cases hkinds : c.kinds with
    | nil => exact .inl ⟨hmark, hkinds⟩
    | cons kind rest => exact .inr ⟨kind, hmark, .inr (by simp [hkinds])⟩
  · rintro (⟨hmark, _⟩ | ⟨_, hmark, _⟩)
    · exact hmark
    · exact hmark

/-! ## Merging two clauses -/

@[simp] theorem mergeKinds_nil_left (kinds : List String) : mergeKinds [] kinds = kinds := rfl

@[simp] theorem mergeKinds_nil_right (kinds : List String) : mergeKinds kinds [] = kinds := by
  cases kinds <;> rfl

theorem mergeKinds_of_ne_nil {kinds kinds' : List String} (h : kinds ≠ []) (h' : kinds' ≠ []) :
    mergeKinds kinds kinds' = kinds.filter kinds'.contains := by
  simp [mergeKinds, h, h']

/-- Lists that share a kind, or one of which is empty, exclude nothing that both allow. -/
theorem allowed_mergeKinds {kinds kinds' : List String} {kind : String}
    (h : kinds = [] ∨ kinds' = [] ∨ mergeKinds kinds kinds' ≠ []) :
    (mergeKinds kinds kinds' = [] ∨ kind ∈ mergeKinds kinds kinds') ↔
      (kinds = [] ∨ kind ∈ kinds) ∧ (kinds' = [] ∨ kind ∈ kinds') := by
  by_cases hnil : kinds = []
  · simp [hnil]
  by_cases hnil' : kinds' = []
  · simp [hnil']
  have hshared : mergeKinds kinds kinds' ≠ [] := (h.resolve_left hnil).resolve_left hnil'
  rw [or_iff_right hshared, or_iff_right hnil, or_iff_right hnil', mergeKinds_of_ne_nil hnil hnil']
  simp

/-- The mark of a merged clause is set if one of the clauses has it, or if both restrict the kinds
and share none. -/
theorem kindsConflict_merge : (a.merge b).kindsConflict = false ↔
    a.kindsConflict = false ∧ b.kindsConflict = false ∧
      (a.kinds = [] ∨ b.kinds = [] ∨ mergeKinds a.kinds b.kinds ≠ []) := by
  by_cases hnil : a.kinds = []
  · simp [merge, hnil]
  by_cases hnil' : b.kinds = []
  · simp [merge, hnil']
  simp [merge, hnil, hnil', and_assoc]

theorem allowsAllKinds_merge :
    (a.merge b).AllowsAllKinds ↔ a.AllowsAllKinds ∧ b.AllowsAllKinds := by
  constructor
  · rintro ⟨hmark, hkinds⟩
    obtain ⟨ha, hb, hshared⟩ := kindsConflict_merge.mp hmark
    change mergeKinds a.kinds b.kinds = [] at hkinds
    rcases hshared with hnil | hnil | hne
    · rw [hnil, mergeKinds_nil_left] at hkinds
      exact ⟨⟨ha, hnil⟩, hb, hkinds⟩
    · rw [hnil, mergeKinds_nil_right] at hkinds
      exact ⟨⟨ha, hkinds⟩, hb, hnil⟩
    · exact absurd hkinds hne
  · rintro ⟨⟨ha, hnil⟩, hb, hnil'⟩
    have hkinds : mergeKinds a.kinds b.kinds = [] := by rw [hnil, hnil', mergeKinds_nil_left]
    exact ⟨kindsConflict_merge.mpr ⟨ha, hb, .inl hnil⟩, hkinds⟩

theorem allowsKind_merge {kind : String} :
    (a.merge b).AllowsKind kind ↔ a.AllowsKind kind ∧ b.AllowsKind kind := by
  constructor
  · rintro ⟨hmark, hkind⟩
    obtain ⟨ha, hb, hshared⟩ := kindsConflict_merge.mp hmark
    obtain ⟨hkind, hkind'⟩ := (allowed_mergeKinds hshared).mp hkind
    exact ⟨⟨ha, hkind⟩, hb, hkind'⟩
  · rintro ⟨⟨ha, hkind⟩, hb, hkind'⟩
    -- the kind that both allow keeps the merged list from being empty by exclusion
    have hshared : a.kinds = [] ∨ b.kinds = [] ∨ mergeKinds a.kinds b.kinds ≠ [] := by
      rcases hkind with hnil | hmem
      · exact .inl hnil
      rcases hkind' with hnil | hmem'
      · exact .inr (.inl hnil)
      refine .inr (.inr (List.ne_nil_of_mem (a := kind) ?_))
      rw [mergeKinds_of_ne_nil (List.ne_nil_of_mem hmem) (List.ne_nil_of_mem hmem')]
      simpa using ⟨hmem, hmem'⟩
    exact ⟨kindsConflict_merge.mpr ⟨ha, hb, hshared⟩,
      (allowed_mergeKinds hshared).mpr ⟨hkind, hkind'⟩⟩

@[simp] theorem all_merge (c : Clause) : all.merge c = c := by
  simp [merge, all]

@[simp] theorem merge_all (c : Clause) : c.merge all = c := by
  simp [merge, all]

theorem unmarked_of_admits (h : a.admits item = true) : a.kindsConflict = false := by
  obtain ⟨⟨hmark, _⟩ | ⟨_, _, hmark, _⟩, _⟩ := admits_eq_true.mp h
  · exact hmark
  · exact hmark

/-- A clause without any-of tags narrows what another one admits. -/
theorem admits_of_merge (hany : b.anyOfTags = []) (h : (a.merge b).admits item = true) :
    a.admits item = true ∧ b.admits item = true := by
  obtain ⟨hkinds, htags, hsome, hnone⟩ := admits_eq_true.mp h
  rw [merge, hany, List.append_nil] at hsome
  constructor
  · refine admits_eq_true.mpr ⟨?_, fun tag hmem => htags tag (List.mem_append_left _ hmem), hsome,
      fun tag hmem => hnone tag (List.mem_append_left _ hmem)⟩
    rcases hkinds with hall | ⟨kind, hhas, hallows⟩
    · exact .inl (allowsAllKinds_merge.mp hall).1
    · exact .inr ⟨kind, hhas, (allowsKind_merge.mp hallows).1⟩
  · refine admits_eq_true.mpr ⟨?_, fun tag hmem => htags tag (List.mem_append_right _ hmem),
      .inl hany, fun tag hmem => hnone tag (List.mem_append_right _ hmem)⟩
    rcases hkinds with hall | ⟨kind, hhas, hallows⟩
    · exact .inl (allowsAllKinds_merge.mp hall).2
    · exact .inr ⟨kind, hhas, (allowsKind_merge.mp hallows).2⟩

/-- What both clauses admit, the merged one admits, unless both list kinds. -/
theorem admits_merge (hfree : a.kinds = [] ∨ b.kinds = []) (ha : a.admits item = true)
    (hb : b.admits item = true) : (a.merge b).admits item = true := by
  have hmark := unmarked_of_admits ha
  have hmark' := unmarked_of_admits hb
  obtain ⟨hkinds, htags, hsome, hnone⟩ := admits_eq_true.mp ha
  obtain ⟨hkinds', htags', hsome', hnone'⟩ := admits_eq_true.mp hb
  refine admits_eq_true.mpr ⟨?_, ?_, ?_, ?_⟩
  · rw [allowsAllKinds_merge]
    simp only [allowsKind_merge]
    -- the clause that lists no kinds allows whatever the other one allows
    rcases hfree with hnil | hnil
    · rcases hkinds' with hall | ⟨kind, hhas, hallows⟩
      · exact .inl ⟨⟨hmark, hnil⟩, hall⟩
      · exact .inr ⟨kind, hhas, ⟨hmark, .inl hnil⟩, hallows⟩
    · rcases hkinds with hall | ⟨kind, hhas, hallows⟩
      · exact .inl ⟨hall, hmark', hnil⟩
      · exact .inr ⟨kind, hhas, hallows, hmark', .inl hnil⟩
  · intro tag hmem
    rcases List.mem_append.mp hmem with hmem | hmem
    · exact htags tag hmem
    · exact htags' tag hmem
  · rcases hsome with hnil | ⟨tag, hmem, hhas⟩
    · rw [merge, hnil, List.nil_append]
      exact hsome'
    · exact .inr ⟨tag, List.mem_append_left _ hmem, hhas⟩
  · intro tag hmem
    rcases List.mem_append.mp hmem with hmem | hmem
    · exact hnone tag hmem
    · exact hnone' tag hmem

/-! ## Brackets -/

theorem kindsConflict_merge_assoc (a b c : Clause) :
    ((a.merge b).merge c).kindsConflict = (a.merge (b.merge c)).kindsConflict := by
  -- what both bracketings allow is what the three clauses allow in common
  have hiff : ((a.merge b).merge c).kindsConflict = false ↔
      (a.merge (b.merge c)).kindsConflict = false := by
    simp only [kindsConflict_eq_false, allowsAllKinds_merge, allowsKind_merge, and_assoc]
  exact Bool.eq_iff_iff.mpr (by simpa using not_congr hiff)

theorem mergeKinds_assoc {kinds kinds' kinds'' : List String}
    (h : kinds = [] ∨ kinds' = [] ∨ mergeKinds kinds kinds' ≠ [])
    (h' : kinds' = [] ∨ kinds'' = [] ∨ mergeKinds kinds' kinds'' ≠ []) :
    mergeKinds (mergeKinds kinds kinds') kinds'' = mergeKinds kinds (mergeKinds kinds' kinds'') := by
  by_cases hnil : kinds = []
  · simp [hnil]
  by_cases hnil' : kinds' = []
  · simp [hnil']
  by_cases hnil'' : kinds'' = []
  · simp [hnil'']
  have hleft : mergeKinds kinds kinds' ≠ [] := (h.resolve_left hnil).resolve_left hnil'
  have hright : mergeKinds kinds' kinds'' ≠ [] := (h'.resolve_left hnil').resolve_left hnil''
  rw [mergeKinds_of_ne_nil hleft hnil'', mergeKinds_of_ne_nil hnil hright,
    mergeKinds_of_ne_nil hnil hnil', mergeKinds_of_ne_nil hnil' hnil'', List.filter_filter]
  congr 1
  funext kind
  simp [Bool.and_comm]

/-- **The bracketing makes no difference** to a merged clause without the mark. -/
theorem merge_assoc (h : ((a.merge b).merge c).kindsConflict = false) :
    (a.merge b).merge c = a.merge (b.merge c) := by
  have h' : (a.merge (b.merge c)).kindsConflict = false := kindsConflict_merge_assoc a b c ▸ h
  obtain ⟨hleft, _, _⟩ := kindsConflict_merge.mp h
  obtain ⟨_, hright, _⟩ := kindsConflict_merge.mp h'
  obtain ⟨_, _, hshared⟩ := kindsConflict_merge.mp hleft
  obtain ⟨_, _, hshared'⟩ := kindsConflict_merge.mp hright
  have hkinds := mergeKinds_assoc hshared hshared'
  rw [Clause.mk.injEq]
  exact ⟨hkinds, List.append_assoc .., List.append_assoc .., List.append_assoc .., h.trans h'.symm⟩

end Clause

/-! ## What clauses ask for together -/

/-- What clauses ask of an item together. -/
structure Demands (cs : List Clause) (item : Item) : Prop where
  unmarked : ∀ c ∈ cs, c.kindsConflict = false
  /-- If some clauses list kinds, the item has one that all of these list. -/
  kinds : (∃ c ∈ cs, c.kinds ≠ []) →
    ∃ kind, item.kinds.contains kind = true ∧ ∀ c ∈ cs, c.kinds ≠ [] → kind ∈ c.kinds
  tags : ∀ c ∈ cs, ∀ tag ∈ c.tags, item.tags.contains tag = true
  /-- If some clauses list any-of tags, the item has one that any of them lists. -/
  anyOfTags : (∃ c ∈ cs, c.anyOfTags ≠ []) →
    ∃ c ∈ cs, ∃ tag ∈ c.anyOfTags, item.tags.contains tag = true
  noneOfTags : ∀ c ∈ cs, ∀ tag ∈ c.noneOfTags, item.tags.contains tag = false

/-- Clauses that list kinds, but none that all of these list. -/
def KindsExclude (cs : List Clause) : Prop :=
  (∃ c ∈ cs, c.kinds ≠ []) ∧ ∀ kind, ∃ c ∈ cs, c.kinds ≠ [] ∧ kind ∉ c.kinds

namespace Demands

variable {cs cs' : List Clause} {item : Item}

/-- Clauses that allow a kind of the item, or do not restrict the kinds at all. -/
theorem kinds_iff :
    ((∀ c ∈ cs, c.AllowsAllKinds) ∨
        ∃ kind, item.kinds.contains kind = true ∧ ∀ c ∈ cs, c.AllowsKind kind) ↔
      (∀ c ∈ cs, c.kindsConflict = false) ∧ ((∃ c ∈ cs, c.kinds ≠ []) →
        ∃ kind, item.kinds.contains kind = true ∧ ∀ c ∈ cs, c.kinds ≠ [] → kind ∈ c.kinds) := by
  constructor
  · rintro (hall | ⟨kind, hkind, hallows⟩)
    · refine ⟨fun c hc => (hall c hc).1, ?_⟩
      rintro ⟨c, hc, hne⟩
      exact absurd (hall c hc).2 hne
    · refine ⟨fun c hc => (hallows c hc).1, fun _ => ⟨kind, hkind, fun c hc hne => ?_⟩⟩
      exact (hallows c hc).2.resolve_left hne
  · rintro ⟨hunmarked, hkinds⟩
    by_cases hlisted : ∃ c ∈ cs, c.kinds ≠ []
    · obtain ⟨kind, hkind, hshared⟩ := hkinds hlisted
      refine .inr ⟨kind, hkind, fun c hc => ⟨hunmarked c hc, ?_⟩⟩
      exact Decidable.or_iff_not_imp_left.mpr (hshared c hc)
    · refine .inl fun c hc => ⟨hunmarked c hc, ?_⟩
      exact Decidable.not_not.mp fun hne => hlisted ⟨c, hc, hne⟩

/-- Any-of tags count together: one of those that any clause lists is enough. -/
theorem anyOfTags_iff :
    (cs.flatMap (·.anyOfTags) = [] ∨
        ∃ tag ∈ cs.flatMap (·.anyOfTags), item.tags.contains tag = true) ↔
      ((∃ c ∈ cs, c.anyOfTags ≠ []) →
        ∃ c ∈ cs, ∃ tag ∈ c.anyOfTags, item.tags.contains tag = true) := by
  rw [Decidable.or_iff_not_imp_left, List.flatMap_eq_nil_iff]
  simp only [List.mem_flatMap, Classical.not_forall, exists_prop]
  constructor
  · intro h hlisted
    obtain ⟨tag, ⟨c, hc, htag⟩, hpresent⟩ := h hlisted
    exact ⟨c, hc, tag, htag, hpresent⟩
  · intro h hlisted
    obtain ⟨c, hc, tag, htag, hpresent⟩ := h hlisted
    exact ⟨tag, ⟨c, hc, htag⟩, hpresent⟩

/-- The order in which clauses are listed, and how often, changes nothing of what they ask for. -/
theorem of_subset (h : Demands cs item) (hsub : cs' ⊆ cs) (hsub' : cs ⊆ cs') :
    Demands cs' item where
  unmarked c hc := h.unmarked c (hsub hc)
  kinds := by
    rintro ⟨c, hc, hne⟩
    obtain ⟨kind, hkind, hshared⟩ := h.kinds ⟨c, hsub hc, hne⟩
    exact ⟨kind, hkind, fun c hc => hshared c (hsub hc)⟩
  tags c hc := h.tags c (hsub hc)
  anyOfTags := by
    rintro ⟨c, hc, hne⟩
    obtain ⟨c, hc, htag⟩ := h.anyOfTags ⟨c, hsub hc, hne⟩
    exact ⟨c, hsub' hc, htag⟩
  noneOfTags c hc := h.noneOfTags c (hsub hc)

theorem perm_iff (h : cs.Perm cs') : Demands cs item ↔ Demands cs' item :=
  ⟨fun hd => hd.of_subset h.symm.subset h.subset, fun hd => hd.of_subset h.subset h.symm.subset⟩

/-- Clauses whose kinds exclude each other admit nothing, whatever is merged with them. -/
theorem not_of_kindsExclude (h : KindsExclude cs) (hsub : cs ⊆ cs') :
    ¬ Demands cs' item := by
  obtain ⟨⟨c, hc, hne⟩, hexclude⟩ := h
  intro hdemands
  obtain ⟨kind, _, hshared⟩ := hdemands.kinds ⟨c, hsub hc, hne⟩
  obtain ⟨c', hc', hne', hnot⟩ := hexclude kind
  exact hnot (hshared c' (hsub hc') hne')

end Demands

/-! ## Ways of merging -/

/-- A way of merging clauses, two at a time. -/
inductive Merging where
  | nothing
  | clause (c : Clause)
  | both (first second : Merging)

namespace Merging

/-- The clauses that are merged, from left to right. -/
def clauses : Merging → List Clause
  | nothing => []
  | clause c => [c]
  | both first second => first.clauses ++ second.clauses

/-- The clause that comes out. -/
def result : Merging → Clause
  | nothing => .all
  | clause c => c
  | both first second => first.result.merge second.result

/-- The way that starts with nothing and takes one clause after the other. -/
def inTurn (cs : List Clause) : Merging :=
  cs.foldl (fun m c => both m (clause c)) nothing

variable {m m' : Merging}

theorem clauses_inTurn (cs : List Clause) : (inTurn cs).clauses = cs := by
  suffices h : ∀ m : Merging,
      (cs.foldl (fun m c => both m (clause c)) m).clauses = m.clauses ++ cs from h nothing
  induction cs with
  | nil => simp
  | cons c cs ih =>
      intro m
      rw [List.foldl_cons, ih]
      simp [clauses]

theorem result_inTurn (cs : List Clause) : (inTurn cs).result = cs.foldl Clause.merge .all := by
  suffices h : ∀ m : Merging,
      (cs.foldl (fun m c => both m (clause c)) m).result = cs.foldl Clause.merge m.result from
    h nothing
  induction cs with
  | nil => exact fun _ => rfl
  | cons c cs ih => exact fun m => ih (both m (clause c))

/-! ## The meaning of the result -/

/-- A list of a clause that merging puts together has what the merged clauses have there. -/
theorem result_flatMap (list : Clause → List String) (hall : list .all = [])
    (hmerge : ∀ a b : Clause, list (a.merge b) = list a ++ list b) (m : Merging) :
    list m.result = m.clauses.flatMap list := by
  induction m with
  | nothing => exact hall
  | clause c => simp [result, clauses]
  | both first second ih ih' => rw [result, hmerge, ih, ih', clauses, List.flatMap_append]

theorem allowsAllKinds_result (m : Merging) :
    m.result.AllowsAllKinds ↔ ∀ c ∈ m.clauses, c.AllowsAllKinds := by
  induction m with
  | nothing => simp [result, clauses, Clause.AllowsAllKinds, Clause.all]
  | clause c => simp [result, clauses]
  | both first second ih ih' =>
      rw [result, Clause.allowsAllKinds_merge, ih, ih', clauses, List.forall_mem_append]

theorem allowsKind_result (m : Merging) (kind : String) :
    m.result.AllowsKind kind ↔ ∀ c ∈ m.clauses, c.AllowsKind kind := by
  induction m with
  | nothing => simp [result, clauses, Clause.AllowsKind, Clause.all]
  | clause c => simp [result, clauses]
  | both first second ih ih' =>
      rw [result, Clause.allowsKind_merge, ih, ih', clauses, List.forall_mem_append]

/-- **What comes out asks for what went in.** -/
theorem admits_result (m : Merging) (item : Item) :
    m.result.admits item = true ↔ Demands m.clauses item := by
  have htags := result_flatMap (·.tags) rfl (fun _ _ => rfl) m
  have hany := result_flatMap (·.anyOfTags) rfl (fun _ _ => rfl) m
  have hnone := result_flatMap (·.noneOfTags) rfl (fun _ _ => rfl) m
  rw [Clause.admits_eq_true, allowsAllKinds_result]
  simp only [allowsKind_result, Demands.kinds_iff, htags, hany, hnone, Demands.anyOfTags_iff]
  constructor
  · rintro ⟨⟨hunmarked, hkinds⟩, hall, hsome, hno⟩
    exact
      { unmarked := hunmarked
        kinds := hkinds
        tags := fun c hc tag htag => hall tag (List.mem_flatMap.mpr ⟨c, hc, htag⟩)
        anyOfTags := hsome
        noneOfTags := fun c hc tag htag => hno tag (List.mem_flatMap.mpr ⟨c, hc, htag⟩) }
  · intro h
    refine ⟨⟨h.unmarked, h.kinds⟩, fun tag htag => ?_, h.anyOfTags, fun tag htag => ?_⟩
    · obtain ⟨c, hc, hlisted⟩ := List.mem_flatMap.mp htag
      exact h.tags c hc tag hlisted
    · obtain ⟨c, hc, hlisted⟩ := List.mem_flatMap.mp htag
      exact h.noneOfTags c hc tag hlisted

/-- The mark comes out just if the clauses allow no kind in common, nor items of all kinds. -/
theorem kindsConflict_result (m : Merging) : m.result.kindsConflict = false ↔
    (∀ c ∈ m.clauses, c.AllowsAllKinds) ∨ ∃ kind, ∀ c ∈ m.clauses, c.AllowsKind kind := by
  simp only [Clause.kindsConflict_eq_false, allowsAllKinds_result, allowsKind_result]

/-! ## The lists of the result -/

/-- Whatever is merged with the result could as well have been merged with the last clause first,
then with the one before it, and so on. The induction is on the way of merging, with what is
merged at the end left open. -/
theorem result_merge (m : Merging) (last : Clause)
    (h : (m.result.merge last).kindsConflict = false) :
    m.result.merge last = m.clauses.foldr Clause.merge last := by
  induction m generalizing last with
  | nothing => exact Clause.all_merge last
  | clause c => rfl
  | both first second ih ih' =>
      -- a merge without the mark has no mark inside it either
      have hassoc : (first.result.merge second.result).merge last
          = first.result.merge (second.result.merge last) := Clause.merge_assoc h
      have hfirst : (first.result.merge (second.result.merge last)).kindsConflict = false :=
        hassoc ▸ h
      have hsecond : (second.result.merge last).kindsConflict = false :=
        (Clause.kindsConflict_merge.mp hfirst).2.1
      calc (first.result.merge second.result).merge last
          = first.result.merge (second.result.merge last) := hassoc
        _ = first.clauses.foldr Clause.merge (second.result.merge last) := ih _ hfirst
        _ = first.clauses.foldr Clause.merge (second.clauses.foldr Clause.merge last) := by
            rw [ih' last hsecond]
        _ = (first.clauses ++ second.clauses).foldr Clause.merge last := by rw [List.foldr_append]

theorem result_eq_foldr (h : m.result.kindsConflict = false) :
    m.result = m.clauses.foldr Clause.merge .all := by
  have hmerge := m.result_merge .all (by rwa [Clause.merge_all])
  rwa [Clause.merge_all] at hmerge

/-- **The meaning of merged clauses.** However some clauses are merged, and in whichever order, the
result admits an item just if the clauses together ask for nothing that the item lacks; taking them
in turn is one way to merge them. So the order and the bracketing do not count, and kinds that
exclude each other admit nothing, whatever else is merged. The clause that asks for nothing is
neutral on either side, and without the mark not even the lists of the result depend on the
bracketing. -/
theorem admits_iff_demands :
    (∀ (cs : List Clause) (m : Merging) (item : Item), m.clauses.Perm cs →
      (m.result.admits item = true ↔ Demands cs item)) ∧
    (∀ cs : List Clause,
      (inTurn cs).clauses = cs ∧ (inTurn cs).result = cs.foldl Clause.merge .all) ∧
    (∀ (m m' : Merging) (item : Item), m.clauses.Perm m'.clauses →
      m.result.admits item = m'.result.admits item) ∧
    (∀ (m m' : Merging) (item : Item), KindsExclude m.clauses → m.clauses ⊆ m'.clauses →
      m'.result.admits item = false) ∧
    (∀ c : Clause, Clause.all.merge c = c ∧ c.merge .all = c) ∧
    (∀ m m' : Merging, m.clauses = m'.clauses → m.result.kindsConflict = false →
      m.result = m'.result) := by
  have hmeaning : ∀ (cs : List Clause) (m : Merging) (item : Item), m.clauses.Perm cs →
      (m.result.admits item = true ↔ Demands cs item) := by
    intro cs m item hperm
    rw [admits_result, Demands.perm_iff hperm]
  refine ⟨hmeaning, ?_, ?_, ?_, ?_, ?_⟩
  · exact fun cs => ⟨clauses_inTurn cs, result_inTurn cs⟩
  · intro m m' item hperm
    rw [Bool.eq_iff_iff, hmeaning _ m item hperm, admits_result]
  · intro m m' item hexclude hsub
    have hnot : ¬ Demands m'.clauses item := Demands.not_of_kindsExclude hexclude hsub
    rw [← admits_result] at hnot
    simpa using hnot
  · exact fun c => ⟨Clause.all_merge c, Clause.merge_all c⟩
  · intro m m' hsame hunmarked
    have hunmarked' : m'.result.kindsConflict = false := by
      rw [kindsConflict_result, ← hsame, ← kindsConflict_result]
      exact hunmarked
    rw [result_eq_foldr hunmarked, result_eq_foldr hunmarked', hsame]

end Merging

/-! ## A village in the north

Two clauses share the kind of the village and a third lists no kinds. The river shares none with
the first, and merging the second clause as well does not bring the village back. -/

namespace Villages

def northern : Clause := { kinds := ["city", "village"], tags := ["north"] }

def small : Clause := { kinds := ["village", "hamlet"], noneOfTags := ["ruined"] }

def coastal : Clause := { anyOfTags := ["coast", "island"] }

def river : Clause := { kinds := ["river"] }

def wyk : Item where
  text := .ofPairs [("de", "Wyk")]
  tags := .ofList ["north", "island"]
  kinds := .ofList ["village"]

/-- The small ones and the coastal ones first, and then the northern ones. -/
def way : Merging := .both (.both (.clause small) (.clause coastal)) (.clause northern)

/-- The same clauses in the same order with the brackets to the right. -/
def otherWay : Merging := .both (.clause small) (.both (.clause coastal) (.clause northern))

theorem kindsExclude : KindsExclude [northern, river] := by
  refine ⟨⟨northern, by decide, by decide⟩, fun kind => ?_⟩
  by_cases h : kind = "river"
  · exact ⟨northern, by decide, by decide, by subst h; decide⟩
  · exact ⟨river, by decide, by decide, by simpa [river] using h⟩

theorem wyk_admitted : way.clauses.Perm [northern, small, coastal] ∧
    way.result.admits wyk = true ∧ Demands [northern, small, coastal] wyk ∧
    (Merging.inTurn [northern, small, coastal]).result.admits wyk = true ∧
    (Merging.inTurn [northern, river, small]).result.admits wyk = false ∧
    way.result.kindsConflict = false ∧ way.result = otherWay.result := by
  obtain ⟨hmeaning, hturn, hperm, hexclude, _, hlists⟩ := Merging.admits_iff_demands
  have hway : way.clauses.Perm [northern, small, coastal] := by decide
  have hadmits : way.result.admits wyk = true := by decide
  have hunmarked : way.result.kindsConflict = false := by decide
  refine ⟨hway, hadmits, (hmeaning _ way wyk hway).mp hadmits, ?_, ?_, hunmarked, ?_⟩
  · rw [← hperm way _ wyk (by rw [(hturn _).1]; exact hway)]
    exact hadmits
  · refine hexclude (Merging.inTurn [northern, river]) _ wyk ?_ ?_
    · rw [(hturn _).1]
      exact kindsExclude
    · rw [(hturn _).1, (hturn _).1]
      decide
  · exact hlists way otherWay rfl hunmarked

end Villages

end TextRecipes
