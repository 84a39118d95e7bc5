import TextRecipes.Selection

/-!
# What a selection gives

What a selection comes to is told by the candidates and by the draws of its attempts
(`Outcome`, `select_eq_iff`): nothing without items or without candidates, the one draw if nothing
is excluded, and otherwise the first draw that is not excluded (`SettlesAt`), or nothing if the
attempts run out. The check whether all candidates are excluded only saves these draws.

A selection that succeeds gives an item of the list, one that the clause admits, and one whose
identity is not excluded (`select_eq_ok`). Items that the clause rejects have no part in the choice
(`map_fst_select`), and an identity that is excluded has none unless it would be drawn first.
-/

namespace TextRecipes.Selection

variable {items items' : List Item} {clause : Clause} {request : SelectionRequest}
  {cs : List Candidate} {c : Candidate} {excluded : List Identity} {drawn drawn' : Nat → Candidate}

/-! ## Candidates -/

/-- The candidates are the items that the clause admits, in the order of the list. -/
theorem map_fst_candidates (clause : Clause) (items : List Item) :
    (candidates clause items).map (·.1) = items.filter clause.admits := by
  have hitems : items.zipIdx.map Prod.fst = items := List.zipIdx_map_fst 0 items
  calc (candidates clause items).map (·.1)
      = (items.zipIdx.map Prod.fst).filter clause.admits := by rw [List.filter_map]; rfl
    _ = items.filter clause.admits := by rw [hitems]

/-- A candidate comes with its position in the list. -/
theorem getElem?_of_mem_candidates (h : c ∈ candidates clause items) :
    items[c.2]? = some c.1 :=
  List.mem_zipIdx_iff_getElem?.mp (List.mem_filter.mp h).1

/-- Candidates are items of the list that the clause admits. -/
theorem mem_candidates (h : c ∈ candidates clause items) :
    c.1 ∈ items ∧ clause.admits c.1 = true :=
  ⟨List.mem_of_getElem? (getElem?_of_mem_candidates h), (List.mem_filter.mp h).2⟩

theorem candidates_nil (clause : Clause) : candidates clause [] = [] := rfl

/-! ## One draw -/

/-- What is left of a point as the weights are taken away from it one after the other. -/
def remainders (point : Float) : List Float → List Float
  | [] => []
  | w :: rest => (point - w) :: remainders (point - w) rest

/-- A walk ends at the first weight that takes the point to zero or below, and at the last one if
there is no such weight. -/
theorem weightedIndex_eq (point : Float) (weights : List Float) :
    weightedIndex point weights
      = ((remainders point weights).findIdx? fun r => decide (r ≤ 0)).getD (weights.length - 1) := by
  induction weights generalizing point with
  | nil => rfl
  | cons w rest ih =>
      cases rest with
      | nil =>
          simp only [weightedIndex, remainders, List.findIdx?_cons, List.findIdx?_nil]
          split <;> rfl
      | cons w' rest =>
          rw [weightedIndex, remainders, List.findIdx?_cons]
          by_cases hpast : point - w ≤ 0
          · simp [hpast]
          · simp only [hpast, ↓reduceIte, decide_false, Bool.false_eq_true, ih]
            -- the rest of the walk is one place further on
            cases (remainders (point - w) (w' :: rest)).findIdx? fun r => decide (r ≤ 0) with
            | none => simp
            | some i => rfl

theorem draw_mem (cs : List Candidate) (h : cs ≠ []) (draws : Draws) : draw cs h draws ∈ cs :=
  List.get_mem cs _

/-- Where there is a seed, chance has no part in a draw. -/
theorem drawIndex_of_seed {draws : Draws} {seed : String} (h : draws.seed = some seed)
    (cs : List Candidate) : drawIndex cs draws = drawIndex cs { seed := some seed } := by
  simp only [drawIndex, Draws.unit, h, Seed.unit]

/-- The place of the draw depends on the items alone, and so does the item drawn. -/
theorem draw_fst_congr {cs' : List Candidate} (hitems : cs.map (·.1) = cs'.map (·.1)) (h : cs ≠ [])
    (h' : cs' ≠ []) (draws : Draws) : (draw cs h draws).1 = (draw cs' h' draws).1 := by
  have hweights : weights cs = weights cs' := by
    calc weights cs = (cs.map (·.1)).map Item.effectiveWeight := by rw [List.map_map]; rfl
      _ = (cs'.map (·.1)).map Item.effectiveWeight := by rw [hitems]
      _ = weights cs' := by rw [List.map_map]; rfl
  have hindex : drawIndex cs draws = drawIndex cs' draws := by simp only [drawIndex, hweights]
  have hget : ∀ (ds : List Candidate) (hd : ds ≠ []),
      (ds.map (·.1))[drawIndex ds draws]? = some (draw ds hd draws).1 := by
    intro ds hd
    rw [List.getElem?_map, List.getElem?_eq_getElem (drawIndex_lt hd draws)]
    rfl
  exact Option.some.inj ((hget cs h).symm.trans (by rw [hitems, hindex, hget cs' h']))

/-! ## Repeated draws -/

/-- What the attempts of a selection draw. -/
def attempted (cs : List Candidate) (h : cs ≠ []) (draws : Draws) (attempt : Nat) : Candidate :=
  draw cs h (draws.forRetry attempt)

/-- Of a number of attempts, `n` is the first whose draw is not excluded. -/
structure SettlesAt (excluded : List Identity) (drawn : Nat → Candidate) (attempts n : Nat) :
    Prop where
  made : n < attempts
  fresh : (drawn n).1.identity ∉ excluded
  earlier : ∀ m < n, (drawn m).1.identity ∈ excluded

/-- No attempt draws anything that is not excluded. -/
def NeverSettles (excluded : List Identity) (drawn : Nat → Candidate) (attempts : Nat) : Prop :=
  ∀ n < attempts, (drawn n).1.identity ∈ excluded

/-- If the first draw is excluded, the attempts settle as those after it do. -/
theorem SettlesAt.of_later {attempts n : Nat} (hfirst : (drawn 0).1.identity ∈ excluded)
    (h : SettlesAt excluded (fun m => drawn (m + 1)) attempts n) :
    SettlesAt excluded drawn (attempts + 1) (n + 1) where
  made := Nat.succ_lt_succ h.made
  fresh := h.fresh
  earlier m hm := by
    cases m with
    | zero => exact hfirst
    | succ m => exact h.earlier m (Nat.lt_of_succ_lt_succ hm)

theorem NeverSettles.of_later {attempts : Nat} (hfirst : (drawn 0).1.identity ∈ excluded)
    (h : NeverSettles excluded (fun m => drawn (m + 1)) attempts) :
    NeverSettles excluded drawn (attempts + 1) := by
  intro n hn
  cases n with
  | zero => exact hfirst
  | succ n => exact h n (Nat.lt_of_succ_lt_succ hn)

/-- Attempts that begin one later are the attempts after the first. -/
theorem firstFresh_later (excluded : List Identity) (drawn : Nat → Candidate) (attempt left : Nat) :
    firstFresh excluded drawn (attempt + 1) left
      = firstFresh excluded (fun m => drawn (m + 1)) attempt left := by
  induction left generalizing attempt with
  | zero => rfl
  | succ left ih => simp only [firstFresh, ih]

/-- **Repeated draws end at the first that is not excluded**, or find that all are. -/
theorem firstFresh_cases (excluded : List Identity) (drawn : Nat → Candidate) (attempts : Nat) :
    (∃ n, SettlesAt excluded drawn attempts n ∧
        firstFresh excluded drawn 0 attempts = some (drawn n)) ∨
      NeverSettles excluded drawn attempts ∧ firstFresh excluded drawn 0 attempts = none := by
  induction attempts generalizing drawn with
  | zero => exact .inr ⟨fun _ hn => absurd hn (Nat.not_lt_zero _), rfl⟩
  | succ attempts ih =>
      by_cases hfirst : (drawn 0).1.identity ∈ excluded
      · have hnext : firstFresh excluded drawn 0 (attempts + 1)
            = firstFresh excluded (fun m => drawn (m + 1)) 0 attempts := by
          rw [← firstFresh_later]
          simp [firstFresh, hfirst]
        rw [hnext]
        rcases ih fun m => drawn (m + 1) with ⟨n, hsettles, heq⟩ | ⟨hnever, heq⟩
        · exact .inl ⟨n + 1, hsettles.of_later hfirst, heq⟩
        · exact .inr ⟨hnever.of_later hfirst, heq⟩
      · refine .inl ⟨0, ⟨Nat.succ_pos _, hfirst, fun _ hm => absurd hm (Nat.not_lt_zero _)⟩, ?_⟩
        simp [firstFresh, hfirst]

/-- The first of some attempts is one only. -/
theorem SettlesAt.unique {attempts n m : Nat} (h : SettlesAt excluded drawn attempts n)
    (h' : SettlesAt excluded drawn attempts m) : n = m := by
  rcases Nat.lt_trichotomy n m with hlt | heq | hgt
  · exact absurd (h'.earlier n hlt) h.fresh
  · exact heq
  · exact absurd (h.earlier m hgt) h'.fresh

theorem SettlesAt.not_never {attempts n : Nat} (h : SettlesAt excluded drawn attempts n) :
    ¬ NeverSettles excluded drawn attempts :=
  fun hnever => h.fresh (hnever n h.made)

/-- Draws of the same items settle at the same attempt. -/
theorem SettlesAt.congr {attempts n : Nat} (h : SettlesAt excluded drawn attempts n)
    (hsame : ∀ m, (drawn m).1 = (drawn' m).1) : SettlesAt excluded drawn' attempts n where
  made := h.made
  fresh := hsame n ▸ h.fresh
  earlier m hm := hsame m ▸ h.earlier m hm

/-! ## What a selection comes to -/

/-- What a selection comes to. -/
inductive Outcome (items : List Item) (request : SelectionRequest) :
    Except SelectionError Candidate → Prop where
  | noItems (hnone : items = []) : Outcome items request (.error .noItems)
  | noMatch (hsome : items ≠ []) (hnone : candidates request.clause items = []) :
      Outcome items request (.error (.noMatch request.clause items.length))
  | drawn (h : candidates request.clause items ≠ []) (hnone : request.excluded = []) :
      Outcome items request (.ok (draw _ h request.toDraws))
  | settled (h : candidates request.clause items ≠ []) (hsome : request.excluded ≠ []) (n : Nat)
      (hsettles : SettlesAt request.excluded (attempted _ h request.toDraws) request.attempts n) :
      Outcome items request (.ok (attempted _ h request.toDraws n))
  | exhausted (h : candidates request.clause items ≠ []) (hsome : request.excluded ≠ [])
      (hnever : NeverSettles request.excluded (attempted _ h request.toDraws) request.attempts) :
      Outcome items request (.error (.allExcluded request.attempts request.excluded.length))

theorem items_ne_nil_of_candidates (h : candidates clause items ≠ []) : items ≠ [] := by
  rintro rfl
  exact h (candidates_nil clause)

theorem select_of_no_candidates (hsome : items ≠ [])
    (hnone : candidates request.clause items = []) :
    select items request = .error (.noMatch request.clause items.length) := by
  simp [select, hsome, hnone]

theorem select_of_nothing_excluded (h : candidates request.clause items ≠ [])
    (hnone : request.excluded = []) :
    select items request = .ok (draw _ h request.toDraws) := by
  simp [select, items_ne_nil_of_candidates h, h, hnone]

/-- With something excluded, a selection is its repeated draws. If all candidates are excluded,
then so are all draws, and nothing is lost by not making them. -/
theorem select_of_excluded (h : candidates request.clause items ≠ [])
    (hsome : request.excluded ≠ []) :
    select items request
      = match firstFresh request.excluded (attempted _ h request.toDraws) 0 request.attempts with
        | some c => .ok c
        | none => .error (.allExcluded request.attempts request.excluded.length) := by
  have hitems : items.isEmpty = false := by simpa using items_ne_nil_of_candidates h
  have hexcluded : request.excluded.isEmpty = false := by simpa using hsome
  simp only [select, hitems, h, hexcluded, Bool.false_eq_true, ↓reduceIte, ↓reduceDIte]
  split
  · next hall =>
      rcases firstFresh_cases request.excluded (attempted _ h request.toDraws) request.attempts
        with ⟨n, hsettles, _⟩ | ⟨_, hnone⟩
      · have hcontains := List.all_eq_true.mp hall _ (draw_mem _ h (request.toDraws.forRetry n))
        exact absurd (List.contains_iff_mem.mp hcontains) hsettles.fresh
      · rw [hnone]
  · rfl

/-- **A selection has an outcome.** -/
theorem outcome_select (items : List Item) (request : SelectionRequest) :
    Outcome items request (select items request) := by
  by_cases hitems : items = []
  · subst hitems
    exact .noItems rfl
  by_cases h : candidates request.clause items = []
  · rw [select_of_no_candidates hitems h]
    exact .noMatch hitems h
  by_cases hexcluded : request.excluded = []
  · rw [select_of_nothing_excluded h hexcluded]
    exact .drawn h hexcluded
  rw [select_of_excluded h hexcluded]
  rcases firstFresh_cases request.excluded (attempted _ h request.toDraws) request.attempts
    with ⟨n, hsettles, hsome⟩ | ⟨hnever, hnone⟩
  · rw [hsome]
    exact .settled h hexcluded n hsettles
  · rw [hnone]
    exact .exhausted h hexcluded hnever

/-- **And no other.** -/
theorem Outcome.select_eq {r : Except SelectionError Candidate} (h : Outcome items request r) :
    select items request = r := by
  cases h with
  | noItems hnone =>
      subst hnone
      rfl
  | noMatch hsome hnone => exact select_of_no_candidates hsome hnone
  | drawn h hnone => exact select_of_nothing_excluded h hnone
  | settled h hsome n hsettles =>
      rw [select_of_excluded h hsome]
      rcases firstFresh_cases request.excluded (attempted _ h request.toDraws) request.attempts
        with ⟨m, hsettles', heq⟩ | ⟨hnever, _⟩
      · rw [heq, hsettles.unique hsettles']
      · exact absurd hnever hsettles.not_never
  | exhausted h hsome hnever =>
      rw [select_of_excluded h hsome]
      rcases firstFresh_cases request.excluded (attempted _ h request.toDraws) request.attempts
        with ⟨m, hsettles, _⟩ | ⟨_, heq⟩
      · exact absurd hnever hsettles.not_never
      · rw [heq]

theorem select_eq_iff {r : Except SelectionError Candidate} :
    select items request = r ↔ Outcome items request r := by
  constructor
  · rintro rfl
    exact outcome_select items request
  · exact Outcome.select_eq

/-! ## What follows for the choice -/

/-- **A selection is sound.** What it gives is in the list, is admitted by the clause and is not
excluded. -/
theorem select_eq_ok (h : select items request = .ok c) :
    c.1 ∈ items ∧ request.clause.admits c.1 = true ∧ c.1.identity ∉ request.excluded := by
  suffices hc : c ∈ candidates request.clause items ∧ c.1.identity ∉ request.excluded by
    obtain ⟨hmem, hadmits⟩ := mem_candidates hc.1
    exact ⟨hmem, hadmits, hc.2⟩
  cases select_eq_iff.mp h with
  | drawn hne hnone =>
      rw [hnone]
      exact ⟨draw_mem _ hne _, List.not_mem_nil⟩
  | settled hne _ n hsettles => exact ⟨draw_mem _ hne _, hsettles.fresh⟩

/-- **What would not be drawn anyway may be excluded**: with something else excluded the choice is
the same, unless no attempt is made. -/
theorem select_of_fresh (h : select items { request with excluded := [] } = .ok c)
    (hfresh : c.1.identity ∉ request.excluded) :
    (0 < request.attempts → select items request = .ok c) ∧
      ∀ c', select items request = .ok c' → c' = c := by
  cases select_eq_iff.mp h with
  | settled _ hsome => exact absurd rfl hsome
  | drawn hne _ =>
      have hcandidates : candidates request.clause items ≠ [] := hne
      refine ⟨fun hmade => ?_, fun c' hc' => ?_⟩
      · by_cases hexcluded : request.excluded = []
        · exact select_of_nothing_excluded hcandidates hexcluded
        · -- the first attempt draws what is drawn if nothing is excluded
          have hsettles : SettlesAt request.excluded (attempted _ hcandidates request.toDraws)
              request.attempts 0 := ⟨hmade, hfresh, fun _ hm => absurd hm (Nat.not_lt_zero _)⟩
          exact (Outcome.settled hcandidates hexcluded 0 hsettles).select_eq
      · cases select_eq_iff.mp hc' with
        | drawn _ _ => rfl
        | settled _ _ n hsettles =>
            cases n with
            | zero => rfl
            | succ n => exact absurd (hsettles.earlier 0 (Nat.succ_pos n)) hfresh

/-- Lists with the same items that the clause admits give the same item. -/
theorem exists_select_of_filter_eq
    (hsame : items.filter request.clause.admits = items'.filter request.clause.admits)
    (h : select items request = .ok c) : ∃ c', select items' request = .ok c' ∧ c'.1 = c.1 := by
  have hitems : (candidates request.clause items).map (·.1)
      = (candidates request.clause items').map (·.1) := by
    rw [map_fst_candidates, map_fst_candidates, hsame]
  have hother : candidates request.clause items ≠ [] → candidates request.clause items' ≠ [] := by
    intro hne hnil
    rw [hnil, List.map_nil, List.map_eq_nil_iff] at hitems
    exact hne hitems
  cases select_eq_iff.mp h with
  | drawn hne hnone =>
      exact ⟨_, select_of_nothing_excluded (hother hne) hnone,
        draw_fst_congr hitems.symm (hother hne) hne _⟩
  | settled hne hsome n hsettles =>
      have hdraws : ∀ m, (attempted _ hne request.toDraws m).1
          = (attempted _ (hother hne) request.toDraws m).1 := fun m =>
        draw_fst_congr hitems hne (hother hne) _
      exact ⟨_, (Outcome.settled (hother hne) hsome n (hsettles.congr hdraws)).select_eq,
        (hdraws n).symm⟩

/-- **Items that the clause rejects have no part in the choice**, wherever they stand in the list
and however many there are. -/
theorem map_fst_select
    (hsame : items.filter request.clause.admits = items'.filter request.clause.admits) :
    (select items request).toOption.map (·.1) = (select items' request).toOption.map (·.1) := by
  cases h : select items request with
  | ok c =>
      obtain ⟨c', hc', hfst⟩ := exists_select_of_filter_eq hsame h
      rw [hc']
      exact congrArg some hfst.symm
  | error e =>
      cases h' : select items' request with
      | error e' => rfl
      | ok c' =>
          obtain ⟨c, hc, _⟩ := exists_select_of_filter_eq hsame.symm h'
          rw [h] at hc
          cases hc

/-- **The outcome of a selection.** Its candidates are the items of the list that the clause admits,
and what it comes to is told by their draws, whatever the weights are: every walk ends at a position
of its list, at the first that takes the point to zero or below or else at the last. A draw walks
along the weights of the candidates, from a share of their sum that the hash of the seed decides.
The attempts of a seed are drawn by the seed itself and by the seeds of its retries. So what is
selected is in the list, admitted and not excluded; if all candidates are excluded there is nothing;
excluding something else than what would be drawn first does not change the choice; and neither do
items that the clause rejects. -/
theorem select_outcome (items : List Item) (request : SelectionRequest) :
    (∀ r, select items request = r ↔ Outcome items request r) ∧
    ((candidates request.clause items).map (·.1) = items.filter request.clause.admits ∧
      ∀ c ∈ candidates request.clause items, items[c.2]? = some c.1) ∧
    (∀ point weights, weights ≠ [] → weightedIndex point weights < weights.length ∧
      weightedIndex point weights
        = ((remainders point weights).findIdx? fun r => decide (r ≤ 0)).getD (weights.length - 1)) ∧
    (∀ (cs : List Candidate) (h : cs ≠ []) draws,
      cs[drawIndex cs draws]? = some (draw cs h draws)) ∧
    (∀ (cs : List Candidate) draws seed, draws.seed = some seed →
      drawIndex cs draws = weightedIndex
        (Random.fraction (Random.draw (Random.hash seed) 0)
          * (cs.map (·.1.effectiveWeight)).foldl (· + ·) 0)
        (cs.map (·.1.effectiveWeight))) ∧
    (∀ cs seed n, request.seed = some seed →
      drawIndex cs (request.toDraws.forRetry n)
        = drawIndex cs { seed := some (if n = 0 then seed else seed ++ ":retry" ++ toString n) }) ∧
    (∀ c, select items request = .ok c →
      c.1 ∈ items ∧ request.clause.admits c.1 = true ∧ c.1.identity ∉ request.excluded) ∧
    (candidates request.clause items ≠ [] →
      (∀ c ∈ candidates request.clause items, c.1.identity ∈ request.excluded) →
      select items request = .error (.allExcluded request.attempts request.excluded.length)) ∧
    (∀ c, select items { request with excluded := [] } = .ok c →
      c.1.identity ∉ request.excluded →
      (0 < request.attempts → select items request = .ok c) ∧
        ∀ c', select items request = .ok c' → c' = c) ∧
    (∀ items', items.filter request.clause.admits = items'.filter request.clause.admits →
      (select items request).toOption.map (·.1) = (select items' request).toOption.map (·.1)) := by
  refine ⟨fun r => select_eq_iff, ⟨map_fst_candidates _ _, ?_⟩, ?_, ?_, ?_, ?_, ?_, ?_, ?_, ?_⟩
  · intro c hc
    exact getElem?_of_mem_candidates hc
  · intro point weights hne
    exact ⟨weightedIndex_lt point hne, weightedIndex_eq point weights⟩
  · intro cs h draws
    exact List.getElem?_eq_getElem (drawIndex_lt h draws)
  · intro cs draws seed hseed
    rw [drawIndex, Draws.unit, hseed]
    rfl
  · intro cs seed n hseed
    apply drawIndex_of_seed
    rw [Draws.seed_forRetry, hseed, Seed.forRetry]
    split
    · rfl
    · simp only [Seed.derive, Seed.retryStep, Option.map_some, String.append_assoc]
      rfl
  · intro c hc
    exact select_eq_ok hc
  · intro hne hall
    have hsome : request.excluded ≠ [] := List.ne_nil_of_mem (hall _ (draw_mem _ hne {}))
    have hnever : NeverSettles request.excluded (attempted _ hne request.toDraws)
        request.attempts := fun n _ => hall _ (draw_mem _ hne _)
    exact (Outcome.exhausted hne hsome hnever).select_eq
  · intro c hc hfresh
    exact select_of_fresh hc hfresh
  · intro items' hsame
    exact map_fst_select hsame

end TextRecipes.Selection

namespace TextRecipes

/-! ## A raffle

Grown-ups win a prize. The seed's first draw gives Berta, who has won before, and the second gives
Anna. Carl is a child, and it makes no difference whether he is there. -/

namespace Raffle

def anna : Item := { text := .ofPairs [("en", "Anna")], tags := .ofList ["grown-up"], weight := 2 }

def berta : Item := { text := .ofPairs [("en", "Berta")], tags := .ofList ["grown-up"] }

def carl : Item := { text := .ofPairs [("en", "Carl")], tags := .ofList ["child"] }

def request : SelectionRequest where
  seed := some "t"
  clause := { tags := ["grown-up"] }
  excluded := [berta.identity]
  attempts := 3

/-- The attempts at the raffle give Berta first and then Anna. -/
theorem settlesAt_one : Selection.SettlesAt request.excluded
    (Selection.attempted [(anna, 0), (berta, 2)] (by simp) request.toDraws) 3 1 := by
  refine ⟨by decide, by decide +kernel, fun m hm => ?_⟩
  obtain rfl : m = 0 := Nat.lt_one_iff.mp hm
  decide +kernel

theorem first_draw :
    Selection.drawIndex [(anna, 0), (berta, 2)] (request.toDraws.forRetry 0) = 1 := by
  decide +kernel

theorem second_draw :
    Selection.drawIndex [(anna, 0), (berta, 2)] (request.toDraws.forRetry 1) = 0 := by
  decide +kernel

theorem anna_wins : Selection.select [anna, carl, berta] request = .ok (anna, 0) ∧
    anna.identity ∉ request.excluded ∧
    Selection.drawIndex [(anna, 0), (berta, 2)] { seed := some "t" } = 1 ∧
    Selection.drawIndex [(anna, 0), (berta, 2)] { seed := some "t:retry1" } = 0 ∧
    (Selection.select [anna, berta] request).toOption.map (·.1) = some anna ∧
    Selection.select [carl, berta] request = .error (.allExcluded 3 1) ∧
    Selection.select [anna, carl, berta] { request with excluded := [carl.identity] }
      = .ok (berta, 2) := by
  obtain ⟨houtcome, _, _, hdrawn, hweights, hretry, hsound, _, _, hrejected⟩ :=
    Selection.select_outcome [anna, carl, berta] request
  have hsome : Selection.candidates request.clause [anna, carl, berta] ≠ [] :=
    List.cons_ne_nil _ _
  have hselect : Selection.select [anna, carl, berta] request = .ok (anna, 0) := by
    have hanna := hdrawn [(anna, 0), (berta, 2)] hsome (request.toDraws.forRetry 1)
    rw [second_draw] at hanna
    rw [(houtcome _).mpr (.settled hsome (List.cons_ne_nil _ _) 1 settlesAt_one)]
    exact congrArg Except.ok (Option.some.inj hanna).symm
  have hcarl : [anna, carl, berta].filter request.clause.admits
      = [anna, berta].filter request.clause.admits := rfl
  obtain ⟨_, _, _, _, _, _, _, hall, _, _⟩ := Selection.select_outcome [carl, berta] request
  obtain ⟨houtcome', _, _, _, _, _, _, _, _, _⟩ :=
    Selection.select_outcome [anna, carl, berta] { request with excluded := [] }
  obtain ⟨_, _, _, _, _, _, _, _, hfresh, _⟩ :=
    Selection.select_outcome [anna, carl, berta] { request with excluded := [carl.identity] }
  refine ⟨hselect, (hsound _ hselect).2.2, ?_, ?_, ?_, ?_, ?_⟩
  · rw [hweights _ _ "t" rfl]
    decide +kernel
  · exact (hretry _ "t" 1 rfl).symm.trans second_draw
  · rw [← hrejected _ hcarl, hselect]
    rfl
  · have hcandidates : Selection.candidates request.clause [carl, berta] = [(berta, 1)] := rfl
    refine hall (by simp [hcandidates]) fun c hc => ?_
    rw [hcandidates, List.mem_singleton] at hc
    subst hc
    exact List.mem_singleton_self _
  · have hberta := hdrawn [(anna, 0), (berta, 2)] hsome (request.toDraws.forRetry 0)
    rw [first_draw] at hberta
    have hplain : Selection.select [anna, carl, berta] { request with excluded := [] }
        = .ok (berta, 2) := by
      rw [(houtcome' _).mpr (@Selection.Outcome.drawn _ { request with excluded := [] } hsome rfl)]
      exact congrArg Except.ok (Option.some.inj hberta).symm
    exact (hfresh _ hplain (by decide +kernel)).1 (by decide)

end Raffle

end TextRecipes
