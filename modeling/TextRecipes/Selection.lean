import TextRecipes.Clause
import TextRecipes.Seed

/-!
# Selecting an item

The items that a clause admits are the candidates, and one of them is drawn by weight. If some
identities are excluded, the draw is repeated with the seeds of further attempts until a
candidate with another identity comes up, or until the attempts run out.

The draw walks along the candidates and subtracts each weight from a point between zero and the
sum of the weights. The walk ends at the last candidate whatever the weights are, so a draw is
always a position of the list (`weightedIndex_lt`).
-/

namespace TextRecipes

inductive SelectionError where
  /-- There are no items. -/
  | noItems
  /-- The clause admits none of the items. -/
  | noMatch (clause : Clause) (items : Nat)
  /-- Every attempt gave one of the excluded identities. -/
  | allExcluded (attempts excluded : Nat)
deriving DecidableEq, Inhabited

def SelectionError.message : SelectionError → String
  | noItems => "no candidates to select from"
  | noMatch clause items =>
    "filter " ++ clause.display ++ " matched none of " ++ toString items ++ " candidates"
  | allExcluded attempts excluded =>
    "no candidate distinct from " ++ toString excluded ++ " previous selections after "
      ++ toString attempts ++ " attempts"

structure SelectionRequest extends Draws where
  clause : Clause := {}
  /-- The identities that must not come up again, each listed once. -/
  excluded : List Identity := []
  /-- How often the draw is made. -/
  attempts : Nat := 20
deriving Inhabited

namespace Selection

/-- An item with its position in the catalog. -/
abbrev Candidate := Item × Nat

def candidates (clause : Clause) (items : List Item) : List Candidate :=
  items.zipIdx.filter fun c => clause.admits c.1

/-- The position that a walk from `point` ends at: the first weight that takes it to zero or
below, or the last one. -/
def weightedIndex (point : Float) : List Float → Nat
  | [] => 0
  | [_] => 0
  | w :: w' :: rest => if point - w ≤ 0 then 0 else weightedIndex (point - w) (w' :: rest) + 1

/-- A walk along at least one weight ends at a position of the list. -/
theorem weightedIndex_lt (point : Float) {weights : List Float} (h : weights ≠ []) :
    weightedIndex point weights < weights.length := by
  induction weights generalizing point with
  | nil => exact absurd rfl h
  | cons w rest ih =>
    match rest with
    | [] => simp [weightedIndex]
    | w' :: rest =>
      rw [weightedIndex]
      split
      · simp
      · have := ih (point - w) (by simp)
        simpa using this

def weights (cs : List Candidate) : List Float := cs.map (·.1.effectiveWeight)

def drawIndex (cs : List Candidate) (draws : Draws) : Nat :=
  weightedIndex (draws.unit * (weights cs).foldl (· + ·) 0) (weights cs)

theorem drawIndex_lt {cs : List Candidate} (h : cs ≠ []) (draws : Draws) :
    drawIndex cs draws < cs.length := by
  have hne : weights cs ≠ [] := by simpa [weights] using h
  have := weightedIndex_lt (draws.unit * (weights cs).foldl (· + ·) 0) hne
  simpa [drawIndex, weights] using this

def draw (cs : List Candidate) (h : cs ≠ []) (draws : Draws) : Candidate :=
  cs.get ⟨drawIndex cs draws, drawIndex_lt h draws⟩

/-- The first draw that is not excluded, from attempt `attempt` on and with `left` attempts
left. -/
def firstFresh (excluded : List Identity) (drawn : Nat → Candidate) (attempt : Nat) :
    (left : Nat) → Option Candidate
  | 0 => none
  | left + 1 =>
    let c := drawn attempt
    if excluded.contains c.1.identity then firstFresh excluded drawn (attempt + 1) left
    else some c

/-- The item selected from a list, with its position in the list. -/
def select (items : List Item) (request : SelectionRequest) : Except SelectionError Candidate :=
  if items.isEmpty then .error .noItems
  else
    let cs := candidates request.clause items
    if h : cs = [] then .error (.noMatch request.clause items.length)
    else if request.excluded.isEmpty then .ok (draw cs h request.toDraws)
    else
      let exhausted := .error (.allExcluded request.attempts request.excluded.length)
      if cs.all fun c => request.excluded.contains c.1.identity then exhausted
      else
        let drawn := fun attempt => draw cs h (request.toDraws.forRetry attempt)
        match firstFresh request.excluded drawn 0 request.attempts with
        | some c => .ok c
        | none => exhausted

end Selection

end TextRecipes
