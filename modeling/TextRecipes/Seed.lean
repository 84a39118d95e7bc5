import TextRecipes.Random.Hash
import TextRecipes.Random.Keystream

/-!
# Seeds and draws

A seed is a text, and every place of a run where something is drawn has a seed of its own: the
seed of the run, followed by the steps that lead to the place (`seed:b3`, `seed:b3:retry2`). The
hash of the text keys the generator, and only the generator's first number is used.

A run without a seed may draw anything: chance has a number for each of its places. What chance
gives is an input of the run like any other, so a statement about all runs covers whatever may
be drawn.
-/

namespace TextRecipes

namespace Seed

def derive (seed : Option String) (step : String) : Option String :=
  seed.map fun s => s ++ ":" ++ step

def blockStep (index : Nat) : String := "b" ++ toString index

def retryStep (attempt : Nat) : String := "retry" ++ toString attempt

def variantStep (index : Nat) : String := "v" ++ toString index

def phraseStep : String := "pp"

def forBlock (seed : Option String) (index : Nat) : Option String := derive seed (blockStep index)

/-- The seed of attempt `attempt` of a draw. The first attempt uses the seed itself. -/
def forRetry (seed : Option String) (attempt : Nat) : Option String :=
  if attempt = 0 then seed else derive seed (retryStep attempt)

def number (seed : String) (i : Nat) : UInt64 := Random.draw (Random.hash seed) i

/-- The draw from `[0, 1)` that a seed stands for, and without a seed the one that `chance`
stands for. -/
def unit (seed : Option String) (chance : UInt64 := 0) : Float :=
  match seed with
  | some s => Random.fraction (number s 0)
  | none => Random.fraction chance

def index (seed : Option String) (count : Nat) (chance : UInt64 := 0) : Nat :=
  match seed with
  | some s => (Random.hash s).toNat % count
  | none => chance.toNat % count

/-- A draw among at least one is in range. -/
theorem index_lt (seed : Option String) {count : Nat} (chance : UInt64) (h : 0 < count) :
    index seed count chance < count := by
  unfold index
  split <;> exact Nat.mod_lt _ h

end Seed

/-! ## Draws -/

/-- What chance gives at the places of a run, a place being the steps that lead to it. -/
abbrev Chance := List String → UInt64

/-- Where the draws of a run come from: the seed, or chance if there is no seed. -/
structure Draws where
  seed : Option String := none
  chance : Chance := fun _ => 0
deriving Inhabited

namespace Draws

/-- The draws one step further down. Where there is a seed, chance has no part in them. -/
def derive (draws : Draws) (step : String) : Draws where
  seed := Seed.derive draws.seed step
  chance := if draws.seed.isSome then fun _ => 0 else fun place => draws.chance (step :: place)

def forBlock (draws : Draws) (index : Nat) : Draws := draws.derive (Seed.blockStep index)

def forRetry (draws : Draws) (attempt : Nat) : Draws :=
  if attempt = 0 then draws else draws.derive (Seed.retryStep attempt)

def forPhrase (draws : Draws) : Draws := draws.derive Seed.phraseStep

def forVariant (draws : Draws) (index : Nat) : Draws := draws.derive (Seed.variantStep index)

/-- The draws of a second selection at the same place: a seed gives the same once more, chance
need not. -/
def again (draws : Draws) : Draws :=
  { draws with chance := fun place => draws.chance ("again" :: place) }

def unit (draws : Draws) : Float := Seed.unit draws.seed (draws.chance [])

def index (draws : Draws) (count : Nat) : Nat := Seed.index draws.seed count (draws.chance [])

@[simp] theorem seed_derive (draws : Draws) (step : String) :
    (draws.derive step).seed = Seed.derive draws.seed step := rfl

@[simp] theorem seed_forBlock (draws : Draws) (index : Nat) :
    (draws.forBlock index).seed = Seed.forBlock draws.seed index := rfl

@[simp] theorem seed_forRetry (draws : Draws) (attempt : Nat) :
    (draws.forRetry attempt).seed = Seed.forRetry draws.seed attempt := by
  unfold forRetry Seed.forRetry
  split <;> rfl

theorem index_lt (draws : Draws) {count : Nat} (h : 0 < count) : draws.index count < count :=
  Seed.index_lt draws.seed (draws.chance []) h

end Draws

end TextRecipes
