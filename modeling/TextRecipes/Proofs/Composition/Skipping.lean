import TextRecipes.Engine
import TextRecipes.Proofs.Composition.Attempt
import TextRecipes.Proofs.Composition.Trace

/-!
# Blocks that are left out

A block that is reached may be left out: because its component is switched off, because it is
optional and fails, because it agrees with nothing and its fallback is to be skipped, or because it
is a fixed text that waits for an alias without a part (`Scene.Skips`). All four come to the same.
The run goes on with the tokens and bindings that it has, and since the draws of a block depend on
its index only, every later block draws what it would have drawn (`compose_skips`). A fixed text
that is empty in all locales is such a block for everybody, so it can stand for any of them.
-/

namespace TextRecipes

theorem Progress.add_nothing (progress : Progress) : progress.add .nothing = progress := by
  simp [add, Step.nothing]

namespace Block

/-- Whether a block resolves to a part that it shows and binds. -/
def selects : Block → Bool
  | select _ => true
  | generate _ => true
  | phrase _ (.select _) => true
  | _ => false

/-- Whether a failure leaves the block out. -/
def outlastsFailure : Block → Bool
  | select block => block.options.isOptional
  | generate block => block.canBeLeftOut && block.options.isOptional
  | phrase _ (.select block) => block.options.isOptional
  | _ => false

end Block

namespace Scene

/-- The run leaves out a block that it comes to at `index` with `progress`. -/
inductive Skips (scene : Scene) (index : Nat) (progress : Progress) : Block → Prop where
  /-- Its component is switched off. -/
  | switchedOff (block : Block) (hoff : scene.passesOver block = true) :
      Skips scene index progress block
  /-- It is optional and fails. -/
  | failed (block : Block) (e : ComposeError) (hoptional : block.outlastsFailure = true)
      (hfails : scene.attempt progress.parts (scene.forBlock index) block = .error e) :
      Skips scene index progress block
  /-- Nothing agrees, and then it is to be skipped. -/
  | disagreed (block : Block) (asked : CatalogRequest) (catalog : Catalog) (agreement : Agreement)
      (e : ComposeError) (hasked : scene.request? block = some asked)
      (hfound : scene.findCatalog asked.key = .ok catalog)
      (hagree : asked.agreement = some agreement) (hskip : agreement.fallback = some .skip)
      (hfails : pick catalog asked progress.parts (block.selectionDraws (scene.forBlock index))
        ((scene.narrow asked.key asked.clause).merge (agreement.clause progress.parts)) = .error e) :
      Skips scene index progress block
  /-- It is a fixed text and waits for an alias without a part. -/
  | waiting (text : LocalizedText) (options : BlockOptions) (name : String)
      (hwaits : options.optionalWith = some name)
      (hunbound : progress.parts.contains name = false) :
      Skips scene index progress (.literal text options)

variable {scene : Scene} {parts : Parts} {draws : Draws} {index : Nat} {progress : Progress}
  {block other : Block} {first rest : Pattern}

/-! ## Steps that contribute nothing -/

/-- A block that selects nothing writes nothing and binds nothing. -/
theorem step_of_resolve_none (hselects : block.selects = true)
    (h : scene.resolve parts draws block = .ok none) :
    scene.step parts draws block = .ok .nothing := by
  cases block with
  | select block =>
      have hresolve : scene.resolveSelect parts draws block = .ok none := h
      simp only [step, hresolve]
      rfl
  | generate block =>
      have hresolve : scene.resolveGenerate parts draws block = .ok none := h
      simp only [step, hresolve]
      rfl
  | phrase _ target =>
      cases target with
      | bound _ => cases hselects
      | select block =>
          have hresolve : scene.resolveSelect parts draws.forPhrase block = .ok none := h
          simp only [step, phraseStep, hresolve]
  | literal _ _ => cases hselects
  | reference _ => cases hselects

/-- Only a block that selects can outlast a failure. -/
theorem selects_of_outlastsFailure (h : block.outlastsFailure = true) : block.selects = true := by
  cases block with
  | select _ => rfl
  | generate _ => rfl
  | phrase _ target =>
      cases target with
      | bound _ => cases h
      | select _ => rfl
  | literal _ _ => cases h
  | reference _ => cases h

/-! ## Failures -/

theorem leaveOut_of_error {options : BlockOptions} {e : ComposeError}
    (h : options.isOptional = true) : leaveOut options (.error e) = .ok none := by
  simp [leaveOut, h]

/-- An optional block that fails is left out. -/
theorem resolve_of_failure {e : ComposeError} (hoptional : block.outlastsFailure = true)
    (h : scene.attempt parts draws block = .error e) :
    scene.resolve parts draws block = .ok none := by
  cases block with
  | select block =>
      have hattempt : scene.attemptSelect parts draws block = .error e := h
      rw [resolve, resolveSelect, hattempt]
      exact leaveOut_of_error hoptional
  | generate block =>
      have hattempt : scene.attemptGenerate parts draws block = .error e := h
      obtain ⟨hleft, hoptional⟩ := (Bool.and_eq_true _ _).mp hoptional
      rw [resolve, resolveGenerate, hattempt, if_pos hleft]
      exact leaveOut_of_error hoptional
  | phrase _ target =>
      cases target with
      | bound _ => cases hoptional
      | select block =>
          have hattempt : scene.attemptSelect parts draws.forPhrase block = .error e := h
          rw [resolve, resolveSelect, hattempt]
          exact leaveOut_of_error hoptional
  | literal _ _ => cases hoptional
  | reference _ => cases hoptional

/-! ## Requests that agree with nothing -/

theorem selects_of_request? {asked : CatalogRequest} (h : scene.request? block = some asked) :
    block.selects = true := by
  cases asks_of_request? h <;> rfl

/-- A selection that agrees with nothing comes to no part, if its fallback is to be skipped. -/
theorem selectFromCatalog_of_disagreed {asked : CatalogRequest} {catalog : Catalog}
    {agreement : Agreement} {e : ComposeError} (hfound : scene.findCatalog asked.key = .ok catalog)
    (hagree : asked.agreement = some agreement) (hskip : agreement.fallback = some .skip)
    (hfails : pick catalog asked parts draws
      ((scene.narrow asked.key asked.clause).merge (agreement.clause parts)) = .error e) :
    scene.selectFromCatalog parts draws asked = .ok none := by
  simp only [selectFromCatalog, hfound, hagree, pickAgreeing, hfails, hskip]

/-- **A block that is left out changes nothing.** -/
theorem Skips.advance (h : scene.Skips index progress block) :
    scene.advance index progress block = .ok progress := by
  -- a block may be switched off and fail as well, so whether it is passed over is asked first
  by_cases hover : scene.passesOver block = true
  · rw [Scene.advance, if_pos hover]
  suffices hstep : scene.step progress.parts (scene.forBlock index) block = .ok .nothing by
    rw [Scene.advance, if_neg hover, hstep]
    exact congrArg Except.ok progress.add_nothing
  cases h with
  | switchedOff _ hoff => exact absurd hoff hover
  | failed _ e hoptional hfails =>
      have hselects := selects_of_outlastsFailure hoptional
      exact step_of_resolve_none hselects (resolve_of_failure hoptional hfails)
  | disagreed _ asked catalog agreement e hasked hfound hagree hskip hfails =>
      have hattempt : scene.attempt progress.parts (scene.forBlock index) block = .ok none := by
        rw [attempt_of_request? hasked,
          selectFromCatalog_of_disagreed hfound hagree hskip hfails]
      exact step_of_resolve_none (selects_of_request? hasked) (resolve_of_attempt_eq_ok hattempt)
  | waiting text options name hwaits hunbound =>
      simp [step, literalStep, hwaits, hunbound]

/-- A fixed text that is empty in all locales contributes nothing, whatever its options say. -/
theorem advance_emptyLiteral (options : BlockOptions) :
    scene.advance index progress (.literal .empty options) = .ok progress := by
  by_cases hover : scene.passesOver (.literal .empty options) = true
  · rw [advance, if_pos hover]
  have hstep : scene.literalStep progress.parts .empty options = .nothing := by
    unfold literalStep
    dsimp only
    split <;> split <;> rfl
  rw [advance, if_neg hover, step, hstep]
  exact congrArg Except.ok progress.add_nothing

/-! ## Runs that differ in one block -/

section

variable (hbefore : scene.runFrom 0 {} first = .ok progress)
  (hsame : scene.advance first.length progress block
    = scene.advance first.length progress other)
include hbefore hsame

/-- A block counts for the run by what it makes of the progress. -/
theorem runFrom_replace (rest : Pattern) :
    scene.runFrom 0 {} (first ++ [block] ++ rest)
      = scene.runFrom 0 {} (first ++ [other] ++ rest) := by
  rw [List.append_assoc, List.append_assoc, runFrom_append, runFrom_append, hbefore]
  simp only [Except.bind, List.singleton_append, runFrom, Nat.zero_add, hsame]

/-- A block that leaves the progress alone may be put in place of another, and all blocks behind it
are reached as before. -/
theorem reaches_replace (rest : Pattern) {later : Nat} (hlater : first.length < later)
    {progress' : Progress} {block' : Block} :
    scene.Reaches (first ++ [block] ++ rest) later progress' block' ↔
      scene.Reaches (first ++ [other] ++ rest) later progress' block' := by
  have hlength : ∀ b : Block, (first ++ [b]).length = first.length + 1 := by
    intro b
    rw [List.length_append, List.length_singleton]
  have hget : ∀ b : Block, (first ++ [b] ++ rest)[later]? = rest[later - (first.length + 1)]? := by
    intro b
    rw [List.getElem?_append_right (hlength b ▸ hlater), hlength]
  have htake : ∀ b : Block, (first ++ [b] ++ rest).take later
      = first ++ [b] ++ rest.take (later - (first.length + 1)) := by
    intro b
    rw [List.take_append, List.take_of_length_le (hlength b ▸ hlater), hlength]
  -- what comes before the later block differs in the one block only
  have hrun := runFrom_replace hbefore hsame (rest.take (later - (first.length + 1)))
  constructor
  · rintro ⟨hblock, hreached⟩
    rw [hget] at hblock
    rw [htake, hrun] at hreached
    exact ⟨(hget other).trans hblock, by rw [htake, hreached]⟩
  · rintro ⟨hblock, hreached⟩
    rw [hget] at hblock
    rw [htake, ← hrun] at hreached
    exact ⟨(hget block).trans hblock, by rw [htake, hreached]⟩

end

/-- **A block that is left out is neutral.** The pattern makes the composition that it makes with an
empty fixed text in its place, or fails with the same error at the same block, and the run comes to
every later block with the same progress and at the same index, so with the same draws. -/
theorem compose_skips (scene : Scene) (first : Pattern) (block : Block) (rest : Pattern)
    (progress : Progress) (options : BlockOptions)
    (hbefore : scene.runFrom 0 {} first = .ok progress)
    (hskips : scene.Skips first.length progress block) :
    scene.compose (first ++ [block] ++ rest)
        = scene.compose (first ++ [.literal .empty options] ++ rest) ∧
      ∀ later progress' block', first.length < later →
        (scene.Reaches (first ++ [block] ++ rest) later progress' block' ↔
          scene.Reaches (first ++ [.literal .empty options] ++ rest) later progress' block') := by
  have hsame : scene.advance first.length progress block
      = scene.advance first.length progress (.literal .empty options) := by
    rw [hskips.advance, advance_emptyLiteral]
  constructor
  · rw [compose, compose, runFrom_replace hbefore hsame]
  · intro later progress' block' hlater
    exact reaches_replace hbefore hsame rest hlater

end Scene

/-! ## A proclamation

Anna is named, and then four blocks are left out, one in each way. The feud is a recipe that fails
at its second block, the only title is a duke's, nobody has a seat, and the crest is switched off. -/

namespace Proclamation

def anna : Item := { text := .ofPairs [("en", "Anna")], tags := .ofList ["female"] }

def duke : Item := { text := .ofPairs [("en", "Duke")], tags := .ofList ["male"] }

def lion : Item := { text := .ofPairs [("en", "lion")] }

def person : Block := .select { key := "persons", bindAs := some "Person" }

def feud : Block :=
  .generate { source := .recipe, key := some "feud", options := { isOptional := true } }

def agreement : Agreement where
  source := "Person"
  features := [.tags ["female", "male"]]
  fallback := some .skip

def title : Block := .select { key := "titles", options := { agreeWith := some agreement } }

def seat : Block := .literal (.ofPairs [("en", "of")]) { optionalWith := some "Seat" }

def crest : Block :=
  .select { key := "crests", options := { isOptional := true, componentKey := some "crest" } }

def oath : Block := .literal (.ofPairs [("en", "swears")]) {}

def engine : Engine where
  catalogs := .ofPairs
    [("persons", ⟨[anna]⟩), ("titles", ⟨[duke]⟩), ("crests", ⟨[lion]⟩)]
  recipes := .ofPairs
    [("feud", ⟨"feud", [.literal (.ofPairs [("en", "foe of")]) {}, .select { key := "foes" }]⟩)]
  maxDepth := some 1

def scene : Scene :=
  engine.scene engine.run
    { id := "proclamation", locale := "en", components := some (.ofPairs [("crest", false)]) }

/-- The proclamation after the person. -/
def named : Progress where
  tokens := ["Anna"]
  parts := ⟨[("Person", .item anna)], by decide⟩

def result : Composition := ⟨"Anna swears", ⟨[("Person", .item anna)], by decide⟩⟩

theorem feud_skipped : scene.Skips 1 named feud := .failed feud _ rfl rfl

theorem title_skipped : scene.Skips 1 named title :=
  .disagreed title _ ⟨[duke]⟩ agreement _ rfl rfl rfl rfl rfl

theorem seat_skipped : scene.Skips 1 named seat := .waiting _ _ "Seat" rfl rfl

theorem crest_skipped : scene.Skips 1 named crest := .switchedOff crest rfl

/-- Whichever of the four is left out, the oath comes next, as behind an empty literal. -/
theorem left_out_neutral : scene.runFrom 0 {} [person] = .ok named ∧
    ∀ block ∈ [feud, title, seat, crest], scene.Skips 1 named block ∧
      scene.compose ([person] ++ [block] ++ [oath]) = .ok result ∧
      scene.compose ([person] ++ [block] ++ [oath])
        = scene.compose ([person] ++ [.literal .empty {}] ++ [oath]) := by
  have hbefore : scene.runFrom 0 {} [person] = .ok named := rfl
  have hempty : scene.compose ([person] ++ [.literal .empty {}] ++ [oath]) = .ok result := rfl
  refine ⟨hbefore, fun block hblock => ?_⟩
  have hskips : scene.Skips 1 named block := by
    simp only [List.mem_cons, List.not_mem_nil, or_false] at hblock
    rcases hblock with rfl | rfl | rfl | rfl
    · exact feud_skipped
    · exact title_skipped
    · exact seat_skipped
    · exact crest_skipped
  obtain ⟨hsame, _⟩ := Scene.compose_skips scene [person] block [oath] named {} hbefore hskips
  exact ⟨hskips, hsame.trans hempty, hsame⟩

end Proclamation

end TextRecipes
