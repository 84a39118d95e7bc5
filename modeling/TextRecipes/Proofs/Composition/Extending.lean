import TextRecipes.Proofs.AliasTable
import TextRecipes.Proofs.Composition.Skipping
import TextRecipes.Proofs.Text.Joining

/-!
# Patterns that go on

A run of two patterns in turn is the run of the first and then, with the progress and the index that
this ends with, the run of the second. So the first comes to the same as without the second: where
it fails, both fail (`compose_append_eq_error`), and where both succeed, it does, too. What the
second adds is a table of aliases that begins with those of the first (`aliases_runFrom`), other
parts for those aliases only that its own blocks declare (`get?_runFrom_or_redeclares`), and its
tokens (`tokens_runFrom`).
-/

namespace TextRecipes

/-! ## Tables -/

namespace Parts

/-- A binding leaves the aliases that are there where they are. -/
theorem aliases_insertAll (parts : Parts) (binding : Option (String × Part)) :
    parts.aliases <+: (parts.insertAll binding.toList).aliases := by
  cases binding with
  | none => exact List.prefix_rfl
  | some binding =>
      obtain ⟨name, part⟩ := binding
      rw [Option.toList_some, insertAll_cons, insertAll_nil, aliases_insert]
      split
      · exact List.prefix_rfl
      · exact List.prefix_append _ _

end Parts

namespace Scene

variable {scene : Scene} {index : Nat} {progress after middle final : Progress} {block : Block}
  {pattern first rest : Pattern} {name : String}

theorem aliases_advance (h : scene.advance index progress block = .ok after) :
    progress.parts.aliases <+: after.parts.aliases := by
  rcases advance_eq_ok h with ⟨_, rfl⟩ | ⟨_, step, _, rfl⟩
  · exact List.prefix_rfl
  · exact progress.parts.aliases_insertAll step.binding

/-- **A run adds aliases at the end of the table only.** -/
theorem aliases_runFrom (h : scene.runFrom index progress pattern = .ok final) :
    progress.parts.aliases <+: final.parts.aliases := by
  induction pattern generalizing index progress with
  | nil =>
      cases h
      exact List.prefix_rfl
  | cons block rest ih =>
      obtain ⟨after, hadvance, hrest⟩ := runFrom_cons_eq_ok h
      exact (aliases_advance hadvance).trans (ih hrest)

/-! ## Tokens -/

/-- The token of a block that a run comes to at `index` with `progress`. -/
def token? (scene : Scene) (index : Nat) (progress : Progress) (block : Block) : Option String :=
  if scene.passesOver block then none
  else (scene.step progress.parts (scene.forBlock index) block).toOption.bind (·.token)

/-- The tokens of the blocks of a pattern, the first of them at `index`. -/
def tokensFrom (scene : Scene) (index : Nat) (progress : Progress) : Pattern → List String
  | [] => []
  | block :: rest =>
    match scene.advance index progress block with
    | .ok after =>
      (scene.token? index progress block).toList ++ scene.tokensFrom (index + 1) after rest
    | .error _ => []

theorem tokens_advance (h : scene.advance index progress block = .ok after) :
    after.tokens = progress.tokens ++ (scene.token? index progress block).toList := by
  rcases advance_eq_ok h with ⟨hover, rfl⟩ | ⟨hruns, step, hstep, rfl⟩
  · simp [token?, hover]
  · simp [token?, hruns, hstep, Except.toOption, Progress.add]

/-- **A run adds the tokens of its blocks**, and adds them at the end. -/
theorem tokens_runFrom (h : scene.runFrom index progress pattern = .ok final) :
    final.tokens = progress.tokens ++ scene.tokensFrom index progress pattern := by
  induction pattern generalizing index progress with
  | nil =>
      cases h
      exact (List.append_nil _).symm
  | cons block rest ih =>
      obtain ⟨after, hadvance, hrest⟩ := runFrom_cons_eq_ok h
      rw [ih hrest, tokens_advance hadvance, tokensFrom, hadvance, List.append_assoc]

/-! ## Parts -/

/-- In the run of two patterns in turn, a block of the second declares `name` and is not left
out. -/
def Redeclares (scene : Scene) (first rest : Pattern) (name : String) : Prop :=
  ∃ later progress block, rest[later]? = some block ∧
    scene.Reaches (first ++ rest) (first.length + later) progress block ∧
    ¬ scene.Skips (first.length + later) progress block ∧ block.bindAs? = some name

theorem reaches_head (hfirst : scene.runFrom 0 {} first = .ok progress) :
    scene.Reaches (first ++ block :: rest) first.length progress block where
  block_at := by simp
  before := by rw [List.take_left, hfirst]

/-- A block that joins the blocks before is no longer among those that may declare the alias. -/
theorem Redeclares.of_concat (h : scene.Redeclares (first ++ [block]) rest name) :
    scene.Redeclares first (block :: rest) name := by
  obtain ⟨later, progress, declaring, hdeclaring, hreached, hkept, hdeclares⟩ := h
  have hplace : (first ++ [block]).length + later = first.length + (later + 1) := by
    rw [List.length_append, List.length_singleton, Nat.add_assoc, Nat.add_comm 1]
  rw [hplace] at hreached hkept
  rw [← List.append_cons] at hreached
  exact ⟨later + 1, progress, declaring, hdeclaring, hreached, hkept, hdeclares⟩

/-- **A part stays as it is** unless a block that is not left out declares its alias. The induction
is on the second pattern, and each of its blocks joins the first as it is run. -/
theorem get?_runFrom_or_redeclares (hfirst : scene.runFrom 0 {} first = .ok middle)
    (hrest : scene.runFrom first.length middle rest = .ok final) (name : String) :
    final.parts.get? name = middle.parts.get? name ∨ scene.Redeclares first rest name := by
  induction rest generalizing first middle with
  | nil =>
      cases hrest
      exact .inl rfl
  | cons block rest ih =>
      obtain ⟨after, hadvance, hafter⟩ := runFrom_cons_eq_ok hrest
      by_cases hdeclares : ¬ scene.Skips first.length middle block ∧ block.bindAs? = some name
      · exact .inr ⟨0, middle, block, rfl, reaches_head hfirst, hdeclares.1, hdeclares.2⟩
      have hsame : after.parts.get? name = middle.parts.get? name := by
        by_cases hskips : scene.Skips first.length middle block
        · rw [hskips.advance] at hadvance
          cases hadvance
          rfl
        · exact get?_advance_of_not_declared hadvance fun hdeclared =>
            hdeclares ⟨hskips, hdeclared⟩
      have hlength : (first ++ [block]).length = first.length + 1 := by simp
      rcases ih (runFrom_concat hfirst hadvance) (hlength ▸ hafter) with hget | hredeclares
      · exact .inl (hget.trans hsame)
      · exact .inr hredeclares.of_concat

/-! ## Two patterns in turn -/

theorem compose_append_eq_error {e : ComposeError} (h : scene.compose first = .error e)
    (rest : Pattern) : scene.compose (first ++ rest) = .error e := by
  have hfirst : scene.runFrom 0 {} first = .error e := except_map_eq_error h
  rw [compose, runFrom_append, hfirst]
  rfl

/-- The text of a run is joined from the text that it had at some point and from the tokens since
then. -/
theorem text_finish_runFrom (h : scene.runFrom index progress pattern = .ok final) :
    final.finish.text
      = Text.join (progress.finish.text :: scene.tokensFrom index progress pattern) := by
  have hjoin := Text.join_around [] progress.tokens (scene.tokensFrom index progress pattern)
  rw [List.nil_append, List.nil_append, List.singleton_append] at hjoin
  rw [Progress.finish, tokens_runFrom h, ← hjoin]
  rfl

/-- **A pattern is not changed by what comes after it.** If it fails, then it fails with the same
error when it goes on. If it succeeds when it goes on, then it succeeds by itself, and its table is
the beginning of the whole table: the aliases come first and in the same order, each with its part
unless a later block that is not left out declares it, and every other alias is declared by a later
block. The whole text is joined from the text of the pattern and from the tokens of the later
blocks. -/
theorem compose_append (scene : Scene) (first rest : Pattern) :
    (∀ e, scene.compose first = .error e → scene.compose (first ++ rest) = .error e) ∧
    ∀ result, scene.compose (first ++ rest) = .ok result →
      ∃ middle, scene.runFrom 0 {} first = .ok middle ∧
        scene.compose first = .ok middle.finish ∧
        middle.parts.aliases <+: result.parts.aliases ∧
        (∀ name part, middle.parts.get? name = some part →
          result.parts.get? name = some part ∨ scene.Redeclares first rest name) ∧
        (∀ name, result.parts.contains name = true → middle.parts.contains name = false →
          scene.Redeclares first rest name) ∧
        result.text
          = Text.join (middle.finish.text :: scene.tokensFrom first.length middle rest) := by
  constructor
  · intro e he
    exact compose_append_eq_error he rest
  · intro result hresult
    obtain ⟨final, hrun, rfl⟩ := compose_eq_ok hresult
    obtain ⟨middle, hfirst, hrest⟩ := runFrom_append_eq_ok hrun
    rw [Nat.zero_add] at hrest
    refine ⟨middle, hfirst, by rw [compose, hfirst]; rfl, aliases_runFrom hrest, ?_, ?_,
      text_finish_runFrom hrest⟩
    · intro name part hpart
      rcases get?_runFrom_or_redeclares hfirst hrest name with hget | hredeclares
      · exact .inl (hget.trans hpart)
      · exact .inr hredeclares
    · intro name hbound hunbound
      rcases get?_runFrom_or_redeclares hfirst hrest name with hget | hredeclares
      · have hboth : final.parts.contains name = middle.parts.contains name :=
          congrArg Option.isSome hget
        rw [hunbound] at hboth
        exact absurd (hbound.symm.trans hboth) (by decide)
      · exact hredeclares

end Scene

/-! ## A welcome

Anna is met at the gate, and in the hall Berta takes her place as the guest. There is nobody in the
cellar. -/

namespace Welcome

def anna : Item := { text := .ofPairs [("en", "Anna")] }

def berta : Item := { text := .ofPairs [("en", "Berta")] }

def scene : Scene where
  catalogs := .ofPairs [("gate", ⟨[anna]⟩), ("hall", ⟨[berta]⟩)]
  rules := {}
  locale := "en"

def gate : Pattern := [.select { key := "gate", bindAs := some "Guest" }]

def hall : Pattern :=
  [.literal (.ofPairs [("en", " , and then")]) {},
    .select { key := "hall", bindAs := some "Guest" }, .literal (.ofPairs [("en", " !")]) {}]

def cellar : Pattern := [.select { key := "cellar" }]

/-- The welcome after the gate. -/
def met : Progress where
  tokens := ["Anna"]
  parts := ⟨[("Guest", .item anna)], by decide⟩

def failure : ComposeError := .inBlock 0 (.catalogNotFound "cellar" ["gate", "hall"])

def result : Composition := ⟨"Anna, and then Berta!", ⟨[("Guest", .item berta)], by decide⟩⟩

theorem guest_redeclared : scene.compose (gate ++ hall) = .ok result ∧
    scene.runFrom 0 {} gate = .ok met ∧ met.parts.get? "Guest" = some (.item anna) ∧
    scene.Redeclares gate hall "Guest" ∧
    result.text = Text.join (met.finish.text :: scene.tokensFrom gate.length met hall) ∧
    scene.compose cellar = .error failure ∧ scene.compose (cellar ++ hall) = .error failure := by
  obtain ⟨_, hextends⟩ := Scene.compose_append scene gate hall
  obtain ⟨hfails, _⟩ := Scene.compose_append scene cellar hall
  have hresult : scene.compose (gate ++ hall) = .ok result := rfl
  have hcellar : scene.compose cellar = .error failure := rfl
  obtain ⟨middle, hgate, _, _, hparts, _, htext⟩ := hextends result hresult
  obtain rfl : met = middle := Except.ok.inj hgate
  refine ⟨hresult, hgate, rfl, ?_, htext, hcellar, hfails failure hcellar⟩
  -- another guest is bound in the end, so the hall has declared the alias
  rcases hparts "Guest" (.item anna) rfl with hsame | hredeclares
  · have hname : some "Berta" = some "Anna" :=
      congrArg (fun part => part.bind fun p => p.text? "en") hsame
    exact absurd hname (by decide)
  · exact hredeclares

end Welcome

end TextRecipes
