import TextRecipes.Composition.Run

/-!
# What a block resolves to

A step treats five kinds of block, but for the bindings and the failures of a run only one thing
counts: the part that the block resolves to. `Scene.resolve` is that part for all kinds of block
alike, and `Scene.attempt` the part before a failure may leave the block out. A step binds what
its block resolves to and fails as its block does (`step_map_binding`), and leaving out is all
that lies between an attempt and what it resolves to (`resolve_eq_attempt_or`).
-/

namespace TextRecipes

theorem except_map_eq_ok {ε α β : Type} {f : α → β} {x : Except ε α} {b : β}
    (h : x.map f = .ok b) : ∃ a, x = .ok a ∧ f a = b := by
  cases x with
  | error e => cases h
  | ok a => exact ⟨a, rfl, Except.ok.inj h⟩

theorem except_map_eq_error {α β : Type} {f : α → β} {x : Except ComposeError α}
    {e : ComposeError} (h : x.map f = .error e) : x = .error e := by
  cases x with
  | error f => exact congrArg Except.error (Except.error.inj h)
  | ok a => cases h

theorem except_map_map {α β γ : Type} (f : α → β) (g : β → γ) (x : Except ComposeError α) :
    (x.map f).map g = x.map fun a => g (f a) := by
  cases x <;> rfl

/-! ## Blocks by what they select -/

namespace Block

/-- The alias that a block declares. -/
def bindAs? : Block → Option String
  | select block => block.bindAs
  | generate block => block.bindAs
  | phrase _ (.select block) => block.bindAs
  | _ => none

/-- The aliases that a block must not repeat. -/
def distinctFrom : Block → List String
  | select block => block.distinctFrom
  | generate block => block.distinctFrom
  | phrase _ (.select block) => block.distinctFrom
  | _ => []

/-- Whether a block selects from a catalog. -/
def asksCatalog : Block → Bool
  | select block => block.source == .catalog
  | generate block => block.source == .catalog
  | phrase _ (.select block) => block.source == .catalog
  | _ => false

/-- The draws of the selection that a block makes. Inside a phrase it is one step further down. -/
def selectionDraws (draws : Draws) : Block → Draws
  | phrase _ _ => draws.forPhrase
  | _ => draws

/-- The binding that a block makes of the part it resolves to. -/
def bindingOf (block : Block) (resolved : Option Part) : Option (String × Part) :=
  resolved.bind fun part => block.bindAs?.map fun name => (name, part)

end Block

namespace Scene

/-- What a block comes to if failures leave nothing out. A block that selects nothing comes to no
part. -/
def attempt (scene : Scene) (parts : Parts) (draws : Draws) :
    Block → Except ComposeError (Option Part)
  | .select block => scene.attemptSelect parts draws block
  | .generate block => scene.attemptGenerate parts draws block
  | .phrase _ (.select block) => scene.attemptSelect parts draws.forPhrase block
  | _ => .ok none

/-- The part that a block resolves to. -/
def resolve (scene : Scene) (parts : Parts) (draws : Draws) :
    Block → Except ComposeError (Option Part)
  | .select block => scene.resolveSelect parts draws block
  | .generate block => scene.resolveGenerate parts draws block
  | .phrase _ (.select block) => scene.resolveSelect parts draws.forPhrase block
  | _ => .ok none

variable {scene : Scene} {parts : Parts} {draws : Draws} {block : Block}

/-! ## Steps -/

/-- A selecting block binds what it comes to, also if it writes nothing. -/
theorem binding_selectionStep (bindAs transform : Option String) (options : BlockOptions)
    (resolved : Option Part) :
    (scene.selectionStep parts bindAs transform options resolved).binding
      = resolved.bind fun part => bindAs.map fun name => (name, part) := by
  cases resolved <;> rfl

/-- A literal binds nothing. -/
theorem binding_literalStep (text : LocalizedText) (options : BlockOptions) :
    (scene.literalStep parts text options).binding = none := by
  unfold literalStep
  dsimp only
  split <;> split <;> rfl

/-- **A step binds what its block resolves to**, and it fails just if the block does. -/
theorem step_map_binding (scene : Scene) (parts : Parts) (draws : Draws) (block : Block) :
    (scene.step parts draws block).map (·.binding)
      = (scene.resolve parts draws block).map block.bindingOf := by
  cases block with
  | select block =>
      simp only [step, resolve]
      cases scene.resolveSelect parts draws block with
      | error e => rfl
      | ok resolved => exact congrArg Except.ok (binding_selectionStep ..)
  | generate block =>
      simp only [step, resolve]
      cases scene.resolveGenerate parts draws block with
      | error e => rfl
      | ok resolved => exact congrArg Except.ok (binding_selectionStep ..)
  | literal text options => exact congrArg Except.ok (binding_literalStep ..)
  | reference name => rfl
  | phrase preposition target =>
      cases target with
      | bound name =>
          simp only [step, resolve, phraseStep]
          -- whether the part is there or not, nothing is bound
          split <;> rfl
      | select block =>
          simp only [step, resolve, phraseStep]
          cases scene.resolveSelect parts draws.forPhrase block with
          | error e => rfl
          | ok resolved => cases resolved <;> rfl

/-- A step binds what its block is resolved to. -/
theorem step_eq_ok {step : Step} (h : scene.step parts draws block = .ok step) :
    ∃ resolved, scene.resolve parts draws block = .ok resolved ∧
      step.binding = block.bindingOf resolved := by
  have hmap := step_map_binding scene parts draws block
  rw [h] at hmap
  cases hresolve : scene.resolve parts draws block with
  | error e =>
      rw [hresolve] at hmap
      cases hmap
  | ok resolved =>
      rw [hresolve] at hmap
      exact ⟨resolved, rfl, Except.ok.inj hmap⟩

theorem step_eq_error {e : ComposeError} (h : scene.step parts draws block = .error e) :
    scene.resolve parts draws block = .error e := by
  have hmap := step_map_binding scene parts draws block
  rw [h] at hmap
  exact except_map_eq_error hmap.symm

theorem step_of_resolve_eq_error {e : ComposeError}
    (h : scene.resolve parts draws block = .error e) : scene.step parts draws block = .error e := by
  have hmap := step_map_binding scene parts draws block
  rw [h] at hmap
  exact except_map_eq_error hmap

/-- A binding is of the alias that the block declares, and of the part that it resolves to. -/
theorem bindingOf_eq_some {resolved : Option Part} {name : String} {part : Part} :
    block.bindingOf resolved = some (name, part) ↔
      resolved = some part ∧ block.bindAs? = some name := by
  cases resolved with
  | none => simp [Block.bindingOf]
  | some part' =>
      cases h : block.bindAs? with
      | none => simp [Block.bindingOf, h]
      | some name' => simp [Block.bindingOf, h, and_comm]

/-! ## Attempts -/

/-- A failure is passed on, or it is left out together with all that it says. -/
theorem leaveOut_eq_or (options : BlockOptions) (resolved : Except ComposeError (Option Part)) :
    leaveOut options resolved = resolved ∨
      leaveOut options resolved = .ok none ∧ ∃ e, resolved = .error e := by
  cases resolved with
  | ok part => exact .inl rfl
  | error e =>
      cases h : options.isOptional with
      | false => exact .inl (by simp [leaveOut, h])
      | true => exact .inr ⟨by simp [leaveOut, h], e, rfl⟩

/-- **Leaving out changes nothing else.** A block resolves to what it comes to, unless that is a
failure and leaves it out. -/
theorem resolve_eq_attempt_or (scene : Scene) (parts : Parts) (draws : Draws) (block : Block) :
    scene.resolve parts draws block = scene.attempt parts draws block ∨
      scene.resolve parts draws block = .ok none ∧
        ∃ e, scene.attempt parts draws block = .error e := by
  cases block with
  | select block => exact leaveOut_eq_or _ _
  | generate block =>
      simp only [resolve, attempt, resolveGenerate]
      -- without its key a block is not guarded, and a package never is
      split
      · exact leaveOut_eq_or _ _
      · exact .inl rfl
  | phrase _ target =>
      cases target with
      | bound name => exact .inl rfl
      | select block => exact leaveOut_eq_or _ _
  | literal _ _ => exact .inl rfl
  | reference _ => exact .inl rfl

/-- What a block is resolved to was attempted. -/
theorem attempt_of_resolve_eq_some {part : Part}
    (h : scene.resolve parts draws block = .ok (some part)) :
    scene.attempt parts draws block = .ok (some part) := by
  rcases resolve_eq_attempt_or scene parts draws block with heq | ⟨hnone, _⟩
  · exact heq ▸ h
  · rw [hnone] at h
    cases h

theorem resolve_of_attempt_eq_ok {resolved : Option Part}
    (h : scene.attempt parts draws block = .ok resolved) :
    scene.resolve parts draws block = .ok resolved := by
  rcases resolve_eq_attempt_or scene parts draws block with heq | ⟨_, e, he⟩
  · exact heq.trans h
  · -- nothing is left out but failures
    rw [he] at h
    cases h

theorem attempt_of_resolve_eq_error {e : ComposeError}
    (h : scene.resolve parts draws block = .error e) :
    scene.attempt parts draws block = .error e := by
  rcases resolve_eq_attempt_or scene parts draws block with heq | ⟨hnone, _⟩
  · exact heq ▸ h
  · rw [hnone] at h
    cases h

end Scene

end TextRecipes
