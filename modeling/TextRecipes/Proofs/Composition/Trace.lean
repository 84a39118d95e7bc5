import Mathlib.Data.List.Induction
import TextRecipes.Proofs.Composition.Resolution

/-!
# The course of a run

A run goes through its pattern block by block. `Scene.Reaches` says with which progress it comes
to a block, `Scene.Binds` that the block is run and binds an alias, and `Scene.LastBinds` that no
later block binds the alias again.

* `runFrom_append`: a run of two patterns in turn is a run of the second from where the first
  ended.
* `get?_runFrom_of_not_declared`: a run changes the parts of those aliases only that its blocks
  declare.
* `exists_lastBinds`: whatever is bound in the end was bound by a block of the pattern, and there
  is a last one that did it.
* `compose_eq_error`: a run fails at a block that it comes to, and with the error of that block.
-/

namespace TextRecipes

namespace Progress

theorem parts_add_of_none {progress : Progress} {step : Step} (h : step.binding = none) :
    (progress.add step).parts = progress.parts := by
  simp [add, h]

theorem get?_add_of_some {progress : Progress} {step : Step} {name : String} {part : Part}
    (h : step.binding = some (name, part)) (other : String) :
    (progress.add step).parts.get? other
      = if other = name then some part else progress.parts.get? other := by
  simp [add, h]

end Progress

namespace Scene

variable {scene : Scene} {pattern : Pattern} {index : Nat} {progress after : Progress}
  {block : Block} {name : String} {part : Part}

/-! ## One block -/

/-- A block that does not end the run is passed over, or its step is added. -/
theorem advance_eq_ok (h : scene.advance index progress block = .ok after) :
    scene.passesOver block = true ∧ after = progress ∨
      scene.passesOver block = false ∧ ∃ step,
        scene.step progress.parts (scene.forBlock index) block = .ok step ∧
        after = progress.add step := by
  unfold advance at h
  split at h
  · next hover =>
      cases h
      exact .inl ⟨hover, rfl⟩
  · next hruns =>
      split at h
      · next step hstep =>
          cases h
          exact .inr ⟨by simpa using hruns, step, hstep, rfl⟩
      · cases h

/-- A block that ends the run is not passed over, and its own error is handed on with its index. -/
theorem advance_eq_error {e : ComposeError}
    (h : scene.advance index progress block = .error e) :
    scene.passesOver block = false ∧ ∃ cause,
      scene.step progress.parts (scene.forBlock index) block = .error cause ∧
      e = .inBlock index cause := by
  unfold advance at h
  split at h
  · cases h
  · next hruns =>
      split at h
      · cases h
      · next cause hstep =>
          cases h
          exact ⟨by simpa using hruns, cause, hstep, rfl⟩

/-- A block changes the part of an alias only by a step that binds it. -/
theorem get?_advance_of_not_bound (h : scene.advance index progress block = .ok after)
    (hnot : ∀ step bound, scene.passesOver block = false →
      scene.step progress.parts (scene.forBlock index) block = .ok step →
      step.binding ≠ some (name, bound)) :
    after.parts.get? name = progress.parts.get? name := by
  rcases advance_eq_ok h with ⟨_, rfl⟩ | ⟨hruns, step, hstep, rfl⟩
  · rfl
  · cases hbinding : step.binding with
    | none => rw [Progress.parts_add_of_none hbinding]
    | some binding =>
        obtain ⟨other, bound⟩ := binding
        rw [Progress.get?_add_of_some hbinding, if_neg]
        rintro rfl
        exact hnot step bound hruns hstep hbinding

/-- A block changes the part of no alias but the one that it declares. -/
theorem get?_advance_of_not_declared (h : scene.advance index progress block = .ok after)
    (hnot : block.bindAs? ≠ some name) : after.parts.get? name = progress.parts.get? name := by
  refine get?_advance_of_not_bound h fun step bound _ hstep hbinding => hnot ?_
  obtain ⟨resolved, _, hresolved⟩ := step_eq_ok hstep
  rw [hbinding] at hresolved
  exact (bindingOf_eq_some.mp hresolved.symm).2

/-! ## Runs in parts -/

theorem runFrom_append (scene : Scene) (index : Nat) (progress : Progress)
    (first rest : Pattern) :
    scene.runFrom index progress (first ++ rest)
      = (scene.runFrom index progress first).bind fun progress =>
          scene.runFrom (index + first.length) progress rest := by
  induction first generalizing index progress with
  | nil => rfl
  | cons block first ih =>
      -- what is left of the first pattern starts one place later
      simp only [List.cons_append, runFrom]
      cases scene.advance index progress block with
      | error e => rfl
      | ok progress =>
          dsimp only
          rw [ih, List.length_cons, Nat.add_assoc, Nat.add_comm 1]

theorem runFrom_append_eq_ok {first rest : Pattern} {final : Progress}
    (h : scene.runFrom index progress (first ++ rest) = .ok final) :
    ∃ middle, scene.runFrom index progress first = .ok middle ∧
      scene.runFrom (index + first.length) middle rest = .ok final := by
  rw [runFrom_append] at h
  cases hfirst : scene.runFrom index progress first with
  | error e =>
      rw [hfirst] at h
      cases h
  | ok middle =>
      rw [hfirst] at h
      exact ⟨middle, rfl, h⟩

theorem runFrom_cons_eq_ok {rest : Pattern} {final : Progress}
    (h : scene.runFrom index progress (block :: rest) = .ok final) :
    ∃ after, scene.advance index progress block = .ok after ∧
      scene.runFrom (index + 1) after rest = .ok final := by
  rw [runFrom] at h
  split at h
  · next after hadvance => exact ⟨after, hadvance, h⟩
  · cases h

theorem runFrom_concat {first : Pattern} (hbefore : scene.runFrom 0 {} first = .ok progress)
    (hadvance : scene.advance first.length progress block = .ok after) :
    scene.runFrom 0 {} (first ++ [block]) = .ok after := by
  rw [runFrom_append, hbefore]
  simp only [Except.bind, runFrom, Nat.zero_add, hadvance]

/-- **A run leaves alone what its blocks do not declare.** -/
theorem get?_runFrom_of_not_declared {final : Progress}
    (h : scene.runFrom index progress pattern = .ok final)
    (hnot : ∀ block ∈ pattern, block.bindAs? ≠ some name) :
    final.parts.get? name = progress.parts.get? name := by
  induction pattern generalizing index progress with
  | nil =>
      cases h
      rfl
  | cons block rest ih =>
      obtain ⟨after, hadvance, hrest⟩ := runFrom_cons_eq_ok h
      rw [ih hrest fun b hb => hnot b (List.mem_cons_of_mem _ hb)]
      exact get?_advance_of_not_declared hadvance (hnot block List.mem_cons_self)

theorem compose_eq_ok {result : Composition} (h : scene.compose pattern = .ok result) :
    ∃ final, scene.runFrom 0 {} pattern = .ok final ∧ result = final.finish := by
  obtain ⟨final, hrun, hfinish⟩ := except_map_eq_ok h
  exact ⟨final, hrun, hfinish.symm⟩

/-! ## Coming to a block -/

/-- The run of a pattern comes to the block at `index` with `progress`. -/
structure Reaches (scene : Scene) (pattern : Pattern) (index : Nat) (progress : Progress)
    (block : Block) : Prop where
  block_at : pattern[index]? = some block
  before : scene.runFrom 0 {} (pattern.take index) = .ok progress

/-- The block at `index` is run and binds `name` to `part`. -/
structure Binds (scene : Scene) (pattern : Pattern) (index : Nat) (progress : Progress)
    (block : Block) (name : String) (part : Part) : Prop where
  reached : scene.Reaches pattern index progress block
  runs : scene.passesOver block = false
  binding : ∃ step, scene.step progress.parts (scene.forBlock index) block = .ok step ∧
    step.binding = some (name, part)

/-- The block at `index` is the last that binds `name`, and binds it to `part`. -/
structure LastBinds (scene : Scene) (pattern : Pattern) (index : Nat) (progress : Progress)
    (block : Block) (name : String) (part : Part) : Prop where
  binds : scene.Binds pattern index progress block name part
  last : ∀ later progress' block' part', index < later →
    ¬ scene.Binds pattern later progress' block' name part'

theorem Reaches.lt_length (h : scene.Reaches pattern index progress block) :
    index < pattern.length :=
  (List.getElem?_eq_some_iff.mp h.block_at).1

theorem Reaches.mem (h : scene.Reaches pattern index progress block) : block ∈ pattern :=
  List.mem_of_getElem? h.block_at

theorem take_append_cons_drop (h : pattern[index]? = some block) :
    pattern.take index ++ block :: pattern.drop (index + 1) = pattern := by
  obtain ⟨hlt, rfl⟩ := List.getElem?_eq_some_iff.mp h
  rw [← List.drop_eq_getElem_cons hlt, List.take_append_drop]

/-- A successful run, cut at one of its blocks. -/
theorem Reaches.of_getElem? {final : Progress} (h : scene.runFrom 0 {} pattern = .ok final)
    (hblock : pattern[index]? = some block) :
    ∃ progress after, scene.Reaches pattern index progress block ∧
      scene.advance index progress block = .ok after ∧
      scene.runFrom (index + 1) after (pattern.drop (index + 1)) = .ok final := by
  have hlt : index < pattern.length := (List.getElem?_eq_some_iff.mp hblock).1
  rw [← take_append_cons_drop hblock] at h
  obtain ⟨progress, hbefore, hrest⟩ := runFrom_append_eq_ok h
  rw [List.length_take_of_le (Nat.le_of_lt hlt), Nat.zero_add] at hrest
  obtain ⟨after, hadvance, hafter⟩ := runFrom_cons_eq_ok hrest
  exact ⟨progress, after, ⟨hblock, hbefore⟩, hadvance, hafter⟩

/-- A block that a run comes to ends it, if its step fails. -/
theorem Reaches.compose_eq_error {cause : ComposeError}
    (h : scene.Reaches pattern index progress block) (hruns : scene.passesOver block = false)
    (hstep : scene.step progress.parts (scene.forBlock index) block = .error cause) :
    scene.compose pattern = .error (.inBlock index cause) := by
  have hadvance : scene.advance index progress block = .error (.inBlock index cause) := by
    simp [advance, hruns, hstep]
  unfold compose
  rw [← take_append_cons_drop h.block_at, runFrom_append, h.before,
    List.length_take_of_le (Nat.le_of_lt h.lt_length), Nat.zero_add]
  simp only [Except.bind, runFrom, hadvance, Except.map]

/-- What comes after a block is nothing to a run that has just come to it. -/
theorem reaches_append {rest : Pattern} (hlt : index < pattern.length) :
    scene.Reaches (pattern ++ rest) index progress block ↔
      scene.Reaches pattern index progress block := by
  have hget : (pattern ++ rest)[index]? = pattern[index]? := List.getElem?_append_left hlt
  have htake : (pattern ++ rest).take index = pattern.take index :=
    List.take_append_of_le_length (Nat.le_of_lt hlt)
  constructor
  · rintro ⟨hblock, hbefore⟩
    exact ⟨hget ▸ hblock, htake ▸ hbefore⟩
  · rintro ⟨hblock, hbefore⟩
    exact ⟨hget.trans hblock, htake ▸ hbefore⟩

theorem binds_append {rest : Pattern} (hlt : index < pattern.length) :
    scene.Binds (pattern ++ rest) index progress block name part ↔
      scene.Binds pattern index progress block name part := by
  constructor
  · rintro ⟨hreached, hruns, hbinding⟩
    exact ⟨(reaches_append hlt).mp hreached, hruns, hbinding⟩
  · rintro ⟨hreached, hruns, hbinding⟩
    exact ⟨(reaches_append hlt).mpr hreached, hruns, hbinding⟩

/-- What a block binds is what it comes to, under the alias that it declares. -/
theorem Binds.attempt (h : scene.Binds pattern index progress block name part) :
    block.bindAs? = some name ∧
      scene.attempt progress.parts (scene.forBlock index) block = .ok (some part) := by
  obtain ⟨step, hstep, hbinding⟩ := h.binding
  obtain ⟨resolved, hresolve, hbound⟩ := step_eq_ok hstep
  rw [hbinding] at hbound
  obtain ⟨rfl, hdeclared⟩ := bindingOf_eq_some.mp hbound.symm
  exact ⟨hdeclared, attempt_of_resolve_eq_some hresolve⟩

/-- At the end of a pattern a run comes to its last block, with what it came to before. -/
theorem reaches_concat_length (h : scene.runFrom 0 {} pattern = .ok progress) {progress' block'} :
    scene.Reaches (pattern ++ [block]) pattern.length progress' block' ↔
      progress' = progress ∧ block' = block := by
  constructor
  · rintro ⟨hblock, hbefore⟩
    rw [List.getElem?_concat_length] at hblock
    rw [List.take_left, h] at hbefore
    exact ⟨(Except.ok.inj hbefore).symm, (Option.some.inj hblock).symm⟩
  · rintro ⟨rfl, rfl⟩
    exact ⟨List.getElem?_concat_length, by rw [List.take_left, h]⟩

/-- Behind a block that binds an alias, the alias has its part. -/
theorem Binds.get?_advance (h : scene.Binds pattern index progress block name part)
    (hadvance : scene.advance index progress block = .ok after) :
    after.parts.get? name = some part := by
  obtain ⟨step, hstep, hbinding⟩ := h.binding
  have hadded : scene.advance index progress block = .ok (progress.add step) := by
    simp [advance, h.runs, hstep]
  obtain rfl : after = progress.add step := Except.ok.inj (hadvance.symm.trans hadded)
  rw [Progress.get?_add_of_some hbinding, if_pos rfl]

/-- What the last block of a pattern binds is bound last. -/
theorem Binds.lastBinds_concat
    (h : scene.Binds (pattern ++ [block]) pattern.length progress block name part) :
    scene.LastBinds (pattern ++ [block]) pattern.length progress block name part := by
  refine ⟨h, fun later progress' block' part' hlater hbinds => ?_⟩
  have hlt := hbinds.reached.lt_length
  rw [List.length_append, List.length_singleton] at hlt
  omega

/-- A block that is not run, or does not bind the alias, leaves the last binding as it was. -/
theorem LastBinds.concat {progress₀ : Progress} {block₀ : Block} {index₀ : Nat}
    (h : scene.LastBinds pattern index₀ progress₀ block₀ name part)
    (hnot : ∀ progress' block' part',
      ¬ scene.Binds (pattern ++ [block]) pattern.length progress' block' name part') :
    scene.LastBinds (pattern ++ [block]) index₀ progress₀ block₀ name part := by
  have hlt₀ := h.binds.reached.lt_length
  refine ⟨(binds_append hlt₀).mpr h.binds, ?_⟩
  intro later progress' block' part' hlater hbinds
  have hlt := hbinds.reached.lt_length
  rw [List.length_append, List.length_singleton] at hlt
  rcases Nat.lt_succ_iff_lt_or_eq.mp hlt with hlt | rfl
  · exact h.last later progress' block' part' hlater ((binds_append hlt).mp hbinds)
  · exact hnot progress' block' part' hbinds

/-- **Whatever is bound in the end was bound by a block**, and one block was the last to do it. The
induction is on the pattern from its end, since the last block decides first. -/
theorem exists_lastBinds {final : Progress} (h : scene.runFrom 0 {} pattern = .ok final)
    (hget : final.parts.get? name = some part) :
    ∃ index progress block, scene.LastBinds pattern index progress block name part := by
  induction pattern using List.reverseRecOn generalizing final with
  | nil =>
      cases h
      cases hget
  | append_singleton pattern block ih =>
      obtain ⟨progress, hbefore, hlast⟩ := runFrom_append_eq_ok h
      obtain ⟨after, hadvance, hdone⟩ := runFrom_cons_eq_ok hlast
      cases hdone
      rw [Nat.zero_add] at hadvance
      have hreached : scene.Reaches (pattern ++ [block]) pattern.length progress block :=
        (reaches_concat_length hbefore).mpr ⟨rfl, rfl⟩
      by_cases hbinds : ∃ bound,
          scene.Binds (pattern ++ [block]) pattern.length progress block name bound
      · obtain ⟨bound, hbinds⟩ := hbinds
        obtain rfl : bound = part :=
          Option.some.inj ((hbinds.get?_advance hadvance).symm.trans hget)
        exact ⟨pattern.length, progress, block, hbinds.lastBinds_concat⟩
      · have hsame : final.parts.get? name = progress.parts.get? name :=
          get?_advance_of_not_bound hadvance fun step bound hruns hstep hbinding =>
            hbinds ⟨bound, hreached, hruns, step, hstep, hbinding⟩
        obtain ⟨index, progress₀, block₀, hlast⟩ := ih hbefore (hsame ▸ hget)
        refine ⟨index, progress₀, block₀, hlast.concat fun progress' block' part' hbinds' => ?_⟩
        obtain ⟨rfl, rfl⟩ := (reaches_concat_length hbefore).mp hbinds'.reached
        exact hbinds ⟨part', hbinds'⟩

/-! ## Where a run fails -/

theorem runFrom_eq_error {e : ComposeError} {first : Pattern}
    (hbefore : scene.runFrom 0 {} first = .ok progress)
    (h : scene.runFrom first.length progress pattern = .error e) :
    ∃ index progress block cause, scene.Reaches (first ++ pattern) index progress block ∧
      scene.passesOver block = false ∧
      scene.step progress.parts (scene.forBlock index) block = .error cause ∧
      e = .inBlock index cause := by
  induction pattern generalizing first progress with
  | nil => cases h
  | cons block rest ih =>
      rw [runFrom] at h
      -- a block that succeeds joins the blocks before, and the failure lies behind it
      split at h
      · next after hadvance =>
          have hafter := runFrom_concat hbefore hadvance
          have hlength : (first ++ [block]).length = first.length + 1 := by simp
          rw [List.append_cons]
          exact ih hafter (hlength ▸ h)
      · next hadvance =>
          cases h
          obtain ⟨hruns, cause, hstep, rfl⟩ := advance_eq_error hadvance
          refine ⟨first.length, progress, block, cause, ⟨?_, ?_⟩, hruns, hstep, rfl⟩
          · simp
          · rw [List.take_left, hbefore]

/-- **A run fails at a block that it comes to**, and with the error of that block. -/
theorem compose_eq_error {e : ComposeError} (h : scene.compose pattern = .error e) :
    ∃ index progress block cause, scene.Reaches pattern index progress block ∧
      scene.passesOver block = false ∧
      scene.step progress.parts (scene.forBlock index) block = .error cause ∧
      e = .inBlock index cause := by
  have hstart : scene.runFrom 0 {} [] = .ok {} := rfl
  exact runFrom_eq_error hstart (except_map_eq_error h)

end Scene

end TextRecipes
