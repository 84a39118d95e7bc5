import Mathlib.Data.List.Pairwise
import TextRecipes.Proofs.Composition.Attempt
import TextRecipes.Proofs.Composition.Trace

/-!
# Parts that have to differ

A block may list aliases whose parts must not be selected again. The draw compares with the table
as it is when the block is reached, and a later block could still bind one of the aliases anew. If
every alias is declared by one block only, that does not happen, and the parts differ in the
final table as well (`identity_ne_of_distinctFrom`).
-/

namespace TextRecipes

/-- Each alias is declared by at most one block. -/
def DeclaresOnce (pattern : Pattern) : Prop := (pattern.filterMap Block.bindAs?).Nodup

instance (pattern : Pattern) : Decidable (DeclaresOnce pattern) :=
  inferInstanceAs (Decidable (List.Nodup _))

namespace DeclaresOnce

variable {pattern : Pattern} {i j : Nat} {first second : Block} {name : String}

/-- Blocks at two places do not declare the same alias. -/
theorem not_declared_twice (h : DeclaresOnce pattern) (hfirst : pattern[i]? = some first)
    (hsecond : pattern[j]? = some second) (hlt : i < j) :
    ¬ (first.bindAs? = some name ∧ second.bindAs? = some name) := by
  rintro ⟨hname, hname'⟩
  obtain ⟨hi, rfl⟩ := List.getElem?_eq_some_iff.mp hfirst
  obtain ⟨hj, rfl⟩ := List.getElem?_eq_some_iff.mp hsecond
  have hpairs := List.pairwise_filterMap.mp h
  exact List.pairwise_iff_getElem.mp hpairs i j hi hj hlt name hname name hname' rfl

/-- An alias that a block declares is not declared after it. -/
theorem not_declared_later (h : DeclaresOnce pattern) (hfirst : pattern[i]? = some first)
    (hname : first.bindAs? = some name) (hlt : i < j) :
    ∀ block ∈ pattern.drop j, block.bindAs? ≠ some name := by
  intro block hmem hblock
  obtain ⟨k, hk⟩ := List.mem_iff_getElem?.mp hmem
  rw [List.getElem?_drop] at hk
  exact h.not_declared_twice hfirst hk (by omega) ⟨hname, hblock⟩

end DeclaresOnce

namespace Scene

theorem mem_boundIdentities {parts : Parts} {aliases : List String} {name : String} {part : Part}
    (hname : name ∈ aliases) (hpart : parts.get? name = some part) :
    part.identity ∈ boundIdentities parts aliases := by
  unfold boundIdentities
  rw [List.mem_eraseDups, List.mem_filterMap]
  exact ⟨name, hname, by rw [hpart, Option.map_some]⟩

variable {scene : Scene} {pattern : Pattern} {index : Nat} {block : Block} {name : String}
  {final : Progress}

/-- If an alias is declared once, the part bound to it in the end was bound by the block that
declares it. -/
theorem binds_of_declaresOnce {part : Part} (honce : DeclaresOnce pattern)
    (hrun : scene.runFrom 0 {} pattern = .ok final) (hblock : pattern[index]? = some block)
    (hdeclares : block.bindAs? = some name) (hpart : final.parts.get? name = some part) :
    ∃ progress, scene.Binds pattern index progress block name part := by
  obtain ⟨later, progress, other, hbinds, _⟩ := exists_lastBinds hrun hpart
  have hother := hbinds.reached.block_at
  have hdeclares' := hbinds.attempt.1
  -- a block at another place would declare the alias a second time
  rcases Nat.lt_trichotomy index later with hlt | rfl | hlt
  · exact absurd ⟨hdeclares, hdeclares'⟩ (honce.not_declared_twice hblock hother hlt)
  · rw [hblock] at hother
    cases hother
    exact ⟨progress, hbinds⟩
  · exact absurd ⟨hdeclares', hdeclares⟩ (honce.not_declared_twice hother hblock hlt)

/-- If an alias is declared once and by an earlier block, a block finds it in the table as it will
be in the end. -/
theorem get?_of_declared_earlier {earlier : Nat} {first : Block} {progress : Progress}
    (honce : DeclaresOnce pattern) (hrun : scene.runFrom 0 {} pattern = .ok final)
    (hfirst : pattern[earlier]? = some first) (hdeclares : first.bindAs? = some name)
    (hlt : earlier < index) (hreached : scene.Reaches pattern index progress block) :
    final.parts.get? name = progress.parts.get? name := by
  obtain ⟨progress', after, hreached', hadvance, hrest⟩ :=
    Reaches.of_getElem? hrun hreached.block_at
  have hsame : progress' = progress :=
    Except.ok.inj (hreached'.before.symm.trans hreached.before)
  subst hsame
  rw [get?_runFrom_of_not_declared hrest
    (honce.not_declared_later hfirst hdeclares (Nat.lt_succ_of_lt hlt))]
  refine get?_advance_of_not_declared hadvance fun hblock => ?_
  exact honce.not_declared_twice hfirst hreached.block_at hlt ⟨hdeclares, hblock⟩

/-- **Parts that have to differ do.** A block that asks a catalog lists the alias of an earlier
block among those not to be repeated, and every alias is declared once: then the parts that a
finished run has bound to the two aliases have different identities. -/
theorem identity_ne_of_distinctFrom (scene : Scene) (pattern : Pattern) (result : Composition)
    (hrun : scene.compose pattern = .ok result) (honce : DeclaresOnce pattern)
    (i j : Nat) (first second : Block) (name name' : String) (part part' : Part)
    (hfirst : pattern[i]? = some first) (hname : first.bindAs? = some name)
    (hsecond : pattern[j]? = some second) (hname' : second.bindAs? = some name') (hlt : i < j)
    (hasks : second.asksCatalog = true) (hlists : name ∈ second.distinctFrom)
    (hpart : result.parts.get? name = some part) (hpart' : result.parts.get? name' = some part') :
    part.identity ≠ part'.identity := by
  obtain ⟨final, hfinal, rfl⟩ := compose_eq_ok hrun
  obtain ⟨progress, hbinds⟩ := binds_of_declaresOnce honce hfinal hsecond hname' hpart'
  -- the draw was made with the other part in the table
  have htable : progress.parts.get? name = some part :=
    (get?_of_declared_earlier honce hfinal hfirst hname hlt hbinds.reached).symm.trans hpart
  obtain ⟨_, hattempt⟩ := hbinds.attempt
  obtain ⟨request, hrequest, hselect⟩ := request_of_attempt_eq_some hasks hattempt
  obtain ⟨_, _, _, _, _, hpick⟩ := selectFromCatalog_eq_some hselect
  obtain ⟨item, rfl, _, _, hfresh⟩ := pick_eq_ok hpick
  rw [request?_distinctFrom hrequest] at hfresh
  intro heq
  have hmem := mem_boundIdentities hlists htable
  rw [heq] at hmem
  exact hfresh hmem

end Scene

/-! ## A duel

Both are drawn from the same two names, by chance. The first draw for the rival gives the hero
again, so it is repeated. -/

namespace Duel

def anna : Item := { text := .ofPairs [("en", "Anna")] }

def berta : Item := { text := .ofPairs [("en", "Berta")] }

def scene : Scene where
  catalogs := .ofPairs [("names", ⟨[anna, berta]⟩)]
  rules := {}
  locale := "en"
  chance := fun place => if place = ["b1", "retry1"] then 0xC000000000000000 else 0

def hero : Block := .select { key := "names", bindAs := some "Hero", options := { hidden := true } }

def rival : Block :=
  .select { key := "names", bindAs := some "Rival", distinctFrom := ["Hero"]
            options := { hidden := true } }

def result : Composition :=
  ⟨"", ⟨[("Hero", .item anna), ("Rival", .item berta)], by decide⟩⟩

set_option maxRecDepth 4000 in
theorem hero_ne_rival : scene.compose [hero, rival] = .ok result ∧ DeclaresOnce [hero, rival] ∧
    "Hero" ∈ rival.distinctFrom ∧ result.parts.get? "Hero" = some (.item anna) ∧
    result.parts.get? "Rival" = some (.item berta) ∧
    (Part.item anna).identity ≠ (Part.item berta).identity := by
  have hrun : scene.compose [hero, rival] = .ok result := by rfl
  have honce : DeclaresOnce [hero, rival] := by decide
  have hlists : "Hero" ∈ rival.distinctFrom := by decide
  exact ⟨hrun, honce, hlists, rfl, rfl,
    Scene.identity_ne_of_distinctFrom scene [hero, rival] result hrun honce 0 1 hero rival "Hero"
      "Rival" _ _ rfl rfl rfl rfl (by decide) rfl hlists rfl rfl⟩

end Duel

end TextRecipes
