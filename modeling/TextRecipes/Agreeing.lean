import TextRecipes.Agreement
import TextRecipes.Part

/-!
# The clause of an agreement

What an agreement asks for, once the alias table is known. An alias without a part asks for
nothing: agreement narrows a selection where it can and never stands in its way.
-/

namespace TextRecipes

/-- The clause with what one feature of `source` asks for added. Tags add up; kinds replace the
kinds asked for so far, unless the source has none of the listed ones. -/
def AgreementFeature.addTo (source : Part) (clause : Clause) : AgreementFeature → Clause
  | tags required =>
    { clause with tags := clause.tags ++ required.filter source.tags.contains }
  | gram path map =>
    match (source.gramKey? path).bind map.get? with
    | some tag => { clause with tags := clause.tags ++ [tag] }
    | none => clause
  | kinds required =>
    let shared := required.filter source.kinds.contains
    if shared.isEmpty then clause else { clause with kinds := shared }

/-- The clause for the block that has to agree. -/
def Agreement.clause (a : Agreement) (parts : Parts) : Clause :=
  match parts.get? a.source with
  | none => .all
  | some source => a.features.foldl (AgreementFeature.addTo source) .all

end TextRecipes
