import TextRecipes.Clause

/-!
# Agreement rules

A block can be asked to agree with an earlier selection: tags, kinds and grammatical values of
the earlier one become a clause for the later one. The rules here are what the recipe says; the
clause is derived from them once the earlier selection is known.
-/

namespace TextRecipes

/-- An attribute that is carried over from the earlier selection. -/
inductive AgreementFeature where
  /-- The listed tags that the earlier selection has are asked for. -/
  | tags (required : List String)
  /-- The grammatical value at `path` is mapped to a tag that is asked for. -/
  | gram (path : String) (map : NameMap String)
  /-- The listed kinds that the earlier selection has are the kinds asked for. -/
  | kinds (required : List String)
deriving Inhabited

/-- What happens if nothing agrees. -/
inductive AgreementFallback where
  /-- The block is left out. -/
  | skip
  /-- The block fails. -/
  | fail
  /-- The selection is repeated with this clause in place of the agreement. -/
  | retryWith (clause : Clause)
deriving DecidableEq, Inhabited

/-- Asks a block to agree with the part bound to an alias. -/
structure Agreement where
  /-- The alias of the earlier selection. -/
  source : String
  features : List AgreementFeature
  /-- What happens if nothing agrees; the block fails if this is not given. -/
  fallback : Option AgreementFallback := none
deriving Inhabited

end TextRecipes
