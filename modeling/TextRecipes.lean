import TextRecipes.Assembly
import TextRecipes.Proofs.Text.Trimming
import TextRecipes.Proofs.Text.Joining
import TextRecipes.Proofs.Text.ClosingUp
import TextRecipes.Proofs.Text.Spacing
import TextRecipes.Proofs.Text.Titles
import TextRecipes.Proofs.Text.Padding
import TextRecipes.Proofs.Language.Suffixes
import TextRecipes.Proofs.Language.Inflection
import TextRecipes.Proofs.Language.GenderedTitles
import TextRecipes.Proofs.Language.Spellings
import TextRecipes.Proofs.Language.Region
import TextRecipes.Proofs.Merging
import TextRecipes.Proofs.DottedPaths
import TextRecipes.Proofs.Agreeing
import TextRecipes.Proofs.Filtering
import TextRecipes.Proofs.Seeds
import TextRecipes.Proofs.Selection
import TextRecipes.Proofs.AliasTable
import TextRecipes.Proofs.Assembly.Plans
import TextRecipes.Proofs.Assembly.Files
import TextRecipes.Proofs.Assembly.Contents
import TextRecipes.Proofs.Collections
import TextRecipes.Proofs.Composition.Resolution
import TextRecipes.Proofs.Composition.Attempt
import TextRecipes.Proofs.Composition.Trace
import TextRecipes.Proofs.Composition.Provenance
import TextRecipes.Proofs.Composition.Identities
import TextRecipes.Proofs.Composition.Distinctness
import TextRecipes.Proofs.Composition.Skipping
import TextRecipes.Proofs.Composition.Extending
import TextRecipes.Proofs.Composition.Alike
import TextRecipes.Proofs.Composition.Region
import TextRecipes.Proofs.Composition.Failing
import TextRecipes.Proofs.Composition.Packages
import TextRecipes.Proofs.Composition.Presentation
import TextRecipes.Proofs.Nesting.Levels
import TextRecipes.Proofs.Nesting.Limit
import TextRecipes.Proofs.Nesting.Independence
import TextRecipes.Proofs.Nesting.CallPath
import TextRecipes.Proofs.Nesting.Alternatives
import TextRecipes.Proofs.Nesting.Acyclic
import TextRecipes.Proofs.Nesting.Tokens
import TextRecipes.Proofs.Nesting.Restrictions
import TextRecipes.Proofs.Nesting.Switches
import TextRecipes.Proofs.Nesting.Region
import TextRecipes.Proofs.Nesting.Places
