import TextRecipes.Collection
import TextRecipes.Language.Rules
import TextRecipes.Notation.Reader
import TextRecipes.Recipe

/-!
# The notation of recipes and catalogs

How each type of the library is written in data texts: the names of its fields, which of them it
must have, and the names of its variants.
-/

namespace TextRecipes.Notation

open Reader

def texts : Reader (List String) := list text

def textSet : Reader NameSet := fun room => return .ofList (← texts room)

def localizedText : Reader LocalizedText := table text

def gramTable : Reader GramTable := fun room =>
  return Entries.ofPairs (← pairs (refine Value.scan gram?) room)

def item : Reader Item :=
  record "CatalogItem"
    [optional "id" (option text) fun x i => { i with id := x },
     required "text" localizedText fun x i => { i with text := x },
     optional "tags" textSet fun x i => { i with tags := x },
     optional "kinds" textSet fun x i => { i with kinds := x },
     optional "weight" float fun x i => { i with weight := x },
     optional "gram" gramTable fun x i => { i with gram := x }]
    { text := .empty }

def catalog : Reader Catalog :=
  record "Catalog" [required "items" (list item) fun x _ => ⟨x⟩] ⟨[]⟩

def clauseFields : List (RecordField Clause) :=
  [optional "kinds" texts fun x c => { c with kinds := x },
   optional "tags" texts fun x c => { c with tags := x },
   optional "any_of_tags" texts fun x c => { c with anyOfTags := x },
   optional "none_of_tags" texts fun x c => { c with noneOfTags := x }]

def clause : Reader Clause := record "WhereClause" clauseFields {}

def feature : Reader AgreementFeature :=
  choice "AgreementFeature"
    [("Tags", withFields "Tags" [required "required" texts fun x _ => x] [] .tags),
     ("Gram", withFields "Gram"
        [required "path" text fun x d => (x, d.2),
         required "map" (table text) fun x d => (d.1, x)]
        ("", .empty) fun d => .gram d.1 d.2),
     ("Kinds", withFields "Kinds" [required "required" texts fun x _ => x] [] .kinds)]

def fallback : Reader AgreementFallback :=
  choice "AgreementFallback"
    [("Skip", constant .skip), ("Error", constant .fail),
     ("Filter", holdingRecord "Filter" clauseFields {} .retryWith)]

def agreement : Reader Agreement :=
  record "AgreementConfig"
    [required "ref" text fun x a => { a with source := x },
     required "features" (list feature) fun x a => { a with features := x },
     optional "fallback" (option fallback) fun x a => { a with fallback := x }]
    { source := "", features := [] }

def blockOptions : Reader BlockOptions :=
  record "BlockExt"
    [optional "optional" bool fun x o => { o with isOptional := x },
     optional "hidden" bool fun x o => { o with hidden := x },
     optional "component_key" (option text) fun x o => { o with componentKey := x },
     optional "optional_with" (option text) fun x o => { o with optionalWith := x },
     optional "agree_with" (option agreement) fun x o => { o with agreeWith := x }]
    {}

def selectSource : Reader SelectSource :=
  choice "SelectSource" [("Catalog", constant .catalog), ("Generator", constant .recipe)]

def selectFields : List (RecordField SelectBlock) :=
  [optional "source" selectSource fun x b => { b with source := x },
   required "key" text fun x b => { b with key := x },
   optional "where" clause fun x b => { b with clause := x },
   optional "distinct_from" texts fun x b => { b with distinctFrom := x },
   optional "as" (option text) fun x b => { b with bindAs := x },
   optional "transform" (option text) fun x b => { b with transform := x },
   optional "ext" blockOptions fun x b => { b with options := x }]

def generateSource : Reader GenerateSource :=
  choice "GenerateFrom"
    [("Recipe", constant .recipe), ("Catalog", constant .catalog),
     ("Package", holding text .package)]

def generateFields : List (RecordField GenerateBlock) :=
  [required "from" generateSource fun x b => { b with source := x },
   optional "key" (option text) fun x b => { b with key := x },
   optional "collection" (option text) fun x b => { b with collection := x },
   optional "where" clause fun x b => { b with clause := x },
   optional "distinct_from" texts fun x b => { b with distinctFrom := x },
   optional "as" (option text) fun x b => { b with bindAs := x },
   optional "transform" (option text) fun x b => { b with transform := x },
   optional "ext" blockOptions fun x b => { b with options := x }]

def phraseTarget : Reader PhraseTarget :=
  choice "PpTarget"
    [("Ref", holding text .bound),
     ("Select", holdingRecord "Select" selectFields { key := "" } .select)]

def block : Reader Block :=
  choice "Block"
    [("Select", holdingRecord "Select" selectFields { key := "" } .select),
     ("Generate", holdingRecord "Generate" generateFields { source := .recipe } .generate),
     ("Literal", holdingRecord "Literal"
        [required "text" localizedText fun x d => (x, d.2),
         optional "ext" blockOptions fun x d => (d.1, x)]
        (.empty, {}) fun d => .literal d.1 d.2),
     ("Pp", holdingRecord "Pp"
        [required "prep" text fun x d => (x, d.2),
         required "ref" phraseTarget fun x d => (d.1, x)]
        ("", .bound "") fun d => .phrase d.1 d.2),
     ("Ref", holdingRecord "Ref" [required "alias" text fun x _ => x] "" .reference)]

def pattern : Reader Pattern := list block

def recipe : Reader Recipe :=
  record "Recipe"
    [required "id" text fun x r => { r with id := x },
     required "pattern" pattern fun x r => { r with pattern := x }]
    { id := "", pattern := [] }

def recipes : Reader (List Recipe) := list recipe

def collectionQuery : Reader (List String × List String) :=
  record "CollectionQuery"
    [optional "tags" texts fun x q => (x, q.2), optional "recipes" texts fun x q => (q.1, x)]
    ([], [])

def collection : Reader Collection :=
  record "Collection"
    [required "key" text fun x c => { c with key := x },
     optional "package" (option text) fun x c => { c with package := x },
     optional "query" collectionQuery fun x c => { c with tags := x.1, recipes := x.2 }]
    { key := "" }

def collections : Reader (List Collection) := list collection

def prepositionRule : Reader Language.PrepositionRule :=
  record "PrepositionRule"
    [optional "forms" (table text) fun x r => { r with forms := x },
     optional "default" (option text) fun x r => { r with default := x }]
    {}

def suffixRule : Reader Language.SuffixRule :=
  record "SuffixRule"
    [required "suffix" text fun x r => { r with suffix := x },
     required "replacement" text fun x r => { r with replacement := x }]
    ⟨"", ""⟩

def suffixTable : Reader Language.SuffixTable :=
  record "SuffixTable"
    [required "rules" (list suffixRule) fun x t => { t with rules := x },
     required "default_suffix" text fun x t => { t with defaultSuffix := x }]
    ⟨[], ""⟩

def localeRules : Reader Language.LocaleRules :=
  record "LocaleRules"
    [optional "prepositions" (table prepositionRule) fun x r => { r with prepositions := x },
     optional "gender_titles" (table (table text)) fun x r => { r with genderTitles := x },
     optional "feminine_suffix" (option text) fun x r => { r with feminineSuffix := x },
     optional "demonyms" (option suffixTable) fun x r => { r with demonyms := x }]
    {}

def languageRules : Reader Language.Rules :=
  record "LanguageRules" [optional "locales" (table localeRules) fun x _ => ⟨x⟩] {}

end TextRecipes.Notation
