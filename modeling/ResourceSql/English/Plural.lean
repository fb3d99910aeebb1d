import ResourceSql.English.Ending
import ResourceSql.Text.Characters

/-!
# Plurals

The English plural of a word, in the letter case of the word.  Words with a plural
of their own are looked up whole; of every other word only the ending changes, so
that a compound takes the plural of its last part.
-/

namespace ResourceSql.English

/-!
## Words with a plural of their own

Two word lists of English: nouns whose plural follows no ending, and nouns that
have no plural form.  All words are in lower case; looking one up ignores case.
-/

/-- Nouns with their plurals. -/
def irregularPlurals : List (String × String) :=
  [("i", "we"), ("me", "us"), ("he", "they"), ("she", "they"), ("them", "them"),
   ("myself", "ourselves"), ("yourself", "yourselves"), ("itself", "themselves"),
   ("herself", "themselves"), ("himself", "themselves"), ("themself", "themselves"),
   ("is", "are"), ("was", "were"), ("has", "have"), ("this", "these"), ("that", "those"),
   ("echo", "echoes"), ("dingo", "dingoes"), ("volcano", "volcanoes"),
   ("tornado", "tornadoes"), ("torpedo", "torpedoes"), ("genus", "genera"),
   ("viscus", "viscera"), ("stigma", "stigmata"), ("stoma", "stomata"),
   ("dogma", "dogmata"), ("lemma", "lemmata"), ("schema", "schemata"),
   ("anathema", "anathemata"), ("ox", "oxen"), ("axe", "axes"), ("die", "dice"),
   ("yes", "yeses"), ("foot", "feet"), ("eave", "eaves"), ("goose", "geese"),
   ("tooth", "teeth"), ("quiz", "quizzes"), ("human", "humans"), ("proof", "proofs"),
   ("carve", "carves"), ("valve", "valves"), ("looey", "looies"), ("thief", "thieves"),
   ("groove", "grooves"), ("pickaxe", "pickaxes"), ("passerby", "passersby")]

/-- Nouns that are their own plural. -/
def uncountableNouns : List String :=
  ["adulthood", "advice", "agenda", "aid", "aircraft", "alcohol", "ammo", "analytics",
   "anime", "athletics", "audio", "bison", "blood", "bream", "buffalo", "butter", "carp",
   "cash", "chassis", "chess", "clothing", "cod", "commerce", "cooperation", "corps",
   "debris", "diabetes", "digestion", "elk", "energy", "equipment", "excretion",
   "expertise", "firmware", "flounder", "fun", "gallows", "garbage", "graffiti",
   "hardware", "headquarters", "health", "herpes", "highjinks", "homework", "housework",
   "information", "jeans", "justice", "kudos", "labour", "literature", "machinery",
   "mackerel", "mail", "media", "mews", "moose", "music", "mud", "manga", "news", "only",
   "personnel", "pike", "plankton", "pliers", "police", "pollution", "premises", "rain",
   "research", "rice", "salmon", "scissors", "series", "sewage", "shambles", "shrimp",
   "software", "staff", "swine", "tennis", "traffic", "transportation", "trout", "tuna",
   "wealth", "welfare", "whiting", "wildebeest", "wildlife", "you"]

/-! ## The plural of a word -/

open LetterCase

/-- Give a text the letter case of a model: its own if the two are the same, small
letters or capitals throughout if the model has them, a leading capital if the
model has one before small letters, and small letters otherwise. -/
def inCaseOf (model text : List Char) : List Char :=
  if model = text then text
  else if model = lower model then lower text
  else if model = upper model then upper text
  else if model.head?.any Unicode.isUppercase ∧ model.tail = lower model.tail then
    match text with
    | [] => []
    | first :: rest => upperChar first ++ rest.flatMap lowerChar
  else lower text

/-- The word that a division becomes: the kept characters with the rule's letters
after them, in the case of the ending, or of the character before an empty one. -/
def Division.rebuilt (division : Division) (added : List Char) : List Char :=
  let ending := division.kept ++ division.dropped
  let model := if ending.isEmpty then division.before.getLast?.toList else ending
  division.before ++ inCaseOf model (division.kept ++ added)

def pluralByEnding (word : List Char) : List Char :=
  (endingRules.findSome? fun rule =>
    (rule.divide? word).map (·.rebuilt rule.added.toList)).getD word

def pluralChars (word : List Char) : List Char :=
  let plain := String.ofList (lower word)
  if plain.isEmpty ∨ uncountableNouns.contains plain then word
  else if irregularPlurals.any (·.2 == plain) then inCaseOf word plain.toList
  else
    match irregularPlurals.find? (·.1 == plain) with
    | some (_, plural) => inCaseOf word plural.toList
    | none => pluralByEnding word

/-- The plural of a word. -/
def plural (word : String) : String := String.ofList (pluralChars word.toList)

/-!
## Plurals of plurals

A word may be given in the plural already.  Of the words that are plurals of others, those
that `lasts` admits are their own plurals.  The rest is taken for a singular: a plural in a
plain `s` can end as singulars in `s` do, and it can be a singular of its own.
-/

/-- Whether characters begin with some that fit places. -/
def fitsFront : List Place → List Char → Bool
  | [], _ => true
  | _ :: _, [] => false
  | place :: places, c :: cs => place.admits c && fitsFront places cs

def endsIn (places : List Place) (word : List Char) : Bool :=
  fitsFront places.reverse word.reverse

/-- A text with a leading capital and small letters after it. -/
def capitalized : List Char → List Char
  | [] => []
  | first :: rest => upperChar first ++ rest.flatMap lowerChar

/-- The letter cases in which a plural of its own is written. -/
def casings (text : List Char) : List (List Char) := [text, upper text, capitalized text]

/-- Endings of singulars in `s`. -/
def singularEndings : List (List Place) :=
  (.except ['a', 'o', 'u'] :: spelled "us") ::
    ["sis", "axis", "testis", "alias", "tlas", "tmas", "gas", "ris"].map spelled

/-- Endings of plurals in `us`. -/
def pluralEndings : List (List Place) := ["emus", "enus"].map spelled

/-- Whether a word ends as a singular in `s` does. -/
def endsAsSingular (word : List Char) : Bool :=
  singularEndings.any (endsIn · word) && !pluralEndings.any (endsIn · word)

/-- Whether a word that is the plural of some word is the plural of itself. -/
def lasts (word : List Char) : Bool :=
  let plain := String.ofList (lower word)
  if plain.isEmpty ∨ uncountableNouns.contains plain then true
  else if irregularPlurals.any (·.2 == plain) then (casings plain.toList).contains word
  else if irregularPlurals.any (·.1 == plain) then false
  else !endsAsSingular word

end ResourceSql.English
