import ResourceSql.Unicode.Classes

/-!
# Endings

The plural of most words follows from how they end.  An `EndingRule` lists the
endings it applies to as rows of places, one per character.  The places of an
ending that are kept stay as they are; those that are dropped give way to the
rule's new letters.

Characters are compared after folding their case.
-/

namespace ResourceSql.English

/-- A character without its case.  Beyond ASCII only the three characters are listed
that fold onto a letter of a rule: the long s, the kelvin sign and the accented e. -/
def fold (c : Char) : Char :=
  if Unicode.isAscii c then c.toLower
  else if c = 'ſ' then 's'
  else if c = '\u212a' then 'k'
  else if c = 'É' then 'é'
  else c

/-- What one place of an ending admits. -/
inductive Place where
  | among (letters : List Char)
  | except (letters : List Char)
  /-- Every character that is not folded into ASCII. -/
  | foreign
deriving DecidableEq, Repr

def Place.admits (c : Char) : Place → Bool
  | .among letters => letters.contains (fold c)
  | .except letters => !letters.contains (fold c)
  | .foreign => !Unicode.isAscii (fold c)

/-- Whether characters fit places, one by one. -/
def fits : List Place → List Char → Bool
  | [], [] => true
  | place :: places, c :: cs => place.admits c && fits places cs
  | _, _ => false

def spelled (text : String) : List Place := text.toList.map fun c => .among [c]

/-- Where an ending may begin. -/
inductive Start where
  | anywhere
  | ofWord
  | ofText
deriving DecidableEq, Repr

/-- Whether an ending may begin after the given characters. -/
def Start.allows (before : List Char) : Start → Bool
  | .anywhere => true
  | .ofWord => !before.getLast?.any Unicode.isWordCharacter
  | .ofText => before.isEmpty

/-- An ending: the places that are kept and those that are dropped. -/
structure Ending where
  /-- The places that stay. -/
  kept : List Place
  /-- The places that give way. -/
  dropped : List Place := []
deriving DecidableEq

/-- What becomes of the words with certain endings. -/
structure EndingRule where
  /-- The endings; of two that overlap the longer one stands first. -/
  endings : List Ending
  /-- The letters that are written after the kept places. -/
  added : String := ""
  start : Start := .anywhere

/-- A word divided by an ending. -/
structure Division where
  before : List Char
  kept : List Char
  dropped : List Char

def Ending.divide? (ending : Ending) (start : Start) (word : List Char) : Option Division :=
  let whole := ending.kept.length + ending.dropped.length
  if word.length < whole then none
  else
    let before := word.take (word.length - whole)
    let tail := word.drop (word.length - whole)
    let kept := tail.take ending.kept.length
    let dropped := tail.drop ending.kept.length
    if fits ending.kept kept && fits ending.dropped dropped && start.allows before then
      some ⟨before, kept, dropped⟩
    else none

/-- Divide a word by the first ending of a rule that it has. -/
def EndingRule.divide? (rule : EndingRule) (word : List Char) : Option Division :=
  rule.endings.findSome? fun ending => ending.divide? rule.start word

/-- Endings that keep one of the given texts and drop one of the others. -/
def endingsOf (kept : List String) (dropped : List String := [""]) : List Ending :=
  kept.flatMap fun stem => dropped.map fun tail => ⟨spelled stem, spelled tail⟩

/-!
## Rules for English plurals

The endings of English nouns with their plurals, most particular first: the first
rule that applies to a word decides.  Endings that are the same in the plural keep
all their places and add nothing.
-/

def vowels : List Char := ['a', 'e', 'i', 'o', 'u']

/-- Endings that are the same in the plural, whatever the rules after them say. -/
def unchangedEndings : List EndingRule :=
  [{ endings := endingsOf ["sheep"] },
   { endings := endingsOf ["pox"] },
   { endings := endingsOf ["ois", "ous"] },
   { endings := endingsOf ["measles"] },
   { endings := endingsOf ["fish"] },
   { endings := endingsOf ["deer"] },
   { endings := [⟨.except vowels :: spelled "ese", []⟩] },
   { endings := endingsOf ["pokemon", "pokémon"] }]

/-- Nouns that change within or take an ending of their own. -/
def nativeEndings : List EndingRule :=
  [{ endings := endingsOf [""] ["thou"], added := "you", start := .ofText },
   { endings := endingsOf [""] ["man", "men"], added := "men" },
   { endings := endingsOf ["eaux"] },
   { endings := endingsOf ["child"] ["ren", ""], added := "ren" },
   { endings := endingsOf ["pe"] ["rson", "ople"], added := "ople" },
   { endings := endingsOf ["titm", "m", "l"] ["ice", "ouse"], added := "ice", start := .ofWord }]

/-- Endings after which the plural ending is not a plain `s`. -/
def soundEndings : List EndingRule :=
  [{ endings := endingsOf ["matr", "cod", "mur", "sil", "vert", "ind", "append"] ["ix", "ex"]
     added := "ices" },
   { endings := endingsOf ["x", "ch", "ss", "sh", "zz"], added := "es" },
   { endings :=
      [⟨[.except ['c', 'h'], .among ['i', 'e', 'o'], .among ['l', 'n']], spelled "ey"⟩]
     added := "ies" },
   { endings := ⟨spelled "qu", spelled "y"⟩ :: [⟨[.except ('y' :: vowels)], spelled "y"⟩]
     added := "ies" },
   { endings := endingsOf ["kni", "wi", "li"] ["fe"] ++
      endingsOf ["ar", "l", "ea", "eo", "oa", "hoo"] ["f"]
     added := "ves" },
   { endings := endingsOf [""] ["sis"], added := "ses" }]

/-- Nouns with a plural from Greek, Latin or Hebrew. -/
def borrowedEndings : List EndingRule :=
  [{ endings := endingsOf
      ["apheli", "hyperbat", "periheli", "asyndet", "noumen", "phenomen", "criteri", "organ",
       "prolegomen", "hedr", "automat"] ["a", "on"]
     added := "a" },
   { endings := endingsOf
      ["agend", "addend", "millenni", "dat", "extrem", "bacteri", "desiderat", "strat",
       "candelabr", "errat", "ov", "symposi", "curricul", "automat", "quor"] ["a", "um"]
     added := "a" },
   { endings := endingsOf ["her", "at", "gr"] ["o"], added := "oes" },
   { endings := endingsOf ["seraph", "cherub"] ["im", ""], added := "im" },
   { endings := endingsOf ["alumn", "alg", "vertebr"] ["a", "ae"], added := "ae" },
   { endings := endingsOf
      ["alumn", "syllab", "vir", "radi", "nucle", "fung", "cact", "stimul", "termin", "bacill",
       "foc", "uter", "loc", "strat"] ["us", "i"]
     added := "i" }]

/-- Nouns in `s` and the plain plural. -/
def plainEndings : List EndingRule :=
  [{ endings :=
      [⟨.except ['l'] :: spelled "ias", []⟩, ⟨.among vowels :: spelled "las", []⟩,
       ⟨.among ['e', 'j', 'z', 'r'] :: spelled "as", []⟩, ⟨.among ['i', 'u'] :: spelled "am", []⟩] },
   { endings := endingsOf ["emu", "enu"] ["s", ""], added := "s" },
   { endings := ⟨.except ['a', 'o', 'u'] :: spelled "us", []⟩ ::
      endingsOf ["alias", "tlas", "tmas", "gas", "ris"]
     added := "es" },
   { endings := endingsOf ["ax", "test"] ["is"], added := "es" },
   { endings := [⟨[.foreign], []⟩] },
   { endings := endingsOf [""] ["s", ""], added := "s" }]

/-- All rules, in the order in which they are tried. -/
def endingRules : List EndingRule :=
  unchangedEndings ++ nativeEndings ++ soundEndings ++ borrowedEndings ++ plainEndings

end ResourceSql.English
