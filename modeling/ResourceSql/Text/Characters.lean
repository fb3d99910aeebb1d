import ResourceSql.Text.Digits
import ResourceSql.Unicode.CaseMap
import ResourceSql.Unicode.Classes

/-!
# Characters of text

Text in another letter case, and text between quotes.  Both ask for the class of each
character.
-/

namespace ResourceSql

/-!
## Changing letter case

Lower and upper case of text by the full case maps, in which one character can
become several.  The one rule that looks at the neighbours of a character is the
Greek sigma: at the end of a word its lower-case form is `ς`.
-/

namespace LetterCase

open Unicode

/-- The shift of the run that counts through a code point. -/
def shiftOf? (shifts : List (Nat × Nat × Nat × Int)) (code : Nat) : Option Int :=
  (shifts.find? fun (first, last, step, _) =>
    first ≤ code && code ≤ last && (code - first) % step == 0).map fun (_, _, _, shift) => shift

/-- The longer form of a code point. -/
def expansionOf? (expansions : List (Nat × List Nat)) (code : Nat) : Option (List Nat) :=
  (expansions.find? (·.1 == code)).map (·.2)

/-- A character beyond ASCII under a case map; one without an entry stays. -/
def mapped (shifts : List (Nat × Nat × Nat × Int)) (expansions : List (Nat × List Nat))
    (c : Char) : List Char :=
  match expansionOf? expansions c.toNat with
  | some codes => codes.map Char.ofNat
  | none =>
    match shiftOf? shifts c.toNat with
    | some shift => [Char.ofNat (c.toNat + shift).toNat]
    | none => [c]

/-- The lower-case form of a character on its own. -/
def lowerChar (c : Char) : List Char :=
  if isAscii c then [c.toLower] else mapped lowerShifts lowerExpansions c

def upperChar (c : Char) : List Char :=
  if isAscii c then [c.toUpper] else mapped upperShifts upperExpansions c

/-- Whether the first character that case rules do not skip has case. -/
def meetsCased (cs : List Char) : Bool :=
  (cs.dropWhile isCaseIgnorable).head?.any isCased

/-- The lower-case form of text, given the characters before it, nearest first.
A capital sigma after a letter and not before one ends its word. -/
def lowerAfter (before : List Char) : List Char → List Char
  | [] => []
  | c :: rest =>
    let form :=
      if c = 'Σ' then [if meetsCased before && !meetsCased rest then 'ς' else 'σ']
      else lowerChar c
    form ++ lowerAfter (c :: before) rest

def lower (s : List Char) : List Char := lowerAfter [] s

def upper (s : List Char) : List Char := s.flatMap upperChar

def lowercase (s : String) : String := String.ofList (lower s.toList)

def uppercase (s : String) : String := String.ofList (upper s.toList)

end LetterCase

/-!
## Quoted text

Text as it is shown in messages: between double quotes, with short escapes for
the common controls, and a numbered escape for every other character that would
not be seen as itself.
-/

namespace Quoted

/-- A numbered escape: the code point in hexadecimal digits between braces. -/
def numbered (c : Char) : List Char :=
  ['\\', 'u', '\x7b'] ++ Digits.ofNat 16 c.toNat ++ ['\x7d']

def escaped (c : Char) : List Char :=
  if c = '\x00' then ['\\', '0']
  else if c = '\t' then ['\\', 't']
  else if c = '\n' then ['\\', 'n']
  else if c = '\r' then ['\\', 'r']
  else if c = '\x22' ∨ c = '\\' then ['\\', c]
  else if Unicode.isPrintable c then [c]
  else numbered c

/-- Text between double quotes. -/
def text (s : String) : String :=
  String.ofList ('\x22' :: s.toList.flatMap escaped ++ ['\x22'])

end Quoted

end ResourceSql
