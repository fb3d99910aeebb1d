import ResourceSql.Unicode.CaseMap
import ResourceSql.Unicode.Letters
import ResourceSql.Unicode.Unprintable
import ResourceSql.Unicode.WordCharacter

/-!
# Character classes

The classes of characters that naming and quoting ask for.  Each one answers for
ASCII by a comparison and consults its table only beyond, so that statements about
ASCII text never open a table.

The tables are of edition 17.0 of the character standard, except that words are
bounded by edition 16.0.
-/

namespace ResourceSql.Unicode

def inRuns (runs : List (Nat × Nat)) (code : Nat) : Bool :=
  runs.any fun (first, last) => first ≤ code && code ≤ last

/-- Whether a code point is one of those that a run with a step counts through. -/
def inSteppedRuns (runs : List (Nat × Nat × Nat)) (code : Nat) : Bool :=
  runs.any fun (first, last, step) =>
    first ≤ code && code ≤ last && (code - first) % step == 0

/-- One of the 128 characters of ASCII. -/
def isAscii (c : Char) : Bool := c.toNat < 128

/-- What is checked of the characters of ASCII one by one holds of each. -/
theorem of_isAscii {p : Char → Bool} (h : ∀ n < 128, p (Char.ofNat n) = true) {c : Char}
    (hc : isAscii c = true) : p c = true := by
  have hlt : c.toNat < 128 := by simpa [isAscii] using hc
  have hn := h c.toNat hlt
  rwa [Char.ofNat_toNat] at hn

/-- Part of a script's alphabet. -/
def isAlphabetic (c : Char) : Bool :=
  if isAscii c then c.isAlpha else inRuns alphabeticRuns c.toNat

/-- A digit or another number character. -/
def isNumeric (c : Char) : Bool :=
  if isAscii c then c.isDigit else inRuns numericRuns c.toNat

def isAlphanumeric (c : Char) : Bool := isAlphabetic c || isNumeric c

def isLowercase (c : Char) : Bool :=
  if isAscii c then c.isLower else inSteppedRuns lowercaseRuns c.toNat

def isUppercase (c : Char) : Bool :=
  if isAscii c then c.isUpper else inSteppedRuns uppercaseRuns c.toNat

/-- Lower, upper or title case. -/
def isCased (c : Char) : Bool :=
  isLowercase c || isUppercase c || inRuns titlecaseRuns c.toNat

/-- Passed over when case rules look at the neighbours of a character. -/
def isCaseIgnorable (c : Char) : Bool := inRuns caseIgnorableRuns c.toNat

/-- Part of a word: alphabetic characters, marks, digits and connectors. -/
def isWordCharacter (c : Char) : Bool :=
  if isAscii c then c.isAlphanum || c == '_'
  else inRuns wordRuns c.toNat

/-- Written as itself in quoted text: it has a printed form of its own. -/
def isPrintable (c : Char) : Bool :=
  if isAscii c then 32 ≤ c.toNat && c.toNat < 127
  else !inRuns unprintableRuns c.toNat && !inRuns extendingMarkRuns c.toNat

end ResourceSql.Unicode
