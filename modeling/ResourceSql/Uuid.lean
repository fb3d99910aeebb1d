import ResourceSql.Text.Digits

/-!
# Universally unique identifiers

An identifier is its 128 bits.  It is written in lower-case hexadecimal digits,
grouped 8-4-4-4-12 by hyphens, and read from that form in either case, without
hyphens, in braces, or as a URN.
-/

namespace ResourceSql

/-- A 128-bit identifier. -/
structure Uuid where
  bits : BitVec 128
deriving DecidableEq, Repr

namespace Uuid

/-- The lengths of the groups of digits. -/
def groups : List Nat := [8, 4, 4, 4, 12]

def cut : List Nat → List Char → List (List Char)
  | [], _ => []
  | n :: rest, digits => digits.take n :: cut rest (digits.drop n)

/-- The hyphenated lower-case form. -/
def text (u : Uuid) : String :=
  let digits := Digits.padLeft 32 (Digits.ofNat 16 u.bits.toNat)
  String.ofList (List.intercalate ['-'] (cut groups digits))

def ofDigits? (digits : List Char) : Option Uuid :=
  if digits.length = 32 then (Digits.readHex? digits).map fun n => ⟨BitVec.ofNat 128 n⟩
  else none

def ofHyphenated? (s : List Char) : Option Uuid :=
  let parts := s.splitOn '-'
  if parts.map List.length = groups then ofDigits? parts.flatten else none

/-- Read any of the accepted forms. -/
def parse? (s : String) : Option Uuid :=
  let cs := s.toList
  if cs.length = 32 then ofDigits? cs
  else if cs.length = 36 then ofHyphenated? cs
  else if cs.length = 38 ∧ cs.head? = some '\x7b' ∧ cs.getLast? = some '\x7d' then
    ofHyphenated? (cs.drop 1).dropLast
  else if cs.take 9 = "urn:uuid:".toList then ofHyphenated? (cs.drop 9)
  else none

end Uuid

end ResourceSql
