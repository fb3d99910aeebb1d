import ResourceSql.Text.Digits

/-!
# Written JSON

A `Written` is a JSON text with its blanks and escapes resolved, but with its
numerals still as they were written and with every member of an object, repeated
names included.  What numerals and repeated names mean is decided by
`ResourceSql.Json.ofWritten?`, apart from the grammar.

The reader works on characters with an explicit bound on its depth of calls;
`Written.parse?` takes the bound from the length of the text, which no reading
exceeds because every call consumes a character.
-/

namespace ResourceSql

/-- A numeral: its sign and its digits. -/
structure Numeral where
  negative : Bool
  /-- The digits before the point. -/
  whole : List Char
  /-- The digits after the point, if there is one. -/
  fraction : Option (List Char)
  /-- The exponent, if there is one: whether it is negative, and its digits. -/
  exponent : Option (Bool × List Char)

/-- A JSON text with blanks and escapes resolved. -/
inductive Written where
  | null
  | bool (b : Bool)
  | number (n : Numeral)
  | string (s : String)
  | array (items : List Written)
  | object (members : List (String × Written))

namespace Written

def isBlank (c : Char) : Bool := c == ' ' || c == '\t' || c == '\n' || c == '\r'

def skipBlank (cs : List Char) : List Char := cs.dropWhile isBlank

def fourHex? (a b c d : Char) : Option Nat := Digits.readHex? [a, b, c, d]

def shortEscape? (c : Char) : Option Char :=
  if c = '\x22' ∨ c = '\\' ∨ c = '/' then some c
  else if c = 'b' then some '\x08'
  else if c = 'f' then some '\x0c'
  else if c = 'n' then some '\n'
  else if c = 'r' then some '\r'
  else if c = 't' then some '\t'
  else none

/-- The first of a pair of units that make one character. -/
def isHighUnit (n : Nat) : Bool := 0xD800 ≤ n && n < 0xDC00

/-- The second of a pair of units that make one character. -/
def isLowUnit (n : Nat) : Bool := 0xDC00 ≤ n && n < 0xE000

/-- The characters up to the closing quote, and the text after it. -/
def stringBody? : List Char → Option (List Char × List Char)
  | '\x22' :: rest => some ([], rest)
  | '\\' :: 'u' :: a :: b :: c :: d :: '\\' :: 'u' :: e :: f :: g :: h :: rest => do
    let first ← fourHex? a b c d
    if isHighUnit first then
      let second ← fourHex? e f g h
      if isLowUnit second then
        let code := 0x10000 + (first - 0xD800) * 0x400 + (second - 0xDC00)
        let (body, after) ← stringBody? rest
        return (Char.ofNat code :: body, after)
      else none
    else if isLowUnit first then none
    else
      let (body, after) ← stringBody? ('\\' :: 'u' :: e :: f :: g :: h :: rest)
      return (Char.ofNat first :: body, after)
  | '\\' :: 'u' :: a :: b :: c :: d :: rest => do
    let unit ← fourHex? a b c d
    if isHighUnit unit || isLowUnit unit then none
    else
      let (body, after) ← stringBody? rest
      return (Char.ofNat unit :: body, after)
  | '\\' :: c :: rest => do
    let meant ← shortEscape? c
    let (body, after) ← stringBody? rest
    return (meant :: body, after)
  | c :: rest =>
    if c.toNat < 32 then none
    else do
      let (body, after) ← stringBody? rest
      return (c :: body, after)
  | [] => none

/-- The digits at the front of a text, at least one. -/
def digits? (cs : List Char) : Option (List Char × List Char) :=
  let digits := cs.takeWhile Char.isDigit
  if digits.isEmpty then none else some (digits, cs.dropWhile Char.isDigit)

/-- The whole part of a numeral, which has no needless zero in front. -/
def wholePart? (cs : List Char) : Option (List Char × List Char) := do
  let (digits, rest) ← digits? cs
  if 1 < digits.length ∧ digits.head? = some '0' then none else some (digits, rest)

/-- The digits after a point, if there is one. -/
def fractionPart? : List Char → Option (Option (List Char) × List Char)
  | '.' :: cs => do
    let (digits, rest) ← digits? cs
    return (some digits, rest)
  | cs => some (none, cs)

def exponentPart? (cs : List Char) : Option (Option (Bool × List Char) × List Char) :=
  match cs with
  | [] => some (none, [])
  | c :: after =>
    if c = 'e' ∨ c = 'E' then do
      let (negative, unsigned) := match after with
        | '-' :: rest => (true, rest)
        | '+' :: rest => (false, rest)
        | rest => (false, rest)
      let (digits, rest) ← digits? unsigned
      return (some (negative, digits), rest)
    else some (none, cs)

def numeral? (cs : List Char) : Option (Numeral × List Char) := do
  let (negative, unsigned) := match cs with
    | '-' :: rest => (true, rest)
    | rest => (false, rest)
  let (whole, rest) ← wholePart? unsigned
  let (fraction, rest) ← fractionPart? rest
  let (exponent, rest) ← exponentPart? rest
  return (⟨negative, whole, fraction, exponent⟩, rest)

mutual

/-- The value at the front of a text, and the text after it. -/
def value? : Nat → List Char → Option (Written × List Char)
  | 0, _ => none
  | bound + 1, cs =>
    match skipBlank cs with
    | 'n' :: 'u' :: 'l' :: 'l' :: rest => some (.null, rest)
    | 't' :: 'r' :: 'u' :: 'e' :: rest => some (.bool true, rest)
    | 'f' :: 'a' :: 'l' :: 's' :: 'e' :: rest => some (.bool false, rest)
    | '\x22' :: rest => (stringBody? rest).map fun (body, after) => (.string (String.ofList body), after)
    | '[' :: rest =>
      match skipBlank rest with
      | ']' :: after => some (.array [], after)
      | first => (items? bound first).map fun (items, after) => (.array items, after)
    | '\x7b' :: rest =>
      match skipBlank rest with
      | '\x7d' :: after => some (.object [], after)
      | first => (members? bound first).map fun (members, after) => (.object members, after)
    | start => (numeral? start).map fun (n, after) => (.number n, after)

/-- The items of an array up to its closing bracket, at least one. -/
def items? : Nat → List Char → Option (List Written × List Char)
  | 0, _ => none
  | bound + 1, cs => do
    let (item, rest) ← value? bound cs
    match skipBlank rest with
    | ']' :: after => some ([item], after)
    | ',' :: next =>
      let (items, after) ← items? bound next
      return (item :: items, after)
    | _ => none

/-- The members of an object up to its closing brace, at least one. -/
def members? : Nat → List Char → Option (List (String × Written) × List Char)
  | 0, _ => none
  | bound + 1, cs =>
    match skipBlank cs with
    | '\x22' :: named => do
      let (name, rest) ← stringBody? named
      match skipBlank rest with
      | ':' :: valued =>
        let (value, rest) ← value? bound valued
        let member := (String.ofList name, value)
        match skipBlank rest with
        | '\x7d' :: after => some ([member], after)
        | ',' :: next =>
          let (members, after) ← members? bound next
          return (member :: members, after)
        | _ => none
      | _ => none
    | _ => none

end

/-- The value that a whole text writes. -/
def parse? (s : String) : Option Written :=
  let cs := s.toList
  match value? (cs.length + 1) cs with
  | some (value, rest) => if (skipBlank rest).isEmpty then some value else none
  | none => none

end Written

end ResourceSql
