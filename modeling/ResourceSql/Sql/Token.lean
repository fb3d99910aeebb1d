import ResourceSql.Decimal
import ResourceSql.Text.Digits

/-!
# Tokens

How the dialect takes the text of a statement apart.  Identifiers stand between
backticks, where two backticks make one; texts stand between single quotes, where
a backslash changes the meaning of the next character and two quotes make one.
Outside of both there are words, numerals, a few symbols and blanks.  Everything
else is refused, comments among it, and so is a text that ends inside quotes.

The lexer reads one character at a time.  Its `Mode` is what it knows of the
token that it is in, and a token is complete when a character comes that cannot
continue it, or at the end.  `scan?` takes only the first token off a text; what
follows it may be anything.
-/

namespace ResourceSql.Sql

/-- A token of the dialect. -/
inductive Token where
  /-- A word outside quotes: a keyword, or the name of a function. -/
  | word (letters : String)
  /-- A numeral with its sign. -/
  | number (negative : Bool) (magnitude : Decimal)
  /-- An identifier, or one part of a qualified one. -/
  | identifier (name : String)
  /-- A text between single quotes. -/
  | text (s : String)
  /-- A punctuation mark. -/
  | symbol (c : Char)
deriving DecidableEq, Repr

/-- What the lexer knows of the token that it is in. -/
inductive Mode where
  | between
  | word (letters : List Char)
  /-- After a minus sign. -/
  | sign
  /-- In the digits before a point. -/
  | whole (negative : Bool) (digits : List Char)
  /-- In the digits after a point. -/
  | fraction (negative : Bool) (digits places : List Char)
  | identifier (name : List Char)
  /-- After a backtick within an identifier, which ends it unless another follows. -/
  | identifierEnd (name : List Char)
  | text (s : List Char)
  /-- After a backslash within a text. -/
  | escape (s : List Char)
  /-- After a quote within a text, which ends it unless another follows. -/
  | textEnd (s : List Char)
deriving DecidableEq, Repr

def isWordStart (c : Char) : Bool := c.isAlpha || c == '_'

def isWordChar (c : Char) : Bool := c.isAlphanum || c == '_'

def isBlank (c : Char) : Bool := c == ' ' || c == '\t' || c == '\n' || c == '\r'

/-- A character that is a token of its own. -/
def isSymbol (c : Char) : Bool := ['(', ')', ',', ';', '=', '*', '.'].contains c

/-- What a character means after a backslash. -/
def unescaped (c : Char) : Char :=
  if c = '0' then '\x00'
  else if c = 'b' then '\x08'
  else if c = 't' then '\t'
  else if c = 'n' then '\n'
  else if c = 'r' then '\r'
  else if c = 'Z' then '\x1a'
  else c

namespace Mode

/-- The tokens that are complete if nothing follows; `none` inside quotes, after a
sign and after a point. -/
def finish? : Mode → Option (List Token)
  | .between => some []
  | .word letters => some [.word (String.ofList letters)]
  | .whole negative digits => some [.number negative ⟨Digits.readDecimal 0 digits, 0⟩]
  | .fraction negative digits places =>
    if places.isEmpty then none
    else some [.number negative ⟨Digits.readDecimal 0 (digits ++ places), -places.length⟩]
  | .identifierEnd name => some [.identifier (String.ofList name)]
  | .textEnd s => some [.text (String.ofList s)]
  | .sign | .identifier _ | .text _ | .escape _ => none

/-- Read a character between two tokens. -/
def start? (c : Char) : Option (List Token × Mode) :=
  if isBlank c then some ([], .between)
  else if isSymbol c then some ([.symbol c], .between)
  else if c = '\x60' then some ([], .identifier [])
  else if c = '\x27' then some ([], .text [])
  else if c = '-' then some ([], .sign)
  else if c.isDigit then some ([], .whole false [c])
  else if isWordStart c then some ([], .word [c])
  else none

/-- Read a character that ends the token of a mode. -/
def next? (mode : Mode) (c : Char) : Option (List Token × Mode) := do
  let done ← mode.finish?
  let (more, mode) ← start? c
  return (done ++ more, mode)

/-- Read a character: the tokens that it completes, and the mode after it. -/
def step? (mode : Mode) (c : Char) : Option (List Token × Mode) :=
  match mode with
  | .between => start? c
  | .word letters => if isWordChar c then some ([], .word (letters ++ [c])) else mode.next? c
  | .sign => if c.isDigit then some ([], .whole true [c]) else none
  | .whole negative digits =>
    if c.isDigit then some ([], .whole negative (digits ++ [c]))
    else if c = '.' then some ([], .fraction negative digits [])
    else if isWordChar c then none
    else mode.next? c
  | .fraction negative digits places =>
    if c.isDigit then some ([], .fraction negative digits (places ++ [c]))
    else if c = '.' ∨ isWordChar c then none
    else mode.next? c
  | .identifier name =>
    if c = '\x60' then some ([], .identifierEnd name) else some ([], .identifier (name ++ [c]))
  | .identifierEnd name =>
    if c = '\x60' then some ([], .identifier (name ++ [c])) else mode.next? c
  | .text s =>
    if c = '\x27' then some ([], .textEnd s)
    else if c = '\\' then some ([], .escape s)
    else some ([], .text (s ++ [c]))
  | .escape s => some ([], .text (s ++ [unescaped c]))
  | .textEnd s => if c = '\x27' then some ([], .text (s ++ [c])) else mode.next? c

/-- Read characters: the tokens that they complete, and the mode after them. -/
def read? (mode : Mode) : List Char → Option (List Token × Mode)
  | [] => some ([], mode)
  | c :: rest => do
    let (done, mode) ← mode.step? c
    let (more, mode) ← mode.read? rest
    return (done ++ more, mode)

end Mode

/-! ## A token and what follows it -/

/-- Whether a token is over before a character, because the character cannot continue it. -/
def Token.endsBefore : Token → Char → Bool
  | .word _, c => !isWordChar c
  | .number .., c => !(isWordChar c || c == '.')
  | .identifier _, c => c != '\x60'
  | .text _, c => c != '\x27'
  | .symbol _, _ => true

/-- A token is over where the rest of a text starts. -/
def Token.EndsAt (token : Token) (rest : List Char) : Prop :=
  ∀ c, rest.head? = some c → token.endsBefore c = true

namespace Mode

/-- The token that is complete if nothing follows. -/
def token? (mode : Mode) : Option Token := mode.finish?.bind (·.head?)

/-- Read on to the end of the token of a mode, or of the next token after blanks: the token,
and what follows it. -/
def scan? (mode : Mode) : List Char → Option (Token × List Char)
  | [] => mode.token?.map (·, [])
  | c :: rest =>
    match mode.token?.filter (·.endsBefore c) with
    | some token => some (token, c :: rest)
    | none =>
      match mode.step? c with
      | some ([], next) => next.scan? rest
      | some ([token], .between) => some (token, rest)
      | _ => none

end Mode

/-- The first token of a text, and what follows it. -/
def scan? (cs : List Char) : Option (Token × List Char) := Mode.between.scan? cs

/-! ## All tokens -/

/-- The tokens of a text; `none` if it is not a text of the dialect. -/
def lex? (cs : List Char) : Option (List Token) := do
  let (done, mode) ← Mode.between.read? cs
  let last ← mode.finish?
  return done ++ last

end ResourceSql.Sql
