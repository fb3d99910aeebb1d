import ResourceSql.Sql.Form

/-!
# Conditions as the database reads them

What the database makes of the tokens of a condition: an expression over predicates,
with the dialect's precedence.  A comparison binds tighter than NOT, NOT tighter than
AND, and AND tighter than OR; what stands in parentheses is one operand.  A chain of
one connective groups from the left.  `Derives` is the grammar, and `Expression.ofTokens?`
reads by it.

An expression and a condition are compared by the truth value that each has when every
predicate has one.
-/

namespace ResourceSql

/-! ## Truth values -/

/-- A truth value of the dialect. -/
inductive Truth where
  | false
  | unknown
  | true
deriving DecidableEq, Repr

namespace Truth

/-- The opposite; of what is unknown, unknown. -/
def not : Truth → Truth
  | .false => .true
  | .unknown => .unknown
  | .true => .false

/-- False if one of them is, and unknown if one of them may be. -/
def and : Truth → Truth → Truth
  | .false, _ | _, .false => .false
  | .true, .true => .true
  | _, _ => .unknown

/-- True if one of them is, and unknown if one of them may be. -/
def or : Truth → Truth → Truth
  | .true, _ | _, .true => .true
  | .false, .false => .false
  | _, _ => .unknown

def notIf (negated : Bool) (truth : Truth) : Truth := if negated then truth.not else truth

end Truth

def Connective.truth : Connective → Truth → Truth → Truth
  | .and => Truth.and
  | .or => Truth.or

theorem Connective.truth_assoc (connective : Connective) (a b c : Truth) :
    connective.truth (connective.truth a b) c = connective.truth a (connective.truth b c) := by
  cases connective <;> cases a <;> cases b <;> cases c <;> rfl

/-! ## Expressions -/

namespace Sql

/-- A comparison as it stands in a statement. -/
structure Predicate where
  /-- The column, as the parts of its qualified name. -/
  column : List String
  comparison : Comparison
  value : Token
deriving DecidableEq, Repr

/-- A condition as the dialect groups it. -/
inductive Expression where
  | predicate (p : Predicate)
  | not (operand : Expression)
  | join (connective : Connective) (left right : Expression)
deriving DecidableEq, Repr

/-- The truth value of an expression, given that of every predicate. -/
def Expression.truth (valuation : Predicate → Truth) : Expression → Truth
  | .predicate p => valuation p
  | .not operand => (operand.truth valuation).not
  | .join connective left right =>
    connective.truth (left.truth valuation) (right.truth valuation)

/-! ## Grammar -/

/-- Whether a token can be compared with. -/
def Token.isOperand : Token → Bool
  | .number .. | .text _ => true
  | .word letters => ["NULL", "true", "false"].contains letters
  | .identifier _ | .symbol _ => false

def columnTokens (parts : List String) : List Token :=
  (parts.map .identifier).intersperse (.symbol '.')

namespace Predicate

def tokens (p : Predicate) : List Token :=
  match p.comparison with
  | .equals => columnTokens p.column ++ [.symbol '=', p.value]
  | .like => columnTokens p.column ++ [.word "LIKE", p.value]
  | .jsonContains =>
    .word "JSON_CONTAINS" :: parenthesized (columnTokens p.column ++ [.symbol ',', p.value])

/-- The column has a name, and is compared with a value. -/
structure WellFormed (p : Predicate) : Prop where
  column_ne_nil : p.column ≠ []
  isOperand : p.value.isOperand = true

end Predicate

/-- How loosely an expression may bind. -/
inductive Level where
  /-- A predicate or a group, or either of them after NOT. -/
  | operand
  /-- Operands with a connective between them, or only one. -/
  | chain (connective : Connective)
deriving DecidableEq, Repr

/-- What the operands of a connective are: AND binds tighter than OR. -/
def Level.below : Connective → Level
  | .and => .operand
  | .or => .chain .and

/-- Tokens are an expression of a level. -/
inductive Derives : Level → List Token → Expression → Prop
  | predicate {p : Predicate} (h : p.WellFormed) : Derives .operand p.tokens (.predicate p)
  | not {tokens : List Token} {e : Expression} (h : Derives .operand tokens e) :
    Derives .operand (.word "NOT" :: tokens) (.not e)
  | group {tokens : List Token} {e : Expression} (h : Derives (.chain .or) tokens e) :
    Derives .operand (parenthesized tokens) e
  | single {connective : Connective} {tokens : List Token} {e : Expression}
    (h : Derives (.below connective) tokens e) : Derives (.chain connective) tokens e
  | join {connective : Connective} {tokens more : List Token} {left right : Expression}
    (hleft : Derives (.chain connective) tokens left)
    (hright : Derives (.below connective) more right) :
    Derives (.chain connective) (tokens ++ connective.token :: more)
      (.join connective left right)

/-! ## Reading -/

def column? : List Token → Option (List String × List Token)
  | .identifier name :: .symbol '.' :: rest => do
    let (parts, rest) ← column? rest
    return (name :: parts, rest)
  | .identifier name :: rest => some ([name], rest)
  | _ => none

def predicate? : List Token → Option (Predicate × List Token)
  | .word "JSON_CONTAINS" :: .symbol '(' :: tokens =>
    match column? tokens with
    | some (column, .symbol ',' :: value :: .symbol ')' :: rest) =>
      if value.isOperand then some (⟨column, .jsonContains, value⟩, rest) else none
    | _ => none
  | tokens =>
    match column? tokens with
    | some (column, .symbol '=' :: value :: rest) =>
      if value.isOperand then some (⟨column, .equals, value⟩, rest) else none
    | some (column, .word "LIKE" :: value :: rest) =>
      if value.isOperand then some (⟨column, .like, value⟩, rest) else none
    | _ => none

/-- How an expression is read from the front of tokens. -/
abbrev Reader := List Token → Option (Expression × List Token)

/-- Read an operand, with a reader of what stands in parentheses. -/
def operand? (group? : Reader) : Reader
  | .word "NOT" :: tokens => do
    let (e, rest) ← operand? group? tokens
    return (.not e, rest)
  | .symbol '(' :: tokens =>
    match group? tokens with
    | some (e, .symbol ')' :: rest) => some (e, rest)
    | _ => none
  | tokens => do
    let (p, rest) ← predicate? tokens
    return (.predicate p, rest)

/-- Read on after the left operand of a connective, at most so many operands further. -/
def operands? (connective : Connective) (next? : Reader) : Nat → Expression → Reader
  | bound + 1, left, token :: tokens =>
    if token = connective.token then do
      let (right, rest) ← next? tokens
      operands? connective next? bound (.join connective left right) rest
    else some (left, token :: tokens)
  | _, left, tokens => some (left, tokens)

/-- Read operands with a connective between them. -/
def chain? (connective : Connective) (next? : Reader) : Reader := fun tokens => do
  let (left, rest) ← next? tokens
  operands? connective next? rest.length left rest

/-- Read an expression of a level, with a reader of what stands in parentheses. -/
def Level.read? (group? : Reader) : Level → Reader
  | .operand => operand? group?
  | .chain .and => chain? .and (operand? group?)
  | .chain .or => chain? .or (chain? .and (operand? group?))

/-- Read an expression in which parentheses stand less deep than a bound. -/
def expression? : Nat → Reader
  | 0 => fun _ => none
  | depth + 1 => (Level.chain .or).read? (expression? depth)

namespace Expression

/-- The expression that tokens are, to the last of them. -/
def ofTokens? (tokens : List Token) : Option Expression :=
  match expression? (tokens.length + 1) tokens with
  | some (expression, []) => some expression
  | _ => none

/-- The expression that a text denotes. -/
def ofText? (text : String) : Option Expression := (lex? text.toList).bind ofTokens?

end Expression

end Sql

/-! ## What a condition says -/

open Sql

def Comparison.predicate (comparison : Comparison) (key : String) (value : Value) : Predicate :=
  ⟨(key.toList.splitOn '.').map String.ofList, comparison, value.token⟩

namespace Condition

/-- The truth value of a condition, given that of every predicate. -/
def truth (valuation : Predicate → Truth) : Condition → Truth
  | .compare key comparison value negated =>
    (valuation (comparison.predicate key value)).notIf negated
  | .join connective left right negated =>
    (connective.truth (left.truth valuation) (right.truth valuation)).notIf negated

/-- Whether a condition is a disjunction that is not negated. -/
def isBareOr : Condition → Bool
  | .join .or _ _ false => true
  | _ => false

/-- No disjunction stands directly under a conjunction unless it is negated. -/
def Grouped : Condition → Prop
  | .compare .. => True
  | .join connective left right _ =>
    (connective = .and → left.isBareOr = false ∧ right.isBareOr = false) ∧
      left.Grouped ∧ right.Grouped

/-- No column is compared with a double that is not finite. -/
def Finite : Condition → Prop
  | .compare _ _ value _ => ∀ x, value = .float x → x.isFinite = true
  | .join _ left right _ => left.Finite ∧ right.Finite

end Condition

end ResourceSql
