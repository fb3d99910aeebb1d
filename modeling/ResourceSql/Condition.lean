import ResourceSql.Failure
import ResourceSql.Value.Basic

/-!
# Conditions

A condition is a tree of comparisons joined by AND and OR, every node of which can
be negated.  A comparison starts from a `Column` that has not been compared yet.
Choosing how it is compared turns it into a condition, so a comparison has exactly
one operator.
-/

namespace ResourceSql

/-- How a column is compared with a value. -/
inductive Comparison where
  | equals
  | like
  | jsonContains
deriving DecidableEq, Repr

/-- How two conditions are joined. -/
inductive Connective where
  | and
  | or
deriving DecidableEq, Repr

/-- A condition on the columns of a row. -/
inductive Condition where
  | compare (key : String) (comparison : Comparison) (value : Value) (negated : Bool)
  | join (connective : Connective) (left right : Condition) (negated : Bool)

/-- A column that awaits its comparison. -/
structure Column where
  key : String
  /-- Whether the comparison will be negated. -/
  negated : Bool
deriving DecidableEq, Repr

namespace Column

/-- Start a comparison.  The column needs a name. -/
def named (key : String) : Except Failure Column :=
  if key.isEmpty then .error .unnamedColumn else .ok ⟨key, false⟩

def negate (c : Column) : Column := { c with negated := !c.negated }

def compare (c : Column) (comparison : Comparison) (value : Value) : Condition :=
  .compare c.key comparison value c.negated

end Column

namespace Condition

def and (left right : Condition) : Condition := .join .and left right false

def or (left right : Condition) : Condition := .join .or left right false

/-- Toggle the negation of the whole condition. -/
def negate : Condition → Condition
  | .compare key comparison value negated => .compare key comparison value (!negated)
  | .join connective left right negated => .join connective left right (!negated)

def isNegated : Condition → Bool
  | .compare _ _ _ negated => negated
  | .join _ _ _ negated => negated

@[simp] theorem negate_negate (c : Condition) : c.negate.negate = c := by
  cases c <;> simp [negate]

@[simp] theorem isNegated_negate (c : Condition) : c.negate.isNegated = !c.isNegated := by
  cases c <;> rfl

/-- Comparison of conditions, with values compared as values. -/
def equal : Condition → Condition → Bool
  | .compare key comparison value negated, .compare key' comparison' value' negated' =>
    key == key' && decide (comparison = comparison') && value.equal value' && negated == negated'
  | .join connective left right negated, .join connective' left' right' negated' =>
    decide (connective = connective') && left.equal left' && right.equal right' &&
      negated == negated'
  | _, _ => false

instance : BEq Condition := ⟨equal⟩

end Condition

end ResourceSql
