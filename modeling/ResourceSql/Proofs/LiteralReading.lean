import ResourceSql.Proofs.Lexing.Statement
import ResourceSql.Proofs.StoredValues
import ResourceSql.Sql.LiteralMeaning

/-!
# Literals read back

The text of a value is scanned as one token that stands for the value, whatever follows it
that does not continue the token.  So no value can end its text early, or go on behind it.
-/

namespace ResourceSql

open Sql

/-! ## Tokens of values -/

theorem Sql.Token.integer?_number (n : Int) :
    (Token.number (n < 0) ⟨n.natAbs, 0⟩).integer? = some n := by
  by_cases hn : n < 0
  · simp only [integer?, hn, decide_true, if_true, Option.some.injEq]
    omega
  · simp only [integer?, hn, decide_false, Bool.false_eq_true, if_false, Option.some.injEq]
    omega

namespace Value

theorem isFinite_of_sql_float {x : Binary64} {text : String}
    (h : (Value.float x).sql = .ok text) : x.isFinite = true := by
  obtain ⟨literal, hliteral, -⟩ := Failure.exists_of_bind_eq_ok h
  rw [Value.literal] at hliteral
  split_ifs at hliteral with hfinite
  exact hfinite

theorem standsFor_token {v : Value} {text : String} (h : v.sql = .ok text) :
    v.token.StandsFor v := by
  cases v with
  | int n => exact Token.integer?_number n.toInt
  | float x =>
      have hvalue : (Decimal.shortest .up x).writtenOut.value = (Decimal.shortest .up x).value :=
        Decimal.value_writtenOut _
      exact ⟨_, rfl, Decimal.ofRatio_ratio (isFinite_of_sql_float h) hvalue⟩
  | _ => rfl

theorem scan?_append {v : Value} {text : String} (h : v.sql = .ok text) {rest : List Char}
    (hrest : v.token.EndsAt rest) : scan? (text.toList ++ rest) = some (v.token, rest) :=
  (spells_sql h).scan? hrest

end Value

/-- The least signed number is read with its sign, whatever stands behind it. -/
example :
    scan? "-9223372036854775808)\x27".toList =
      some (.number true ⟨9223372036854775808, 0⟩, [')', '\x27']) := by
  decide +kernel

end ResourceSql
