import ResourceSql.Proofs.ExpressionReading
import ResourceSql.Proofs.Lexing.Statement

/-!
# The meaning of conditions

The text of a condition is read as an expression that has the truth value of the
condition, whatever the predicates are.  The text has no parentheses except around what
is negated, so the reader does not find the tree again: a chain of one connective comes
back grouped from the left.  Either grouping has the same truth value, so nothing is lost
as long as no disjunction stands bare under a conjunction.
-/

namespace ResourceSql

open Sql

/-! ## Chains -/

namespace Sql

/-- Two chains of a connective with the connective between them are a chain again. -/
theorem Derives.exists_append {connective : Connective} {tokens more : List Token}
    {left right : Expression} (hleft : Derives (.chain connective) tokens left)
    (hright : Derives (.chain connective) more right) :
    ∃ e : Expression, Derives (.chain connective) (tokens ++ connective.token :: more) e ∧
      ∀ valuation,
        e.truth valuation = connective.truth (left.truth valuation) (right.truth valuation) := by
  generalize hlevel : Level.chain connective = level at hright
  induction hright with
  | predicate | not | group => cases hlevel
  | single h =>
      cases hlevel
      exact ⟨_, hleft.join h, fun _ => rfl⟩
  | @join _ _ last _ right _ hlast ih =>
      cases hlevel
      -- What comes first of the second chain goes into the first one.
      obtain ⟨e, he, htruth⟩ := ih rfl
      refine ⟨.join connective e right, by simpa using he.join hlast, ?_⟩
      intro valuation
      rw [Expression.truth, htruth, connective.truth_assoc]
      rfl

end Sql

/-! ## Conditions -/

theorem Token.isOperand_token (v : Value) : v.token.isOperand = true := by
  cases v with
  | null => decide
  | bool b => cases b <;> decide
  | _ => rfl

theorem Comparison.wellFormed_predicate (comparison : Comparison) (key : String) (v : Value) :
    (comparison.predicate key v).WellFormed where
  column_ne_nil := by simp [predicate, List.splitOn_ne_nil]
  isOperand := Token.isOperand_token v

theorem Comparison.tokens_predicate (comparison : Comparison) (key : String) (v : Value) :
    (comparison.predicate key v).tokens = comparison.tokens key v.token := by
  have hcolumn : columnTokens (comparison.predicate key v).column = qualified key := by
    rw [columnTokens, predicate, List.map_map]
    rfl
  unfold Predicate.tokens
  rw [hcolumn]
  cases comparison <;> rfl

namespace Condition

/-- The tokens of a condition are an expression of a level that has its truth value. -/
def MeantAt (level : Level) (c : Condition) : Prop :=
  ∃ e : Expression, Derives level c.tokens e ∧
    ∀ valuation, e.truth valuation = c.truth valuation

theorem MeantAt.chain {connective : Connective} {c : Condition}
    (h : c.MeantAt (.below connective)) : c.MeantAt (.chain connective) := by
  obtain ⟨e, he, htruth⟩ := h
  exact ⟨e, .single he, htruth⟩

theorem MeantAt.join {connective : Connective} {left right : Condition}
    (hleft : left.MeantAt (.chain connective)) (hright : right.MeantAt (.chain connective)) :
    (Condition.join connective left right false).MeantAt (.chain connective) := by
  obtain ⟨l, hl, htruthLeft⟩ := hleft
  obtain ⟨r, hr, htruthRight⟩ := hright
  obtain ⟨e, he, htruth⟩ := hl.exists_append hr
  refine ⟨e, by simpa [tokens] using he, ?_⟩
  intro valuation
  rw [htruth, htruthLeft, htruthRight]
  rfl

theorem meantAt_compare (key : String) (comparison : Comparison) (value : Value)
    (negated : Bool) : (compare key comparison value negated).MeantAt .operand := by
  have hderives : Derives .operand (comparison.tokens key value.token)
      (.predicate (comparison.predicate key value)) := by
    rw [← comparison.tokens_predicate]
    exact .predicate (comparison.wellFormed_predicate key value)
  cases negated with
  | false => exact ⟨_, hderives, fun _ => rfl⟩
  | true => exact ⟨_, hderives.not, fun _ => rfl⟩

/-- A negated join is the opposite of the group in its parentheses. -/
theorem MeantAt.negated {connective : Connective} {left right : Condition}
    (h : (Condition.join connective left right false).MeantAt (.chain .or)) :
    (Condition.join connective left right true).MeantAt .operand := by
  obtain ⟨e, he, htruth⟩ := h
  refine ⟨.not e, he.group.not, ?_⟩
  intro valuation
  rw [Expression.truth, htruth]
  rfl

/-- A condition that is no bare disjunction is a conjunction. -/
def level (c : Condition) : Level := .chain (if c.isBareOr then .or else .and)

theorem MeantAt.disjunction {c : Condition} (h : c.MeantAt c.level) : c.MeantAt (.chain .or) := by
  unfold level at h
  split_ifs at h
  · exact h
  · exact MeantAt.chain h

theorem MeantAt.of_operand {c : Condition} (h : c.MeantAt .operand) (hbare : c.isBareOr = false) :
    c.MeantAt c.level := by
  rw [level, hbare]
  exact MeantAt.chain h

theorem Grouped.meantAt {c : Condition} (h : c.Grouped) : c.MeantAt c.level := by
  induction c with
  | compare key comparison value negated =>
      exact (meantAt_compare key comparison value negated).of_operand rfl
  | join connective left right negated ihleft ihright =>
      obtain ⟨hbare, hleft, hright⟩ := h
      have hl := ihleft hleft
      have hr := ihright hright
      have hjoin : (Condition.join connective left right false).MeantAt
          (Condition.join connective left right false).level := by
        cases connective with
        | and =>
            obtain ⟨hbareLeft, hbareRight⟩ := hbare rfl
            rw [level, hbareLeft] at hl
            rw [level, hbareRight] at hr
            exact hl.join hr
        | or => exact hl.disjunction.join hr.disjunction
      cases negated with
      | false => exact hjoin
      | true => exact hjoin.disjunction.negated.of_operand (by cases connective <;> rfl)

end Condition

/-! ## Texts -/

/-- A value has a text unless it is a double that is not finite. -/
theorem Value.exists_sql_eq {v : Value} (h : ∀ x, v = .float x → x.isFinite = true) :
    ∃ text, v.sql = .ok text := by
  cases v with
  | float x => exact ⟨_, by rw [Value.sql, Value.literal, if_pos (h x rfl)]; rfl⟩
  | _ => exact ⟨_, rfl⟩

theorem Condition.exists_sql_eq {c : Condition} (h : c.Finite) : ∃ text, c.sql = .ok text := by
  induction c with
  | compare key comparison value negated =>
      obtain ⟨literal, hliteral⟩ := Value.exists_sql_eq h
      rw [Condition.sql, hliteral]
      exact ⟨_, rfl⟩
  | join connective left right negated ihleft ihright =>
      obtain ⟨leftText, hleft⟩ := ihleft h.1
      obtain ⟨rightText, hright⟩ := ihright h.2
      rw [Condition.sql, hleft, hright]
      exact ⟨_, rfl⟩

/-- A grouped condition without doubles that are not finite has a text.  The text is read
as an expression that has the truth value of the condition, whatever the truth values of
the predicates are. -/
theorem Condition.truth_ofText?_sql {c : Condition} (hgrouped : c.Grouped) (hfinite : c.Finite) :
    ∃ text e, c.sql = .ok text ∧ Expression.ofText? text = some e ∧
      ∀ valuation, e.truth valuation = c.truth valuation := by
  obtain ⟨text, htext⟩ := Condition.exists_sql_eq hfinite
  obtain ⟨e, hderives, htruth⟩ := hgrouped.meantAt.disjunction
  have hlex : lex? text.toList = some c.tokens := Condition.reads_sql htext
  have hread : Expression.ofTokens? c.tokens = some e :=
    Expression.ofTokens?_eq_some_iff.mpr hderives
  exact ⟨text, e, htext, by rw [Expression.ofText?, hlex]; exact hread, htruth⟩

/-- A disjunction of a conjunction that holds a negated disjunction, with keywords, quotes
and parentheses in its keys and values. -/
def mixedCondition : Condition :=
  let first := Condition.compare "a.b" .equals (.text "x\x27) OR (NOT 1 = 1") false
  let second := Condition.compare "OR" .like (.text "%AND%") true
  let third := Condition.compare "t\x60)" .jsonContains (.list [.text "(", .null]) false
  .or (.and first (Condition.or second third).negate) (.and second (.and third first))

theorem Condition.truth_ofText?_sql_mixedCondition :
    mixedCondition.Grouped ∧ mixedCondition.Finite ∧
    ∃ text e, mixedCondition.sql = .ok text ∧ Expression.ofText? text = some e ∧
      ∀ valuation, e.truth valuation = mixedCondition.truth valuation := by
  have hgrouped : mixedCondition.Grouped := by
    simp [mixedCondition, Condition.or, Condition.and, Condition.negate, Condition.Grouped,
      Condition.isBareOr]
  have hfinite : mixedCondition.Finite := by
    simp [mixedCondition, Condition.or, Condition.and, Condition.negate, Condition.Finite]
  exact ⟨hgrouped, hfinite, Condition.truth_ofText?_sql hgrouped hfinite⟩

/-- A bare disjunction under a conjunction is read as something else. -/
example :
    let test := fun key => Condition.compare key .equals .null false
    let c := Condition.and (.or (test "a") (test "b")) (test "c")
    let valuation := fun p : Predicate => if p.column = ["a"] then Truth.true else Truth.false
    c.truth valuation = .false ∧
      (Expression.ofTokens? c.tokens).map (·.truth valuation) = some .true := by
  decide +kernel

end ResourceSql
