import ResourceSql.Proofs.ConditionMeaning

/-!
# Negated conditions

The text of a negated condition is read as the opposite of what the text of the condition
itself is read as.  This holds of every shape, also where a bare disjunction under a
conjunction makes the reader find something else than the tree: the parentheses of a
negation go around all that is written for the condition, so it is the reading that is
negated, whatever that is.
-/

namespace ResourceSql

open Sql

/-! ## Chains of any shape -/

namespace Sql

variable {tokens more : List Token} {left right e : Expression}

theorem Derives.disjunction (h : Derives .operand tokens e) : Derives (.chain .or) tokens e :=
  .single (.single h)

/-- The last operand of a disjunction takes a conjunction that follows it. -/
theorem Derives.exists_append_conjunction (hleft : Derives (.chain .or) tokens left)
    (hright : Derives (.chain .and) more right) :
    ∃ e : Expression, Derives (.chain .or) (tokens ++ Connective.and.token :: more) e := by
  cases hleft with
  | single hlast =>
      obtain ⟨e, he, -⟩ := Derives.exists_append hlast hright
      exact ⟨e, .single he⟩
  | join hfirst hlast =>
      obtain ⟨e, he, -⟩ := Derives.exists_append hlast hright
      exact ⟨_, by simpa using hfirst.join he⟩

/-- Two disjunctions with AND between them are a disjunction again.  The last operand of the
first one and the first operand of the second one become one conjunction. -/
theorem Derives.exists_append_and (hleft : Derives (.chain .or) tokens left)
    (hright : Derives (.chain .or) more right) :
    ∃ e : Expression, Derives (.chain .or) (tokens ++ Connective.and.token :: more) e := by
  generalize hlevel : Level.chain .or = level at hright
  induction hright with
  | predicate | not | group => cases hlevel
  | single hfirst =>
      cases hlevel
      exact hleft.exists_append_conjunction hfirst
  | join _ hlast ih =>
      cases hlevel
      obtain ⟨e, he⟩ := ih rfl
      exact ⟨_, by simpa using he.join hlast⟩

end Sql

/-! ## Conditions of any shape -/

namespace Condition

variable {c : Condition}

/-- The tokens of every condition are an expression, grouped or not. -/
theorem exists_derives (c : Condition) : ∃ e : Expression, Derives (.chain .or) c.tokens e := by
  induction c with
  | compare key comparison value negated =>
      obtain ⟨e, he, -⟩ := meantAt_compare key comparison value negated
      exact ⟨e, he.disjunction⟩
  | join connective left right negated ihleft ihright =>
      obtain ⟨l, hl⟩ := ihleft
      obtain ⟨r, hr⟩ := ihright
      obtain ⟨e, he⟩ : ∃ e : Expression,
          Derives (.chain .or) (left.tokens ++ connective.token :: right.tokens) e := by
        cases connective with
        | and => exact hl.exists_append_and hr
        | or =>
            obtain ⟨e, he, -⟩ := hl.exists_append hr
            exact ⟨e, he⟩
      cases negated with
      | false => exact ⟨e, by simpa [tokens] using he⟩
      | true => exact ⟨.not e, by simpa [tokens] using he.group.not.disjunction⟩

/-- To negate a condition that is not negated negates the expression of its tokens. -/
theorem derives_negate (hc : c.isNegated = false) {e : Expression}
    (he : Derives (.chain .or) c.tokens e) : Derives (.chain .or) c.negate.tokens (.not e) := by
  cases c with
  | compare key comparison value negated =>
      cases hc
      obtain ⟨p, hp, -⟩ := meantAt_compare key comparison value false
      -- The grammar is not ambiguous, so this is the operand that NOT stands before.
      cases hp.disjunction.unique he
      exact hp.not.disjunction
  | join connective left right negated =>
      cases hc
      exact he.group.not.disjunction

theorem finite_negate (hc : c.Finite) : c.negate.Finite := by
  cases c <;> exact hc

/-- The text of a condition is read as the expression that its tokens are. -/
theorem ofText?_of_derives {text : String} {e : Expression} (htext : c.sql = .ok text)
    (he : Derives (.chain .or) c.tokens e) : Expression.ofText? text = some e := by
  have hlex : lex? text.toList = some c.tokens := Condition.reads_sql htext
  rw [Expression.ofText?, hlex]
  exact Expression.ofTokens?_eq_some_iff.mpr he

/-- One of the expressions of a condition and of its opposite is the other one after NOT. -/
theorem exists_derives_negate (c : Condition) :
    ∃ e opposite : Expression, Derives (.chain .or) c.tokens e ∧
      Derives (.chain .or) c.negate.tokens opposite ∧
      (opposite = .not e ∨ e = .not opposite) := by
  cases hc : c.isNegated with
  | false =>
      obtain ⟨e, he⟩ := c.exists_derives
      exact ⟨e, .not e, he, derives_negate hc he, Or.inl rfl⟩
  | true =>
      obtain ⟨e, he⟩ := c.negate.exists_derives
      have hback := derives_negate (c := c.negate) (by simp [hc]) he
      rw [negate_negate] at hback
      exact ⟨.not e, e, hback, he, Or.inr rfl⟩

end Condition

@[simp] theorem Truth.not_not (truth : Truth) : truth.not.not = truth := by
  cases truth <;> rfl

/-- A condition without doubles that are not finite and its negation both have a text.  One
of the two texts is read as the other one after NOT, so whatever the truth values of the
predicates are, the text of the negation has the opposite of what the text of the condition
has. -/
theorem Condition.truth_ofText?_negate {c : Condition} (hfinite : c.Finite) :
    ∃ text negation e opposite, c.sql = .ok text ∧ c.negate.sql = .ok negation ∧
      Expression.ofText? text = some e ∧ Expression.ofText? negation = some opposite ∧
      (opposite = .not e ∨ e = .not opposite) ∧
      ∀ valuation, opposite.truth valuation = (e.truth valuation).not := by
  obtain ⟨text, htext⟩ := Condition.exists_sql_eq hfinite
  obtain ⟨negation, hnegation⟩ := Condition.exists_sql_eq (finite_negate hfinite)
  obtain ⟨e, opposite, he, hopposite, hnot⟩ := c.exists_derives_negate
  refine ⟨text, negation, e, opposite, htext, hnegation, ofText?_of_derives htext he,
    ofText?_of_derives hnegation hopposite, hnot, ?_⟩
  intro valuation
  rcases hnot with rfl | rfl
  · rfl
  · exact (Truth.not_not _).symm

/-- A conjunction of two bare disjunctions, one of which holds a negated conjunction, with
parentheses and keywords in its keys and values. -/
def bareDisjunctions : Condition :=
  let first := Condition.compare "a.NOT (" .equals (.text "\x27) OR NOT (") true
  let second := Condition.compare "AND" .like (.float ⟨0x3ff8000000000000⟩) false
  let third := Condition.compare "\x60 OR" .jsonContains (.list [.text ")", .null]) false
  .and (.or first (Condition.and second third).negate) (.or third (.and first second))

theorem Condition.truth_ofText?_negate_bareDisjunctions :
    bareDisjunctions.Finite ∧
    ∃ text negation e opposite, bareDisjunctions.sql = .ok text ∧
      bareDisjunctions.negate.sql = .ok negation ∧
      Expression.ofText? text = some e ∧ Expression.ofText? negation = some opposite ∧
      (opposite = .not e ∨ e = .not opposite) ∧
      ∀ valuation, opposite.truth valuation = (e.truth valuation).not := by
  have hfinite : bareDisjunctions.Finite := by
    have hvalue : Binary64.isFinite ⟨0x3ff8000000000000⟩ = true := by decide
    simp [bareDisjunctions, Condition.or, Condition.and, Condition.negate, Condition.Finite,
      hvalue]
  exact ⟨hfinite, Condition.truth_ofText?_negate hfinite⟩

end ResourceSql
