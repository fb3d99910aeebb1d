import Mathlib.Data.List.Basic
import Mathlib.Tactic.Common
import ResourceSql.Sql.Expression

/-!
# Reading expressions

The reader of expressions finds what the grammar allows and nothing else, so tokens are
one expression at most.
-/

namespace ResourceSql.Sql

/-! ## Predicates -/

theorem columnTokens_cons_cons (first second : String) (rest : List String) :
    columnTokens (first :: second :: rest) =
      .identifier first :: .symbol '.' :: columnTokens (second :: rest) := rfl

theorem column?_columnTokens {parts : List String} (hparts : parts ≠ []) {next : Token}
    (hnext : next ≠ .symbol '.') (rest : List Token) :
    column? (columnTokens parts ++ next :: rest) = some (parts, next :: rest) := by
  induction parts with
  | nil => contradiction
  | cons first parts ih =>
      cases parts with
      | nil => simp [columnTokens, column?, hnext]
      | cons second parts =>
          rw [columnTokens_cons_cons]
          simp [column?, ih]

theorem of_column?_eq_some {tokens rest : List Token} {parts : List String}
    (h : column? tokens = some (parts, rest)) :
    parts ≠ [] ∧ tokens = columnTokens parts ++ rest := by
  fun_induction column? tokens generalizing parts with
  | case1 name more ih =>
      obtain ⟨⟨inner, last⟩, hmore, h⟩ := Option.bind_eq_some_iff.mp h
      cases h
      obtain ⟨hne, rfl⟩ := ih hmore
      obtain ⟨second, inner, rfl⟩ := List.exists_cons_of_ne_nil hne
      exact ⟨by simp, rfl⟩
  | case2 name more =>
      cases h
      exact ⟨by simp, rfl⟩
  | case3 => cases h

theorem predicate?_of_column? {tokens rest : List Token} {column : List String}
    {operator value : Token} {comparison : Comparison}
    (hoperator : operator = .symbol '=' ∧ comparison = .equals ∨
      operator = .word "LIKE" ∧ comparison = .like)
    (hcolumn : column? tokens = some (column, operator :: value :: rest))
    (hvalue : value.isOperand = true) :
    predicate? tokens = some (⟨column, comparison, value⟩, rest) := by
  unfold predicate?
  split
  · simp [column?] at hcolumn
  · rcases hoperator with ⟨rfl, rfl⟩ | ⟨rfl, rfl⟩ <;> simp [hcolumn, hvalue]

theorem predicate?_tokens {p : Predicate} (hp : p.WellFormed) (rest : List Token) :
    predicate? (p.tokens ++ rest) = some (p, rest) := by
  obtain ⟨column, comparison, value⟩ := p
  obtain ⟨hcolumn, hvalue⟩ := hp
  cases comparison with
  | equals =>
      have hequals : Token.symbol '=' ≠ .symbol '.' := by decide
      have hread := column?_columnTokens hcolumn hequals (value :: rest)
      simpa [Predicate.tokens] using predicate?_of_column? (Or.inl ⟨rfl, rfl⟩) hread hvalue
  | like =>
      have hlike : Token.word "LIKE" ≠ .symbol '.' := by decide
      have hread := column?_columnTokens hcolumn hlike (value :: rest)
      simpa [Predicate.tokens] using predicate?_of_column? (Or.inr ⟨rfl, rfl⟩) hread hvalue
  | jsonContains =>
      have hcomma : Token.symbol ',' ≠ .symbol '.' := by decide
      have hread := column?_columnTokens hcolumn hcomma (value :: .symbol ')' :: rest)
      simpa [Predicate.tokens, parenthesized, predicate?, hread] using hvalue

theorem of_predicate?_eq_some {tokens rest : List Token} {p : Predicate}
    (h : predicate? tokens = some (p, rest)) : p.WellFormed ∧ tokens = p.tokens ++ rest := by
  unfold predicate? at h
  split at h
  · split at h
    · rename_i hcolumn
      obtain ⟨hne, rfl⟩ := of_column?_eq_some hcolumn
      split_ifs at h with hvalue
      cases h
      exact ⟨⟨hne, hvalue⟩, by simp [Predicate.tokens, parenthesized]⟩
    · cases h
  · split at h
    · rename_i hcolumn
      obtain ⟨hne, rfl⟩ := of_column?_eq_some hcolumn
      split_ifs at h with hvalue
      cases h
      exact ⟨⟨hne, hvalue⟩, by simp [Predicate.tokens]⟩
    · rename_i hcolumn
      obtain ⟨hne, rfl⟩ := of_column?_eq_some hcolumn
      split_ifs at h with hvalue
      cases h
      exact ⟨⟨hne, hvalue⟩, by simp [Predicate.tokens]⟩
    · cases h

/-! ## What is read is an expression -/

/-- A reader finds expressions of a level. -/
def Sound (level : Level) (reader : Reader) : Prop :=
  ∀ tokens e rest, reader tokens = some (e, rest) →
    ∃ front, tokens = front ++ rest ∧ Derives level front e

theorem sound_operand? {group? : Reader} (hgroup : Sound (.chain .or) group?) :
    Sound .operand (operand? group?) := by
  intro tokens e rest h
  fun_induction operand? group? tokens generalizing e with
  | case1 tokens ih =>
      obtain ⟨⟨e, last⟩, hread, h⟩ := Option.bind_eq_some_iff.mp h
      cases h
      obtain ⟨front, rfl, hfront⟩ := ih e hread
      exact ⟨_, rfl, .not hfront⟩
  | case2 tokens found last hread =>
      cases h
      obtain ⟨front, rfl, hfront⟩ := hgroup _ _ _ hread
      exact ⟨parenthesized front, by simp [parenthesized], .group hfront⟩
  | case3 => cases h
  | case4 =>
      obtain ⟨⟨p, last⟩, hread, h⟩ := Option.bind_eq_some_iff.mp h
      cases h
      obtain ⟨hp, rfl⟩ := of_predicate?_eq_some hread
      exact ⟨p.tokens, rfl, .predicate hp⟩

section Chains

variable {connective : Connective} {next? : Reader}

theorem derives_of_operands?_eq_some (hnext : Sound (.below connective) next?)
    {bound : Nat} {read tokens rest : List Token} {left e : Expression}
    (hleft : Derives (.chain connective) read left)
    (h : operands? connective next? bound left tokens = some (e, rest)) :
    ∃ front, tokens = front ++ rest ∧ Derives (.chain connective) (read ++ front) e := by
  induction bound generalizing read tokens left with
  | zero =>
      cases h
      exact ⟨[], rfl, by simpa using hleft⟩
  | succ bound ih =>
      cases tokens with
      | nil =>
          cases h
          exact ⟨[], rfl, by simpa using hleft⟩
      | cons token tokens =>
          rw [operands?] at h
          split_ifs at h with htoken
          · obtain ⟨⟨right, more⟩, hright, hmore⟩ := Option.bind_eq_some_iff.mp h
            obtain ⟨operand, rfl, hoperand⟩ := hnext _ _ _ hright
            obtain ⟨front, rfl, hfront⟩ := ih (.join hleft hoperand) hmore
            exact ⟨token :: (operand ++ front), by simp, by simpa [htoken] using hfront⟩
          · cases h
            exact ⟨[], rfl, by simpa using hleft⟩

theorem sound_chain? (hnext : Sound (.below connective) next?) :
    Sound (.chain connective) (chain? connective next?) := by
  intro tokens e rest h
  obtain ⟨⟨left, more⟩, hleft, hmore⟩ := Option.bind_eq_some_iff.mp h
  obtain ⟨operand, rfl, hoperand⟩ := hnext _ _ _ hleft
  obtain ⟨front, rfl, hfront⟩ := derives_of_operands?_eq_some hnext (.single hoperand) hmore
  exact ⟨operand ++ front, by simp, hfront⟩

end Chains

theorem sound_expression? (depth : Nat) : Sound (.chain .or) (expression? depth) := by
  induction depth with
  | zero =>
      intro tokens e rest h
      cases h
  | succ depth ih =>
      have hconjunction : Sound (.chain .and) (chain? .and (operand? (expression? depth))) :=
        sound_chain? (sound_operand? ih)
      exact sound_chain? hconjunction

/-! ## What is an expression is read -/

theorem operand?_of_predicate?_eq_some {tokens rest : List Token} {p : Predicate}
    (h : predicate? tokens = some (p, rest)) (group? : Reader) :
    operand? group? tokens = some (.predicate p, rest) := by
  unfold operand?
  split
  · simp [predicate?, column?] at h
  · simp [predicate?, column?] at h
  · simp [h]

theorem operands?_of_head?_ne {connective : Connective} {rest : List Token}
    (h : rest.head? ≠ some connective.token) (next? : Reader) (bound : Nat) (left : Expression) :
    operands? connective next? bound left rest = some (left, rest) := by
  cases bound with
  | zero => rfl
  | succ bound =>
      cases rest with
      | nil => rfl
      | cons token rest =>
          rw [operands?, if_neg]
          simpa using h

theorem Level.read?_chain (connective : Connective) (group? : Reader) :
    (Level.chain connective).read? group? =
      chain? connective ((Level.below connective).read? group?) := by
  cases connective <;> rfl

/-- An expression of a level ends before tokens: they do not start with a connective that
the level has. -/
def Level.Ends : Level → List Token → Prop
  | .operand, _ => True
  | .chain .and, rest => rest.head? ≠ some (.word "AND")
  | .chain .or, rest => rest.head? ≠ some (.word "AND") ∧ rest.head? ≠ some (.word "OR")

theorem Level.ends_chain_iff (connective : Connective) (rest : List Token) :
    (Level.chain connective).Ends rest ↔
      (Level.below connective).Ends rest ∧ rest.head? ≠ some connective.token := by
  cases connective <;> simp [Ends, below, Connective.token]

theorem Level.ends_cons_token (connective : Connective) (rest : List Token) :
    (Level.below connective).Ends (connective.token :: rest) := by
  cases connective <;> simp [Ends, below, Connective.token]

/-- An expression is read where it ends, if parentheses stand less deep than a bound.  Where
only its operands end, a chain is read up to there, and the reader goes on. -/
structure ReadAs (depth : Nat) (level : Level) (tokens : List Token) (e : Expression) :
    Prop where
  ended : ∀ rest, level.Ends rest →
    level.read? (expression? depth) (tokens ++ rest) = some (e, rest)
  goesOn : ∀ connective, level = .chain connective → ∀ rest,
    (Level.below connective).Ends rest → ∃ bound, rest.length ≤ bound ∧
      level.read? (expression? depth) (tokens ++ rest) =
        operands? connective ((Level.below connective).read? (expression? depth)) bound e rest

namespace ReadAs

variable {depth : Nat} {tokens : List Token} {e : Expression}

theorem of_operand
    (h : ∀ rest, operand? (expression? depth) (tokens ++ rest) = some (e, rest)) :
    ReadAs depth .operand tokens e where
  ended rest _ := h rest
  goesOn := nofun

theorem of_chain {connective : Connective}
    (h : ∀ rest, (Level.below connective).Ends rest → ∃ bound, rest.length ≤ bound ∧
      (Level.chain connective).read? (expression? depth) (tokens ++ rest) =
        operands? connective ((Level.below connective).read? (expression? depth)) bound e rest) :
    ReadAs depth (.chain connective) tokens e where
  ended rest hrest := by
    obtain ⟨hbelow, hhead⟩ := (Level.ends_chain_iff connective rest).mp hrest
    obtain ⟨bound, -, hread⟩ := h rest hbelow
    rw [hread, operands?_of_head?_ne hhead]
  goesOn connective' hlevel := by
    cases hlevel
    exact h

end ReadAs

/-- What the grammar allows is read, wherever parentheses may stand as deep as it is long. -/
theorem Derives.readAs {level : Level} {tokens : List Token} {e : Expression}
    (h : Derives level tokens e) {depth : Nat} (hdepth : tokens.length ≤ depth) :
    ReadAs depth level tokens e := by
  induction h generalizing depth with
  | @predicate p hp =>
      apply ReadAs.of_operand
      intro rest
      exact operand?_of_predicate?_eq_some (predicate?_tokens hp rest) _
  | @not tokens e _ ih =>
      have hoperand := ih (Nat.le_of_succ_le hdepth)
      apply ReadAs.of_operand
      intro rest
      have hread : operand? (expression? depth) (tokens ++ rest) = some (e, rest) :=
        hoperand.ended rest trivial
      simp [operand?, hread]
  | @group tokens e _ ih =>
      -- The parentheses make up for the level that the group is deeper.
      obtain ⟨depth, rfl⟩ := Nat.exists_eq_add_one_of_ne_zero (Nat.ne_zero_of_lt hdepth)
      have hlength : tokens.length ≤ depth := by
        simp only [parenthesized, List.length_append, List.length_singleton] at hdepth
        omega
      apply ReadAs.of_operand
      intro rest
      have hread : expression? (depth + 1) (tokens ++ .symbol ')' :: rest) =
          some (e, .symbol ')' :: rest) :=
        (ih hlength).ended (.symbol ')' :: rest) (by simp [Level.Ends])
      simp [parenthesized, operand?, hread]
  | @single connective tokens e _ ih =>
      apply ReadAs.of_chain
      intro rest hrest
      have hread := (ih hdepth).ended rest hrest
      refine ⟨rest.length, Nat.le_refl _, ?_⟩
      rw [Level.read?_chain]
      simp [chain?, hread]
  | @join connective tokens more left right _ _ ihleft ihright =>
      simp only [List.length_append, List.length_cons] at hdepth
      have hleft : ReadAs depth (.chain connective) tokens left := ihleft (by omega)
      have hright : ReadAs depth (.below connective) more right := ihright (by omega)
      apply ReadAs.of_chain
      intro rest hrest
      obtain ⟨bound, hbound, hread⟩ := hleft.goesOn connective rfl
        (connective.token :: (more ++ rest)) (Level.ends_cons_token connective _)
      obtain ⟨bound, rfl⟩ := Nat.exists_eq_add_one_of_ne_zero (Nat.ne_zero_of_lt hbound)
      simp only [List.length_cons, List.length_append] at hbound
      refine ⟨bound, by omega, ?_⟩
      rw [List.append_assoc, List.cons_append, hread]
      simp [operands?, hright.ended rest hrest]

/-- Tokens are read as an expression if and only if the grammar allows it. -/
theorem Expression.ofTokens?_eq_some_iff {tokens : List Token} {e : Expression} :
    ofTokens? tokens = some e ↔ Derives (.chain .or) tokens e := by
  unfold ofTokens?
  constructor
  · intro h
    split at h
    · rename_i hread
      cases h
      obtain ⟨front, hfront, hderives⟩ := sound_expression? _ tokens e [] hread
      rw [List.append_nil] at hfront
      rwa [hfront]
    · cases h
  · intro h
    have hread := (h.readAs (Nat.le_refl _)).ended [] (by simp [Level.Ends])
    rw [List.append_nil] at hread
    rw [expression?, hread]

/-- The grammar is not ambiguous. -/
theorem Derives.unique {tokens : List Token} {e e' : Expression}
    (h : Derives (.chain .or) tokens e) (h' : Derives (.chain .or) tokens e') : e = e' := by
  rw [← Expression.ofTokens?_eq_some_iff] at h h'
  exact Option.some.inj (h.symm.trans h')

end ResourceSql.Sql
