import ResourceSql.Proofs.Lexing.Statement
import ResourceSql.Proofs.SnakeCase

/-!
# Brackets

No part of a statement closes a parenthesis that it did not open, leaves one open,
or ends the statement.
-/

namespace ResourceSql

open Sql

namespace Sql

theorem openAfter?_cons_of_ne {token : Token} (hopen : token ≠ .symbol '(')
    (hclose : token ≠ .symbol ')') (depth : Nat) (rest : List Token) :
    openAfter? depth (token :: rest) = openAfter? depth rest := by
  rw [openAfter?.eq_5]
  · exact hopen
  · intro _
    exact hclose
  · intro _ _
    exact hclose

theorem mem_listed {items : List (List Token)} {t : Token} (h : t ∈ listed items) :
    t = .symbol ',' ∨ ∃ ts ∈ items, t ∈ ts := by
  obtain ⟨ts, hts, ht⟩ := List.mem_flatten.mp h
  rcases SnakeCase.mem_intersperse hts with rfl | hts
  · exact Or.inl (List.mem_singleton.mp ht)
  · exact Or.inr ⟨ts, hts, ht⟩

/-- Tokens that stay inside a statement: at every depth they close what they open and
nothing else, and they hold no semicolon. -/
structure Enclosed (tokens : List Token) : Prop where
  /-- They return to the depth at which they start. -/
  returns : ∀ depth rest, openAfter? depth (tokens ++ rest) = openAfter? depth rest
  goesOn : .symbol ';' ∉ tokens

namespace Enclosed

theorem nil : Enclosed [] := ⟨fun _ _ => rfl, by simp⟩

theorem append {ts us : List Token} (hts : Enclosed ts) (hus : Enclosed us) :
    Enclosed (ts ++ us) where
  returns depth rest := by rw [List.append_assoc, hts.returns, hus.returns]
  goesOn := by simpa using ⟨hts.goesOn, hus.goesOn⟩

theorem of_forall {ts : List Token}
    (h : ∀ t ∈ ts, t ∉ [Token.symbol '(', .symbol ')', .symbol ';']) : Enclosed ts where
  returns depth rest := by
    induction ts with
    | nil => rfl
    | cons t ts ih =>
        have ht := h t (by simp)
        simp only [List.mem_cons, List.not_mem_nil, or_false, not_or] at ht
        rw [List.cons_append, openAfter?_cons_of_ne ht.1 ht.2.1]
        exact ih fun u hu => h u (List.mem_cons_of_mem t hu)
  goesOn hmem := by simpa using h _ hmem

theorem singleton {t : Token} (h : t ∉ [Token.symbol '(', .symbol ')', .symbol ';']) :
    Enclosed [t] :=
  of_forall (by simpa using h)

theorem cons {t : Token} {ts : List Token}
    (h : t ∉ [Token.symbol '(', .symbol ')', .symbol ';']) (hts : Enclosed ts) :
    Enclosed (t :: ts) :=
  (singleton h).append hts

theorem parenthesized {ts : List Token} (hts : Enclosed ts) :
    Enclosed (parenthesized ts) where
  returns depth rest := by
    have h := hts.returns (depth + 1) (.symbol ')' :: rest)
    simpa [Sql.parenthesized, openAfter?] using h
  goesOn := by simpa [Sql.parenthesized] using hts.goesOn

theorem flatMap {α : Type} {items : List α} {tokens : α → List Token}
    (h : ∀ a ∈ items, Enclosed (tokens a)) : Enclosed (items.flatMap tokens) := by
  induction items with
  | nil => exact nil
  | cons a items ih =>
      rw [List.flatMap_cons]
      exact (h a (by simp)).append (ih fun b hb => h b (List.mem_cons_of_mem a hb))

theorem listed {items : List (List Token)} (h : ∀ ts ∈ items, Enclosed ts) :
    Enclosed (listed items) := by
  match items with
  | [] => exact nil
  | [ts] => simpa [Sql.listed, List.intercalate] using h ts (by simp)
  | first :: second :: rest =>
      rw [listed_cons_cons]
      have hcomma : Enclosed [.symbol ','] := singleton (by decide)
      exact (h first (by simp)).append
        (hcomma.append (listed fun ts hts => h ts (List.mem_cons_of_mem first hts)))

end Enclosed

theorem enclosed_qualified (name : String) : Enclosed (qualified name) := by
  apply Enclosed.of_forall
  intro t ht
  rcases SnakeCase.mem_intersperse ht with rfl | ht
  · decide
  · obtain ⟨part, -, rfl⟩ := List.mem_map.mp ht
    simp

end Sql

/-! ## The parts of a statement -/

theorem Value.token_notMem (v : Value) :
    v.token ∉ [Token.symbol '(', .symbol ')', .symbol ';'] := by
  cases v <;> simp [Value.token]

theorem Argument.enclosed_tokens {argument : Argument}
    (h : ∀ token, argument = .literal token →
      token ∉ [Token.symbol '(', .symbol ')', .symbol ';']) : Enclosed argument.tokens := by
  cases argument with
  | literal token => exact Enclosed.singleton (h token rfl)
  | document text =>
      have hinner : Enclosed [.text text, .word "AS", .word "JSON"] :=
        Enclosed.of_forall (by simp)
      exact hinner.parenthesized.cons (by simp)

theorem Value.enclosed_argument (v : Value) : Enclosed v.argument.tokens := by
  apply Argument.enclosed_tokens
  intro token htoken
  cases v <;> simp only [Value.argument, Argument.literal.injEq, reduceCtorEq] at htoken
  all_goals
    rw [← htoken]
    exact Value.token_notMem _

/-- The column and the places of a merge, between its parentheses. -/
theorem enclosed_mergeBody (column : String) (changes : List (JsonPath × Value)) :
    Enclosed (.identifier column :: changes.flatMap fun (path, value) => placeTokens path value) := by
  refine Enclosed.cons (by simp) (Enclosed.flatMap ?_)
  rintro ⟨path, value⟩ -
  have hpath : Enclosed [.symbol ',', .text (JsonPath.text path), .symbol ','] :=
    Enclosed.of_forall (by simp)
  exact hpath.append value.enclosed_argument

theorem Assignment.enclosed_tokens (assignment : Assignment) : Enclosed assignment.tokens := by
  cases assignment with
  | whole column value =>
      have hvalue : Enclosed [value.token] := Enclosed.singleton value.token_notMem
      exact (hvalue.cons (by simp)).cons (by simp)
  | merge column changes =>
      have hhead : Enclosed [.identifier column, .symbol '=', .word "JSON_SET"] :=
        Enclosed.of_forall (by simp)
      exact hhead.append (enclosed_mergeBody column changes).parenthesized

theorem Comparison.enclosed_tokens (comparison : Comparison) (key : String) (value : Value) :
    Enclosed (comparison.tokens key value.token) := by
  have hkey := enclosed_qualified key
  have hvalue : Enclosed [value.token] := Enclosed.singleton value.token_notMem
  cases comparison with
  | equals => exact hkey.append (hvalue.cons (by simp))
  | like => exact hkey.append (hvalue.cons (by simp))
  | jsonContains => exact (hkey.append (hvalue.cons (by simp))).parenthesized.cons (by simp)

theorem Condition.enclosed_tokens (condition : Condition) : Enclosed condition.tokens := by
  induction condition with
  | compare key comparison value negated =>
      have hbody := comparison.enclosed_tokens key value
      cases negated with
      | false => exact hbody
      | true => exact hbody.cons (by simp)
  | join connective left right negated ihleft ihright =>
      have hword : Enclosed [connective.token] := by
        cases connective <;> exact Enclosed.singleton (by decide)
      have hjoined := (ihleft.append hword).append ihright
      cases negated with
      | false => simpa [Condition.tokens] using hjoined
      | true => simpa [Condition.tokens] using hjoined.parenthesized.cons (by simp)

theorem Page.enclosed_tokens (page : Page) : Enclosed page.tokens := by
  have hfilter : Enclosed page.filterTokens := by
    unfold Page.filterTokens
    cases page.filter with
    | none => exact Enclosed.nil
    | some filter => exact filter.enclosed_tokens.cons (by simp)
  have horder : Enclosed page.orderTokens := by
    unfold Page.orderTokens
    split_ifs
    · exact Enclosed.nil
    · have hwords : Enclosed [.word "ORDER", .word "BY"] := Enclosed.of_forall (by simp)
      apply hwords.append
      apply Enclosed.listed
      intro ts hts
      obtain ⟨key, -, rfl⟩ := List.mem_map.mp hts
      apply (enclosed_qualified key.column).append
      split_ifs
      · exact Enclosed.singleton (by decide)
      · exact Enclosed.nil
  exact (hfilter.append horder).append (Enclosed.of_forall (by simp))

end ResourceSql
