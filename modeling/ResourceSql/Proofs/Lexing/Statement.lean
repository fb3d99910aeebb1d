import Mathlib.Data.List.Forall2
import Mathlib.Tactic.Common
import ResourceSql.Proofs.Lexing.Parts
import ResourceSql.Sql.Statement

/-!
# Statements as tokens

The text of a statement is read as the tokens of its form.  The parts come first:
values, lists with commas, assignments, conditions and sort keys, each with the
tokens that its form names.  A statement is then glued together from its parts by
fixed texts, every one of which ends between two tokens.
-/

namespace ResourceSql

open Sql

/-! ## Values -/

def Literal.token : Literal → Token
  | .null => .word "NULL"
  | .bool b => .word (if b then "true" else "false")
  | .int n => .number (n < 0) ⟨n.natAbs, 0⟩
  | .float x => .number x.isNegative (Decimal.shortest .up x).writtenOut
  | .quoted s => .text s

theorem Literal.spells_sql (literal : Literal) : Spells literal.sql.toList literal.token := by
  cases literal with
  | null => exact ⟨_, rfl, rfl⟩
  | bool b => cases b <;> exact ⟨_, rfl, rfl⟩
  | int n => exact spells_integer n
  | float x => exact spells_float x
  | quoted s => exact spells_quotedText s

theorem Value.token_of_literal {v : Value} {literal : Literal} (h : v.literal = .ok literal) :
    literal.token = v.token := by
  cases v <;> simp only [Value.literal, Except.ok.injEq] at h
  case float x =>
    split at h
    · cases h
      rfl
    · cases h
  case uint n =>
    subst h
    simp [Literal.token, Value.token]
  all_goals
    subst h
    rfl

theorem Value.spells_sql {v : Value} {text : String} (h : v.sql = .ok text) :
    Spells text.toList v.token := by
  obtain ⟨literal, hliteral, htext⟩ := Failure.exists_of_bind_eq_ok h
  cases htext
  rw [← Value.token_of_literal hliteral]
  exact literal.spells_sql

theorem Value.reads_sql {v : Value} {text : String} (h : v.sql = .ok text) :
    Reads text [v.token] :=
  (Value.spells_sql h).reads

theorem reads_cast (s : String) :
    Reads ("CAST(" ++ Literal.quotedText s ++ " AS JSON)") (Argument.document s).tokens := by
  have hopen : ReadsOpen "CAST(" [.word "CAST", .symbol '('] := by decide
  have hclose : Glues " AS JSON)" [.word "AS", .word "JSON", .symbol ')'] := by decide
  exact ((hopen.append (reads_quotedText s)).glue hclose).reads

/-- A value within a document is read as its argument. -/
theorem Value.reads_sqlInDocument {v : Value} {text : String} (h : v.sqlInDocument = .ok text) :
    Reads text v.argument.tokens := by
  cases v with
  | bool b =>
      cases h
      exact reads_cast _
  | list items =>
      cases h
      exact reads_cast _
  | object members =>
      cases h
      exact reads_cast _
  | _ => exact Value.reads_sql h

/-! ## Lists with commas -/

theorem listed_cons_cons (first second : List Token) (rest : List (List Token)) :
    listed (first :: second :: rest) = first ++ ([.symbol ','] ++ listed (second :: rest)) := by
  simp [listed, List.intercalate]

theorem reads_intercalate {texts : List String} {items : List (List Token)}
    (h : List.Forall₂ Reads texts items) :
    Reads (String.intercalate ", " texts) (listed items) := by
  have hcomma : Glues ", " [.symbol ','] := by decide
  induction h with
  | nil => decide
  | @cons text tokens texts items hfirst hrest ih =>
      cases hrest with
      | nil => simpa [listed, List.intercalate] using hfirst
      | cons hsecond hmore =>
          rw [String.intercalate_cons_cons, listed_cons_cons, ← List.append_assoc]
          exact (hfirst.glue hcomma).append ih

/-- Parts that are written one after the other. -/
theorem forall₂_reads_of_mapM {α : Type} {write : α → Except Failure String}
    {tokens : α → List Token} {items : List α}
    (hwrite : ∀ a ∈ items, ∀ text, write a = .ok text → Reads text (tokens a))
    {texts : List String} (h : items.mapM write = .ok texts) :
    List.Forall₂ Reads texts (items.map tokens) := by
  induction items generalizing texts with
  | nil =>
      cases h
      exact .nil
  | cons a items ih =>
      rw [List.mapM_cons] at h
      obtain ⟨text, hfirst, h⟩ := Failure.exists_of_bind_eq_ok h
      obtain ⟨rest, hrest, h⟩ := Failure.exists_of_bind_eq_ok h
      cases h
      exact .cons (hwrite a (by simp) text hfirst)
        (ih (fun b hb => hwrite b (by simp [hb])) hrest)

theorem reads_literals {values : List Value} {text : String}
    (h : Sql.literals values = .ok text) :
    Reads text (listed (values.map fun value => [value.token])) := by
  obtain ⟨texts, htexts, h⟩ := Failure.exists_of_bind_eq_ok h
  cases h
  exact reads_intercalate (forall₂_reads_of_mapM (fun v _ text => Value.reads_sql) htexts)

/-! ## Names -/

theorem reads_identifier_of_not_mem {name : String} (hname : '.' ∉ name.toList) :
    Reads (identifier name) [.identifier name] := by
  rw [← qualified_of_not_mem hname]
  exact reads_identifier name

theorem reads_identifiers {names : List String} (hnames : ∀ name ∈ names, '.' ∉ name.toList) :
    Reads (identifiers names) (listed (names.map fun name => [.identifier name])) := by
  apply reads_intercalate
  rw [List.forall₂_map_left_iff, List.forall₂_map_right_iff, List.forall₂_same]
  intro name hname
  exact reads_identifier_of_not_mem (hnames name hname)

/-! ## Assignments -/

theorem reads_assignment {column text : String} {value : Value} (hcolumn : '.' ∉ column.toList)
    (h : Sql.assignment column value = .ok text) :
    Reads text (Assignment.whole column value).tokens := by
  obtain ⟨literal, hliteral, h⟩ := Failure.exists_of_bind_eq_ok h
  obtain rfl := Except.ok.inj h
  have hequals : Glues " = " [.symbol '='] := by decide
  exact ((reads_identifier_of_not_mem hcolumn).glue hequals).append (Value.reads_sql hliteral)

/-- A place with its value goes on where a text stopped. -/
theorem reads_append_placed {front text : String} {ts : List Token} {path : JsonPath}
    {value : Value} (hfront : Reads front ts) (h : placed path value = .ok text) :
    Reads (front ++ text) (ts ++ placeTokens path value) := by
  obtain ⟨argument, hargument, h⟩ := Failure.exists_of_bind_eq_ok h
  obtain rfl := Except.ok.inj h
  have hcomma : Glues ", " [.symbol ','] := by decide
  have hpath := (hfront.glue hcomma).append (reads_quotedText (JsonPath.text path))
  have hvalue := (hpath.glue hcomma).append (Value.reads_sqlInDocument hargument)
  simpa [placeTokens, String.append_assoc] using hvalue

theorem reads_append_join {changes : List (JsonPath × Value)} {texts : List String}
    (h : changes.mapM (fun (path, value) => placed path value) = .ok texts)
    {front : String} {ts : List Token} (hfront : Reads front ts) :
    Reads (front ++ String.join texts)
      (ts ++ changes.flatMap fun (path, value) => placeTokens path value) := by
  induction changes generalizing texts front ts with
  | nil =>
      cases h
      simpa using hfront
  | cons change changes ih =>
      rw [List.mapM_cons] at h
      obtain ⟨text, hfirst, h⟩ := Failure.exists_of_bind_eq_ok h
      obtain ⟨rest, hrest, h⟩ := Failure.exists_of_bind_eq_ok h
      cases h
      have hstep := ih hrest (reads_append_placed hfront hfirst)
      simpa [String.append_assoc] using hstep

/-- An assignment to a column without a dot is read as its tokens. -/
theorem Assignment.reads_sql {assignment : Assignment} {text : String}
    (hcolumn : '.' ∉ assignment.column.toList) (h : assignment.sql = .ok text) :
    Reads text assignment.tokens := by
  cases assignment with
  | whole column value => exact reads_assignment hcolumn h
  | merge column changes =>
      obtain ⟨places, hplaces, h⟩ := Failure.exists_of_bind_eq_ok h
      obtain rfl := Except.ok.inj h
      have hset : Glues " = JSON_SET(" [.symbol '=', .word "JSON_SET", .symbol '('] := by decide
      have hclose : Glues ")" [.symbol ')'] := by decide
      have hname : Reads (identifier column) [.identifier column] :=
        reads_identifier_of_not_mem hcolumn
      have hhead := (hname.glue hset).append hname
      have hall := ((reads_append_join hplaces hhead).glue hclose).reads
      simpa [Assignment.tokens, parenthesized] using hall

/-! ## Conditions and sort keys -/

theorem Comparison.reads_sql {literal : String} {value : Token} (comparison : Comparison)
    (key : String) (hvalue : Reads literal [value]) :
    Reads (comparison.sql key literal) (comparison.tokens key value) := by
  have hkey := reads_identifier key
  unfold Comparison.sql Comparison.tokens
  cases comparison with
  | equals =>
      have hequals : Glues " = " [.symbol '='] := by decide
      have hall := (hkey.glue hequals).append hvalue
      simpa using hall
  | like =>
      have hlike : Glues " LIKE " [.word "LIKE"] := by decide
      have hall := (hkey.glue hlike).append hvalue
      simpa using hall
  | jsonContains =>
      have hopen : ReadsOpen "JSON_CONTAINS(" [.word "JSON_CONTAINS", .symbol '('] := by decide
      have hcomma : Glues ", " [.symbol ','] := by decide
      have hclose : Glues ")" [.symbol ')'] := by decide
      have hbody := ((hopen.append hkey).glue hcomma).append hvalue
      have hall := (hbody.glue hclose).reads
      simpa [parenthesized] using hall

theorem Connective.glues_sql (connective : Connective) :
    Glues (" " ++ connective.sql ++ " ") [connective.token] := by
  cases connective <;> decide

theorem Condition.reads_sql {condition : Condition} {text : String}
    (h : condition.sql = .ok text) : Reads text condition.tokens := by
  induction condition generalizing text with
  | compare key comparison value negated =>
      obtain ⟨literal, hliteral, h⟩ := Failure.exists_of_bind_eq_ok h
      cases h
      have hbody := comparison.reads_sql key (Value.reads_sql hliteral)
      have hnot : ReadsOpen "NOT " [.word "NOT"] := by decide
      cases negated with
      | false => simpa [Condition.tokens] using hbody
      | true => simpa [Condition.tokens] using hnot.append hbody
  | join connective left right negated ihleft ihright =>
      obtain ⟨leftText, hleft, h⟩ := Failure.exists_of_bind_eq_ok h
      obtain ⟨rightText, hright, h⟩ := Failure.exists_of_bind_eq_ok h
      cases h
      have hjoined := ((ihleft hleft).glue connective.glues_sql).append (ihright hright)
      have hopen : ReadsOpen "NOT (" [.word "NOT", .symbol '('] := by decide
      have hclose : Glues ")" [.symbol ')'] := by decide
      cases negated with
      | false => simpa [Condition.tokens, String.append_assoc] using hjoined
      | true =>
          simpa [Condition.tokens, parenthesized, String.append_assoc] using
            ((hopen.append hjoined).glue hclose).reads

theorem SortKey.reads_sql (key : SortKey) : Reads key.sql key.tokens := by
  have hcolumn := reads_identifier key.column
  have hblank : Glues " " [] := by decide
  have hdesc : Reads "DESC" [.word "DESC"] := by decide
  by_cases hdescending : key.descending = true
  · have hsplit : " DESC" = " " ++ "DESC" := by decide
    simpa [SortKey.sql, SortKey.tokens, hdescending, hsplit, String.append_assoc] using
      (hcolumn.glue hblank).append hdesc
  · simpa [SortKey.sql, SortKey.tokens, hdescending] using hcolumn

/-! ## Statements -/

theorem readsOpen_select :
    ReadsOpen "SELECT * FROM " [.word "SELECT", .symbol '*', .word "FROM"] := by
  decide

theorem glues_whereId :
    Glues " WHERE `id` = " [.word "WHERE", .identifier "id", .symbol '='] := by
  decide

theorem glues_where : Glues " WHERE " [.word "WHERE"] := by
  decide

theorem glues_semicolon : Glues ";" [.symbol ';'] := by
  decide

theorem Page.reads_append_filterClause {page : Page} {front text : String} {ts : List Token}
    (hfront : Reads front ts) (h : page.filterClause = .ok text) :
    Reads (front ++ text) (ts ++ page.filterTokens) := by
  unfold Page.filterClause at h
  unfold Page.filterTokens
  cases hfilter : page.filter with
  | none =>
      rw [hfilter] at h
      cases h
      simpa using hfront
  | some filter =>
      rw [hfilter] at h
      obtain ⟨condition, hcondition, h⟩ := Failure.exists_of_bind_eq_ok h
      cases h
      simpa [String.append_assoc] using
        (hfront.glue glues_where).append (Condition.reads_sql hcondition)

theorem Page.reads_append_orderClause {page : Page} {front : String} {ts : List Token}
    (hfront : Reads front ts) :
    Reads (front ++ page.orderClause) (ts ++ page.orderTokens) := by
  unfold Page.orderClause Page.orderTokens
  by_cases hempty : page.order.isEmpty = true
  · simpa [hempty] using hfront
  · have horder : Glues " ORDER BY " [.word "ORDER", .word "BY"] := by decide
    have hkeys : List.Forall₂ Reads (page.order.map SortKey.sql)
        (page.order.map SortKey.tokens) := by
      rw [List.forall₂_map_left_iff, List.forall₂_map_right_iff, List.forall₂_same]
      intro key _
      exact key.reads_sql
    simpa [hempty, String.append_assoc] using
      (hfront.glue horder).append (reads_intercalate hkeys)

namespace Statement

variable {table text : String}

theorem reads_insert {row : Attributes} (htable : '.' ∉ table.toList)
    (hnames : ∀ name ∈ row.names, '.' ∉ name.toList) (h : (insert table row).sql = .ok text) :
    Reads text (insert table row).tokens := by
  obtain ⟨values, hvalues, h⟩ := Failure.exists_of_bind_eq_ok h
  cases h
  have hinsert : ReadsOpen "INSERT INTO " [.word "INSERT", .word "INTO"] := by decide
  have hopen : Glues " (" [.symbol '('] := by decide
  have hmiddle : Glues ") VALUES (" [.symbol ')', .word "VALUES", .symbol '('] := by decide
  have hclose : Glues ");" [.symbol ')', .symbol ';'] := by decide
  have hfront := hinsert.append (reads_identifier_of_not_mem htable)
  have hcolumns := (hfront.glue hopen).append (reads_identifiers hnames)
  have hall := ((hcolumns.glue hmiddle).append (reads_literals hvalues)).glue hclose
  simpa [tokens, body, parenthesized] using hall.reads

theorem reads_select {id : String} (htable : '.' ∉ table.toList)
    (h : (select table id).sql = .ok text) : Reads text (select table id).tokens := by
  cases h
  have hlimit : Glues " LIMIT 1;" [.word "LIMIT", .number false ⟨1, 0⟩, .symbol ';'] := by
    decide
  have hfront := readsOpen_select.append (reads_identifier_of_not_mem htable)
  have hall := ((hfront.glue glues_whereId).append (reads_quotedText id)).glue hlimit
  simpa [tokens, body] using hall.reads

theorem reads_search {filter : Condition} (htable : '.' ∉ table.toList)
    (h : (search table filter).sql = .ok text) : Reads text (search table filter).tokens := by
  obtain ⟨condition, hcondition, h⟩ := Failure.exists_of_bind_eq_ok h
  cases h
  have hfront := readsOpen_select.append (reads_identifier_of_not_mem htable)
  have hfilter := (hfront.glue glues_where).append (Condition.reads_sql hcondition)
  simpa [tokens, body] using (hfilter.glue glues_semicolon).reads

theorem reads_list {page : Page} (htable : '.' ∉ table.toList)
    (h : (list table page).sql = .ok text) : Reads text (list table page).tokens := by
  obtain ⟨clause, hclause, h⟩ := Failure.exists_of_bind_eq_ok h
  cases h
  have hjoin : Glues " INNER JOIN ( SELECT `id` FROM "
      [.word "INNER", .word "JOIN", .symbol '(', .word "SELECT", .identifier "id",
        .word "FROM"] := by
    decide
  have hlimit : Glues " LIMIT " [.word "LIMIT"] := by decide
  have hoffset : Glues " OFFSET " [.word "OFFSET"] := by decide
  have hclose : Glues " ) AS `result` USING (`id`);"
      [.symbol ')', .word "AS", .identifier "result", .word "USING", .symbol '(',
        .identifier "id", .symbol ')', .symbol ';'] := by
    decide
  have hname : Reads (identifier table) [.identifier table] := reads_identifier_of_not_mem htable
  have hinner := ((readsOpen_select.append hname).glue hjoin).append hname
  have hfiltered := Page.reads_append_filterClause hinner hclause
  have hordered := (page.reads_append_orderClause hfiltered).glue hlimit
  have hnumbers := ((hordered.append (reads_decimal page.limit)).glue hoffset).append
    (reads_decimal page.offset)
  simpa [tokens, body, Page.tokens, parenthesized] using (hnumbers.glue hclose).reads

theorem reads_delete {id : String} (htable : '.' ∉ table.toList)
    (h : (delete table id).sql = .ok text) : Reads text (delete table id).tokens := by
  cases h
  have hdelete : ReadsOpen "DELETE FROM " [.word "DELETE", .word "FROM"] := by decide
  have hfront := hdelete.append (reads_identifier_of_not_mem htable)
  have hall := ((hfront.glue glues_whereId).append (reads_quotedText id)).glue glues_semicolon
  simpa [tokens, body] using hall.reads

theorem reads_update {assignments : List Assignment} {filter : Condition}
    (htable : '.' ∉ table.toList)
    (hcolumns : ∀ assignment ∈ assignments, '.' ∉ assignment.column.toList)
    (h : (update table assignments filter).sql = .ok text) :
    Reads text (update table assignments filter).tokens := by
  obtain ⟨texts, htexts, h⟩ := Failure.exists_of_bind_eq_ok h
  obtain ⟨condition, hcondition, h⟩ := Failure.exists_of_bind_eq_ok h
  cases h
  have hupdate : ReadsOpen "UPDATE " [.word "UPDATE"] := by decide
  have hset : Glues " SET " [.word "SET"] := by decide
  have hlist := reads_intercalate (forall₂_reads_of_mapM
    (fun assignment hmem _ => Assignment.reads_sql (hcolumns assignment hmem)) htexts)
  have hfront := hupdate.append (reads_identifier_of_not_mem htable)
  have hassigned := ((hfront.glue hset).append hlist).glue glues_where
  have hall := (hassigned.append (Condition.reads_sql hcondition)).glue glues_semicolon
  simpa [tokens, body] using hall.reads

/-- Whether the tables and the columns that a statement writes to are single names. -/
def Unqualified : Statement → Prop
  | .insert table row => '.' ∉ table.toList ∧ ∀ name ∈ row.names, '.' ∉ name.toList
  | .select table _ | .search table _ | .list table _ | .delete table _ => '.' ∉ table.toList
  | .update table assignments _ =>
    '.' ∉ table.toList ∧ ∀ assignment ∈ assignments, '.' ∉ assignment.column.toList

theorem reads_sql {statement : Statement} (hplain : statement.Unqualified)
    (h : statement.sql = .ok text) : Reads text statement.tokens := by
  cases statement with
  | insert table row => exact reads_insert hplain.1 hplain.2 h
  | select table id => exact reads_select hplain h
  | search table filter => exact reads_search hplain h
  | list table page => exact reads_list hplain h
  | delete table id => exact reads_delete hplain h
  | update table assignments filter => exact reads_update hplain.1 hplain.2 h

end Statement

end ResourceSql
