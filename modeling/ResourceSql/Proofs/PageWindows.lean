import Mathlib.Data.List.Induction
import ResourceSql.Proofs.ConditionMeaning
import ResourceSql.Proofs.TokenStructure
import ResourceSql.Proofs.WritingFailures
import ResourceSql.Settings
import ResourceSql.Sql.StatementReader

/-!
# Page windows

The pages of a listing are windows of one length, one directly behind the other.  So every
row stands in exactly one of them, whatever the settings have been adjusted to, and a page
is refused only where its first row has no 64-bit number.
-/

namespace ResourceSql

open Sql

/-! ## Page sizes -/

namespace PageSize

theorem toNat_rows_atLeastOne (n : UInt64) : (atLeastOne n).rows.toNat = max 1 n.toNat := by
  unfold atLeastOne
  split
  · dsimp only
    omega
  · dsimp only
    rw [UInt64.toNat_one]
    omega

theorem toNat_rows_min (a b : PageSize) :
    (a.min b).rows.toNat = Nat.min a.rows.toNat b.rows.toNat := by
  unfold PageSize.min
  split_ifs with hle
  · exact (Nat.min_eq_left hle).symm
  · exact (Nat.min_eq_right (Nat.le_of_not_le hle)).symm

end PageSize

namespace Settings

theorem adjusted_append (adjustments : List Adjustment) (adjustment : Adjustment) :
    adjusted {} (adjustments ++ [adjustment]) = adjustment.apply (adjusted {} adjustments) := by
  simp [adjusted]

/-- What an adjustment does to the page sizes: it sets the one that it names and leaves the
other. -/
theorem Adjustment.pageSizes_apply (adjustment : Adjustment) (s : Settings) :
    (adjustment.apply s).defaultPageSize =
        (adjustment.default?.map PageSize.atLeastOne).getD s.defaultPageSize ∧
      (adjustment.apply s).maxPageSize =
        (adjustment.greatest?.map PageSize.atLeastOne).or s.maxPageSize := by
  cases adjustment <;> exact ⟨rfl, rfl⟩

/-- After adjustments the page sizes are what was last set. -/
theorem pageSizes_adjusted (adjustments : List Adjustment) :
    (adjusted {} adjustments).defaultPageSize.rows.toNat = defaultRows adjustments ∧
      (adjusted {} adjustments).maxPageSize.map (·.rows.toNat) = greatestRows? adjustments := by
  induction adjustments using List.reverseRecOn with
  | nil => exact ⟨rfl, rfl⟩
  | append_singleton adjustments adjustment ih =>
      obtain ⟨hdefault, hgreatest⟩ := adjustment.pageSizes_apply (adjusted {} adjustments)
      rw [adjusted_append, hdefault, hgreatest, defaultRows, greatestRows?, List.reverse_append,
        List.reverse_singleton, List.singleton_append, List.findSome?_cons, List.findSome?_cons]
      constructor
      · cases adjustment.default? with
        | none => exact ih.1
        | some rows => exact PageSize.toNat_rows_atLeastOne rows
      · cases adjustment.greatest? with
        | none => exact ih.2
        | some rows => exact congrArg some (PageSize.toNat_rows_atLeastOne rows)

theorem pageSize_adjusted (adjustments : List Adjustment) (requested : UInt64) :
    ((adjusted {} adjustments).pageSize requested).rows.toNat =
      rowsPerPage adjustments requested := by
  obtain ⟨hdefault, hgreatest⟩ := pageSizes_adjusted adjustments
  have hrows : (if h : 0 < requested.toNat then PageSize.mk requested h
      else (adjusted {} adjustments).defaultPageSize).rows.toNat =
        if requested = 0 then defaultRows adjustments else requested.toNat := by
    split_ifs with hpos hzero hzero
    · rw [hzero] at hpos
      exact absurd hpos (Nat.lt_irrefl 0)
    · rfl
    · exact hdefault
    · rw [← UInt64.toNat_inj] at hzero
      exact absurd (Nat.eq_zero_of_not_pos hpos) hzero
  unfold pageSize rowsPerPage
  rw [← hgreatest, ← hrows]
  cases (adjusted {} adjustments).maxPageSize with
  | none => rfl
  | some greatest => exact PageSize.toNat_rows_min _ greatest

theorem rowsPerPage_pos (adjustments : List Adjustment) (requested : UInt64) :
    0 < rowsPerPage adjustments requested := by
  rw [← pageSize_adjusted]
  exact pageSize_pos _ requested

theorem rowsPerPage_le {adjustments : List Adjustment} {greatest : Nat}
    (h : greatestRows? adjustments = some greatest) (requested : UInt64) :
    rowsPerPage adjustments requested ≤ greatest := by
  rw [rowsPerPage, h]
  exact Nat.min_le_right _ greatest

theorem rowsPerPage_eq_requested {adjustments : List Adjustment} {requested : UInt64}
    (hne : requested ≠ 0)
    (hle : ∀ greatest, greatestRows? adjustments = some greatest → requested.toNat ≤ greatest) :
    rowsPerPage adjustments requested = requested.toNat := by
  rw [rowsPerPage, if_neg hne]
  cases hgreatest : greatestRows? adjustments with
  | none => rfl
  | some greatest => exact Nat.min_eq_left (hle greatest hgreatest)

end Settings

/-! ## Windows of statements -/

namespace Sql

/-- The words that occur in conditions. -/
def conditionWords : List String :=
  ["NULL", "true", "false", "LIKE", "JSON_CONTAINS", "AND", "OR", "NOT"]

theorem word_notMem_qualified (letters name : String) : .word letters ∉ qualified name := by
  intro h
  rcases SnakeCase.mem_intersperse h with h | h
  · cases h
  · obtain ⟨part, -, hpart⟩ := List.mem_map.mp h
    cases hpart

end Sql

theorem Value.mem_conditionWords {v : Value} {letters : String} (h : v.token = .word letters) :
    letters ∈ conditionWords := by
  cases v with
  | null =>
      cases h
      decide
  | bool b =>
      cases h
      cases b <;> decide
  | _ => cases h

theorem Comparison.mem_conditionWords {comparison : Comparison} {key letters : String}
    {value : Value} (h : .word letters ∈ comparison.tokens key value.token) :
    letters ∈ conditionWords := by
  have hkey := word_notMem_qualified letters key
  cases comparison with
  | equals =>
      have hvalue : value.token = .word letters := by
        simpa [Comparison.tokens, hkey, eq_comm] using h
      exact Value.mem_conditionWords hvalue
  | like =>
      have hwords : letters = "LIKE" ∨ value.token = .word letters := by
        simpa [Comparison.tokens, hkey, eq_comm] using h
      rcases hwords with rfl | hvalue
      · decide
      · exact Value.mem_conditionWords hvalue
  | jsonContains =>
      have hwords : letters = "JSON_CONTAINS" ∨ value.token = .word letters := by
        simpa [Comparison.tokens, parenthesized, hkey, eq_comm] using h
      rcases hwords with rfl | hvalue
      · decide
      · exact Value.mem_conditionWords hvalue

theorem Condition.mem_conditionWords {c : Condition} {letters : String}
    (h : .word letters ∈ c.tokens) : letters ∈ conditionWords := by
  induction c with
  | compare key comparison value negated =>
      rcases List.mem_append.mp h with h | h
      · cases negated with
        | false => cases h
        | true =>
            cases List.mem_singleton.mp h
            decide
      · exact Comparison.mem_conditionWords h
  | join connective left right negated ihleft ihright =>
      have hwords : letters = "NOT" ∨ .word letters ∈ left.tokens ∨
          .word letters = connective.token ∨ .word letters ∈ right.tokens := by
        cases negated with
        | false => exact Or.inr (by simpa [Condition.tokens] using h)
        | true => simpa [Condition.tokens, parenthesized] using h
      rcases hwords with rfl | hleft | hconnective | hright
      · decide
      · exact ihleft hleft
      · cases connective <;> cases hconnective <;> decide
      · exact ihright hright

theorem Page.limit_notMem_filterTokens (page : Page) : .word "LIMIT" ∉ page.filterTokens := by
  unfold Page.filterTokens
  cases page.filter with
  | none => simp
  | some filter =>
      intro h
      have hfilter : .word "LIMIT" ∈ filter.tokens := by simpa using h
      exact absurd (Condition.mem_conditionWords hfilter) (by decide)

theorem Page.limit_notMem_orderTokens (page : Page) : .word "LIMIT" ∉ page.orderTokens := by
  unfold Page.orderTokens
  split_ifs
  · simp
  · intro h
    have hkeys : .word "LIMIT" ∈ listed (page.order.map SortKey.tokens) := by simpa using h
    rcases mem_listed hkeys with h | ⟨ts, hts, ht⟩
    · cases h
    · obtain ⟨key, -, rfl⟩ := List.mem_map.mp hts
      rcases List.mem_append.mp ht with ht | ht
      · exact word_notMem_qualified _ _ ht
      · split_ifs at ht <;> simp at ht

/-- The window of a listing is the part of the table that its page has. -/
theorem Statement.windowOf?_list (table : String) (page : Page) :
    windowOf? (Statement.list table page).tokens = some ⟨page.limit, page.offset⟩ := by
  let front : List Token :=
    [.word "SELECT", .symbol '*', .word "FROM", .identifier table, .word "INNER", .word "JOIN",
      .symbol '(', .word "SELECT", .identifier "id", .word "FROM", .identifier table] ++
        page.filterTokens ++ page.orderTokens
  have hfront : .word "LIMIT" ∉ front := by
    simp [front, page.limit_notMem_filterTokens, page.limit_notMem_orderTokens]
  have htokens : (Statement.list table page).tokens =
      front ++ .word "LIMIT" :: .number false ⟨page.limit, 0⟩ :: .word "OFFSET" ::
        .number false ⟨page.offset, 0⟩ :: .symbol ')' :: .word "AS" :: .identifier "result" ::
          .word "USING" :: (parenthesized [.identifier "id"] ++ [.symbol ';']) := by
    simp only [front, Statement.tokens, Statement.body, Page.tokens, parenthesized,
      List.append_assoc, List.cons_append, List.nil_append]
  rw [htokens, windowOf?_append hfront, windowOf?]

/-! ## Pages -/

section Pages

variable {r : Resource} {id : String} {listing : Listing}

/-- A listing is refused if and only if the first row of its page has no 64-bit number. -/
theorem compile_list_refused_iff (hid : r.id = some id) (hne : id ≠ "") (settings : Settings) :
    compile settings r (.list listing) = .error (.refused .offsetOverflow) ↔
      UInt64.size ≤ listing.page.toNat * (settings.pageSize listing.size).rows.toNat := by
  rw [compile_eq_refused_iff, Request.statement, Resource.requireId_eq_ok hid hne]
  change (do let page ← listing.toPage settings; _) = _ ↔ _
  unfold Listing.toPage
  dsimp only
  split_ifs with hsmall
  · constructor
    · intro h
      cases h
    · intro h
      exact absurd hsmall (Nat.not_lt.mpr h)
  · exact iff_of_true rfl (Nat.not_lt.mp hsmall)

/-- The window of a listing that is not refused. -/
theorem exists_window?_list (hid : r.id = some id) (hne : id ≠ "")
    (hfilter : ∀ filter, listing.filter = some filter → filter.Finite) (settings : Settings)
    (hsmall : listing.page.toNat * (settings.pageSize listing.size).rows.toNat < UInt64.size) :
    ∃ compiled, compile settings r (.list listing) = .ok compiled ∧
      window? compiled.sql = some
        ⟨(settings.pageSize listing.size).rows.toNat,
          listing.page.toNat * (settings.pageSize listing.size).rows.toNat⟩ := by
  obtain ⟨page, hpage⟩ : ∃ page, listing.toPage settings = .ok page := by
    unfold Listing.toPage
    dsimp only
    exact ⟨_, if_pos hsmall⟩
  have hstatement : (Request.list listing).statement settings r = .ok (.list r.table page) := by
    rw [Request.statement, Resource.requireId_eq_ok hid hne, hpage]
    rfl
  have hparts := Listing.of_toPage_eq_ok hpage
  obtain ⟨clause, hclause⟩ : ∃ clause, page.filterClause = .ok clause := by
    rw [hparts, Page.filterClause]
    cases hfound : listing.filter with
    | none => exact ⟨_, rfl⟩
    | some filter =>
        obtain ⟨text, htext⟩ := Condition.exists_sql_eq (hfilter filter hfound)
        dsimp only
        rw [htext]
        exact ⟨_, rfl⟩
  obtain ⟨sql, hsql⟩ : ∃ sql, (Statement.list r.table page).sql = .ok sql := by
    rw [Statement.sql, hclause]
    exact ⟨_, rfl⟩
  have hcompiled := compile_eq_ok hstatement hsql
  refine ⟨_, hcompiled, ?_⟩
  rw [window?, lex?_of_statement hstatement hcompiled, Option.bind_some,
    Statement.windowOf?_list, hparts]

end Pages

/-- Of windows of one length, one directly behind the other, a row is shown in the one whose
number is that of the row, divided by the length. -/
theorem Sql.Window.shows_iff {size : Nat} (hsize : 0 < size) (number row : Nat) :
    (Window.mk size (number * size)).Shows row ↔ number = row / size := by
  rw [eq_comm, Nat.div_eq_iff hsize]
  unfold Window.Shows
  dsimp only
  omega

/-- A row with a 64-bit number is shown on one page, whose first row has a 64-bit number. -/
theorem Sql.Window.exists_page_shows_iff {size row : Nat} (hsize : 0 < size)
    (hrow : row < UInt64.size) :
    ∃ page : UInt64, page.toNat * size < UInt64.size ∧
      ∀ other : UInt64, (Window.mk size (other.toNat * size)).Shows row ↔ other = page := by
  have hnumber : row / size < UInt64.size := Nat.div_lt_of_lt hrow
  refine ⟨.ofNat (row / size), ?_, ?_⟩
  · rw [UInt64.toNat_ofNat_of_lt' hnumber]
    exact Nat.lt_of_le_of_lt (Nat.div_mul_le_self _ _) hrow
  · intro other
    rw [Window.shows_iff hsize, ← UInt64.toNat_inj, UInt64.toNat_ofNat_of_lt' hnumber]

/-- The pages of a listing tile the rows.  However the settings have been adjusted, all pages
have one size, which is the requested one as far as it is allowed.  A page is refused if and
only if its first row has no 64-bit number, and otherwise its statement shows the window at
this row.  So every row with a 64-bit number is in the window of exactly one page, and this
page is not refused. -/
theorem pages_tile_rows (adjustments : List Settings.Adjustment) {r : Resource} {id : String}
    (hid : r.id = some id) (hne : id ≠ "") {listing : Listing}
    (hfilter : ∀ filter, listing.filter = some filter → filter.Finite) :
    let settings := Settings.adjusted {} adjustments
    let request := fun page : UInt64 => Request.list { listing with page }
    ∃ size, size = Settings.rowsPerPage adjustments listing.size ∧ 1 ≤ size ∧
      (∀ greatest, Settings.greatestRows? adjustments = some greatest → size ≤ greatest) ∧
      (listing.size ≠ 0 →
        (∀ greatest, Settings.greatestRows? adjustments = some greatest →
          listing.size.toNat ≤ greatest) →
        size = listing.size.toNat) ∧
      (∀ page : UInt64,
        compile settings r (request page) = .error (.refused .offsetOverflow) ↔
          UInt64.size ≤ page.toNat * size) ∧
      (∀ page : UInt64, page.toNat * size < UInt64.size →
        ∃ compiled, compile settings r (request page) = .ok compiled ∧
          window? compiled.sql = some ⟨size, page.toNat * size⟩) ∧
      ∀ row < UInt64.size, ∃ page : UInt64, page.toNat * size < UInt64.size ∧
        ∀ other : UInt64, (Window.mk size (other.toNat * size)).Shows row ↔ other = page := by
  intro settings request
  have hsize : (settings.pageSize listing.size).rows.toNat =
      Settings.rowsPerPage adjustments listing.size :=
    Settings.pageSize_adjusted adjustments listing.size
  have hpos := Settings.rowsPerPage_pos adjustments listing.size
  refine ⟨_, rfl, hpos, fun greatest h => Settings.rowsPerPage_le h _,
    Settings.rowsPerPage_eq_requested, ?refused, ?compiled,
    fun row hrow => Window.exists_page_shows_iff hpos hrow⟩
  case refused =>
      intro page
      rw [← hsize]
      exact compile_list_refused_iff hid hne settings
  case compiled =>
      intro page hsmall
      rw [← hsize] at hsmall ⊢
      let shown : Listing := { listing with page }
      have hshown : ∀ filter, shown.filter = some filter → filter.Finite := hfilter
      exact exists_window?_list hid hne hshown settings hsmall

/-- A resource whose pages are listed. -/
def shelf : Resource where
  typeName := "book"
  id := some "b1"

/-- A listing in pages of seven rows, with a condition and sort keys that name a limit. -/
def sevenRows : Listing where
  size := 7
  filter := some (.compare "LIMIT" .equals (.text "LIMIT 1 OFFSET 1") false)
  sort := ["-LIMIT", "OFFSET"]

/-- Adjustments of which the last ones count, with a default of no rows among them. -/
def manyAdjustments : List Settings.Adjustment :=
  [.maxPageSize 3, .defaultPageSize 0, .enableLogging, .maxPageSize 20]

theorem pages_tile_rows_sevenRows :
    (∀ filter, sevenRows.filter = some filter → filter.Finite) ∧
    (∃ compiled,
      compile (Settings.adjusted {} manyAdjustments) shelf (.list { sevenRows with page := 4 }) =
          .ok compiled ∧
        window? compiled.sql = some ⟨7, 28⟩) ∧
    compile (Settings.adjusted {} manyAdjustments) shelf
        (.list { sevenRows with page := 2635249153387078803 }) =
      .error (.refused .offsetOverflow) := by
  have hfilter : ∀ filter, sevenRows.filter = some filter → filter.Finite := by
    intro filter h
    cases h
    simp [Condition.Finite]
  obtain ⟨size, hsize, -, -, -, hrefused, hcompiled, -⟩ :=
    pages_tile_rows manyAdjustments (r := shelf) rfl (by decide) hfilter
  have hseven : size = 7 := by
    rw [hsize]
    decide
  subst hseven
  exact ⟨hfilter, hcompiled 4 (by decide), (hrefused _).mpr (by decide)⟩

end ResourceSql
