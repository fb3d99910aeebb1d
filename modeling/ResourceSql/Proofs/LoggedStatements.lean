import Mathlib.Tactic.Common
import ResourceSql.Compilation

/-!
# Logged statements

What is logged depends on the settings of the log alone and changes no result.  A statement
adds one event and a failure none.  The event shows the longest front of the statement that
fits, which the search for a boundary always finds.
-/

namespace ResourceSql

namespace Boundary

/-! ## The search for a boundary -/

variable {s : String} {offset found : Nat}

/-- Boundaries are the sizes of fronts. -/
theorem isBoundary_iff_exists_append :
    isBoundary s offset = true ↔ ∃ front back, s = front ++ back ∧ front.utf8ByteSize = offset := by
  rw [isBoundary_iff, String.Pos.Raw.isValid_iff_exists_append]
  constructor
  · rintro ⟨front, back, happend, hoffset⟩
    exact ⟨front, back, happend, congrArg String.Pos.Raw.byteIdx hoffset.symm⟩
  · rintro ⟨front, back, happend, rfl⟩
    exact ⟨front, back, happend, rfl⟩

/-- The search passes no boundary on its way down. -/
theorem stepBack?_spec (h : stepBack? s offset = some found) :
    found ≤ offset ∧ ∀ n ≤ offset, isBoundary s n = true → n ≤ found := by
  induction offset with
  | zero =>
      rw [stepBack?, if_pos (isBoundary_zero s)] at h
      cases h
      exact ⟨Nat.le_refl _, fun n hn _ => hn⟩
  | succ offset ih =>
      unfold stepBack? at h
      split_ifs at h with hboundary
      · cases h
        exact ⟨Nat.le_refl _, fun n hn _ => hn⟩
      · obtain ⟨hle, hgreatest⟩ := ih h
        refine ⟨by omega, fun n hn hnboundary => ?_⟩
        apply hgreatest n ?_ hnboundary
        have hne : n ≠ offset + 1 := by
          rintro rfl
          exact hboundary hnboundary
        omega

theorem exists_back_front (s : String) (bytes : Nat) :
    (∃ back, s = front s bytes ++ back) ∧
      (front s bytes).utf8ByteSize = stepBack s (min bytes s.utf8ByteSize) := by
  have hsplits := (s.pos _ (isValid_stepBack s (min bytes s.utf8ByteSize))).splits
  refine ⟨⟨_, hsplits.eq_append⟩, ?_⟩
  exact congrArg String.Pos.Raw.byteIdx hsplits.offset_eq_rawEndPos.symm

/-- The search finds the end of the longest front that fits. -/
theorem longestFront_front (s : String) (bytes : Nat) : LongestFront s bytes (front s bytes) := by
  obtain ⟨hback, hsize⟩ := exists_back_front s bytes
  obtain ⟨hle, hgreatest⟩ := stepBack?_spec (stepBack?_eq_some s (min bytes s.utf8ByteSize))
  refine ⟨hback, ?_, ?_⟩
  · rw [hsize]
    exact Nat.le_trans hle (Nat.min_le_left _ _)
  · intro other back hother hfits
    rw [hsize]
    apply hgreatest
    · have htotal := congrArg String.utf8ByteSize hother
      rw [String.utf8ByteSize_append] at htotal
      omega
    · exact isBoundary_iff_exists_append.mpr ⟨other, back, hother, rfl⟩

example : front "héllo" 2 = "h" := by decide

end Boundary

/-! ## What is shown -/

theorem shows_shownInLog (limit : Option Nat) (sql : String) :
    Shows limit sql (shownInLog limit sql) := by
  unfold shownInLog
  cases limit with
  | none => exact Or.inl ⟨by simp, rfl⟩
  | some bytes =>
      dsimp only
      split_ifs with hfits
      · refine Or.inl ⟨fun limit hlimit => ?_, rfl⟩
        cases hlimit
        exact hfits
      · exact Or.inr ⟨bytes, _, rfl, by omega, Boundary.longestFront_front sql bytes, rfl⟩

/-! ## Requests -/

theorem Settings.SameButLog.pageSize {a b : Settings} (h : a.SameButLog b) :
    a.pageSize = b.pageSize := by
  funext requested
  unfold Settings.pageSize
  rw [h.1, h.2]

/-- Which statement answers a request does not depend on what is logged. -/
theorem Settings.SameButLog.statement {a b : Settings} (h : a.SameButLog b) (r : Resource)
    (request : Request) : request.statement a r = request.statement b r := by
  cases request with
  | list listing =>
      have hpage : listing.toPage a = listing.toPage b := by
        unfold Listing.toPage
        rw [h.pageSize]
      unfold Request.statement
      dsimp only
      rw [hpage]
  | _ => rfl

section Effects

variable {settings : Settings} {r : Resource} {request : Request}

theorem Request.operation_table_of_statement {statement : Statement}
    (h : request.statement settings r = .ok statement) :
    statement.operation = request.operation ∧ statement.table = r.table := by
  cases request with
  | search filter =>
      cases h
      exact ⟨rfl, rfl⟩
  | insert | select | delete =>
      obtain ⟨id, -, h⟩ := Failure.exists_of_bind_eq_ok h
      cases h
      exact ⟨rfl, rfl⟩
  | list listing =>
      obtain ⟨id, -, h⟩ := Failure.exists_of_bind_eq_ok h
      obtain ⟨page, -, h⟩ := Failure.exists_of_bind_eq_ok h
      cases h
      exact ⟨rfl, rfl⟩
  | update revision filter =>
      obtain ⟨changes, -, h⟩ := Failure.exists_of_bind_eq_ok h
      dsimp only at h
      split_ifs at h
      cases h
      exact ⟨rfl, rfl⟩

theorem logged_eq (settings : Settings) (r : Resource) (request : Request)
    (log : List LogEvent) :
    (logged settings r request).run.run log =
      match compile settings r request with
      | .ok compiled => (.ok compiled.sql, log ++ compiled.log)
      | .error failure => (.error failure, log) := by
  have hwritten : ∀ statement : Statement,
      (do
        let sql ← statement.sql
        modify (· ++ settings.logOf statement sql)
        return sql : ExceptT Failure (StateM (List LogEvent)) String).run.run log =
      match (do
        let sql ← statement.sql
        return { sql, log := settings.logOf statement sql } : Except Failure Compiled) with
      | .ok compiled => (.ok compiled.sql, log ++ compiled.log)
      | .error failure => (.error failure, log) := by
    intro statement
    cases statement.sql <;> rfl
  unfold logged compile
  cases request.statement settings r with
  | error failure => rfl
  | ok statement => exact hwritten statement

/-- A compiled request adds one event to the log if statements are logged, and it shows the
statement. -/
theorem exists_log_eq {compiled : Compiled} (h : compile settings r request = .ok compiled)
    (hlogs : settings.logsStatements = true) :
    ∃ event, compiled.log = [event] ∧ event.operation = request.operation ∧
      event.table = r.table ∧ Shows settings.logLimit compiled.sql event.shown := by
  obtain ⟨statement, hstatement, h⟩ := Failure.exists_of_bind_eq_ok h
  obtain ⟨sql, -, h⟩ := Failure.exists_of_bind_eq_ok h
  cases h
  obtain ⟨hoperation, htable⟩ := Request.operation_table_of_statement hstatement
  exact ⟨_, if_pos hlogs, hoperation, htable, shows_shownInLog settings.logLimit sql⟩

theorem log_eq_nil {compiled : Compiled} (h : compile settings r request = .ok compiled)
    (hlogs : settings.logsStatements = false) : compiled.log = [] := by
  obtain ⟨statement, -, h⟩ := Failure.exists_of_bind_eq_ok h
  obtain ⟨sql, -, h⟩ := Failure.exists_of_bind_eq_ok h
  cases h
  simp [Settings.logOf, hlogs]

/-- Settings that differ in what is logged give the same statement, or the same failure. -/
theorem map_sql_compile {other : Settings} (h : other.SameButLog settings) :
    (compile other r request).map (·.sql) = (compile settings r request).map (·.sql) := by
  rw [map_sql_compile_eq, map_sql_compile_eq, h.statement r request]

theorem fst_logged (log : List LogEvent) :
    ((logged settings r request).run.run log).1 = (compile settings r request).map (·.sql) := by
  rw [logged_eq]
  cases compile settings r request <;> rfl

end Effects

/-- Logging changes no result, whatever is logged already and however much is to be logged.  If
statements are logged then a request that is compiled adds one event that shows its statement.
A failure adds none, and neither does anything if statements are not logged.  The search for the
place of the cut ends, for every text and every limit, behind the longest front that fits. -/
theorem logged_shows (settings : Settings) (r : Resource) (request : Request)
    (log : List LogEvent) :
    ((logged settings r request).run.run log).1 = (compile settings r request).map (·.sql) ∧
      (∀ (other : Settings) (earlier : List LogEvent), other.SameButLog settings →
        ((logged other r request).run.run earlier).1 =
          ((logged settings r request).run.run log).1) ∧
      (∀ sql, ((logged settings r request).run.run log).1 = .ok sql →
        settings.logsStatements = true →
          ∃ event, ((logged settings r request).run.run log).2 = log ++ [event] ∧
            event.operation = request.operation ∧ event.table = r.table ∧
            Shows settings.logLimit sql event.shown) ∧
      (∀ failure, ((logged settings r request).run.run log).1 = .error failure →
        ((logged settings r request).run.run log).2 = log) ∧
      (settings.logsStatements = false → ((logged settings r request).run.run log).2 = log) ∧
      ∀ (sql : String) (bytes : Nat), ∃ front, Boundary.LongestFront sql bytes front ∧
        Boundary.stepBack? sql (min bytes sql.utf8ByteSize) = some front.utf8ByteSize := by
  refine ⟨fst_logged log, ?_, ?_, ?_, ?_, ?_⟩
  · intro other earlier hother
    rw [fst_logged, fst_logged, map_sql_compile hother]
  · intro sql
    rw [logged_eq]
    cases hcompiled : compile settings r request with
    | error failure =>
        intro hsql
        cases hsql
    | ok compiled =>
        intro hsql hlogs
        cases hsql
        obtain ⟨event, hlog, hshown⟩ := exists_log_eq hcompiled hlogs
        exact ⟨event, congrArg (log ++ ·) hlog, hshown⟩
  · intro failure
    rw [logged_eq]
    cases compile settings r request with
    | error cause => exact fun _ => rfl
    | ok compiled =>
        intro hfailure
        cases hfailure
  · intro hlogs
    rw [logged_eq]
    cases hcompiled : compile settings r request with
    | error failure => rfl
    | ok compiled => simp [log_eq_nil hcompiled hlogs]
  · intro sql bytes
    refine ⟨_, Boundary.longestFront_front sql bytes, ?_⟩
    rw [(Boundary.exists_back_front sql bytes).2, Boundary.stepBack?_eq_some]

/-- The limit ends within the first character of the identifier. -/
theorem logged_shows_midCharacter :
    let settings : Settings := { logsStatements := true, logLimit := some 37 }
    let r : Resource := { typeName := "test", id := some "éa" }
    ∃ sql event, ((logged settings r .select).run.run []).1 = .ok sql ∧
      ((logged {} r .select).run.run []).1 = .ok sql ∧
      ((logged settings r .select).run.run []).2 = [event] ∧ Shows (some 37) sql event.shown ∧
      event.shown = "SELECT * FROM `tests` WHERE `id` = \x27..." := by
  intro settings r
  obtain ⟨compiled, hcompiled⟩ : ∃ compiled, compile settings r .select = .ok compiled := ⟨_, rfl⟩
  have hsql : ((logged settings r .select).run.run []).1 = .ok compiled.sql := by
    rw [fst_logged, hcompiled]
    rfl
  obtain ⟨-, hsame, hshows, -⟩ := logged_shows settings r .select []
  obtain ⟨event, hlog, -, -, hshown⟩ := hshows compiled.sql hsql rfl
  have hevents : ((logged settings r .select).run.run []).2.map (·.shown) =
      ["SELECT * FROM `tests` WHERE `id` = \x27..."] := by
    decide +kernel
  rw [hlog] at hevents
  refine ⟨compiled.sql, event, hsql, (hsame {} [] ⟨rfl, rfl⟩).trans hsql, hlog, hshown, ?_⟩
  exact List.head_eq_of_cons_eq hevents

end ResourceSql
