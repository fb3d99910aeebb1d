/-!
# Settings

The settings of statement compilation: how long pages are and what is logged.
Page sizes are at least one.  This is part of the type, so that every page of a
listing has rows and consecutive pages cover all of them.

The builders keep to that.  The size fields of a configuration are open, though, and can
be set to zero past the builders; listings then have pages without rows.  The type leaves
such configurations out, and no theorem about pages speaks of them.
-/

namespace ResourceSql

/-- The length of a page.  A size of zero, which only a configuration that was set past
the builders can have, is none. -/
structure PageSize where
  rows : UInt64
  pos : 0 < rows.toNat
deriving DecidableEq, Repr

namespace PageSize

/-- The page size nearest to a number: the number itself, or one. -/
def atLeastOne (n : UInt64) : PageSize :=
  if h : 0 < n.toNat then ⟨n, h⟩ else ⟨1, by decide⟩

def min (a b : PageSize) : PageSize := if a.rows ≤ b.rows then a else b

end PageSize

/-- How statements are compiled.  Page sizes are as the builders leave them, at least one. -/
structure Settings where
  /-- The page size of a listing that asks for none. -/
  defaultPageSize : PageSize := ⟨10, by decide⟩
  /-- The greatest page size of a listing; `none` for no bound. -/
  maxPageSize : Option PageSize := none
  /-- Whether compiled statements are logged. -/
  logsStatements : Bool := false
  /-- How many bytes of a statement are logged; `none` for all. -/
  logLimit : Option Nat := some 200
deriving DecidableEq, Repr

namespace Settings

def withDefaultPageSize (s : Settings) (n : UInt64) : Settings :=
  { s with defaultPageSize := .atLeastOne n }

def withMaxPageSize (s : Settings) (n : UInt64) : Settings :=
  { s with maxPageSize := some (.atLeastOne n) }

def enableLogging (s : Settings) : Settings := { s with logsStatements := true }

def disableLogging (s : Settings) : Settings := { s with logsStatements := false }

def withLogLimit (s : Settings) (bytes : Nat) : Settings := { s with logLimit := some bytes }

def withoutLogLimit (s : Settings) : Settings := { s with logLimit := none }

/-- The page size for a requested number of rows, of which zero asks for the
default. -/
def pageSize (s : Settings) (requested : UInt64) : PageSize :=
  let size := if h : 0 < requested.toNat then ⟨requested, h⟩ else s.defaultPageSize
  match s.maxPageSize with
  | some greatest => size.min greatest
  | none => size

theorem pageSize_pos (s : Settings) (requested : UInt64) :
    0 < (s.pageSize requested).rows.toNat :=
  (s.pageSize requested).pos

/-!
## Adjusted settings

Settings are made from the standard ones by adjustments, one after the other.  Of two
adjustments of one page size the later one counts, and a page size of zero is taken for one.

How many rows a page has is read off the adjustments alone, without settings in between.
-/

/-- A change of the settings. -/
inductive Adjustment where
  | defaultPageSize (rows : UInt64)
  | maxPageSize (rows : UInt64)
  | enableLogging
  | disableLogging
  | logLimit (bytes : Nat)
  | noLogLimit

namespace Adjustment

def apply : Adjustment → Settings → Settings
  | .defaultPageSize rows, s => s.withDefaultPageSize rows
  | .maxPageSize rows, s => s.withMaxPageSize rows
  | .enableLogging, s => s.enableLogging
  | .disableLogging, s => s.disableLogging
  | .logLimit bytes, s => s.withLogLimit bytes
  | .noLogLimit, s => s.withoutLogLimit

def default? : Adjustment → Option UInt64
  | .defaultPageSize rows => some rows
  | _ => none

def greatest? : Adjustment → Option UInt64
  | .maxPageSize rows => some rows
  | _ => none

end Adjustment

def adjusted (s : Settings) (adjustments : List Adjustment) : Settings :=
  adjustments.foldl (fun s adjustment => adjustment.apply s) s

/-- The rows of a page for listings that ask for none: what was last set, at least one. -/
def defaultRows (adjustments : List Adjustment) : Nat :=
  match adjustments.reverse.findSome? Adjustment.default? with
  | some rows => max 1 rows.toNat
  | none => 10

/-- The greatest number of rows of a page, if there is a bound: what was last set, at least
one. -/
def greatestRows? (adjustments : List Adjustment) : Option Nat :=
  (adjustments.reverse.findSome? Adjustment.greatest?).map fun rows => max 1 rows.toNat

/-- The rows of a page for a requested number of rows, of which zero asks for the default. -/
def rowsPerPage (adjustments : List Adjustment) (requested : UInt64) : Nat :=
  let rows := if requested = 0 then defaultRows adjustments else requested.toNat
  match greatestRows? adjustments with
  | some greatest => min rows greatest
  | none => rows

end Settings

end ResourceSql
