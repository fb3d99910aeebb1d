/-!
# Boundaries between characters

A text is cut by bytes of UTF-8, so the cut has to step back to where a character starts.  The
search goes down one byte at a time, and it never gets below zero, where every text has a
boundary.
-/

namespace ResourceSql.Boundary

/-- Whether a text can be cut after a number of bytes: a character starts there, or the text
ends there. -/
def isBoundary (s : String) (offset : Nat) : Bool := String.Pos.Raw.isValid s ⟨offset⟩

/-- The first boundary on the way down from an offset; `none` if the search would have to go
below zero. -/
def stepBack? (s : String) : Nat → Option Nat
  | 0 => if isBoundary s 0 then some 0 else none
  | offset + 1 => if isBoundary s (offset + 1) then some (offset + 1) else stepBack? s offset

theorem isBoundary_iff {s : String} {offset : Nat} :
    isBoundary s offset = true ↔ String.Pos.Raw.IsValid s ⟨offset⟩ :=
  String.Pos.Raw.isValid_eq_true_iff

theorem isBoundary_zero (s : String) : isBoundary s 0 = true :=
  isBoundary_iff.mpr String.Pos.Raw.isValid_zero

/-- The search always ends. -/
theorem isSome_stepBack? (s : String) (offset : Nat) : (stepBack? s offset).isSome = true := by
  induction offset with
  | zero => simp [stepBack?, isBoundary_zero]
  | succ offset ih =>
    unfold stepBack?
    split
    · rfl
    · exact ih

theorem isBoundary_of_stepBack? {s : String} {offset found : Nat}
    (h : stepBack? s offset = some found) : isBoundary s found = true := by
  induction offset with
  | zero =>
    rw [stepBack?, if_pos (isBoundary_zero s)] at h
    cases h
    exact isBoundary_zero s
  | succ offset ih =>
    unfold stepBack? at h
    split at h
    · rename_i hboundary
      cases h
      exact hboundary
    · exact ih h

def stepBack (s : String) (offset : Nat) : Nat :=
  (stepBack? s offset).get (isSome_stepBack? s offset)

theorem stepBack?_eq_some (s : String) (offset : Nat) :
    stepBack? s offset = some (stepBack s offset) :=
  (Option.some_get _).symm

theorem isValid_stepBack (s : String) (offset : Nat) :
    String.Pos.Raw.IsValid s ⟨stepBack s offset⟩ :=
  isBoundary_iff.mp (isBoundary_of_stepBack? (stepBack?_eq_some s offset))

/-- The front of a text up to the last boundary within a number of bytes. -/
def front (s : String) (bytes : Nat) : String :=
  (s.sliceTo (s.pos _ (isValid_stepBack s (min bytes s.utf8ByteSize)))).copy

/-- The longest front of a text, in whole characters, that fits into a number of bytes. -/
structure LongestFront (s : String) (bytes : Nat) (front : String) : Prop where
  /-- It is a front of the text. -/
  exists_back : ∃ back, s = front ++ back
  /-- It fits. -/
  fits : front.utf8ByteSize ≤ bytes
  /-- No other front that fits is longer. -/
  longest : ∀ other back, s = other ++ back → other.utf8ByteSize ≤ bytes →
    other.utf8ByteSize ≤ front.utf8ByteSize

end ResourceSql.Boundary
