import Mathlib.Tactic.Common
import ResourceSql.Json.Written

/-!
# Numerals of JSON text

A numeral whose digits are in order is read back from its characters, if what follows
cannot belong to it.
-/

namespace ResourceSql

namespace Numeral

/-- The characters of a fraction, with the point. -/
def fractionChars : Option (List Char) → List Char
  | none => []
  | some digits => '.' :: digits

/-- The characters of an exponent, with its sign. -/
def exponentChars : Option (Bool × List Char) → List Char
  | none => []
  | some (negative, digits) => 'e' :: (if negative then '-' else '+') :: digits

def chars (n : Numeral) : List Char :=
  (if n.negative then ['-'] else []) ++
    (n.whole ++ (fractionChars n.fraction ++ exponentChars n.exponent))

/-- Digits, at least one. -/
def AreDigits (cs : List Char) : Prop := cs ≠ [] ∧ ∀ c ∈ cs, c.isDigit = true

/-- Every part of the numeral has digits, and the whole part has no needless zero. -/
structure InOrder (n : Numeral) : Prop where
  whole : AreDigits n.whole
  /-- A zero in front stands alone. -/
  leading : 1 < n.whole.length → n.whole.head? ≠ some '0'
  fraction : ∀ digits, n.fraction = some digits → AreDigits digits
  exponent : ∀ negative digits, n.exponent = some (negative, digits) → AreDigits digits

end Numeral

namespace Written

open Numeral

/-- A character that can stand after a digit in a numeral. -/
def continuesNumeral (c : Char) : Bool := c.isDigit || c == '.' || c == 'e' || c == 'E'

/-- Nothing that follows belongs to a numeral. -/
def EndsNumeral (rest : List Char) : Prop := ∀ c, rest.head? = some c → continuesNumeral c = false

theorem digits?_append {digits rest : List Char} (hdigits : AreDigits digits)
    (hrest : ∀ c, rest.head? = some c → c.isDigit = false) :
    digits? (digits ++ rest) = some (digits, rest) := by
  have hnone : rest.takeWhile Char.isDigit = [] ∧ rest.dropWhile Char.isDigit = rest := by
    cases rest with
    | nil => simp
    | cons c rest =>
        have hc := hrest c rfl
        simp [hc]
  unfold digits?
  rw [List.takeWhile_append_of_pos hdigits.2, List.dropWhile_append_of_pos hdigits.2, hnone.1,
    hnone.2, List.append_nil]
  simp [hdigits.1]

theorem head?_fraction_exponent (fraction : Option (List Char))
    (exponent : Option (Bool × List Char)) {rest : List Char} (hrest : EndsNumeral rest) :
    ∀ c, (fractionChars fraction ++ (exponentChars exponent ++ rest)).head? = some c →
      c.isDigit = false := by
  intro c hc
  cases fraction with
  | some digits =>
      cases hc
      rfl
  | none =>
      cases exponent with
      | some sign =>
          cases hc
          rfl
      | none =>
          have hends := hrest c hc
          simp only [continuesNumeral, Bool.or_eq_false_iff] at hends
          exact hends.1.1.1

theorem wholePart?_append {n : Numeral} (hn : n.InOrder) {rest : List Char}
    (hrest : ∀ c, rest.head? = some c → c.isDigit = false) :
    wholePart? (n.whole ++ rest) = some (n.whole, rest) := by
  have hleading : ¬(1 < n.whole.length ∧ n.whole.head? = some '0') :=
    fun h => hn.leading h.1 h.2
  simp [wholePart?, digits?_append hn.whole hrest, hleading]

theorem exponentPart?_append {n : Numeral} (hn : n.InOrder) {rest : List Char}
    (hrest : EndsNumeral rest) :
    exponentPart? (exponentChars n.exponent ++ rest) = some (n.exponent, rest) := by
  have hdigit : ∀ c, rest.head? = some c → c.isDigit = false :=
    head?_fraction_exponent none none hrest
  cases hexponent : n.exponent with
  | none =>
      cases rest with
      | nil => rfl
      | cons c rest =>
          have hends := hrest c rfl
          simp only [continuesNumeral, Bool.or_eq_false_iff, beq_eq_false_iff_ne] at hends
          simp [exponentChars, exponentPart?, hends]
  | some signed =>
      obtain ⟨negative, digits⟩ := signed
      have hdigits := digits?_append (hn.exponent negative digits hexponent) hdigit
      cases negative <;> simp [exponentChars, exponentPart?, hdigits]

theorem fractionPart?_append {n : Numeral} (hn : n.InOrder) {rest : List Char}
    (hrest : EndsNumeral rest) :
    fractionPart? (fractionChars n.fraction ++ (exponentChars n.exponent ++ rest)) =
      some (n.fraction, exponentChars n.exponent ++ rest) := by
  have hdigit : ∀ c, (exponentChars n.exponent ++ rest).head? = some c → c.isDigit = false :=
    head?_fraction_exponent none n.exponent hrest
  cases hfraction : n.fraction with
  | some digits =>
      have hdigits := digits?_append (hn.fraction digits hfraction) hdigit
      simp [fractionChars, fractionPart?, hdigits]
  | none =>
      rw [fractionChars, List.nil_append, fractionPart?.eq_2]
      intro digits heq
      cases hexponent : n.exponent with
      | some signed => simp [hexponent, exponentChars] at heq
      | none =>
          rw [hexponent, exponentChars, List.nil_append] at heq
          have hends := hrest '.' (by rw [heq]; rfl)
          exact absurd hends (by decide)

/-- A numeral is read back from its characters. -/
theorem numeral?_chars {n : Numeral} (hn : n.InOrder) {rest : List Char}
    (hrest : EndsNumeral rest) : numeral? (n.chars ++ rest) = some (n, rest) := by
  have hwhole := wholePart?_append hn (head?_fraction_exponent n.fraction n.exponent hrest)
  have hfraction := fractionPart?_append hn hrest
  have hexponent := exponentPart?_append hn hrest
  obtain ⟨c, whole, hc⟩ := List.exists_cons_of_ne_nil hn.whole.1
  have hminus : c ≠ '-' := by
    rintro rfl
    have hdigit := hn.whole.2 '-' (by simp [hc])
    exact absurd hdigit (by decide)
  obtain ⟨negative, digits, fraction, exponent⟩ := n
  dsimp only at *
  cases negative with
  | true => simp [chars, numeral?, hwhole, hfraction, hexponent]
  | false =>
      rw [hc, List.cons_append] at hwhole
      simp [chars, numeral?, hc, hminus, hwhole, hfraction, hexponent]

end Written

end ResourceSql
