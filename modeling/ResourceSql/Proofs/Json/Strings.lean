import Mathlib.Tactic.Common
import ResourceSql.Json.Printer
import ResourceSql.Json.Written

/-!
# Strings of JSON text

Every character is read back from its escaped form, so a string is read back from the
text between its quotes.
-/

namespace ResourceSql

namespace Digits

theorem hexValue?_char : ∀ d < 16, hexValue? (char d) = some d := by decide

/-- Four digits are enough for a control character. -/
theorem padLeft_ofNat_of_lt {n : Nat} (hn : n < 32) :
    padLeft 4 (ofNat 16 n) = ['0', '0', char (n / 16), char (n % 16)] := by
  by_cases hsmall : n < 16
  · have hdiv : n / 16 = 0 := by omega
    have hmod : n % 16 = n := by omega
    rw [ofNat_of_lt hsmall, hdiv, hmod]
    rfl
  · rw [ofNat_of_le (by omega) (by omega), ofNat_of_lt (by omega : n / 16 < 16)]
    rfl

end Digits

namespace Written

theorem fourHex?_of_lt {n : Nat} (hn : n < 32) :
    fourHex? '0' '0' (Digits.char (n / 16)) (Digits.char (n % 16)) = some n := by
  have hhigh := Digits.hexValue?_char (n / 16) (by omega)
  have hlow := Digits.hexValue?_char (n % 16) (by omega)
  have hzero : Digits.hexValue? '0' = some 0 := by decide
  have hsum : n / 16 * 16 + n % 16 = n := by omega
  simp [fourHex?, Digits.readHex?, List.foldlM, hzero, hhigh, hlow, hsum]

theorem stringBody?_unit {a b c d : Char} {unit : Nat} (hunit : fourHex? a b c d = some unit)
    (hhigh : isHighUnit unit = false) (hlow : isLowUnit unit = false) (rest : List Char) :
    stringBody? ('\\' :: 'u' :: a :: b :: c :: d :: rest) =
      (stringBody? rest).map fun (body, after) => (Char.ofNat unit :: body, after) := by
  rw [stringBody?.eq_def]
  split
  · rename_i heq
    cases heq
  · rename_i heq
    cases heq
    simp only [hunit, hhigh, hlow, Option.bind_eq_bind, Option.bind_some, Bool.false_eq_true,
      if_false]
    cases stringBody? _ <;> rfl
  · rename_i heq
    cases heq
    simp only [hunit, hhigh, hlow, Option.bind_eq_bind, Option.bind_some, Bool.false_eq_true,
      if_false, Bool.or_self]
    cases stringBody? _ <;> rfl
  · rename_i hpair hsingle heq
    cases heq
    exact (hsingle a b c d rest rfl rfl).elim
  · rename_i hpair hsingle hescape heq
    cases heq
    exact (hescape 'u' _ rfl rfl).elim
  · rename_i heq
    cases heq

theorem stringBody?_short {c meant : Char} (hmeant : shortEscape? c = some meant) (hu : c ≠ 'u')
    (rest : List Char) :
    stringBody? ('\\' :: c :: rest) =
      (stringBody? rest).map fun (body, after) => (meant :: body, after) := by
  rw [stringBody?.eq_def]
  split
  · rename_i heq
    cases heq
  · rename_i heq
    cases heq
    exact absurd rfl hu
  · rename_i heq
    cases heq
    exact absurd rfl hu
  · rename_i heq
    cases heq
    simp only [hmeant, Option.bind_eq_bind, Option.bind_some]
    cases stringBody? _ <;> rfl
  · rename_i hescape heq
    cases heq
    exact (hescape c rest rfl rfl).elim
  · rename_i heq
    cases heq

theorem stringBody?_plain {c : Char} (hquote : c ≠ '\x22') (hslash : c ≠ '\\')
    (hcontrol : ¬c.toNat < 32) (rest : List Char) :
    stringBody? (c :: rest) =
      (stringBody? rest).map fun (body, after) => (c :: body, after) := by
  rw [stringBody?.eq_def]
  split
  · rename_i heq
    cases heq
    exact absurd rfl hquote
  · rename_i heq
    cases heq
    exact absurd rfl hslash
  · rename_i heq
    cases heq
    exact absurd rfl hslash
  · rename_i heq
    cases heq
    exact absurd rfl hslash
  · rename_i heq
    cases heq
    rw [if_neg hcontrol]
    cases stringBody? _ <;> rfl
  · rename_i heq
    cases heq

/-- A control character does not stand in a string by itself. -/
theorem stringBody?_control {c : Char} (hcontrol : c.toNat < 32) (rest : List Char) :
    stringBody? (c :: rest) = none := by
  have hquote : c ≠ '\x22' := by
    rintro rfl
    exact absurd hcontrol (by decide)
  have hslash : c ≠ '\\' := by
    rintro rfl
    exact absurd hcontrol (by decide)
  rw [stringBody?.eq_5 c rest hquote (by simp [hslash]) (by simp [hslash]) (by simp [hslash]),
    if_pos hcontrol]

theorem stringBody?_escaped (c : Char) (rest : List Char) :
    stringBody? (Json.escaped c ++ rest) =
      (stringBody? rest).map fun (body, after) => (c :: body, after) := by
  unfold Json.escaped
  split_ifs with hquote hb hf hn hr ht hcontrol
  · rcases hquote with rfl | rfl
    · exact stringBody?_short (by decide) (by decide) rest
    · exact stringBody?_short (by decide) (by decide) rest
  · rw [hb]
    exact stringBody?_short (by decide) (by decide) rest
  · rw [hf]
    exact stringBody?_short (by decide) (by decide) rest
  · rw [hn]
    exact stringBody?_short (by decide) (by decide) rest
  · rw [hr]
    exact stringBody?_short (by decide) (by decide) rest
  · rw [ht]
    exact stringBody?_short (by decide) (by decide) rest
  · have hunit := fourHex?_of_lt hcontrol
    have hhigh : isHighUnit c.toNat = false := by
      simp [isHighUnit]
      omega
    have hlow : isLowUnit c.toNat = false := by
      simp [isLowUnit]
      omega
    have hread := stringBody?_unit hunit hhigh hlow rest
    rw [Char.ofNat_toNat] at hread
    rw [Digits.padLeft_ofNat_of_lt hcontrol]
    exact hread
  · obtain ⟨hquote, hslash⟩ := not_or.mp hquote
    exact stringBody?_plain hquote hslash hcontrol rest

/-- A string is read back up to its closing quote. -/
theorem stringBody?_flatMap (cs rest : List Char) :
    stringBody? (cs.flatMap Json.escaped ++ '\x22' :: rest) = some (cs, rest) := by
  induction cs with
  | nil => rfl
  | cons c cs ih =>
      rw [List.flatMap_cons, List.append_assoc, stringBody?_escaped, ih]
      rfl

end Written

end ResourceSql
