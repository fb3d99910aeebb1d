/-!
# Digits

Decimal and hexadecimal text of whole numbers.  The digit lists are defined by
repeated division, so that reading them back is one induction: decimal digits
read back as the number they were taken from.
-/

namespace ResourceSql.Digits

/-- The character of a digit below sixteen; letters are lower case. -/
def char (d : Nat) : Char :=
  if d < 10 then Char.ofNat (48 + d) else Char.ofNat (87 + d)

/-- The digits of a number in a base above one, most significant first.  Zero
has one digit. -/
def ofNat (base : Nat) (n : Nat) : List Char :=
  if _h : n < base ∨ base < 2 then [char n]
  else ofNat base (n / base) ++ [char (n % base)]
termination_by n
decreasing_by exact Nat.div_lt_self (by omega) (by omega)

/-- Digits filled up on the left with zeros to a least width. -/
def padLeft (width : Nat) (digits : List Char) : List Char :=
  List.replicate (width - digits.length) '0' ++ digits

def decimal (n : Nat) : String := String.ofList (ofNat 10 n)

def decimalPadded (width n : Nat) : String := String.ofList (padLeft width (ofNat 10 n))

def hexPadded (width n : Nat) : String := String.ofList (padLeft width (ofNat 16 n))

/-- Decimal text with a minus sign for negative numbers. -/
def signed (n : Int) : String :=
  if n < 0 then "-" ++ decimal n.natAbs else decimal n.natAbs

/-- The value of a hexadecimal digit of either case. -/
def hexValue? (c : Char) : Option Nat :=
  if '0' ≤ c ∧ c ≤ '9' then some (c.toNat - 48)
  else if 'a' ≤ c ∧ c ≤ 'f' then some (c.toNat - 87)
  else if 'A' ≤ c ∧ c ≤ 'F' then some (c.toNat - 55)
  else none

/-- The number written by decimal digits, read from the left onto `start`. -/
def readDecimal (start : Nat) (digits : List Char) : Nat :=
  digits.foldl (fun n c => n * 10 + (c.toNat - 48)) start

/-- The number written by hexadecimal digits; `none` if another character occurs. -/
def readHex? (digits : List Char) : Option Nat :=
  digits.foldlM (fun n c => (hexValue? c).map (n * 16 + ·)) 0

theorem ofNat_of_lt {n base : Nat} (hn : n < base) : ofNat base n = [char n] := by
  rw [ofNat, dif_pos (Or.inl hn)]

theorem ofNat_of_le {n base : Nat} (hn : base ≤ n) (hbase : 2 ≤ base) :
    ofNat base n = ofNat base (n / base) ++ [char (n % base)] := by
  have hnot : ¬(n < base ∨ base < 2) := by omega
  rw [ofNat, dif_neg hnot]

theorem toNat_char_of_lt : ∀ d < 10, (char d).toNat = 48 + d := by decide

theorem isDigit_char_of_lt : ∀ d < 10, (char d).isDigit = true := by decide

theorem ofNat_ne_nil (base n : Nat) : ofNat base n ≠ [] := by
  rw [ofNat]
  split <;> simp

theorem isDigit_of_mem_ofNat {c : Char} (n : Nat) (hc : c ∈ ofNat 10 n) : c.isDigit = true := by
  induction n using Nat.strongRecOn with
  | ind n ih =>
    by_cases hn : n < 10
    · rw [ofNat_of_lt hn, List.mem_singleton] at hc
      rw [hc]
      exact isDigit_char_of_lt n hn
    · rw [ofNat_of_le (by omega) (by omega), List.mem_append, List.mem_singleton] at hc
      rcases hc with hc | hc
      · exact ih (n / 10) (by omega) hc
      · rw [hc]
        exact isDigit_char_of_lt _ (by omega)

theorem readDecimal_append (start : Nat) (front back : List Char) :
    readDecimal start (front ++ back) = readDecimal (readDecimal start front) back := by
  simp [readDecimal, List.foldl_append]

/-- Decimal digits read back as the number they were taken from. -/
theorem readDecimal_ofNat (n : Nat) : readDecimal 0 (ofNat 10 n) = n := by
  induction n using Nat.strongRecOn with
  | ind n ih =>
    by_cases hn : n < 10
    · rw [ofNat_of_lt hn]
      simp [readDecimal, toNat_char_of_lt n hn]
    · rw [ofNat_of_le (by omega) (by omega), readDecimal_append, ih (n / 10) (by omega)]
      have hdigit := toNat_char_of_lt (n % 10) (by omega)
      simp only [readDecimal, List.foldl_cons, List.foldl_nil, hdigit]
      omega

end ResourceSql.Digits
