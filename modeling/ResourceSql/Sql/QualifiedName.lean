/-!
# Reading identifiers back

How a qualified identifier is read from the front of a text.  Its parts stand between
backticks, two backticks within a part are one of the name, and a dot between a closing and
an opening backtick divides two parts.  A list of identifiers has commas between them.
-/

namespace ResourceSql.Sql

/-- Read on in a part of an identifier: the parts from this one on, and what follows the
backtick that closes the last one. -/
def parts? (part : List Char) : List Char → Option (List String × List Char)
  | '\x60' :: '\x60' :: rest => parts? (part ++ ['\x60']) rest
  | '\x60' :: '.' :: '\x60' :: rest =>
    (parts? [] rest).map fun read => (String.ofList part :: read.1, read.2)
  | '\x60' :: rest => some ([String.ofList part], rest)
  | c :: rest => parts? (part ++ [c]) rest
  | [] => none

/-- The parts of the identifier at the front of a text, and what follows it. -/
def qualified? : List Char → Option (List String × List Char)
  | '\x60' :: rest => parts? [] rest
  | _ => none

theorem length_lt_of_parts? {part cs rest : List Char} {parts : List String}
    (h : parts? part cs = some (parts, rest)) : rest.length < cs.length := by
  fun_induction parts? part cs generalizing parts with
  | case1 part more ih => exact Nat.lt_succ_of_lt (Nat.lt_succ_of_lt (ih h))
  | case2 part more ih =>
      obtain ⟨⟨others, last⟩, hread, heq⟩ := Option.map_eq_some_iff.mp h
      cases heq
      have hmore : last.length < more.length := ih hread
      simp only [List.length_cons]
      omega
  | case3 part more =>
      cases h
      exact Nat.lt_succ_self _
  | case4 part c more _ _ _ ih => exact Nat.lt_succ_of_lt (ih h)
  | case5 => cases h

theorem length_lt_of_qualified? {cs rest : List Char} {parts : List String}
    (h : qualified? cs = some (parts, rest)) : rest.length < cs.length := by
  unfold qualified? at h
  split at h
  · exact Nat.lt_succ_of_lt (length_lt_of_parts? h)
  · cases h

/-- The name that has these parts between its dots. -/
def dottedName (parts : List String) : String :=
  String.ofList (['.'].intercalate (parts.map String.toList))

/-- The names of a list of identifiers, which goes on to the end of a text. -/
def listedNames? (cs : List Char) : Option (List String) :=
  match _h : qualified? cs with
  | some (parts, []) => some [dottedName parts]
  | some (parts, ',' :: ' ' :: rest) => (listedNames? rest).map (dottedName parts :: ·)
  | _ => none
termination_by cs.length
decreasing_by
  have hlength := length_lt_of_qualified? _h
  simp only [List.length_cons] at hlength
  omega

theorem listedNames?_of_end {cs : List Char} {parts : List String}
    (h : qualified? cs = some (parts, [])) : listedNames? cs = some [dottedName parts] := by
  rw [listedNames?]
  split <;> simp_all

theorem listedNames?_of_comma {cs rest : List Char} {parts : List String}
    (h : qualified? cs = some (parts, ',' :: ' ' :: rest)) :
    listedNames? cs = (listedNames? rest).map (dottedName parts :: ·) := by
  rw [listedNames?]
  split <;> simp_all

end ResourceSql.Sql
