import Mathlib.Tactic.Common
import ResourceSql.Sql.Token

/-!
# Lexing texts that are put together

The lexer reads a text that is put together from parts as the tokens of the parts,
if no token can run on from one part into the next.  Two cases are enough for
statements.  Either the first part ends between two tokens, or the second starts with
a character that ends every token.
-/

namespace ResourceSql.Sql

/-- Characters that end every token: blanks, and all symbols but the point, which
may continue a numeral. -/
def delimiters : List Char := [' ', '\t', '\n', '\r', '(', ')', ',', ';', '=', '*']

namespace Mode

@[simp] theorem read?_nil (mode : Mode) : mode.read? [] = some ([], mode) := rfl

theorem read?_cons (mode : Mode) (c : Char) (rest : List Char) :
    mode.read? (c :: rest) =
      (mode.step? c).bind fun first =>
        (first.2.read? rest).map fun second => (first.1 ++ second.1, second.2) := by
  rw [read?]
  cases mode.step? c with
  | none => rfl
  | some first => cases h : first.2.read? rest <;> simp [h]

/-- A character that completes no token only changes the mode. -/
theorem read?_cons_of_step (next : Mode) {mode : Mode} {c : Char}
    (hstep : mode.step? c = some ([], next)) (rest : List Char) :
    mode.read? (c :: rest) = next.read? rest := by
  rw [read?_cons, hstep]
  cases h : next.read? rest <;> simp [h]

theorem read?_append (mode : Mode) (front back : List Char) :
    mode.read? (front ++ back) =
      (mode.read? front).bind fun first =>
        (first.2.read? back).map fun second => (first.1 ++ second.1, second.2) := by
  induction front generalizing mode with
  | nil => cases h : mode.read? back <;> simp [h]
  | cons c front ih =>
      rw [List.cons_append, read?_cons, read?_cons]
      cases mode.step? c with
      | none => rfl
      | some first =>
          simp only [Option.bind_some, ih]
          cases hfront : first.2.read? front with
          | none => rfl
          | some second => cases hback : second.2.read? back <;> simp [hback]

/-- Reading on in the mode that a first part leaves. -/
theorem read?_append_of_eq {mode middle last : Mode} {front back : List Char}
    {done more : List Token} (hfront : mode.read? front = some (done, middle))
    (hback : middle.read? back = some (more, last)) :
    mode.read? (front ++ back) = some (done ++ more, last) := by
  simp [read?_append, hfront, hback]

/-- What is checked of all delimiters holds of each. -/
theorem of_mem_delimiters {p : Char → Bool} (h : delimiters.all p = true) {c : Char}
    (hc : c ∈ delimiters) : p c = true :=
  List.all_eq_true.mp h c hc

theorem start?_of_mem_delimiters {c : Char} (hc : c ∈ delimiters) :
    ∃ tokens, start? c = some (tokens, .between) := by
  have hboth : decide ((start? c).map Prod.snd = some .between) = true :=
    of_mem_delimiters (p := fun c => decide ((start? c).map Prod.snd = some .between))
      (by decide) hc
  obtain ⟨⟨tokens, mode⟩, hstart, rfl⟩ := Option.map_eq_some_iff.mp (of_decide_eq_true hboth)
  exact ⟨tokens, hstart⟩

theorem not_isWordChar_of_mem_delimiters {c : Char} (hc : c ∈ delimiters) :
    isWordChar c = false := by
  have h := of_mem_delimiters (p := fun c => !isWordChar c) (by decide) hc
  simpa using h

theorem ne_of_mem_delimiters {c : Char} (hc : c ∈ delimiters) :
    c ≠ '.' ∧ c ≠ '\x60' ∧ c ≠ '\x27' := by
  have h := of_mem_delimiters (p := fun c => c != '.' && c != '\x60' && c != '\x27')
    (by decide) hc
  simpa [and_assoc] using h

/-- Every token is over before a delimiter. -/
theorem endsBefore_of_mem_delimiters (token : Token) {c : Char} (hc : c ∈ delimiters) :
    token.endsBefore c = true := by
  have hword := not_isWordChar_of_mem_delimiters hc
  obtain ⟨hpoint, hbacktick, hquote⟩ := ne_of_mem_delimiters hc
  cases token <;> simp [Token.endsBefore, hword, hpoint, hbacktick, hquote]

/-- What is complete is one token, or there is none between two of them. -/
theorem token?_of_finish? {mode : Mode} {last : List Token} (h : mode.finish? = some last) :
    mode = .between ∧ last = [] ∨ ∃ token, mode.token? = some token ∧ last = [token] := by
  cases mode with
  | between => exact Or.inl ⟨rfl, (Option.some.inj h).symm⟩
  | fraction negative digits places =>
      rw [finish?] at h
      split_ifs at h with hplaces
      exact Or.inr ⟨_, by simp [token?, finish?, hplaces], (Option.some.inj h).symm⟩
  | word | whole | identifierEnd | textEnd =>
      exact Or.inr ⟨_, rfl, (Option.some.inj h).symm⟩
  | sign | identifier | text | escape => cases h

theorem finish?_of_token? {mode : Mode} {token : Token} (h : mode.token? = some token) :
    mode.finish? = some [token] := by
  obtain ⟨last, hlast, hhead⟩ := Option.bind_eq_some_iff.mp h
  rcases token?_of_finish? hlast with ⟨-, rfl⟩ | ⟨other, hother, rfl⟩
  · cases hhead
  · rw [hlast, ← Option.some.inj hhead]

theorem not_isDigit_of_not_isWordChar {c : Char} (hc : isWordChar c = false) :
    c.isDigit = false := by
  simp only [isWordChar, Char.isAlphanum, Bool.or_eq_false_iff] at hc
  exact hc.1.2

/-- A character before which a token is over completes it, and starts something new. -/
theorem step?_of_endsBefore {mode : Mode} {token : Token} (htoken : mode.token? = some token)
    {c : Char} (hc : token.endsBefore c = true) : mode.step? c = mode.next? c := by
  have hfinish := finish?_of_token? htoken
  cases mode with
  | word letters =>
      cases hfinish
      have hword : isWordChar c = false := by simpa [Token.endsBefore] using hc
      simp [step?, hword]
  | whole negative digits =>
      cases hfinish
      obtain ⟨hword, hpoint⟩ : isWordChar c = false ∧ c ≠ '.' := by
        simpa [Token.endsBefore] using hc
      simp [step?, hword, hpoint, not_isDigit_of_not_isWordChar hword]
  | fraction negative digits places =>
      rw [finish?] at hfinish
      split_ifs at hfinish
      cases hfinish
      obtain ⟨hword, hpoint⟩ : isWordChar c = false ∧ c ≠ '.' := by
        simpa [Token.endsBefore] using hc
      simp [step?, hword, hpoint, not_isDigit_of_not_isWordChar hword]
  | identifierEnd name =>
      cases hfinish
      have hbacktick : c ≠ '\x60' := by simpa [Token.endsBefore] using hc
      simp [step?, hbacktick]
  | textEnd s =>
      cases hfinish
      have hquote : c ≠ '\x27' := by simpa [Token.endsBefore] using hc
      simp [step?, hquote]
  | between | sign | identifier | text | escape => cases hfinish

/-- A delimiter completes whatever token it stands after. -/
theorem step?_of_mem_delimiters {mode : Mode} {last : List Token}
    (hlast : mode.finish? = some last) {c : Char} (hc : c ∈ delimiters) :
    mode.step? c = mode.next? c := by
  rcases token?_of_finish? hlast with ⟨rfl, -⟩ | ⟨token, htoken, -⟩
  · obtain ⟨tokens, hstart⟩ := start?_of_mem_delimiters hc
    simp [step?, next?, finish?, hstart]
  · exact step?_of_endsBefore htoken (endsBefore_of_mem_delimiters token hc)

/-- A token that is read to its end is scanned in front of everything that does not continue
it. -/
theorem scan?_append {mode last : Mode} {front rest : List Char} {token : Token}
    (hread : mode.read? front = some ([], last)) (htoken : last.token? = some token)
    (hrest : token.EndsAt rest) : mode.scan? (front ++ rest) = some (token, rest) := by
  induction front generalizing mode with
  | nil =>
      cases hread
      cases rest with
      | nil => simp [scan?, htoken]
      | cons c rest => simp [scan?, htoken, Option.filter, hrest c rfl]
  | cons c front ih =>
      rw [read?_cons] at hread
      obtain ⟨⟨done, next⟩, hstep, hread⟩ := Option.bind_eq_some_iff.mp hread
      obtain ⟨⟨more, last⟩, hmore, heq⟩ := Option.map_eq_some_iff.mp hread
      simp only [Prod.mk.injEq, List.append_eq_nil_iff] at heq
      obtain ⟨⟨rfl, rfl⟩, rfl⟩ := heq
      -- The token of the mode is not over here, for no token was completed.
      have hnone : mode.token?.filter (·.endsBefore c) = none := by
        rw [Option.filter_eq_none_iff]
        intro other hother hends
        rw [step?_of_endsBefore hother hends, next?, finish?_of_token? hother] at hstep
        cases hstart : start? c <;> simp [hstart] at hstep
      rw [List.cons_append, scan?, hnone]
      simp only [hstep]
      exact ih hmore

end Mode

open Mode

theorem lex?_eq_some_iff {cs : List Char} {tokens : List Token} :
    lex? cs = some tokens ↔
      ∃ done mode last, Mode.between.read? cs = some (done, mode) ∧
        mode.finish? = some last ∧ done ++ last = tokens := by
  unfold lex?
  cases hread : Mode.between.read? cs with
  | none => simp
  | some read =>
      obtain ⟨done, mode⟩ := read
      cases hlast : mode.finish? with
      | none => simp [hlast]
      | some last => simp [hlast]

/-- Two parts are read one after the other if the first ends between two tokens. -/
theorem lex?_append_of_between {front back : List Char} {ts us : List Token}
    (hfront : Mode.between.read? front = some (ts, .between)) (hback : lex? back = some us) :
    lex? (front ++ back) = some (ts ++ us) := by
  obtain ⟨done, mode, last, hread, hlast, rfl⟩ := lex?_eq_some_iff.mp hback
  exact lex?_eq_some_iff.mpr
    ⟨ts ++ done, mode, last, read?_append_of_eq hfront hread, hlast, by simp⟩

/-- The characters are one token from the first to the last of them. -/
def Spells (cs : List Char) (token : Token) : Prop :=
  ∃ last, Mode.between.read? cs = some ([], last) ∧ last.token? = some token

/-- A text is read as these tokens. -/
def Reads (text : String) (tokens : List Token) : Prop := lex? text.toList = some tokens

/-- A text is read as these tokens and ends between two tokens, so that anything may
follow. -/
def ReadsOpen (text : String) (tokens : List Token) : Prop :=
  Mode.between.read? text.toList = some (tokens, .between)

/-- A text that may follow anything and be followed by anything. -/
def Glues (text : String) (tokens : List Token) : Prop :=
  text.toList.head?.any delimiters.contains = true ∧ ReadsOpen text tokens

instance (text : String) (tokens : List Token) : Decidable (Reads text tokens) :=
  inferInstanceAs (Decidable (_ = _))

instance (text : String) (tokens : List Token) : Decidable (ReadsOpen text tokens) :=
  inferInstanceAs (Decidable (_ = _))

instance (text : String) (tokens : List Token) : Decidable (Glues text tokens) :=
  inferInstanceAs (Decidable (_ ∧ _))

section Compose

variable {front back : String} {ts us : List Token}

theorem Spells.scan? {cs : List Char} {token : Token} (h : Spells cs token) {rest : List Char}
    (hrest : token.EndsAt rest) : Sql.scan? (cs ++ rest) = some (token, rest) := by
  obtain ⟨last, hread, htoken⟩ := h
  exact scan?_append hread htoken hrest

theorem Spells.reads {text : String} {token : Token} (h : Spells text.toList token) :
    Reads text [token] := by
  obtain ⟨last, hread, htoken⟩ := h
  exact lex?_eq_some_iff.mpr ⟨[], last, [token], hread, finish?_of_token? htoken, rfl⟩

theorem ReadsOpen.reads (h : ReadsOpen front ts) : Reads front ts :=
  lex?_eq_some_iff.mpr ⟨ts, .between, [], h, rfl, by simp⟩

theorem ReadsOpen.append (hfront : ReadsOpen front ts) (hback : Reads back us) :
    Reads (front ++ back) (ts ++ us) := by
  unfold Reads
  rw [String.toList_append]
  exact lex?_append_of_between hfront hback

theorem Reads.glue (hfront : Reads front ts) (hback : Glues back us) :
    ReadsOpen (front ++ back) (ts ++ us) := by
  obtain ⟨hstarts, hopen⟩ := hback
  obtain ⟨c, hhead, hc⟩ := (Option.any_eq_true _ _).mp hstarts
  have hc : c ∈ delimiters := by simpa using hc
  obtain ⟨rest, hrest⟩ := List.head?_eq_some_iff.mp hhead
  obtain ⟨done, mode, last, hread, hlast, rfl⟩ := lex?_eq_some_iff.mp hfront
  obtain ⟨first, hstart⟩ := start?_of_mem_delimiters hc
  have hstep : mode.step? c = some (last ++ first, .between) := by
    rw [step?_of_mem_delimiters hlast hc]
    simp [next?, hlast, hstart]
  unfold ReadsOpen at hopen ⊢
  rw [hrest, read?_cons, show Mode.between.step? c = start? c from rfl, hstart] at hopen
  rw [String.toList_append, hrest, read?_append, hread, Option.bind_some, read?_cons, hstep]
  obtain ⟨second, hsecond, heq⟩ := Option.map_eq_some_iff.mp hopen
  simp only [Prod.mk.injEq] at heq
  obtain ⟨rfl, hbetween⟩ := heq
  simp [hsecond, hbetween]

end Compose

end ResourceSql.Sql
