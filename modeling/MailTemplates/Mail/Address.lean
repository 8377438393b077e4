import MailTemplates.Text.Blank
import MailTemplates.Text.Piece
/-!
# Mail addresses

An address is a local part, `@` and a domain. The local part is words joined by dots, or a quoted
text; the domain is labels joined by dots, or four groups of digits in brackets. A list of
recipients is addresses with commas between them and blanks around them.

Main statement: `splitLastAt_eq_some_iff` (where an address is split; the domain never holds `@`).
-/

namespace MailTemplates

open Text (isBlank trim splitAt)

namespace Address

/-- A character of a word in an unquoted local part. -/
def isAtomChar (c : Char) : Bool := !isBlank c && !"<>()[]\\.,;:@\"".toList.contains c

/-- Words joined by single dots. -/
def isDotted (cs : List Char) : Bool :=
  (splitAt '.' cs).all fun word => !word.isEmpty && word.all isAtomChar

/-- A text in double quotes: at least one character, none of them a line feed. -/
def isQuoted (cs : List Char) : Bool :=
  match cs with
  | '"' :: rest =>
    let inner := rest.dropLast
    rest.getLast? == some '"' && !inner.isEmpty && inner.all (· != '\n')
  | _ => false

/-- What may stand before the `@`. -/
def isLocal (cs : List Char) : Bool := isDotted cs || isQuoted cs

/-- One to three digits. -/
def isGroup (cs : List Char) : Bool := !cs.isEmpty && cs.length ≤ 3 && cs.all Char.isDigit

/-- Four groups of digits in brackets. -/
def isNumeric (cs : List Char) : Bool :=
  match cs with
  | '[' :: rest =>
    let groups := splitAt '.' rest.dropLast
    rest.getLast? == some ']' && groups.length == 4 && groups.all isGroup
  | _ => false

/-- A label of a domain. -/
def isLabel (cs : List Char) : Bool :=
  !cs.isEmpty && cs.all fun c => c.isAlpha || c.isDigit || c == '-'

/-- The last label of a domain: at least two letters. -/
def isTopLevel (cs : List Char) : Bool := 2 ≤ cs.length && cs.all Char.isAlpha

/-- Labels joined by dots, at least one of them before the last. -/
def isNamed (cs : List Char) : Bool :=
  match (splitAt '.' cs).reverse with
  | last :: before => isTopLevel last && !before.isEmpty && before.all isLabel
  | [] => false

/-- What may stand behind the `@`. -/
def isDomain (cs : List Char) : Bool := isNumeric cs || isNamed cs

/-- The characters before and behind the last `@`. -/
def splitLastAt (cs : List Char) : Option (List Char × List Char) :=
  match cs with
  | [] => none
  | c :: cs =>
    match splitLastAt cs with
    | some (before, behind) => some (c :: before, behind)
    | none => if c = '@' then some ([], cs) else none

/-- Nothing is cut if there is no `@`. -/
theorem splitLastAt_eq_none_iff (cs : List Char) : splitLastAt cs = none ↔ '@' ∉ cs := by
  induction cs with
  | nil => simp [splitLastAt]
  | cons c cs ih =>
    unfold splitLastAt
    cases h : splitLastAt cs with
    | some p =>
      have : '@' ∈ cs := by
        refine Decidable.byContradiction fun hn => ?_
        simp [ih.2 hn] at h
      simp [this]
    | none =>
      have hn := ih.1 h
      by_cases hc : c = '@'
      · simp [hc]
      · simp [hc, hn, Ne.symm hc]

/-- The cut is at the last `@`: there is none behind it. -/
theorem splitLastAt_eq_some_iff (cs before behind : List Char) :
    splitLastAt cs = some (before, behind) ↔ cs = before ++ '@' :: behind ∧ '@' ∉ behind := by
  induction cs generalizing before with
  | nil => simp [splitLastAt]
  | cons c cs ih =>
    unfold splitLastAt
    cases h : splitLastAt cs with
    -- There is an `@` farther on, so the cut is there.
    | some p =>
      obtain ⟨b, d⟩ := p
      have hb := (ih b).symm
      constructor
      · intro he
        simp only [Option.some.injEq, Prod.mk.injEq] at he
        obtain ⟨rfl, rfl⟩ := he
        have := (ih b).1 (by simp [h])
        simp [this.1, this.2]
      · rintro ⟨he, hd⟩
        cases before with
        | nil =>
          simp only [List.nil_append, List.cons.injEq] at he
          obtain ⟨rfl, rfl⟩ := he
          simp [(splitLastAt_eq_none_iff cs).2 hd] at h
        | cons e before =>
          simp only [List.cons_append, List.cons.injEq] at he
          obtain ⟨rfl, rfl⟩ := he
          have := (ih before).2 ⟨rfl, hd⟩
          rw [h] at this
          simp only [Option.some.injEq, Prod.mk.injEq] at this
          simp [this.1, this.2]
    -- There is none, so this character is the cut or there is none at all.
    | none =>
      have hn := (splitLastAt_eq_none_iff cs).1 h
      by_cases hc : c = '@'
      · subst hc
        constructor
        · intro he
          simp only [if_true, Option.some.injEq, Prod.mk.injEq] at he
          obtain ⟨rfl, rfl⟩ := he
          simp [hn]
        · rintro ⟨he, hd⟩
          cases before with
          | nil => simp at he; simp [he]
          | cons e before =>
            simp only [List.cons_append, List.cons.injEq] at he
            exact absurd (he.2 ▸ by simp) hn
      · simp only [hc, if_false]
        constructor
        · simp
        · rintro ⟨he, -⟩
          cases before with
          | nil => simp at he; exact absurd he.1 hc
          | cons e before =>
            simp only [List.cons_append, List.cons.injEq] at he
            exact absurd (he.2 ▸ by simp) hn

/-- Whether a text is an address. -/
def isValid (cs : List Char) : Bool :=
  match splitLastAt cs with
  | some (localPart, domain) => isLocal localPart && isDomain domain
  | none => false

/-- `isValid` on strings. -/
def valid (s : String) : Bool := isValid s.toList

theorem valid_ofList (cs : List Char) : valid (String.ofList cs) = isValid cs := by
  rw [valid, String.toList_ofList]

end Address

/-- The addresses of a list with commas between them and blanks around them; the first text that is
no address is reported. -/
def recipients (s : String) : Except String (List String) :=
  (splitAt ',' s.toList).mapM fun part =>
    let address := trim part
    if Address.isValid address then .ok (String.ofList address)
    else .error (String.ofList address)

end MailTemplates
