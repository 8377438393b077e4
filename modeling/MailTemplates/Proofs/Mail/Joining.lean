import MailTemplates.Proofs.Mail.Addressing
import MailTemplates.Proofs.Mail.Asking
/-!
# Joined addresses

A list of recipients is read by cutting it at its commas first; what stands between them is looked
at afterwards, without the blanks around it. No address has a blank at either end
(`Address.trim_eq_self`), so addresses that are joined by a comma and a blank are cut into the parts
of each of them (`listed_intercalate`). A part more comes from each comma in an address, and commas
are in addresses with a quoted local part only (`Address.quoted_of_comma_mem`).

The number of parts counts. Reading a line cuts it into one part more than it has commas, and joined
addresses have a comma between each two, besides the commas in them. So if there are none in them,
the parts are the addresses; and if there are some, there are too many parts, whatever they are. In
that case nothing more can be said of them than that they come from the addresses.

Main statement: `recipients_join` (addresses come back from the line if and only if none of them
holds a comma).
-/

namespace MailTemplates

open Text (isBlank splitAt trim)

namespace Text

/-! ## Trimming -/

theorem trim_cons_of_isBlank {c : Char} (h : isBlank c = true) (cs : List Char) :
    trim (c :: cs) = trim cs := by
  have hstart : trimStart (c :: cs) = trimStart cs := List.dropWhile_cons_of_pos h
  rw [trim, trim, hstart]

/-- A text stays as it is if there is no blank at either end. -/
theorem trim_eq_self {first last : Char} {cs middle : List Char}
    (hfront : ∃ behind, cs = first :: behind) (hback : cs = middle ++ [last])
    (hfirst : isBlank first = false) (hlast : isBlank last = false) : trim cs = cs := by
  obtain ⟨behind, hbehind⟩ := hfront
  have hstart : trimStart cs = cs := by
    rw [hbehind]
    exact List.dropWhile_cons_of_neg (Bool.eq_false_iff.1 hfirst)
  have hend : trimEnd cs = cs := by
    rw [hback, trimEnd, List.reverse_concat,
      List.dropWhile_cons_of_neg (Bool.eq_false_iff.1 hlast), List.reverse_cons,
      List.reverse_reverse]
  rw [trim, hstart, hend]

/-- No letter or digit is blank. -/
theorem isBlank_of_isAlphanum {c : Char} (h : c.isAlphanum = true) : isBlank c = false := by
  have hrange : 48 ≤ c.toNat ∧ c.toNat ≤ 122 := by
    rcases Bool.or_eq_true_iff.1 h with hletter | hdigit
    · rcases Bool.or_eq_true_iff.1 hletter with hupper | hlower
      · have hupper := of_decide_eq_true hupper
        have hleast : 65 ≤ c.toNat := UInt32.le_iff_toNat_le.1 hupper.1
        have hmost : c.toNat ≤ 90 := UInt32.le_iff_toNat_le.1 hupper.2
        omega
      · have hlower := Bool.and_eq_true_iff.1 hlower
        have hleast : 97 ≤ c.toNat := UInt32.le_iff_toNat_le.1 (of_decide_eq_true hlower.1)
        have hmost : c.toNat ≤ 122 := UInt32.le_iff_toNat_le.1 (of_decide_eq_true hlower.2)
        omega
    · have hdigit := Bool.and_eq_true_iff.1 hdigit
      have hleast : 48 ≤ c.toNat := UInt32.le_iff_toNat_le.1 (of_decide_eq_true hdigit.1)
      have hmost : c.toNat ≤ 57 := UInt32.le_iff_toNat_le.1 (of_decide_eq_true hdigit.2)
      omega
  simp [isBlank]
  omega

/-- There is one more part than there are separators. -/
theorem length_splitAt (sep : Char) (cs : List Char) :
    (splitAt sep cs).length = cs.count sep + 1 := by
  induction cs with
  | nil => rfl
  | cons c cs ih =>
    by_cases h : c = sep
    · subst h
      rw [splitAt_cons_self, List.length_cons, ih, List.count_cons_self]
    · obtain ⟨part, parts, hcs, hcons⟩ := splitAt_cons_of_ne h cs
      have hlength : (splitAt sep (c :: cs)).length = (splitAt sep cs).length := by
        rw [hcons, hcs, List.length_cons, List.length_cons]
      rw [hlength, ih, List.count_cons_of_ne h]

end Text

/-!
## The ends of an address, and the commas in it

An address begins and ends with a character that is no blank, so trimming leaves it alone.
-/

namespace Address

/-- An unquoted local part starts with a character of a word. -/
theorem Dotted.exists_cons {cs : List Char} (h : Dotted cs) :
    ∃ first behind, cs = first :: behind ∧ AtomChar first := by
  obtain ⟨words, hne, hwords, rfl⟩ := h
  obtain ⟨word, rest, rfl⟩ := List.exists_cons_of_ne_nil hne
  obtain ⟨hword, hchars⟩ := hwords word List.mem_cons_self
  obtain ⟨first, behind, rfl⟩ := List.exists_cons_of_ne_nil hword
  rw [Text.intercalate_cons_eq]
  exact ⟨first, _, rfl, hchars first List.mem_cons_self⟩

namespace Splits

variable {cs localPart domain : List Char}

/-- An address does not start with a blank. -/
theorem exists_first (h : Splits cs localPart domain) :
    ∃ first behind, cs = first :: behind ∧ isBlank first = false := by
  rcases h.before with hdotted | ⟨inner, -, -, hquoted⟩
  · obtain ⟨first, behind, hlocal, hfirst⟩ := hdotted.exists_cons
    exact ⟨first, behind ++ '@' :: domain, by rw [h.eq, hlocal, List.cons_append], hfirst.1⟩
  · exact ⟨'"', _, by rw [h.eq, hquoted, List.cons_append], by decide⟩

/-- Nor does it end with one. -/
theorem exists_last (h : Splits cs localPart domain) :
    ∃ middle last, cs = middle ++ [last] ∧ isBlank last = false := by
  obtain ⟨front, last, hdomain⟩ : ∃ front last, domain = front ++ [last] := by
    rcases h.behind with ⟨a, b, c, d, -, -, -, -, rfl⟩ | ⟨labels, top, -, -, hlength, -, rfl⟩
    · exact ⟨_, ']', (List.cons_append ..).symm⟩
    · have htop : top ≠ [] := List.ne_nil_of_length_pos (by omega)
      exact ⟨labels.flatMap (· ++ ['.']) ++ top.dropLast, top.getLast htop, by
        rw [List.append_assoc, List.dropLast_concat_getLast]⟩
  refine ⟨localPart ++ '@' :: front, last, ?_, ?_⟩
  · rw [h.eq, hdomain, List.append_assoc, List.cons_append]
  · have hlast : last ∈ domain := by
      rw [hdomain]
      exact List.mem_append_right front (List.mem_singleton_self last)
    rcases mem_of_domain h.behind hlast with hletter | hdigit | hsign
    · exact Text.isBlank_of_isAlphanum (by rw [Char.isAlphanum, hletter, Bool.true_or])
    · exact Text.isBlank_of_isAlphanum (by rw [Char.isAlphanum, hdigit, Bool.or_true])
    · have hsigns : ['-', '.', '[', ']'].all (fun c => !isBlank c) = true := by decide
      simpa using List.all_eq_true.1 hsigns last hsign

/-- A comma in an address stands in a quoted local part. -/
theorem quoted_of_comma_mem (h : Splits cs localPart domain) (hcomma : ',' ∈ cs) :
    Quoted localPart ∧ ',' ∈ localPart := by
  rw [h.eq, List.mem_append, List.mem_cons] at hcomma
  rcases hcomma with hlocal | hat | hdomain
  · rcases h.before with hdotted | hquoted
    · rcases hdotted.atomChar_or_dot hlocal with hatom | hdot
      · exact absurd (by decide) hatom.2
      · exact absurd hdot (by decide)
    · exact ⟨hquoted, hlocal⟩
  · exact absurd hat (by decide)
  · exact absurd (mem_of_domain h.behind hdomain) (by decide)

end Splits

theorem trim_eq_self {cs : List Char} (h : isValid cs = true) : trim cs = cs := by
  obtain ⟨localPart, domain, hsplits⟩ := (isValid_iff cs).1 h
  obtain ⟨first, behind, hfront, hfirst⟩ := hsplits.exists_first
  obtain ⟨middle, last, hback, hlast⟩ := hsplits.exists_last
  exact Text.trim_eq_self ⟨behind, hfront⟩ hback hfirst hlast

end Address

/-!
## What a line lists

The parts of joined lines are the parts of each line one after another.
-/

/-- The parts of a line between its commas, without the blanks around them. -/
def listed (line : String) : List String :=
  (splitAt ',' line.toList).map fun part => String.ofList (trim part)

/-- A line lists one more text than it has commas. -/
theorem length_listed (line : String) : (listed line).length = line.toList.count ',' + 1 := by
  rw [listed, List.length_map, Text.length_splitAt]

/-- Two lines with a comma between them list what each of them lists. -/
theorem listed_append (front behind : String) :
    listed (front ++ ", " ++ behind) = listed front ++ listed behind := by
  have hline : (front ++ ", " ++ behind).toList =
      front.toList ++ ',' :: ' ' :: behind.toList := by
    rw [String.toList_append, String.toList_append, List.append_assoc]
    rfl
  -- The blank is in front of the first part of what follows, and is taken off it again.
  have hblank : listed behind =
      (splitAt ',' (' ' :: behind.toList)).map fun part => String.ofList (trim part) := by
    obtain ⟨part, parts, hbehind, hcons⟩ :=
      Text.splitAt_cons_of_ne (by decide : ' ' ≠ ',') behind.toList
    rw [listed, hbehind, hcons, List.map_cons, List.map_cons,
      Text.trim_cons_of_isBlank (by decide)]
  rw [listed, hline, Text.splitAt_append_cons, List.map_append, hblank, listed]

/-- Joined texts list what each of them lists. -/
theorem listed_intercalate {texts : List String} (hne : texts ≠ []) :
    listed (", ".intercalate texts) = texts.flatMap listed := by
  induction texts with
  | nil => exact absurd rfl hne
  | cons first rest ih =>
    by_cases hrest : rest = []
    · subst hrest
      rw [String.intercalate_singleton, List.flatMap_cons, List.flatMap_nil, List.append_nil]
    · rw [String.intercalate_cons_of_ne_nil hrest, listed_append, ih hrest, List.flatMap_cons]

/-- An address without a comma is listed as itself. -/
theorem listed_of_valid {address : String} (hvalid : Address.valid address = true)
    (hcomma : ',' ∉ address.toList) : listed address = [address] := by
  rw [listed, Text.splitAt_of_not_mem hcomma, List.map_singleton, Address.trim_eq_self hvalid,
    String.ofList_toList]

/-- Several lines list a text each, and one more for each comma. -/
theorem length_flatMap_listed (texts : List String) :
    (texts.flatMap listed).length =
      texts.length + (texts.flatMap String.toList).count ',' := by
  induction texts with
  | nil => rfl
  | cons text texts ih =>
    rw [List.flatMap_cons, List.length_append, ih, length_listed, List.length_cons,
      List.flatMap_cons, List.count_append]
    omega

/-! ## Reading the line -/

/-- What is read from a line is what it lists, if nothing else but addresses is listed. -/
theorem recipients_eq_ok_iff_listed {line : String} {addresses : List String} :
    recipients line = .ok addresses ↔
      addresses = listed line ∧ ∀ address ∈ listed line, Address.valid address = true := by
  rw [recipients_eq_ok_iff]
  constructor
  · rintro ⟨rfl, hall⟩
    exact ⟨rfl, hall⟩
  · rintro ⟨rfl, hall⟩
    exact ⟨rfl, hall⟩

/-- A line is refused for something that it lists and that is no address. -/
theorem mem_listed_of_recipients_eq_error {line text : String} (h : recipients line = .error text) :
    text ∈ listed line ∧ Address.valid text = false := by
  rw [recipients, mapM_eq_error_iff, List.findSome?_eq_some_iff] at h
  obtain ⟨before, part, after, hparts, herror, -⟩ := h
  rw [errorOf?_eq_some_iff] at herror
  have hmem : part ∈ splitAt ',' line.toList := by
    rw [hparts]
    exact List.mem_append_right before List.mem_cons_self
  by_cases hvalid : Address.isValid (trim part) = true
  · rw [if_pos hvalid] at herror
    cases herror
  · rw [if_neg hvalid] at herror
    cases herror
    exact ⟨List.mem_map_of_mem hmem, by rw [Address.valid_ofList]; simpa using hvalid⟩

/-- Addresses that are joined by commas and blanks are read again, as they are and in order, if and
only if there is no comma in any of them. A comma in an address, which is in its quoted local part,
counts as one more place to cut the line: more recipients are found than there are addresses, or the
line is refused, for a piece of such an address. -/
theorem recipients_join {addresses : List String} (hne : addresses ≠ [])
    (hvalid : ∀ address ∈ addresses, Address.valid address = true) :
    (recipients (", ".intercalate addresses) = .ok addresses ↔
      ∀ address ∈ addresses, ',' ∉ address.toList) ∧
    (∀ found, recipients (", ".intercalate addresses) = .ok found →
      found.length = addresses.length + (addresses.flatMap String.toList).count ',') ∧
    (∀ text, recipients (", ".intercalate addresses) = .error text →
      Address.valid text = false ∧
        ∃ address ∈ addresses, ',' ∈ address.toList ∧ text ∈ listed address) ∧
    ∀ address ∈ addresses, ',' ∈ address.toList →
      ∃ localPart domain, Address.Splits address.toList localPart domain ∧
        Address.Quoted localPart ∧ ',' ∈ localPart := by
  have hlisted := listed_intercalate hne
  have hlength : ∀ found, recipients (", ".intercalate addresses) = .ok found →
      found.length = addresses.length + (addresses.flatMap String.toList).count ',' := by
    intro found hfound
    rw [(recipients_eq_ok_iff_listed.1 hfound).1, hlisted, length_flatMap_listed]
  refine ⟨⟨?_, ?_⟩, hlength, ?_, ?_⟩
  · intro hread address haddress hcomma
    -- There are as many recipients as addresses, so there is no comma to count.
    have hcount : (addresses.flatMap String.toList).count ',' = 0 := by
      have hsame := hlength addresses hread
      omega
    exact List.count_eq_zero.1 hcount (List.mem_flatMap.2 ⟨address, haddress, hcomma⟩)
  · intro hcomma
    have hself : addresses.flatMap listed = addresses := by
      have hsingle : ∀ address ∈ addresses, listed address = [address] :=
        fun address haddress => listed_of_valid (hvalid address haddress) (hcomma address haddress)
      rw [List.flatMap_congr hsingle, List.flatMap_singleton']
    rw [recipients_eq_ok_iff_listed, hlisted, hself]
    exact ⟨rfl, hvalid⟩
  · intro text htext
    obtain ⟨hmem, hinvalid⟩ := mem_listed_of_recipients_eq_error htext
    rw [hlisted] at hmem
    obtain ⟨address, haddress, hpart⟩ := List.mem_flatMap.1 hmem
    refine ⟨hinvalid, address, haddress, ?_, hpart⟩
    -- Without a comma the one thing listed would be the address.
    by_contra hcomma
    rw [listed_of_valid (hvalid address haddress) hcomma, List.mem_singleton] at hpart
    rw [hpart, hvalid address haddress] at hinvalid
    nomatch hinvalid
  · intro address haddress hcomma
    obtain ⟨localPart, domain, hsplits⟩ :=
      (Address.isValid_iff address.toList).1 (hvalid address haddress)
    exact ⟨localPart, domain, hsplits, hsplits.quoted_of_comma_mem hcomma⟩

/-- Four addresses without a comma, joined and read back. -/
theorem recipients_join_four :
    let addresses := ["ada@example.com", "\"a b\"@mail.example.com", "o'k+1@a-b.org",
      "ops@[10.0.0.1]"]
    addresses ≠ [] ∧ (∀ address ∈ addresses, Address.valid address = true) ∧
      recipients (", ".intercalate addresses) = .ok addresses := by
  intro addresses
  have hne : addresses ≠ [] := List.cons_ne_nil _ _
  have hvalid : ∀ address ∈ addresses, Address.valid address = true := by decide
  have hcomma : ∀ address ∈ addresses, ',' ∉ address.toList := by decide
  exact ⟨hne, hvalid, (recipients_join hne hvalid).1.2 hcomma⟩

/-- An address on its own that is refused as a list, and one that is taken for two. -/
theorem recipients_cuts_quoted :
    (Address.valid "\"a,b\"@example.com" = true ∧
      recipients (", ".intercalate ["\"a,b\"@example.com"]) = .error "\"a") ∧
    Address.valid "\"a\"@example.com,\"b\"@example.com" = true ∧
      recipients (", ".intercalate ["\"a\"@example.com,\"b\"@example.com"]) =
        .ok ["\"a\"@example.com", "\"b\"@example.com"] := by
  decide

end MailTemplates
