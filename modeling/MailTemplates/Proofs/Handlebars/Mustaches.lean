import MailTemplates.Proofs.Text.Cutting
import MailTemplates.Text.Blank
import MailTemplates.Text.Word
import Mathlib.Data.List.Infix
/-!
# Reading the tags of a template

What looks like a tag is told from plain text here by its braces alone. A tag starts with two
braces. What stands behind them, and perhaps behind a tilde and blanks, says of which kind it is
(`Mustache.of`), and with the kind it is settled how the tag ends (`UpTo`). In a quoted string no
brace counts, and in a comment no quote does. No tag begins another one (`prefixFree_isMustache`),
so that every text is read in one way (`existsUnique_reading`).
-/

namespace MailTemplates.Handlebars

open Text (Cut PrefixFree dropWhile_append_cons isBlank isWord takeWhile_append_cons)

/-- The kinds of tags that can be told by the signs in front. -/
inductive Mustache where
  /-- Opens, closes or divides a block. -/
  | block
  | value
  /-- A value in three braces. -/
  | triple
  /-- In four braces: opens or closes a block that is not looked at. -/
  | raw
  | comment
  /-- A comment that only ends behind two dashes. -/
  | longComment
deriving DecidableEq, Repr

namespace Mustache

/-- The signs around strings in a tag. -/
def quotes : Mustache → List Char
  | comment => []
  | longComment => []
  | _ => ['"', '\'']

/-- The words that end a tag. -/
def closings : Mustache → List (List Char)
  | triple => [['}', '}', '}'], ['}', '~', '}', '}']]
  | raw => [['}', '}', '}', '}']]
  | longComment => [['-', '-', '}', '}'], ['-', '-', '~', '}', '}']]
  | _ => [['}', '}']]

/-- The text behind a tilde and blanks. -/
def lead : List Char → List Char
  | [] => []
  | c :: cs => if c = '~' then cs.dropWhile isBlank else (c :: cs).dropWhile isBlank

/-- The word characters that come first. -/
def firstWord (cs : List Char) : List Char := cs.takeWhile isWord

/-- Whether a word in front of this stands alone: a blank, a tilde or a closing brace comes next, or
the end. -/
def breaks (cs : List Char) : Bool := cs.head?.all fun c => isBlank c || c == '~' || c == '}'

/-- Whether one of the signs of a block comes first. -/
def hasSign (cs : List Char) : Bool :=
  ['#'].isPrefixOf cs || ['/'].isPrefixOf cs || ['^'].isPrefixOf cs

/-- Whether a tag that starts like this opens, closes or divides a block: with a sign, or with the
word `else` standing alone. -/
def opensBlock (cs : List Char) : Bool :=
  hasSign cs || (firstWord cs == "else".toList && breaks (cs.dropWhile isWord))

/-- The kind of a tag, by what stands behind its first two braces. -/
def of (cs : List Char) : Mustache :=
  if ['{', '{'].isPrefixOf (lead cs) then raw
  else if ['{'].isPrefixOf (lead cs) then triple
  else if ['!', '-', '-'].isPrefixOf (lead cs) then longComment
  else if ['!'].isPrefixOf (lead cs) then comment
  else if opensBlock (lead cs) then block
  else value

end Mustache

/-- A text up to and with the first of some words that does not stand in quotes. The last argument
but one is the quote that ends the string in which the text starts; a backslash in a string takes
the next character with it. -/
inductive UpTo (quotes : List Char) (closings : List (List Char)) :
    Option Char → List Char → Prop where
  | closed {w : List Char} (h : w ∈ closings) : UpTo quotes closings none w
  | char {c : Char} {cs : List Char} (hc : c ∉ quotes) (hopen : ∀ w ∈ closings, ¬w <+: c :: cs)
      (h : UpTo quotes closings none cs) : UpTo quotes closings none (c :: cs)
  | opened {q : Char} {cs : List Char} (hq : q ∈ quotes) (h : UpTo quotes closings (some q) cs) :
      UpTo quotes closings none (q :: cs)
  | quoted {q c : Char} {cs : List Char} (hc : c ≠ q) (hescape : c ≠ '\\')
      (h : UpTo quotes closings (some q) cs) : UpTo quotes closings (some q) (c :: cs)
  | escaped {q c : Char} {cs : List Char} (h : UpTo quotes closings (some q) cs) :
      UpTo quotes closings (some q) ('\\' :: c :: cs)
  | unquoted {q : Char} {cs : List Char} (h : UpTo quotes closings none cs) :
      UpTo quotes closings (some q) (q :: cs)

/-- A tag, from its first brace to its last. -/
def IsMustache (m : List Char) (kind : Mustache) : Prop :=
  ∃ cs, m = '{' :: '{' :: cs ∧ Mustache.of cs = kind ∧ UpTo kind.quotes kind.closings none cs

/-! ## How a tag ends -/

/-- Whether quotes and closings can be told apart, and closings from one another. -/
structure Distinct (quotes : List Char) (closings : List (List Char)) : Prop where
  backslash : '\\' ∉ quotes
  free : ∀ w ∈ closings, ∀ v ∈ closings, w <+: v → w = v
  inner : ∀ w ∈ closings, ∀ v ∈ closings, ¬w <:+: v.tail
  unquoted : ∀ w ∈ closings, ∀ q ∈ quotes, q ∉ w
  ne_nil : [] ∉ closings

/-- In every kind of tag, quotes and closings can be told apart. -/
theorem Mustache.distinct (kind : Mustache) : Distinct kind.quotes kind.closings := by
  have hquotes : ∀ w ∈ kind.closings, ∀ q ∈ kind.quotes, q ∉ w := by
    cases kind <;> simp [quotes, closings]
  refine ⟨?_, ?_, ?_, hquotes, ?_⟩
  all_goals cases kind <;> decide

section UpTo

variable {quotes : List Char} {closings : List (List Char)} {state : Option Char}
  {cs m m' : List Char}

/-- There is a closing at the end. -/
theorem UpTo.exists_suffix (h : UpTo quotes closings state cs) : ∃ w ∈ closings, w <:+ cs := by
  induction h with
  | closed h => exact ⟨_, h, List.suffix_rfl⟩
  | char _ _ _ ih | opened _ _ ih | quoted _ _ _ ih | unquoted _ ih =>
    obtain ⟨w, hw, hsuffix⟩ := ih
    exact ⟨w, hw, hsuffix.trans (List.suffix_cons _ _)⟩
  | escaped _ ih =>
    obtain ⟨w, hw, hsuffix⟩ := ih
    exact ⟨w, hw, (hsuffix.trans (List.suffix_cons _ _)).trans (List.suffix_cons _ _)⟩

/-- Plain text in which no closing starts is passed. -/
theorem UpTo.append {xs : List Char} (hquotes : xs.all (· ∉ quotes) = true)
    (hopen : ∀ n < xs.length, ∀ w ∈ closings, ¬w <+: (xs ++ cs).drop n)
    (h : UpTo quotes closings none cs) : UpTo quotes closings none (xs ++ cs) := by
  induction xs with
  | nil => exact h
  | cons x xs ih =>
    rw [List.all_cons, Bool.and_eq_true, decide_eq_true_eq] at hquotes
    refine .char hquotes.1 (hopen 0 (Nat.zero_lt_succ _)) (ih hquotes.2 fun n hn => ?_)
    exact hopen (n + 1) (Nat.succ_lt_succ hn)

/-- A tag ends where it ends, whatever comes behind it. -/
theorem UpTo.eq_of_prefix (hd : Distinct quotes closings) (hstate : state ≠ some '\\')
    (h : UpTo quotes closings state m) (h' : UpTo quotes closings state m') (hbegin : m <+: m') :
    m = m' := by
  induction h generalizing m' with
  | @closed w hw =>
    cases h' with
    | closed hw' => exact hd.free _ hw _ hw' hbegin
    | char _ hopen _ => exact absurd hbegin (hopen w hw)
    | @opened q cs hq _ =>
      obtain ⟨c, tail, rfl⟩ := List.exists_cons_of_ne_nil fun h : w = [] => hd.ne_nil (h ▸ hw)
      obtain ⟨rfl, -⟩ := List.cons_prefix_cons.1 hbegin
      exact absurd List.mem_cons_self (hd.unquoted _ hw _ hq)
  | @char c cs hc hopen h ih =>
    cases h' with
    | @closed v hv =>
      -- The closing at the end would stand in the middle of another one.
      obtain ⟨w, hw, hsuffix⟩ := h.exists_suffix
      obtain ⟨more, rfl⟩ := hbegin
      exact absurd (hsuffix.isInfix.trans (List.prefix_append cs more).isInfix) (hd.inner w hw _ hv)
    | char _ _ h' =>
      obtain ⟨rfl, hrest⟩ := List.cons_prefix_cons.1 hbegin
      rw [ih nofun h' hrest]
    | opened hq _ =>
      obtain ⟨rfl, -⟩ := List.cons_prefix_cons.1 hbegin
      exact absurd hq hc
  | @opened q cs hq h ih =>
    have hquote : q ≠ '\\' := fun h => hd.backslash (h ▸ hq)
    cases h' with
    | closed hv => exact absurd (hbegin.subset List.mem_cons_self) (hd.unquoted _ hv _ hq)
    | char hc _ _ =>
      obtain ⟨rfl, -⟩ := List.cons_prefix_cons.1 hbegin
      exact absurd hq hc
    | opened _ h' =>
      obtain ⟨rfl, hrest⟩ := List.cons_prefix_cons.1 hbegin
      rw [ih (by simpa using hquote) h' hrest]
  | quoted hc hescape _ ih =>
    cases h' with
    | quoted _ _ h' =>
      obtain ⟨rfl, hrest⟩ := List.cons_prefix_cons.1 hbegin
      rw [ih hstate h' hrest]
    | escaped _ => exact absurd (List.cons_prefix_cons.1 hbegin).1 hescape
    | unquoted _ => exact absurd (List.cons_prefix_cons.1 hbegin).1 hc
  | escaped _ ih =>
    cases h' with
    | quoted _ hescape _ => exact absurd (List.cons_prefix_cons.1 hbegin).1.symm hescape
    | escaped h' =>
      obtain ⟨rfl, hrest⟩ := List.cons_prefix_cons.1 (List.cons_prefix_cons.1 hbegin).2
      rw [ih hstate h' hrest]
    | unquoted _ =>
      obtain ⟨rfl, -⟩ := List.cons_prefix_cons.1 hbegin
      exact absurd rfl hstate
  | unquoted _ ih =>
    cases h' with
    | quoted hc _ _ => exact absurd (List.cons_prefix_cons.1 hbegin).1.symm hc
    | escaped _ =>
      obtain ⟨rfl, -⟩ := List.cons_prefix_cons.1 hbegin
      exact absurd rfl hstate
    | unquoted h' => rw [ih nofun h' (List.cons_prefix_cons.1 hbegin).2]

end UpTo

/-! ## The kind of a tag -/

namespace Mustache

/-! ### In front of a closing brace -/

/-- What comes first in a tag is seen whatever follows it. -/
theorem lead_append (xs rest : List Char) : lead (xs ++ '}' :: rest) = lead xs ++ '}' :: rest := by
  have hbrace : isBlank '}' = false := by decide
  cases xs with
  | nil =>
    show lead ('}' :: rest) = '}' :: rest
    rw [lead, if_neg (by decide)]
    exact List.dropWhile_cons_of_neg (by decide)
  | cons x xs =>
    simp only [List.cons_append, lead]
    split
    · exact dropWhile_append_cons hbrace xs rest
    · exact dropWhile_append_cons hbrace (x :: xs) rest

/-- A word without a closing brace stands in front of it or not at all. -/
theorem isPrefixOf_append {w : List Char} (hw : '}' ∉ w) (xs rest : List Char) :
    w.isPrefixOf (xs ++ '}' :: rest) = w.isPrefixOf xs := by
  induction w generalizing xs with
  | nil => simp
  | cons c w ih =>
    rw [List.mem_cons, not_or] at hw
    cases xs with
    | nil => simp [List.isPrefixOf, Ne.symm hw.1]
    | cons x xs => simp [List.isPrefixOf, ih hw.2]

/-- So is its sign, as a sign is no brace. -/
theorem hasSign_append (xs rest : List Char) : hasSign (xs ++ '}' :: rest) = hasSign xs := by
  unfold hasSign
  rw [isPrefixOf_append (by decide), isPrefixOf_append (by decide), isPrefixOf_append (by decide)]

theorem firstWord_append (xs rest : List Char) : firstWord (xs ++ '}' :: rest) = firstWord xs :=
  takeWhile_append_cons (by decide) xs rest

theorem breaks_append (xs rest : List Char) : breaks (xs ++ '}' :: rest) = breaks xs := by
  cases xs <;> rfl

/-- So a tag is told to open a block or not by itself, without what follows it. -/
theorem opensBlock_append (xs rest : List Char) :
    opensBlock (xs ++ '}' :: rest) = opensBlock xs := by
  unfold opensBlock
  rw [hasSign_append, firstWord_append, dropWhile_append_cons (by decide), breaks_append]

/-- What stands behind the first closing brace does not change the kind. -/
theorem of_append (xs rest : List Char) : of (xs ++ '}' :: rest) = of xs := by
  unfold of
  rw [lead_append, isPrefixOf_append (by decide), isPrefixOf_append (by decide),
    isPrefixOf_append (by decide), isPrefixOf_append (by decide), opensBlock_append]

/-- What is read as a block opens one. -/
theorem opensBlock_of_eq_block {cs : List Char} (h : of cs = block) :
    opensBlock (lead cs) = true := by
  unfold of at h
  split_ifs at h with _ _ _ _ hopens
  exact hopens

end Mustache

section IsMustache

variable {m m' : List Char} {kind kind' : Mustache}

/-- Every way to end a tag ends with two braces. -/
theorem Mustache.suffix_of_mem_closings : ∀ w ∈ kind.closings, ['}', '}'] <:+ w := by
  cases kind <;> decide

/-- Between the first two braces of a tag and its last two stands what says of which kind it is. -/
theorem IsMustache.exists_eq (h : IsMustache m kind) :
    ∃ inner, m = '{' :: '{' :: (inner ++ ['}', '}']) ∧ Mustache.of inner = kind := by
  obtain ⟨cs, rfl, rfl, hupTo⟩ := h
  obtain ⟨w, hw, hsuffix⟩ := hupTo.exists_suffix
  obtain ⟨inner, rfl⟩ := (Mustache.suffix_of_mem_closings w hw).trans hsuffix
  exact ⟨inner, rfl, (Mustache.of_append inner ['}']).symm⟩

theorem IsMustache.ne_nil (h : IsMustache m kind) : m ≠ [] := by
  obtain ⟨_, rfl, -⟩ := h
  exact List.cons_ne_nil _ _

/-- No tag begins another one: they would be of one kind, and end at the same place. -/
theorem prefixFree_isMustache : PrefixFree IsMustache := by
  intro m kind m' kind' h h' hbegin
  obtain ⟨inner, hm, hkind⟩ := h.exists_eq
  obtain ⟨cs, rfl, -, hupTo⟩ := h
  obtain ⟨cs', rfl, rfl, hupTo'⟩ := h'
  obtain rfl : cs = inner ++ ['}', '}'] := by simpa using hm
  simp only [List.cons_prefix_cons, true_and] at hbegin
  have hsame : kind = Mustache.of cs' := by
    obtain ⟨rest, rfl⟩ := hbegin
    rw [← hkind, List.append_assoc]
    exact (Mustache.of_append inner _).symm
  subst hsame
  exact ⟨by rw [UpTo.eq_of_prefix (Mustache.distinct _) (by simp) hupTo hupTo' hbegin], rfl⟩

/-- A text is read in one way. -/
theorem existsUnique_reading (cs : List Char) :
    ∃ tags, ∀ ps, Cut IsMustache cs ps ↔ ps = tags := by
  obtain ⟨tags, htags⟩ := Text.exists_cut (fun _ _ => IsMustache.ne_nil) cs
  refine ⟨tags, fun ps => ⟨fun h => ?_, ?_⟩⟩
  · exact h.unique prefixFree_isMustache (fun _ _ => IsMustache.ne_nil) htags
  · rintro rfl
    exact htags

end IsMustache

end MailTemplates.Handlebars
