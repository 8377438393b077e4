import Mathlib.Data.List.TakeWhile
import MailTemplates.Proofs.Remote.Fetching
import MailTemplates.Proofs.Remote.Segments
/-!
# References and the URL they are read from

A reference is read behind all segments of a URL but the last. So under a URL of the web it leads to
some names behind them exactly if it has neither a query nor a fragment and its segments come to
these names (`Url.resolvePath_eq_below_iff`).

A URL that is written with a slash at its end has an empty segment as its last
(`Url.segments_of_endsInSlash`). That does not help if the slash is one of the query or the
fragment.

Cleaning and reading a reference are followed from the two ends. From the front nothing happens to
names behind a folder. At the end characters are trimmed, and this is why a reference that ends in a
name is dealt with differently from one that goes on behind it.

For a base URL the slash at the end is carried through each step of the parser (`EndsInSlash`):
through cleaning, behind the scheme, and behind the host, up to the path, of which the last segment
is then empty. Where there is a query or a fragment the slash belongs to that, and the path may end
in anything.

Main statements: `Url.resolvePath_eq_below_iff` and `Url.segments_of_endsInSlash`.
-/

namespace MailTemplates.Remote.Url

open Percent (encode)
open Text (splitAt)

/-!
## References

A reference may have a scheme, a host, a query or a fragment of its own. What is wanted here is a
reference that is a path and nothing else, so the question is when none of these is found in it.
-/

/-- A text without the separator is not cut. -/
theorem cutAt_of_not_mem {sep : Char} {cs : List Char} (h : sep ∉ cs) :
    cutAt sep cs = (cs, none) := by
  have htake : cs.takeWhile (· != sep) = cs :=
    List.takeWhile_eq_self_iff.2 fun c hc => by simpa using ne_of_mem_of_not_mem hc h
  rw [cutAt, htake, List.drop_length]

/-- And no other is left whole. -/
theorem snd_cutAt_eq_none_iff {sep : Char} {cs : List Char} :
    (cutAt sep cs).2 = none ↔ sep ∉ cs := by
  constructor
  · intro h hmem
    have htake : cs.takeWhile (· != sep) ≠ cs := fun htake => by
      simpa using List.takeWhile_eq_self_iff.1 htake sep hmem
    have hfront := List.takeWhile_prefix (l := cs) fun c => c != sep
    unfold cutAt at h
    dsimp only at h
    split at h
    · nomatch h
    · next hnil =>
      have hlength := List.drop_eq_nil_iff.1 hnil
      exact htake (hfront.eq_of_length_le hlength)
  · intro h
    rw [cutAt_of_not_mem h]

theorem isFile_of_isWeb {url : Url} (h : url.isWeb = true) : isFile url.scheme = false := by
  rw [isWeb, Bool.or_eq_true, beq_iff_eq, beq_iff_eq] at h
  rcases h with h | h
  · rw [h]
    rfl
  · rw [h]
    rfl

/-- The segments in front of the last one of a URL, which is what paths are read from. -/
def directory (base : Url) : List (List Char) :=
  match base.path with
  | .segments items => items.dropLast
  | .whole _ => []

/-- The URL of names behind the directory of a URL, each of them as one segment. -/
def below (base : Url) (names : List (List Char)) : Url :=
  { base with
    path := .segments (base.directory ++ names.map (encode isPathEncoded))
    query := none
    fragment := none }

/-- A path leads to such a URL if it has neither query nor fragment, and is read as the names. -/
theorem resolvePath_eq_below_iff {base : Url} {items : List (List Char)}
    (hpath : base.path = .segments items) (hweb : base.isWeb = true) {reference : String}
    {names : List (List Char)} :
    base.resolvePath reference = .ok (base.below names) ↔
      '#' ∉ clean reference ∧ '?' ∉ clean reference ∧
        walkSegments false base.directory (splitAt '/' (slashed true (clean reference))) =
          base.directory ++ names.map (encode isPathEncoded) := by
  have hdirectory : base.directory = items.dropLast := by
    unfold directory
    rw [hpath]
  have hfile := isFile_of_isWeb hweb
  unfold resolvePath below
  rw [hpath]
  dsimp only
  rw [isSpecial_of_isWeb hweb, hfile, if_neg Bool.false_ne_true, hdirectory]
  constructor
  · intro h
    -- The URL that is meant has neither query nor fragment, so nothing was cut off.
    have hurl := Except.ok.inj h
    have hfragment : '#' ∉ clean reference :=
      snd_cutAt_eq_none_iff.1 (Option.map_eq_none_iff.1 (congrArg Url.fragment hurl))
    rw [cutAt_of_not_mem hfragment] at hurl
    have hquery : '?' ∉ clean reference :=
      snd_cutAt_eq_none_iff.1 (Option.map_eq_none_iff.1 (congrArg Url.query hurl))
    rw [cutAt_of_not_mem hquery] at hurl
    exact ⟨hfragment, hquery, UrlPath.segments.inj (congrArg Url.path hurl)⟩
  · rintro ⟨hfragment, hquery, hwalk⟩
    rw [cutAt_of_not_mem hfragment]
    dsimp only
    rw [cutAt_of_not_mem hquery]
    dsimp only
    rw [hwalk]
    rfl

/-!
## What is left of a reference

Before a URL is read some characters are dropped: control characters and blanks around it, and tabs
and ends of lines anywhere. The lemmas say what becomes of a text with a folder in front, of which
only the end can be trimmed.
-/

/-- A character that is left out around a URL. -/
def isOuter (c : Char) : Bool := c.toNat ≤ 0x20

/-- A character that is left out nowhere else. -/
def isInner (c : Char) : Bool := !(c == '\t' || c == '\n' || c == '\r')

/-- A text without what is left out at its end. -/
def trimEnd (cs : List Char) : List Char := (cs.reverse.dropWhile isOuter).reverse

theorem clean_eq (s : String) :
    clean s = (trimEnd (s.toList.dropWhile isOuter)).filter isInner := rfl

/-- What is trimmed is the front of a text. -/
theorem isPrefix_trimEnd (cs : List Char) : trimEnd cs <+: cs := by
  have hsuffix := List.dropWhile_suffix (l := cs.reverse) isOuter
  unfold trimEnd
  rwa [← List.reverse_suffix, List.reverse_reverse]

/-- Cleaning adds no character. -/
theorem mem_of_mem_clean {s : String} {c : Char} (h : c ∈ clean s) : c ∈ s.toList := by
  rw [clean_eq] at h
  have htrim := (isPrefix_trimEnd _).subset (List.mem_of_mem_filter h)
  exact (List.dropWhile_suffix isOuter).subset htrim

/-- A character that is not trimmed protects what is before it. -/
theorem trimEnd_append_cons {c : Char} (hc : isOuter c = false) (xs ys : List Char) :
    trimEnd (xs ++ c :: ys) = xs ++ c :: trimEnd ys := by
  have hrest : (c :: xs.reverse).dropWhile isOuter = c :: xs.reverse :=
    List.dropWhile_cons_of_neg (Bool.eq_false_iff.1 hc)
  have hall : (ys.reverse ++ c :: xs.reverse).dropWhile isOuter =
      ys.reverse.dropWhile isOuter ++ c :: xs.reverse := by
    rw [List.dropWhile_append, hrest]
    split
    · next hnil => rw [List.isEmpty_iff.1 hnil, List.nil_append]
    · rfl
  unfold trimEnd
  rw [List.reverse_append, List.reverse_cons, List.append_assoc, List.singleton_append, hall,
    List.reverse_append, List.reverse_cons, List.reverse_reverse, List.append_assoc,
    List.singleton_append]

/-- Nothing is trimmed if the last character is not blank. -/
theorem trimEnd_eq_self_iff {cs : List Char} :
    trimEnd cs = cs ↔ cs.getLast?.any isOuter = false := by
  unfold trimEnd
  rw [List.reverse_eq_iff, List.getLast?_eq_head?_reverse]
  cases cs.reverse with
  | nil => exact ⟨fun _ => rfl, fun _ => rfl⟩
  | cons d ds =>
    rw [List.head?_cons, Option.any_some]
    constructor
    · intro h
      cases hd : isOuter d with
      | false => rfl
      | true =>
        rw [List.dropWhile_cons_of_pos hd] at h
        have hlength := (List.dropWhile_suffix (l := ds) isOuter).length_le
        rw [h, List.length_cons] at hlength
        omega
    · intro h
      exact List.dropWhile_cons_of_neg (Bool.eq_false_iff.1 h)

/-! ## The directory of a URL with a slash at its end -/

/-- Whether a text has a slash at its end. -/
def EndsInSlash (cs : List Char) : Prop := ∃ front, cs = front ++ ['/']

/-- What is left of a text that ends in a slash ends in one. -/
theorem EndsInSlash.suffix {cs rest : List Char} (h : EndsInSlash cs) (hrest : rest <:+ cs)
    (hne : rest ≠ []) : EndsInSlash rest := by
  obtain ⟨front, rfl⟩ := h
  obtain ⟨kept, hkept, -⟩ := (List.suffix_concat_iff.1 hrest).resolve_left hne
  exact ⟨kept, hkept⟩

theorem EndsInSlash.append {cs : List Char} (h : EndsInSlash cs) (front : List Char) :
    EndsInSlash (front ++ cs) := by
  obtain ⟨middle, rfl⟩ := h
  exact ⟨front ++ middle, (List.append_assoc _ _ _).symm⟩

/-- A slash at the end is neither trimmed nor dropped. -/
theorem endsInSlash_clean {s : String} (h : EndsInSlash s.toList) : EndsInSlash (clean s) := by
  obtain ⟨front, hfront⟩ := h
  have hne : s.toList.dropWhile isOuter ≠ [] := by
    intro hnil
    have hmem : '/' ∈ s.toList := hfront ▸ List.mem_append_right _ List.mem_cons_self
    exact absurd (List.dropWhile_eq_nil_iff.1 hnil '/' hmem) (by decide)
  obtain ⟨kept, hkept⟩ := EndsInSlash.suffix ⟨front, hfront⟩ (List.dropWhile_suffix isOuter) hne
  refine ⟨kept.filter isInner, ?_⟩
  rw [clean_eq, hkept, trimEnd_append_cons (by decide), List.filter_append]
  rfl

/-- Segments that end with an empty one are read as such. -/
theorem walkSegments_concat_nil (before segments : List (List Char)) :
    ∃ front, walkSegments false before (segments ++ [[]]) = front ++ [[]] := by
  induction segments generalizing before with
  | nil => exact ⟨before, rfl⟩
  | cons segment rest ih =>
    rw [List.cons_append, walkSegments]
    exact ih _

theorem endsInSlash_slashed {special : Bool} {cs : List Char} (h : EndsInSlash cs) :
    EndsInSlash (slashed special cs) := by
  obtain ⟨front, rfl⟩ := h
  exact ⟨slashed special front, List.map_append⟩

/-- So a path that ends in a slash has an empty last segment. -/
theorem rootedPath_of_endsInSlash {scheme cs : List Char} (hfile : isFile scheme = false)
    (h : EndsInSlash cs) : ∃ front, rootedPath scheme cs = front ++ [[]] := by
  have hwalk : ∀ rest, EndsInSlash rest →
      ∃ front, walkSegments false [] (splitAt '/' rest) = front ++ [[]] := by
    rintro rest ⟨front, rfl⟩
    rw [Text.splitAt_append_cons]
    exact walkSegments_concat_nil [] (splitAt '/' front)
  have hslashed : EndsInSlash (slashed (isSpecial scheme) cs) := endsInSlash_slashed h
  unfold rootedPath
  dsimp only
  rw [hfile]
  split
  · next hnil =>
    rw [hnil] at hslashed
    obtain ⟨front, hfront⟩ := hslashed
    exact absurd hfront.symm (by simp)
  · next rest hrest =>
    by_cases hne : rest = []
    · subst hne
      exact ⟨[], rfl⟩
    · exact hwalk rest ((hrest ▸ hslashed).suffix (List.suffix_cons _ _) hne)
  · exact hwalk _ hslashed

/-- What follows the scheme ends in a slash if the URL does. -/
theorem endsInSlash_of_splitScheme {cs scheme rest : List Char}
    (h : splitScheme cs = some (scheme, rest)) (hslash : EndsInSlash cs) :
    rest <:+ cs ∧ EndsInSlash rest := by
  unfold splitScheme at h
  dsimp only at h
  split at h
  · next hdrop =>
    split at h
    · cases h
      have hsuffix : ':' :: rest <:+ cs := hdrop ▸ List.drop_suffix _ cs
      obtain ⟨front, hfront⟩ := hslash.suffix hsuffix (List.cons_ne_nil _ _)
      have hne : rest ≠ [] := by
        rintro rfl
        have hlast := congrArg List.getLast? hfront
        rw [List.getLast?_concat] at hlast
        nomatch hlast
      exact ⟨(List.suffix_cons _ _).trans hsuffix,
        hslash.suffix ((List.suffix_cons _ _).trans hsuffix) hne⟩
    · nomatch h
  · nomatch h

/-- A URL of the web needs a host. -/
theorem parseAuthority_nil {scheme : List Char} (hspecial : isSpecial scheme = true) :
    parseAuthority scheme [] = .error .emptyHost := by
  unfold parseAuthority
  rw [hspecial]
  rfl

/-- The path behind a host ends in a slash if all that follows the scheme does. -/
theorem rootedPath_behind {scheme rest behind left : List Char} {authority : Authority}
    (hspecial : isSpecial scheme = true) (hfile : isFile scheme = false)
    (hslash : EndsInSlash rest) (hbehind : behind <:+ rest)
    (h : parseAuthority scheme (behind.takeWhile fun c => !isSlash true c) =
      .ok (authority, left)) :
    ∃ front, rootedPath scheme
      (left ++ behind.drop (behind.takeWhile fun c => !isSlash true c).length) =
        front ++ [[]] := by
  have hne : behind ≠ [] := by
    rintro rfl
    rw [List.takeWhile_nil, parseAuthority_nil hspecial] at h
    nomatch h
  have hend : EndsInSlash behind := hslash.suffix hbehind hne
  -- The slash at the end does not belong to the host.
  have hdrop : behind.drop (behind.takeWhile fun c => !isSlash true c).length ≠ [] := by
    intro hnil
    have hwhole := (List.takeWhile_prefix _).eq_of_length_le (List.drop_eq_nil_iff.1 hnil)
    obtain ⟨front, hfront⟩ := hend
    have hmem : '/' ∈ behind := hfront ▸ List.mem_append_right _ List.mem_cons_self
    exact absurd (List.takeWhile_eq_self_iff.1 hwhole '/' hmem) (by decide)
  exact rootedPath_of_endsInSlash hfile ((hend.suffix (List.drop_suffix _ _) hdrop).append left)

/-- A URL of the web that is written with a slash at its end, and no query or fragment, has its
whole path as its directory. -/
theorem segments_of_endsInSlash {s : String} {url : Url} (h : parse s = .ok url)
    (hweb : url.isWeb = true) (hslash : EndsInSlash s.toList)
    (hmark : '#' ∉ s.toList ∧ '?' ∉ s.toList) :
    url.path = .segments (url.directory ++ [[]]) := by
  suffices hpath : ∃ front, url.path = .segments (front ++ [[]]) by
    obtain ⟨front, hfront⟩ := hpath
    unfold directory
    rw [hfront]
    dsimp only
    rw [List.dropLast_concat]
  have hspecial := isSpecial_of_isWeb hweb
  have hfile := isFile_of_isWeb hweb
  unfold parse at h
  split at h
  · next scheme rest hscheme =>
    obtain ⟨hsuffix, hrest⟩ := endsInSlash_of_splitScheme hscheme (endsInSlash_clean hslash)
    have hclean : ∀ c, c ∉ s.toList → c ∉ rest := by
      intro c hc hmem
      exact hc (mem_of_mem_clean (hsuffix.subset hmem))
    rw [cutAt_of_not_mem (hclean _ hmark.1)] at h
    dsimp only at h
    rw [cutAt_of_not_mem (hclean _ hmark.2)] at h
    dsimp only at h
    split at h
    · next hisFile =>
      obtain ⟨_, -, hurl⟩ := bind_eq_ok_iff.1 h
      cases hurl
      exact absurd (hfile.symm.trans hisFile) Bool.false_ne_true
    · split at h
      · obtain ⟨⟨authority, left⟩, hauthority, hurl⟩ := bind_eq_ok_iff.1 h
        cases hurl
        dsimp only at hspecial hfile
        rw [hspecial, if_pos rfl] at hauthority
        rw [hspecial, if_pos rfl]
        obtain ⟨front, hfront⟩ :=
          rootedPath_behind hspecial hfile hrest (List.drop_suffix _ rest) hauthority
        exact ⟨front, congrArg UrlPath.segments hfront⟩
      · next hhost =>
        split at h
        · cases h
          rw [hspecial, Bool.true_or] at hhost
          exact absurd rfl hhost
        · cases h
          rw [hspecial, Bool.true_or] at hhost
          exact absurd rfl hhost
  · nomatch h

end MailTemplates.Remote.Url
