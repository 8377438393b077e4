import MailTemplates.FileTree.Resolve
/-!
# The parts of joined paths

A path is cut at its slashes, and putting a slash between two texts puts their parts one behind the
other (`splitAt_append_cons`). So the steps of a relative path, seen from a directory, are those of
the directory and then its own (`steps_join`); only an empty part at the end of the directory, which
leads nowhere, is not there any more.

Everything is said of the parts as they are written, before it is decided which of them are idle:
cutting at a separator then needs two equations only, for the separator and for any other character.
Which step a part stands for is looked at part by part (`stepOf`), so a statement on parts becomes
one on steps by `List.map`.
-/

namespace MailTemplates

namespace Text

/-- A character that is no separator goes to the first part. -/
theorem splitAt_cons_of_ne {sep c : Char} (h : c ≠ sep) (cs : List Char) :
    ∃ part parts, splitAt sep cs = part :: parts ∧
      splitAt sep (c :: cs) = (c :: part) :: parts := by
  obtain ⟨part, parts, hparts⟩ := List.exists_cons_of_ne_nil (splitAt_ne_nil sep cs)
  refine ⟨part, parts, hparts, ?_⟩
  rw [splitAt, if_neg h, hparts]

theorem splitAt_cons_self (sep : Char) (cs : List Char) :
    splitAt sep (sep :: cs) = [] :: splitAt sep cs := by
  rw [splitAt, if_pos rfl]

/-- Splitting goes on anew behind each separator. -/
theorem splitAt_append_cons (sep : Char) (xs ys : List Char) :
    splitAt sep (xs ++ sep :: ys) = splitAt sep xs ++ splitAt sep ys := by
  induction xs with
  | nil => exact splitAt_cons_self sep ys
  | cons x xs ih =>
    by_cases h : x = sep
    · subst h
      rw [List.cons_append, splitAt_cons_self, splitAt_cons_self, ih, List.cons_append]
    · obtain ⟨part, parts, hxs, hcons⟩ := splitAt_cons_of_ne h xs
      obtain ⟨part', parts', hall, hcons'⟩ := splitAt_cons_of_ne h (xs ++ sep :: ys)
      rw [ih, hxs, List.cons_append] at hall
      cases hall
      rw [List.cons_append, hcons', hcons, List.cons_append]

/-- A text without a separator is one part. -/
theorem splitAt_of_not_mem {sep : Char} {xs : List Char} (h : sep ∉ xs) :
    splitAt sep xs = [xs] := by
  induction xs with
  | nil => rfl
  | cons x xs ih =>
    rw [List.mem_cons, not_or] at h
    rw [splitAt, if_neg (Ne.symm h.1), ih h.2]

end Text

namespace Path

/-- The step that a written part stands for. -/
def stepOf (part : List Char) : Step :=
  if idle part then .stay
  else if part == ['.', '.'] then .up
  else .into (String.ofList part)

theorem steps_eq (p : Path) : p.steps = p.written.map stepOf := rfl

/-- A part that is more than dots is a name. -/
theorem idle_of_mem {part : List Char} {c : Char} (hc : c ∈ part) (hdot : c ≠ '.') :
    idle part = false ∧ part ≠ ['.', '.'] := by
  have hdots : ∀ n, part ≠ .replicate n '.' := by
    rintro n rfl
    exact hdot (List.eq_of_mem_replicate hc)
  refine ⟨?_, hdots 2⟩
  rw [idle, Bool.or_eq_false_iff, List.isEmpty_eq_false_iff, beq_eq_false_iff_ne]
  exact ⟨hdots 0, hdots 1⟩

/-- A part that is a name is a step down. -/
theorem stepOf_of_named {part : List Char} (hidle : idle part = false)
    (hup : part ≠ ['.', '.']) : stepOf part = .into (String.ofList part) := by
  rw [stepOf, hidle, if_neg Bool.false_ne_true, if_neg (by simpa using hup)]

/-- The text of a path without the slash in front of it. -/
def body (p : Path) : List Char := if p.isAbsolute then p.text.toList.drop 1 else p.text.toList

/-- An absolute path is a slash and its body. -/
theorem toList_of_isAbsolute {p : Path} (h : p.isAbsolute = true) :
    p.text.toList = '/' :: p.body := by
  unfold isAbsolute at h
  cases hp : p.text.toList with
  | nil => simp [hp] at h
  | cons c cs =>
    have hc : c = '/' := by simpa [hp] using h
    subst hc
    simp [body, isAbsolute, hp]

theorem toList_of_not_isAbsolute {p : Path} (h : p.isAbsolute = false) :
    p.text.toList = p.body := by
  simp [body, h]

/-- The parts of a path are those of its body. -/
theorem written_eq (p : Path) : p.written = Text.splitAt '/' p.body := by
  unfold written
  cases h : p.isAbsolute with
  | true => simp [toList_of_isAbsolute h, Text.splitAt_cons_self]
  | false => simp [toList_of_not_isAbsolute h]

/-- Whether a path is absolute is decided by its front. -/
theorem isAbsolute_of_append {p front : Path} {cs : List Char} (hfront : front.text ≠ "")
    (h : p.text.toList = front.text.toList ++ cs) : p.isAbsolute = front.isAbsolute := by
  obtain ⟨c, rest, hc⟩ := List.exists_cons_of_ne_nil
    (fun hnil => hfront (String.toList_eq_nil_iff.1 hnil))
  simp [isAbsolute, h, hc]

/-- What is appended to a path is appended to its body. -/
theorem body_of_append {p front : Path} {cs : List Char} (hfront : front.text ≠ "")
    (h : p.text.toList = front.text.toList ++ cs) : p.body = front.body ++ cs := by
  have habsolute := isAbsolute_of_append hfront h
  cases hf : front.isAbsolute with
  | true =>
    rw [toList_of_isAbsolute (habsolute.trans hf), toList_of_isAbsolute hf, List.cons_append] at h
    exact (List.cons.inj h).2
  | false =>
    rwa [toList_of_not_isAbsolute (habsolute.trans hf), toList_of_not_isAbsolute hf] at h

/-- The parts of two texts with a slash between them are those of the one and then of the other. -/
theorem written_of_append {p front : Path} {cs : List Char} (hfront : front.text ≠ "")
    (h : p.text.toList = front.text.toList ++ '/' :: cs) :
    p.written = front.written ++ Text.splitAt '/' cs := by
  rw [written_eq, body_of_append hfront h, Text.splitAt_append_cons, ← written_eq]

theorem written_of_not_isAbsolute {p : Path} (h : p.isAbsolute = false) :
    p.written = Text.splitAt '/' p.text.toList := by
  rw [written_eq, toList_of_not_isAbsolute h]

/-- The parts of a joined path are those of the directory, perhaps without an empty one at the end,
and then those of the other path. -/
theorem written_join (p : Path) {q : Path} (hq : q.isAbsolute = false) :
    ∃ front, (p.join q).written = front ++ q.written ∧
      (p.written = front ∨ p.written = front ++ [[]]) := by
  have hrelative := written_of_not_isAbsolute hq
  unfold join
  rw [hq]
  cases hlast : p.text.toList.getLast? with
  | none =>
    have hempty : p.text = "" := by simpa using hlast
    refine ⟨[], rfl, .inr ?_⟩
    obtain ⟨text⟩ := p
    cases hempty
    rfl
  | some c =>
    obtain ⟨init, hinit⟩ := List.getLast?_eq_some_iff.1 hlast
    by_cases hc : c = '/'
    · subst hc
      show ∃ front, (⟨p.text ++ q.text⟩ : Path).written = _ ∧ _
      cases init with
      | nil =>
        -- The directory is the root.
        have hroot : p.text = "/" := String.toList_inj.1 hinit
        refine ⟨[], ?_, .inr ?_⟩
        · have habsolute : (⟨p.text ++ q.text⟩ : Path).isAbsolute = true := by
            simp [isAbsolute, hroot]
          have hbody := toList_of_isAbsolute habsolute
          rw [String.toList_append, hinit] at hbody
          rw [written_eq, ← (List.cons.inj hbody).2, hrelative]
          rfl
        · obtain ⟨text⟩ := p
          cases hroot
          rfl
      | cons d init =>
        have hne : (⟨String.ofList (d :: init)⟩ : Path).text ≠ "" := by simp
        refine ⟨(⟨String.ofList (d :: init)⟩ : Path).written, ?_, .inr ?_⟩
        · rw [hrelative]
          exact written_of_append hne (by simp [hinit, String.toList_append])
        · have hslash : p.text.toList =
              (⟨String.ofList (d :: init)⟩ : Path).text.toList ++ '/' :: [] := by
            simp [hinit]
          exact written_of_append hne hslash
    · have hne : p.text ≠ "" := by
        intro hempty
        simp [hempty] at hlast
      refine ⟨p.written, ?_, .inl rfl⟩
      rw [hrelative]
      refine written_of_append hne ?_
      simp

/-- Joining a relative path appends its parts. -/
theorem parts_join (p : Path) {q : Path} (hq : q.isAbsolute = false) :
    (p.join q).parts = p.parts ++ q.parts := by
  obtain ⟨front, hjoin, hfront⟩ := written_join p hq
  unfold parts
  rw [hjoin, List.filter_append]
  rcases hfront with h | h
  · rw [h]
  · rw [h, List.filter_append]
    simp [idle]

/-- Joining a relative path appends its steps, up to one idle step between. -/
theorem steps_join (p : Path) {q : Path} (hq : q.isAbsolute = false) :
    ∃ front, (p.join q).steps = front ++ q.steps ∧
      (p.steps = front ∨ p.steps = front ++ [.stay]) := by
  obtain ⟨front, hjoin, hfront⟩ := written_join p hq
  refine ⟨front.map stepOf, ?_, ?_⟩
  · rw [steps_eq, hjoin, List.map_append, ← steps_eq]
  · rcases hfront with h | h
    · exact .inl (by rw [steps_eq, h])
    · exact .inr (by rw [steps_eq, h, List.map_append]; rfl)

end Path

end MailTemplates
