import MailTemplates.Manifest.Template
/-!
# Templates beside their published versions

A template has changed if its page differs from the published content in any character.

Main statements: `Comparable.isChanged_iff` and `mem_changes`.
-/

namespace MailTemplates

/-- A template with the page built from it and the content of its active version. -/
structure Comparable where
  template : Template
  content : String
  remote : String
deriving DecidableEq, Repr

namespace Comparable

/-- Whether the page differs from what is published. -/
def isChanged (c : Comparable) : Bool := c.content != c.remote

theorem isChanged_iff (c : Comparable) : c.isChanged = true ↔ c.content ≠ c.remote := by
  simp [isChanged]

end Comparable

/-- The templates that have changed, in their order. -/
def changes (comparables : List Comparable) : List Comparable :=
  comparables.filter Comparable.isChanged

/-- A template has changed if its content is not the one of the store. -/
theorem mem_changes {c : Comparable} {comparables : List Comparable} :
    c ∈ changes comparables ↔ c ∈ comparables ∧ c.content ≠ c.remote := by
  rw [changes, List.mem_filter, c.isChanged_iff]

end MailTemplates
