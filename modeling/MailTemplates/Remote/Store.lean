import MailTemplates.Failure
import MailTemplates.Manifest.Template
/-!
# Remote stores

A store keeps the published versions of templates, of which at most one is active. It is known by
what it does: a state, and two operations that may change it. The store in memory keeps the active
contents themselves.
-/

namespace MailTemplates

/-- A store whose state is an `S`. -/
structure Store (S : Type) where
  /-- The content of the active version of a template, empty if none is active. -/
  fetch : Template → S → S × Outcome String
  /-- Publishes a content as the active version, under a name. -/
  publish : Template → String → String → S → S × Outcome Unit

/-- A version that was published. -/
structure Publication where
  id : String
  content : String
  version : String
deriving DecidableEq, Repr

/-- A store in memory: what fetching each template gives, why some cannot be published, and what was
published, in order. -/
structure Memory where
  active : List (String × Outcome String) := []
  refused : List (String × Halt) := []
  published : List Publication := []

namespace Memory

/-- Sets what fetching a template gives. -/
def set (memory : Memory) (id : String) (content : Outcome String) : Memory :=
  { memory with active := (id, content) :: memory.active.filter fun e => e.1 != id }

/-- The content of the active version of a template. -/
def fetch (t : Template) (memory : Memory) : Memory × Outcome String :=
  (memory, (memory.active.lookup t.id).getD (.ok ""))

/-- Publishes a version unless that is refused. -/
def publish (t : Template) (content version : String) (memory : Memory) : Memory × Outcome Unit :=
  match memory.refused.lookup t.id with
  | some halt => (memory, .error halt)
  | none =>
    ({ memory.set t.id (.ok content) with
      published := memory.published ++ [⟨t.id, content, version⟩] }, .ok ())

/-- Dropping the entries of one template leaves those of another. -/
theorem lookup_filter_ne (l : List (String × Outcome String)) {id other : String}
    (h : other ≠ id) : (l.filter fun e => e.1 != id).lookup other = l.lookup other := by
  induction l with
  | nil => rfl
  | cons e l ih =>
    obtain ⟨k, v⟩ := e
    by_cases hk : k = id
    · subst hk
      have hb : (other == k) = false := by simpa using h
      simp [List.lookup_cons, hb, ih]
    · have : (k != id) = true := by simpa using hk
      simp only [List.filter_cons, this, if_true, List.lookup_cons]
      split <;> simp_all

/-- The store in memory. -/
def store : Store Memory := ⟨fetch, publish⟩

end Memory

end MailTemplates
