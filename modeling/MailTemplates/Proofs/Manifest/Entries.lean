import MailTemplates.Manifest.Basic
import MailTemplates.Proofs.Json.Ordered
import Mathlib.Data.List.Nodup
/-!
# Entries of a manifest and the templates they describe

An entry that satisfies its schema describes a template, and the template still says all that the
entry says: the keys with a meaning of their own are its fields, all other keys are kept as they
are. So written as a value again it is the entry (`Template.toJson_of_ofJson`). That the order of
the keys does not get in the way is because the members of what was read are in order.

Written and read, a template goes from an object to a record and back, and two things may get lost:
a key that is listed among the fields and again among the others, and the order of the members. The
first is excluded since what is kept aside has none of the known keys (`not_known_of_mem_extra`).
For the second, the written entry is a permutation of the members that were read
(`perm_entries_of_ofJson`), and members in order have one order only.

Main statement: `Manifest.entries_of_parse`.
-/

namespace MailTemplates

open Json (Schema)

/-!
## Acceptable values

Each schema is given as a condition on a value; that of a record is one on its members.
-/

namespace Json.Schema

/-- A text follows its schema if it is a string and long enough. -/
theorem violation_text_eq_none_iff {minLength : Nat} {v : Json} :
    (text minLength).violation v = none ↔ ∃ s, v = .string s ∧ minLength ≤ s.length := by
  unfold violation
  split
  · next s =>
    by_cases h : s.length < minLength
    · rw [if_pos h]
      refine ⟨nofun, ?_⟩
      rintro ⟨_, heq, hle⟩
      cases heq
      omega
    · rw [if_neg h]
      exact ⟨fun _ => ⟨s, rfl, Nat.le_of_not_lt h⟩, fun _ => rfl⟩
  · next hother => exact ⟨nofun, fun ⟨s, heq, _⟩ => absurd heq (hother s)⟩

/-- The properties of an object follow their schemas if those that are there do. -/
theorem propertiesViolation_eq_none_iff {properties : List (String × Schema)} {ms : Members} :
    propertiesViolation properties ms = none ↔
      ∀ p ∈ properties, ∀ v, ms.get? p.1 = some v → p.2.violation v = none := by
  induction properties with
  | nil => exact ⟨fun _ => nofun, fun _ => by unfold propertiesViolation; rfl⟩
  | cons property rest ih =>
    obtain ⟨key, schema⟩ := property
    unfold propertiesViolation
    rw [List.forall_mem_cons, ← ih]
    dsimp only
    cases hget : ms.get? key with
    | none => exact ⟨fun hrest => ⟨nofun, hrest⟩, And.right⟩
    | some v =>
      dsimp only
      cases hviolation : schema.violation v with
      | some problem =>
        refine ⟨nofun, fun h => ?_⟩
        rw [h.1 v rfl] at hviolation
        nomatch hviolation
      | none =>
        refine ⟨fun hrest => ⟨?_, hrest⟩, And.right⟩
        rintro _ ⟨⟩
        exact hviolation

/-- A value is an acceptable record if it is an object that has the required keys and whose listed
properties are acceptable where they are there. -/
theorem violation_record_eq_none_iff {required : List String}
    {properties : List (String × Schema)} {v : Json} :
    (record required properties).violation v = none ↔ ∃ ms, v = .object ms ∧
      (∀ key ∈ required, ∃ w, Members.get? ms key = some w) ∧
      ∀ p ∈ properties, ∀ w, Members.get? ms p.1 = some w → p.2.violation w = none := by
  cases v with
  | object ms =>
    have hrequired : required.find? (fun key => (Members.get? ms key).isNone) = none ↔
        ∀ key ∈ required, ∃ w, Members.get? ms key = some w := by
      rw [List.find?_eq_none]
      refine forall₂_congr fun key _ => ?_
      cases Members.get? ms key <;> simp
    simp only [← propertiesViolation_eq_none_iff, violation]
    split
    · next key hmissing =>
      constructor
      · intro hnone
        cases hnone
      · rintro ⟨_, heq, hall, -⟩
        cases heq
        rw [hrequired.2 hall] at hmissing
        cases hmissing
    · next hfound =>
      constructor
      · intro hproperties
        exact ⟨ms, rfl, hrequired.1 hfound, hproperties⟩
      · rintro ⟨_, heq, -, hproperties⟩
        cases heq
        exact hproperties
  | _ =>
    constructor
    · simp [violation]
    · rintro ⟨_, ⟨⟩, -⟩

end Json.Schema

/-! ## One entry -/

namespace Template

variable {ms : Members} {t : Template}

/-- An optional text of an acceptable entry is not `null`. -/
theorem get?_of_optional {key : String} {o : Option String}
    (haccept : ∀ v, ms.get? key = some v → (Schema.text 0).violation v = none)
    (h : ms.get? key = o.map Json.string ∨ o = none ∧ ms.get? key = some .null) :
    ms.get? key = o.map Json.string := by
  rcases h with hfound | ⟨-, hnull⟩
  · exact hfound
  · obtain ⟨s, hs, -⟩ := Json.Schema.violation_text_eq_none_iff.1 (haccept _ hnull)
    nomatch hs

/-- What is kept aside of an entry has none of the known keys. -/
theorem not_known_of_mem_extra (h : ofJson (.object ms) = .ok t) :
    ∀ m ∈ t.extra, m.1 ∉ knownKeys := by
  obtain ⟨-, -, -, -, -, hextra⟩ := ofJson_object_eq_ok_iff.1 h
  intro m hm
  rw [hextra, List.mem_filter, Bool.not_eq_true', List.contains_eq_mem,
    decide_eq_false_iff_not] at hm
  exact hm.2

/-- What stands in the written entry of a template: its fields under their keys, and the other
members. -/
theorem mem_entries_iff {m : String × Json} :
    m ∈ t.entries ↔ m = ("id", .string t.id) ∨ m = ("name", .string t.name) ∨
      m = ("template", .string t.source) ∨
      (∃ l, t.language = some l ∧ m = ("language", .string l)) ∨
      (∃ s, t.subject = some s ∧ m = ("subject", .string s)) ∨ m ∈ t.extra := by
  unfold entries
  cases t.language <;> cases t.subject <;> simp

/-- The keys of a written entry are distinct. -/
theorem nodup_entries (horder : t.extra.Ordered) (hunknown : ∀ m ∈ t.extra, m.1 ∉ knownKeys) :
    (t.entries.map Prod.fst).Nodup := by
  have hextra := Members.nodup_of_ordered horder
  have hkey : ∀ key ∈ knownKeys, key ∉ t.extra.map Prod.fst := by
    intro key hkey hmem
    obtain ⟨m, hm, rfl⟩ := List.mem_map.1 hmem
    exact hunknown m hm hkey
  have hfields := hkey "id" (by decide)
  have hname := hkey "name" (by decide)
  have hsource := hkey "template" (by decide)
  have hlanguage := hkey "language" (by decide)
  have hsubject := hkey "subject" (by decide)
  unfold entries
  cases t.language <;> cases t.subject <;> simp_all

/-- An acceptable entry with its members in order is what its template is written as. -/
theorem perm_entries_of_ofJson (horder : ms.Ordered)
    (haccept : Manifest.entrySchema.violation (.object ms) = none)
    (h : ofJson (.object ms) = .ok t) : t.entries.Perm ms := by
  obtain ⟨hid, hname, hsource, hlanguage, hsubject, hextra⟩ := ofJson_object_eq_ok_iff.1 h
  obtain ⟨_, hms, -, hproperties⟩ := Json.Schema.violation_record_eq_none_iff.1 haccept
  cases hms
  replace hlanguage := get?_of_optional (hproperties ("language", .text 0) (by simp)) hlanguage
  replace hsubject := get?_of_optional (hproperties ("subject", .text 0) (by simp)) hsubject
  have hunknown := not_known_of_mem_extra h
  have horderExtra : t.extra.Ordered := by
    rw [hextra]
    exact horder.filter _
  -- Both sides have distinct keys, so it is enough that they have the same members.
  have hleft : t.entries.Nodup := (nodup_entries horderExtra hunknown).of_map
  have hright : ms.Nodup := (Members.nodup_of_ordered horder).of_map
  refine (List.perm_ext_iff_of_nodup hleft hright).2 ?_
  rintro ⟨key, v⟩
  have hother : (key, v) ∈ t.extra ↔ (key, v) ∈ ms ∧ key ∉ knownKeys := by
    rw [hextra, List.mem_filter]
    simp
  rw [mem_entries_iff, hother, ← Members.get?_eq_some_iff horder]
  by_cases hkey : key ∈ knownKeys
  · simp only [knownKeys, List.mem_cons, List.not_mem_nil, or_false] at hkey
    rcases hkey with rfl | rfl | rfl | rfl | rfl
    · simp [hid, knownKeys, eq_comm]
    · simp [hname, knownKeys, eq_comm]
    · simp [hsource, knownKeys, eq_comm]
    · simp [hlanguage, knownKeys, eq_comm]
    · simp [hsubject, knownKeys, eq_comm]
  · have hfields : key ≠ "id" ∧ key ≠ "name" ∧ key ≠ "template" ∧ key ≠ "language" ∧
        key ≠ "subject" := by
      simpa [knownKeys] using hkey
    simp [hkey, hfields]

/-- A template, written as a value again, is the entry that it was read from. -/
theorem toJson_of_ofJson {entry : Json} (horder : entry.Ordered)
    (haccept : Manifest.entrySchema.violation entry = none) (h : ofJson entry = .ok t) :
    t.toJson = entry ∧ ∃ ms, entry = .object ms ∧ t.entries.Perm ms ∧
      ∀ m ∈ t.extra, m.1 ∉ knownKeys := by
  obtain ⟨ms, rfl, -⟩ := Json.Schema.violation_record_eq_none_iff.1 haccept
  cases horder with
  | object hkeys _ =>
    have hperm := perm_entries_of_ofJson hkeys haccept h
    refine ⟨?_, ms, rfl, hperm, not_known_of_mem_extra h⟩
    unfold toJson members
    rw [Members.ofList_eq_of_perm hkeys hperm]

end Template

/-!
## All entries

Entries are read one by one, and each of them without loss.
-/

namespace Manifest

variable {content : String} {manifest : Manifest}

/-- A manifest is accepted if its text is JSON, no violation is found in it, and all its parts can
be read. -/
theorem parse_eq_ok_iff :
    parse content = .ok manifest ↔
      ∃ v, Json.parse content = .ok v ∧ firstViolation v = none ∧ ofJson v = .ok manifest := by
  unfold parse
  -- The three steps, each of which may refuse the text.
  cases Json.parse content with
  | error fault => exact ⟨nofun, fun ⟨_, h, _⟩ => nomatch h⟩
  | ok v =>
    dsimp only
    cases hviolation : firstViolation v with
    | some problem =>
      refine ⟨nofun, ?_⟩
      rintro ⟨_, ⟨⟩, hnone, -⟩
      rw [hviolation] at hnone
      nomatch hnone
    | none =>
      dsimp only
      cases hmanifest : ofJson v with
      | error problem =>
        refine ⟨nofun, ?_⟩
        rintro ⟨_, ⟨⟩, -, hok⟩
        rw [hmanifest] at hok
        nomatch hok
      | ok m =>
        constructor
        · rintro ⟨⟩
          exact ⟨v, rfl, hviolation, hmanifest⟩
        · rintro ⟨_, ⟨⟩, -, hok⟩
          rw [hmanifest] at hok
          cases hok
          rfl

/-- The templates of a manifest are read from its entries, one by one. -/
theorem templates_of_ofJson {v : Json} (h : ofJson v = .ok manifest) :
    v.get? "templates" = some (.array (entriesOf v)) ∧
      (entriesOf v).mapM Template.ofJson = .ok manifest.templates := by
  unfold ofJson at h
  unfold entriesOf
  split at h
  · next entries hget =>
    obtain ⟨templates, htemplates, h⟩ := bind_eq_ok_iff.1 h
    obtain ⟨_, -, h⟩ := bind_eq_ok_iff.1 h
    obtain ⟨_, -, h⟩ := bind_eq_ok_iff.1 h
    cases h
    exact ⟨by rw [hget], by rw [hget]; exact htemplates⟩
  · nomatch h
  · nomatch h

/-- What holds of the template of an acceptable entry. -/
structure Lossless (t : Template) : Prop where
  /-- Read from what it is written as, it is the same again. -/
  reread : Template.ofJson t.toJson = .ok t
  unknown : ∀ m ∈ t.extra, m.1 ∉ Template.knownKeys
  /-- Its text has the members of the value, the known ones in front. -/
  written : ∃ ms, t.toJson = .object ms ∧ t.entries.Perm ms

/-- Entries in order that follow the schema are read without loss. The induction is on the entries.
-/
theorem lossless_of_entries {entries : List Json} {templates : List Template}
    (hentries : ∀ e ∈ entries, e.Ordered ∧ entrySchema.violation e = none)
    (h : entries.map Template.ofJson = templates.map .ok) :
    templates.map Template.toJson = entries ∧ ∀ t ∈ templates, Lossless t := by
  induction entries generalizing templates with
  | nil =>
    obtain rfl : templates = [] := List.map_eq_nil_iff.1 h.symm
    exact ⟨rfl, nofun⟩
  | cons entry entries ih =>
    cases templates with
    | nil => nomatch h
    | cons t templates =>
      obtain ⟨hfirst, hrest⟩ := List.forall_mem_cons.1 hentries
      obtain ⟨hread, hreads⟩ := List.cons.inj h
      obtain ⟨hjson, ms, hms, hperm, hunknown⟩ :=
        Template.toJson_of_ofJson hfirst.1 hfirst.2 hread
      obtain ⟨hjsons, hall⟩ := ih hrest hreads
      refine ⟨by rw [List.map_cons, hjson, hjsons], List.forall_mem_cons.2 ⟨?_, hall⟩⟩
      exact ⟨by rw [hjson, hread], hunknown, ms, by rw [hjson, hms], hperm⟩

/-- The value that an accepted text writes has a list of entries, and the templates of the manifest,
written as values again, are these entries. -/
theorem entries_of_parse (h : parse content = .ok manifest) :
    ∃ v entries, Json.parse content = .ok v ∧ v.get? "templates" = some (.array entries) ∧
      manifest.templates.map Template.toJson = entries ∧
      ∀ t ∈ manifest.templates, Lossless t := by
  obtain ⟨v, hparse, hviolation, hmanifest⟩ := parse_eq_ok_iff.1 h
  obtain ⟨hget, htemplates⟩ := templates_of_ofJson hmanifest
  have haccept := ((firstViolation_eq_none_iff v).1 hviolation).2
  have horder : (Json.array (entriesOf v)).Ordered :=
    Json.ordered_of_get? (Json.ordered_of_parse hparse) hget
  refine ⟨v, entriesOf v, hparse, hget, lossless_of_entries ?_ (mapM_eq_ok_iff.1 htemplates)⟩
  intro e he
  cases horder with
  | array hitems => exact ⟨hitems e he, haccept e he⟩

end Manifest

end MailTemplates
