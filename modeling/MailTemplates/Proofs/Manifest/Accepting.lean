import MailTemplates.Failure
import MailTemplates.Proofs.Manifest.Entries
import Mathlib.Data.List.Forall2
import Mathlib.Data.Set.List
/-!
# Which texts are manifests

A manifest is described by an object with a list of entries that is not empty, and perhaps with the
names of processors (`Manifest.IsWhole`). An entry is an object with the texts that a template has
(`Manifest.IsEntry`). Two schemas and two readers know of this, each of a part, and they agree: what
satisfies the schemas can be read, field by field as it is written
(`Template.ofJson_eq_ok_iff_describes`), and all other texts are refused, for the first thing that
is wrong (`Manifest.Refused`).

The schemas are lists of checks and the readers are programs, so each is first given as a statement
on the members: what it asks of which key. After that the agreement is one of two statements, and
shows key by key. That the readers never refuse what the schemas have accepted
(`exists_ofJson_of_isWhole`) is what makes the last step of `Manifest.parse` safe: a message about a
type never comes up.

For the refusals the order counts. The manifest is looked at before its entries and these from the
first one on, so `Refused` names the first entry with a violation, and its index.

Main statement: `Manifest.parse_accepts_described`.
-/

namespace MailTemplates

open Json (Problem Schema Violation)

/-!
## Lists of texts

A schema for a list asks something of each item.
-/

namespace Json.Schema

/-- A list follows its schema if it is long enough and all its items do. -/
theorem violation_list_eq_none_iff {least : Nat} {items : Schema} {v : Json} :
    (list least items).violation v = none ↔
      ∃ vs, v = .array vs ∧ least ≤ vs.length ∧ ∀ w ∈ vs, items.violation w = none := by
  cases v with
  | array vs =>
    simp only [violation]
    split
    · next hshort =>
      constructor
      · intro h
        cases h
      · rintro ⟨_, heq, hle, -⟩
        cases heq
        omega
    · next hlong =>
      rw [List.findSome?_eq_none_iff]
      constructor
      · intro hitems
        exact ⟨vs, rfl, Nat.le_of_not_lt hlong, hitems⟩
      · rintro ⟨_, heq, -, hitems⟩
        cases heq
        exact hitems
  | _ => simp [violation]

/-- A list of texts is an array of strings. -/
theorem violation_texts_eq_none_iff {v : Json} :
    (list 0 (text 0)).violation v = none ↔
      ∃ names : List String, v = .array (names.map .string) := by
  rw [violation_list_eq_none_iff]
  constructor
  · rintro ⟨vs, rfl, -, hitems⟩
    obtain ⟨names, rfl⟩ : vs ∈ Set.range (List.map Json.string) := by
      rw [Set.range_list_map]
      intro w hw
      obtain ⟨s, hs, -⟩ := violation_text_eq_none_iff.1 (hitems w hw)
      exact ⟨s, hs.symm⟩
    exact ⟨names, rfl⟩
  · rintro ⟨names, rfl⟩
    refine ⟨_, rfl, Nat.zero_le _, List.forall_mem_map.2 fun s _ => ?_⟩
    exact violation_text_eq_none_iff.2 ⟨s, rfl, Nat.zero_le _⟩

end Json.Schema

/-!
## One entry

The names of a template are texts that are not empty; a language and a subject may be missing.
-/

namespace Manifest

/-- Whether a value is an object with the texts that a template needs, none of them empty, and with
texts as its language and its subject, if these are there. -/
def IsEntry (v : Json) : Prop :=
  ∃ ms, v = .object ms ∧
    (∀ key ∈ ["id", "name", "template"], ∃ s, Members.get? ms key = some (.string s) ∧ s ≠ "") ∧
    ∀ key ∈ ["language", "subject"], ∀ w, Members.get? ms key = some w → ∃ s, w = .string s

/-- A name is a string that is not empty. -/
theorem violation_name_eq_none_iff {v : Json} :
    (Schema.text 1).violation v = none ↔ ∃ s, v = .string s ∧ s ≠ "" := by
  rw [Json.Schema.violation_text_eq_none_iff]
  refine exists_congr fun s => and_congr_right fun _ => ?_
  rw [Nat.one_le_iff_ne_zero, ne_eq, String.length_eq_zero_iff]

theorem violation_option_eq_none_iff {v : Json} :
    (Schema.text 0).violation v = none ↔ ∃ s, v = .string s := by
  rw [Json.Schema.violation_text_eq_none_iff]
  exact exists_congr fun s => and_iff_left (Nat.zero_le _)

/-- The schema of an entry accepts what the description calls one. -/
theorem isEntry_iff {v : Json} : entrySchema.violation v = none ↔ IsEntry v := by
  rw [entrySchema, Json.Schema.violation_record_eq_none_iff]
  refine exists_congr fun ms => and_congr_right fun _ => ?_
  have hneeded : ∀ key, (∃ s, Members.get? ms key = some (.string s) ∧ s ≠ "") ↔
      (∃ w, Members.get? ms key = some w) ∧
        ∀ w, Members.get? ms key = some w → ∃ s, w = .string s ∧ s ≠ "" := fun key => by
    cases Members.get? ms key <;> simp
  simp only [List.forall_mem_cons, List.not_mem_nil, false_implies, implies_true, and_true,
    violation_name_eq_none_iff, violation_option_eq_none_iff, hneeded]
  tauto

end Manifest

namespace Template

/-- Whether the fields of a template are what an entry says, and its other members those of the
entry. -/
structure Describes (t : Template) (v : Json) : Prop where
  id : v.get? "id" = some (.string t.id)
  name : v.get? "name" = some (.string t.name)
  source : v.get? "template" = some (.string t.source)
  language : v.get? "language" = t.language.map .string
  subject : v.get? "subject" = t.subject.map .string
  extra : ∃ ms, v = .object ms ∧ t.extra = ms.filter fun m => !knownKeys.contains m.1

/-- An entry is read as the template that it describes. -/
theorem ofJson_eq_ok_iff_describes {v : Json} {t : Template} (h : Manifest.IsEntry v) :
    ofJson v = .ok t ↔ t.Describes v := by
  obtain ⟨ms, rfl, -, hoptional⟩ := h
  have hnull : ∀ key ∈ ["language", "subject"], Members.get? ms key ≠ some .null :=
    fun key hkey hget => nomatch hoptional key hkey _ hget
  rw [ofJson_object_eq_ok_iff]
  constructor
  · rintro ⟨hid, hname, hsource, hlanguage, hsubject, hextra⟩
    refine ⟨hid, hname, hsource, ?_, ?_, ms, rfl, hextra⟩
    · exact hlanguage.resolve_right fun h => hnull "language" (by simp) h.2
    · exact hsubject.resolve_right fun h => hnull "subject" (by simp) h.2
  · rintro ⟨hid, hname, hsource, hlanguage, hsubject, _, heq, hextra⟩
    cases heq
    exact ⟨hid, hname, hsource, .inl hlanguage, .inl hsubject, hextra⟩

/-- Every such entry can be read as a template. -/
theorem exists_ofJson_of_isEntry {v : Json} (h : Manifest.IsEntry v) : ∃ t, ofJson v = .ok t := by
  have hentry := h
  obtain ⟨ms, rfl, hneeded, hoptional⟩ := h
  have htext : ∀ key ∈ ["language", "subject"],
      ∃ o : Option String, Members.get? ms key = o.map .string := by
    intro key hkey
    cases hget : Members.get? ms key with
    | none => exact ⟨none, rfl⟩
    | some w =>
      obtain ⟨s, rfl⟩ := hoptional key hkey w hget
      exact ⟨some s, rfl⟩
  obtain ⟨id, hid, -⟩ := hneeded "id" (by simp)
  obtain ⟨name, hname, -⟩ := hneeded "name" (by simp)
  obtain ⟨source, hsource, -⟩ := hneeded "template" (by simp)
  obtain ⟨language, hlanguage⟩ := htext "language" (by simp)
  obtain ⟨subject, hsubject⟩ := htext "subject" (by simp)
  exact ⟨⟨id, name, source, language, subject, _⟩,
    (ofJson_eq_ok_iff_describes hentry).2 ⟨hid, hname, hsource, hlanguage, hsubject, ms, rfl, rfl⟩⟩

end Template

/-!
## The whole

What is asked of the members is asked under their keys. Keys that nobody asks for are allowed.
-/

namespace Manifest

/-- Whether members hold a list of entries that is not empty, and lists of texts for the names of
processors, if these are there. -/
structure IsWhole (ms : Members) (entries : List Json) : Prop where
  templates : ms.get? "templates" = some (.array entries)
  ne_nil : entries ≠ []
  names : ∀ key ∈ ["preprocessors", "postprocessors"], ∀ w, ms.get? key = some w →
    ∃ names : List String, w = .array (names.map .string)

/-- The names that members list under a key; there are none if the key is missing. -/
def Lists (ms : Members) (key : String) (names : List String) : Prop :=
  ms.get? key = none ∧ names = [] ∨ ms.get? key = some (.array (names.map .string))

/-- Whether the templates of a manifest are what entries describe, in their order, and its names
those that members list. -/
structure Describes (manifest : Manifest) (ms : Members) (entries : List Json) : Prop where
  templates : List.Forall₂ Template.Describes manifest.templates entries
  preprocessors : Lists ms "preprocessors" manifest.preprocessors
  postprocessors : Lists ms "postprocessors" manifest.postprocessors

/-- The schema of a manifest asks for the members that the description asks for. -/
theorem isWhole_iff {v : Json} :
    schema.violation v = none ↔ ∃ ms entries, v = .object ms ∧ IsWhole ms entries := by
  rw [schema, Json.Schema.violation_record_eq_none_iff]
  constructor
  · rintro ⟨ms, rfl, hrequired, hproperties⟩
    obtain ⟨w, hw⟩ := hrequired "templates" (by simp)
    obtain ⟨entries, rfl, hlength, -⟩ := Json.Schema.violation_list_eq_none_iff.1
      (hproperties ("templates", .list 1 .any) (by simp) w hw)
    refine ⟨ms, entries, rfl, hw, List.ne_nil_of_length_pos hlength, fun key hkey w hw => ?_⟩
    refine Json.Schema.violation_texts_eq_none_iff.1
      (hproperties (key, .list 0 (.text 0)) ?_ w hw)
    simp only [List.mem_cons, List.not_mem_nil, or_false] at hkey
    rcases hkey with rfl | rfl <;> simp
  · rintro ⟨ms, entries, rfl, htemplates, hne, hnames⟩
    refine ⟨ms, rfl, ?_, ?_⟩
    · rw [List.forall_mem_singleton]
      exact ⟨_, htemplates⟩
    · simp only [List.forall_mem_cons, List.not_mem_nil, false_implies, implies_true, and_true,
        Json.Schema.violation_texts_eq_none_iff]
      refine ⟨hnames "postprocessors" (by simp), hnames "preprocessors" (by simp), ?_⟩
      intro w hw
      obtain rfl := Option.some.inj (htemplates.symm.trans hw)
      rw [Json.Schema.violation_list_eq_none_iff]
      exact ⟨entries, rfl, List.length_pos_of_ne_nil hne, fun e _ => Json.Schema.violation_any e⟩

/-- Entries are read, one by one, as the templates that they describe. -/
theorem mapM_ofJson_eq_ok_iff {entries : List Json} {templates : List Template}
    (h : ∀ e ∈ entries, IsEntry e) :
    entries.mapM Template.ofJson = .ok templates ↔
      List.Forall₂ Template.Describes templates entries := by
  rw [mapM_eq_ok_iff]
  induction entries generalizing templates with
  | nil => cases templates <;> simp
  | cons entry entries ih =>
    rw [List.forall_mem_cons] at h
    cases templates with
    | nil => simp
    | cons t templates =>
      rw [List.map_cons, List.map_cons, List.cons.injEq, List.forall₂_cons,
        Template.ofJson_eq_ok_iff_describes h.1, ih h.2]

section Whole

variable {ms : Members} {entries : List Json} (hwhole : IsWhole ms entries)
include hwhole

theorem entriesOf_of_isWhole : entriesOf (.object ms) = entries := by
  unfold entriesOf
  rw [show Json.get? (.object ms) "templates" = _ from hwhole.templates]

/-- What is read from a whole manifest is what its members describe. -/
theorem ofJson_eq_ok_iff_describes (hentries : ∀ e ∈ entries, IsEntry e) {manifest : Manifest} :
    ofJson (.object ms) = .ok manifest ↔ manifest.Describes ms entries := by
  rw [ofJson_eq_ok_iff]
  constructor
  · rintro ⟨⟨read, hread, htemplates⟩, hbefore, hafter⟩
    cases hwhole.templates.symm.trans hread
    exact ⟨(mapM_ofJson_eq_ok_iff hentries).1 htemplates, hbefore, hafter⟩
  · rintro ⟨htemplates, hbefore, hafter⟩
    exact ⟨⟨entries, hwhole.templates, (mapM_ofJson_eq_ok_iff hentries).2 htemplates⟩, hbefore,
      hafter⟩

/-- What satisfies the schemas is never refused for its types. -/
theorem exists_ofJson_of_isWhole (hentries : ∀ e ∈ entries, IsEntry e) :
    ∃ manifest, ofJson (.object ms) = .ok manifest := by
  obtain ⟨templates, htemplates⟩ := exists_mapM_eq_ok_iff.2 fun e he =>
    Template.exists_ofJson_of_isEntry (hentries e he)
  have hlists : ∀ key ∈ ["preprocessors", "postprocessors"], ∃ names, Lists ms key names := by
    intro key hkey
    cases hget : ms.get? key with
    | none => exact ⟨[], .inl ⟨hget, rfl⟩⟩
    | some w =>
      obtain ⟨names, rfl⟩ := hwhole.names key hkey w hget
      exact ⟨names, .inr hget⟩
  obtain ⟨before, hbefore⟩ := hlists "preprocessors" (by simp)
  obtain ⟨after, hafter⟩ := hlists "postprocessors" (by simp)
  exact ⟨⟨templates, before, after⟩,
    ofJson_eq_ok_iff.2 ⟨⟨entries, hwhole.templates, htemplates⟩, hbefore, hafter⟩⟩

end Whole

/-!
## Refusals

The message has the name of the part that is at fault, and for an entry its index.
-/

/-- The violation that is reported is that of the first entry that has one, under its index. -/
theorem entryViolation_eq_some_iff {entries : List Json} {index : Nat} {field : ManifestField}
    {violation : Violation} :
    entryViolation index entries = some (field, violation) ↔
      ∃ before entry behind, entries = before ++ entry :: behind ∧
        (∀ e ∈ before, entrySchema.violation e = none) ∧
        entrySchema.violation entry = some violation ∧ field = .entry (index + before.length) := by
  -- The first entry is at fault, or it is passed and counted.
  induction entries generalizing index with
  | nil => simp [entryViolation]
  | cons first entries ih =>
    unfold entryViolation
    cases hfirst : entrySchema.violation first with
    | some v =>
      constructor
      · rintro ⟨⟩
        exact ⟨[], first, entries, rfl, List.forall_mem_nil _, hfirst, rfl⟩
      · rintro ⟨before, entry, behind, heq, hbefore, hentry, rfl⟩
        cases before with
        | nil =>
          cases heq
          cases hfirst.symm.trans hentry
          rfl
        | cons b before =>
          cases heq
          have hnone := hbefore first List.mem_cons_self
          cases hfirst.symm.trans hnone
    | none =>
      rw [ih]
      constructor
      · rintro ⟨before, entry, behind, rfl, hbefore, hentry, rfl⟩
        refine ⟨first :: before, entry, behind, rfl, List.forall_mem_cons.2 ⟨hfirst, hbefore⟩,
          hentry, ?_⟩
        rw [List.length_cons, Nat.add_assoc, Nat.add_comm 1]
      · rintro ⟨before, entry, behind, heq, hbefore, hentry, rfl⟩
        cases before with
        | nil =>
          cases heq
          cases hfirst.symm.trans hentry
        | cons b before =>
          cases heq
          refine ⟨before, entry, behind, rfl, (List.forall_mem_cons.1 hbefore).2, hentry, ?_⟩
          rw [List.length_cons, Nat.add_assoc, Nat.add_comm 1]

/-- What a text that is no manifest is refused for: it is no JSON, or else the whole is at fault, or
else the first entry that is. -/
inductive Refused (content : String) : String → Prop where
  | text {fault : Json.Fault} (hjson : Json.parse content = .error fault) :
      Refused content "invalid JSON"
  | whole {v : Json} (hjson : Json.parse content = .ok v)
      (hwhole : ∀ ms entries, v = .object ms → ¬IsWhole ms entries) : Refused content "manifest"
  | entry {ms : Members} {before behind : List Json} {entry : Json}
      (hjson : Json.parse content = .ok (.object ms))
      (hwhole : IsWhole ms (before ++ entry :: behind)) (hbefore : ∀ e ∈ before, IsEntry e)
      (hentry : ¬IsEntry entry) : Refused content s!"templates[{before.length}]"

/-- Whether a text is no manifest, and the message says what it is refused for; that is not the type
of some part, since the schemas have seen to that. -/
def FailsWith (content named : String) : Prop :=
  ∃ problem, ∃ detail : String, parse content = .error problem ∧
    (∀ file, (Failure.manifest file problem).message =
      s!"Invalid manifest '{file.text}': {named}: {detail}.") ∧
    ∀ mistype, problem ≠ .mistyped mistype

theorem message_manifest (file : Path) (problem : ManifestProblem) :
    (Failure.manifest file problem).message =
      s!"Invalid manifest '{file.text}': {problem.message}." := rfl

section Refused

variable {content named : String}

/-- A text that is no JSON is refused as such. -/
theorem failsWith_of_fault {fault : Json.Fault} (h : Json.parse content = .error fault) :
    FailsWith content "invalid JSON" := by
  refine ⟨.notJson fault, fault.message, ?_, fun file => ?_, nofun⟩
  · rw [parse, h]
  · have hcolon : "invalid JSON: " = "invalid JSON" ++ ": " := rfl
    rw [message_manifest]
    simp only [ManifestProblem.message, toString, hcolon, String.append_assoc]

/-- A violation is reported with the field that has it. -/
theorem failsWith_of_violation {v : Json} {field : ManifestField} {violation : Violation}
    (hjson : Json.parse content = .ok v) (h : firstViolation v = some (field, violation))
    (hnamed : field.name = named) : FailsWith content named := by
  subst hnamed
  refine ⟨.violation field violation, violation.message, ?_, fun file => ?_, nofun⟩
  · rw [parse, hjson]
    dsimp only
    rw [h]
  · rw [message_manifest]
    simp only [ManifestProblem.message, toString, String.append_assoc]

/-- Each way to be refused is reported under its name. -/
theorem failsWith_of_refused (h : Refused content named) : FailsWith content named := by
  cases h with
  | text hjson => exact failsWith_of_fault hjson
  | @whole v hjson hwhole =>
    cases hviolation : schema.violation v with
    | none =>
      -- What the schema finds nothing wrong with is whole.
      obtain ⟨ms, entries, rfl, hms⟩ := isWhole_iff.1 hviolation
      exact absurd hms (hwhole ms entries rfl)
    | some violation =>
      have hfirst : firstViolation v = some (.whole, violation) := by
        rw [firstViolation, hviolation]
      exact failsWith_of_violation hjson hfirst rfl
  | @entry ms before behind entry hjson hwhole hbefore hentry =>
    cases hviolation : entrySchema.violation entry with
    | none => exact absurd (isEntry_iff.1 hviolation) hentry
    | some violation =>
      have hfirst : firstViolation (.object ms) = some (.entry before.length, violation) := by
        rw [firstViolation, isWhole_iff.2 ⟨ms, _, rfl, hwhole⟩]
        dsimp only
        rw [entriesOf_of_isWhole hwhole, entryViolation_eq_some_iff]
        exact ⟨before, entry, behind, rfl, fun e he => isEntry_iff.2 (hbefore e he), hviolation,
          by rw [Nat.zero_add]⟩
      exact failsWith_of_violation hjson hfirst rfl

/-- A text is accepted, or there is something that it is refused for. -/
theorem accepted_or_refused (content : String) :
    (∃ ms entries, Json.parse content = .ok (.object ms) ∧ IsWhole ms entries ∧
      ∀ e ∈ entries, IsEntry e) ∨ ∃ named, Refused content named := by
  cases hjson : Json.parse content with
  | error fault => exact .inr ⟨_, .text hjson⟩
  | ok v =>
    by_cases hwhole : ∃ ms entries, v = .object ms ∧ IsWhole ms entries
    · obtain ⟨ms, entries, rfl, hms⟩ := hwhole
      cases hviolation : entryViolation 0 entries with
      | none =>
        have hentries := (entryViolation_eq_none_iff entries 0).1 hviolation
        exact .inl ⟨ms, entries, rfl, hms, fun e he => isEntry_iff.1 (hentries e he)⟩
      | some violation =>
        obtain ⟨before, entry, behind, rfl, hbefore, hentry, -⟩ :=
          entryViolation_eq_some_iff.1 hviolation
        refine .inr ⟨_, .entry hjson hms (fun e he => isEntry_iff.1 (hbefore e he)) fun h => ?_⟩
        nomatch hentry.symm.trans (isEntry_iff.2 h)
    · refine .inr ⟨_, .whole hjson ?_⟩
      rintro ms entries rfl hms
      exact hwhole ⟨ms, entries, rfl, hms⟩

end Refused

/-- There is no violation in a whole manifest whose entries are entries, and in no other value. -/
theorem firstViolation_eq_none_iff_isWhole {v : Json} :
    firstViolation v = none ↔
      ∃ ms entries, v = .object ms ∧ IsWhole ms entries ∧ ∀ e ∈ entries, IsEntry e := by
  rw [firstViolation_eq_none_iff, isWhole_iff]
  simp only [isEntry_iff]
  constructor
  · rintro ⟨⟨ms, entries, rfl, hwhole⟩, hentries⟩
    rw [entriesOf_of_isWhole hwhole] at hentries
    exact ⟨ms, entries, rfl, hwhole, hentries⟩
  · rintro ⟨ms, entries, rfl, hwhole, hentries⟩
    refine ⟨⟨ms, entries, rfl, hwhole⟩, ?_⟩
    rwa [entriesOf_of_isWhole hwhole]

/-- A manifest is read from the texts of such values, and is what these describe. -/
theorem parse_eq_ok_iff_describes {content : String} {manifest : Manifest} :
    parse content = .ok manifest ↔
      ∃ ms entries, Json.parse content = .ok (.object ms) ∧ IsWhole ms entries ∧
        (∀ e ∈ entries, IsEntry e) ∧ manifest.Describes ms entries := by
  rw [parse_eq_ok_iff]
  constructor
  · rintro ⟨v, hjson, hviolation, hmanifest⟩
    obtain ⟨ms, entries, rfl, hwhole, hentries⟩ :=
      firstViolation_eq_none_iff_isWhole.1 hviolation
    exact ⟨ms, entries, hjson, hwhole, hentries,
      (ofJson_eq_ok_iff_describes hwhole hentries).1 hmanifest⟩
  · rintro ⟨ms, entries, hjson, hwhole, hentries, hdescribes⟩
    exact ⟨.object ms, hjson,
      firstViolation_eq_none_iff_isWhole.2 ⟨ms, entries, rfl, hwhole, hentries⟩,
      (ofJson_eq_ok_iff_describes hwhole hentries).2 hdescribes⟩

/-- So these are the texts that are accepted: no later step refuses one of them. -/
theorem exists_parse_eq_ok_iff {content : String} :
    (∃ manifest, parse content = .ok manifest) ↔
      ∃ ms entries, Json.parse content = .ok (.object ms) ∧ IsWhole ms entries ∧
        ∀ e ∈ entries, IsEntry e := by
  constructor
  · rintro ⟨manifest, hmanifest⟩
    obtain ⟨ms, entries, hjson, hwhole, hentries, -⟩ := parse_eq_ok_iff_describes.1 hmanifest
    exact ⟨ms, entries, hjson, hwhole, hentries⟩
  · rintro ⟨ms, entries, hjson, hwhole, hentries⟩
    obtain ⟨manifest, hmanifest⟩ := exists_ofJson_of_isWhole hwhole hentries
    refine ⟨manifest, parse_eq_ok_iff_describes.2 ⟨ms, entries, hjson, hwhole, hentries, ?_⟩⟩
    exact (ofJson_eq_ok_iff_describes hwhole hentries).1 hmanifest

/-- A text is a manifest exactly if it is JSON, its value is an object that is whole, and all of its
entries are entries; the templates are then what the entries describe, in their order, and the names
are those that are listed. Any other text is refused with a message that names what is wrong: the
text itself, or the whole, whatever the entries are, or the first entry that is none. That a value
which satisfies both schemas has a part of another type than expected never happens. -/
theorem parse_accepts_described (content : String) :
    ((∃ manifest, parse content = .ok manifest) ↔
        ∃ ms entries, Json.parse content = .ok (.object ms) ∧ IsWhole ms entries ∧
          ∀ e ∈ entries, IsEntry e) ∧
      (∀ manifest, parse content = .ok manifest ↔
        ∃ ms entries, Json.parse content = .ok (.object ms) ∧ IsWhole ms entries ∧
          (∀ e ∈ entries, IsEntry e) ∧ manifest.Describes ms entries) ∧
      ((¬∃ manifest, parse content = .ok manifest) → ∃ named, Refused content named) ∧
      (∀ named, Refused content named → FailsWith content named) ∧
      ∀ problem, parse content ≠ .error (.mistyped problem) := by
  have hnamed : (¬∃ manifest, parse content = .ok manifest) → ∃ named, Refused content named :=
    fun hnone => (accepted_or_refused content).resolve_left (mt exists_parse_eq_ok_iff.2 hnone)
  refine ⟨exists_parse_eq_ok_iff, fun manifest => parse_eq_ok_iff_describes, hnamed,
    fun named => failsWith_of_refused, fun problem hmistyped => ?_⟩
  -- A failure is told by what the text is refused for, and that is never its types.
  have hnone : ¬∃ manifest, parse content = .ok manifest :=
    fun ⟨_, h⟩ => nomatch hmistyped.symm.trans h
  obtain ⟨named, hrefused⟩ := hnamed hnone
  obtain ⟨cause, detail, hcause, -, hne⟩ := failsWith_of_refused hrefused
  exact hne problem (Except.error.inj (hcause.symm.trans hmistyped))

end Manifest

end MailTemplates
