import MailTemplates.Manifest.Template
/-!
# Reports of a synchronisation

A report says which templates were updated, or would be. It is written for people, with a heading
and a line for each template, or as a JSON array of the templates.
-/

namespace MailTemplates

/-- How a report is written. -/
inductive OutputFormat where
  | pretty
  | json
deriving DecidableEq, Repr

/-- What a synchronisation changed, or would change if it is a dry run. -/
structure Report where
  dryRun : Bool
  updated : List Template
deriving DecidableEq, Repr

namespace Report

/-- The heading of a report. -/
def heading (report : Report) : String :=
  let verb := if report.dryRun then "Changes affect" else "Updated"
  s!"{verb} {report.updated.length} templates(s) on SendGrid"

/-- The lines of a report. -/
def lines (report : Report) : List String :=
  report.heading :: report.updated.map fun t => "- " ++ t.name

/-- A report as text. -/
def render (report : Report) : OutputFormat → String
  | .pretty => "\n".intercalate report.lines
  | .json => "[" ++ ",".intercalate (report.updated.map fun t => String.ofList t.text) ++ "]"

end Report

end MailTemplates
