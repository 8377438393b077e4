import MailTemplates.Project.Basic
import MailTemplates.Remote.Client
import MailTemplates.Sync.Report
/-!
# Settings of the command line

A setting has a long name, perhaps a letter, perhaps a variable of the environment, and a set of
values. Some settings may stand before and behind the command, the others belong to one command.
-/

namespace MailTemplates.CommandLine

/-- What can be set. -/
inductive Setting where
  | verbose
  | mode
  | compiler
  | dryRun
  | output
  | key
  | url
  | recipients
  | sender
deriving DecidableEq, Repr

/-- Where on a command line a setting may stand: before the command, or behind one of them. -/
inductive Level where
  | program
  | build
  | sync
  | send
deriving DecidableEq, Repr

namespace Setting

/-- The name behind two hyphens. -/
def longName : Setting → String
  | verbose => "verbose"
  | mode => "mode"
  | compiler => "mjml-bin"
  | dryRun => "dry-run"
  | output => "output"
  | key => "api-key"
  | url => "api-url"
  | recipients => "to"
  | sender => "from"

/-- Whether a setting is on once it is named, and takes no value. -/
def isSwitch : Setting → Bool
  | verbose => true
  | dryRun => true
  | _ => false

/-- The variable of the environment that gives a value. -/
def environmentName : Setting → Option String
  | compiler => some "MJML_BIN"
  | key => some "SENDGRID_API_KEY"
  | url => some "SENDGRID_API_URL"
  | recipients => some "SENDGRID_TO_EMAIL"
  | sender => some "SENDGRID_FROM_EMAIL"
  | _ => none

end Setting

/-- The mode of a name. -/
def modeOf? : String → Option Mode
  | "dev" => some .dev
  | "prod" => some .prod
  | _ => none

/-- The output format of a name. -/
def formatOf? : String → Option OutputFormat
  | "pretty" => some .pretty
  | "json" => some .json
  | _ => none

/-- Whether a setting can have a value. -/
def Setting.accepts (value : String) : Setting → Bool
  | verbose => false
  | dryRun => false
  | mode => (modeOf? value).isSome
  | output => (formatOf? value).isSome
  | compiler => !value.isEmpty
  | _ => true

/-- The settings that may stand everywhere. -/
def commonSettings : List Setting := [.verbose, .mode, .compiler]

/-- The settings that may stand at a level. -/
def Level.settings : Level → List Setting
  | program => commonSettings
  | build => commonSettings
  | sync => commonSettings ++ [.dryRun, .output, .key, .url]
  | send => commonSettings ++ [.recipients, .sender, .key, .url]

/-- The setting of a name at a level. -/
def Level.ofLongName? (level : Level) (name : String) : Option Setting :=
  level.settings.find? fun s => s.longName == name

/-- The command of a name. -/
def Level.ofName? : String → Option Level
  | "build" => some build
  | "sync" => some sync
  | "send" => some send
  | _ => none

end MailTemplates.CommandLine
