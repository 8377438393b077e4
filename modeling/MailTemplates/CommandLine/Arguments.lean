import MailTemplates.CommandLine.Setting
/-!
# Reading the command line

Arguments are read from the left. A setting that takes a value waits for it, and its value is judged
only when the next setting or the end is reached. Behind a command its own settings follow. What is
not set on the command line is taken from the environment, and else from the defaults; a setting
given on both sides of the command has the value behind it.
-/

namespace MailTemplates.CommandLine

/-- Why there is nothing to run. -/
inductive Refusal where
  | helpWanted
  | versionWanted
  /-- Nothing at all was given. -/
  | nothingGiven
  | noCommand
  | unknownCommand
  | unknownArgument
  | badValue
  | givenTwice
  | missingArgument
  /-- A switch was given a value. -/
  | valueOfSwitch
deriving DecidableEq, Repr

/-- The status that a refusal stands for. -/
def Refusal.status : Refusal → Nat
  | helpWanted => 0
  | versionWanted => 0
  | _ => 2

/-- The variables of the environment. -/
abbrev Environment := String → Option String

/-! ## The settings of one level -/

/-- The settings read so far, and one whose value has not been judged yet or is still to come. -/
structure Reading where
  given : List (Setting × String) := []
  waiting : Option (Setting × Option String) := none
deriving DecidableEq, Repr

namespace Reading

/-- Whether the next argument is the value of a setting. -/
def wantsValue (r : Reading) : Bool :=
  match r.waiting with
  | some (_, none) => true
  | _ => false

/-- Sets something that is not set yet. -/
def add (r : Reading) (setting : Setting) (value : String) : Except Refusal Reading :=
  if r.given.any fun e => e.1 == setting then .error .givenTwice
  else .ok { r with given := r.given ++ [(setting, value)] }

/-- Judges the setting that was waiting. -/
def settle (r : Reading) : Except Refusal Reading :=
  match r.waiting with
  | none => .ok r
  | some (_, none) => .error .badValue
  | some (setting, some value) => do
    let r ← ({ r with waiting := none } : Reading).add setting value
    if setting.accepts value then return r else throw .badValue

/-- Reads a setting that was named, with the value behind an equals sign. -/
def name (r : Reading) (setting : Setting) (value : Option String) : Except Refusal Reading :=
  if setting.isSwitch then
    match value with
    | some _ => .error .valueOfSwitch
    | none => do (← r.settle).add setting ""
  else do
    let r ← r.settle
    match value with
    | some value => settle { r with waiting := some (setting, some value) }
    | none => return { r with waiting := some (setting, none) }

end Reading

/-- Reads the letters behind one hyphen. -/
def readLetters (level : Level) (r : Reading) : List Char → Except Refusal Reading
  | [] => .ok r
  | c :: cs => do
    if c = 'v' then readLetters level (← r.name .verbose none) cs
    else if c = 'h' then
      let _ ← r.settle
      throw .helpWanted
    else if c = 'V' && level = .program then
      let _ ← r.settle
      throw .versionWanted
    else throw .unknownArgument

/-- Reads what stands behind two hyphens. -/
def readLong (level : Level) (r : Reading) (text : List Char) : Except Refusal Reading := do
  let name := String.ofList (text.takeWhile (· != '='))
  let value := match text.dropWhile (· != '=') with
    | [] => none
    | _ :: value => some (String.ofList value)
  match level.ofLongName? name with
  | some setting => r.name setting value
  | none =>
    if name == "help" || (name == "version" && level = .program) then
      if value.isSome then throw .valueOfSwitch
      let _ ← r.settle
      throw (if name == "help" then .helpWanted else .versionWanted)
    else throw .unknownArgument

/-- What the arguments behind the word for help ask for: the commands nest no deeper than one. -/
def helpRefusal : List String → Refusal
  | [] => .helpWanted
  | [name] => if (Level.ofName? name).isSome || name == "help" then .helpWanted else .unknownCommand
  | _ => .unknownCommand

/-- What is wrong with an argument that is no setting. -/
def strayArgument (level : Level) (closed : Bool) (argument : String) : Refusal :=
  if level = .program && !(closed && ((Level.ofName? argument).isSome || argument == "help")) then
    .unknownCommand
  else .unknownArgument

/-- Reads the arguments of a level up to a command, which is given with the arguments behind it.
Behind two hyphens that stand alone there are no settings and no commands. -/
def readLevel (level : Level) (r : Reading) :
    List String → Except Refusal (Reading × Option (Level × List String))
  | [] => .ok (r, none)
  | argument :: rest => do
    if !r.wantsValue && level = .program && argument == "help" then throw (helpRefusal rest)
    match if !r.wantsValue && level = .program then Level.ofName? argument else none with
    | some command => return (r, some (command, rest))
    | none =>
      match argument.toList with
      | ['-', '-'] =>
        match rest with
        | [] => return (r, none)
        | stray :: _ => throw (strayArgument level true stray)
      | '-' :: '-' :: text => readLevel level (← readLong level r text) rest
      | '-' :: c :: cs => readLevel level (← readLetters level r (c :: cs)) rest
      | _ =>
        match r.waiting with
        | some (setting, none) =>
          readLevel level { r with waiting := some (setting, some argument) } rest
        | _ => throw (strayArgument level false argument)

/-! ## The environment -/

/-- The value of a setting in the environment. -/
def Environment.valueOf? (environment : Environment) (setting : Setting) : Option String :=
  setting.environmentName.bind environment

/-- Checks what the environment gives for settings that are not given. -/
def checkEnvironment (environment : Environment) (level : Level) (r : Reading) :
    Except Refusal Unit :=
  let isBad (setting : Setting) : Bool :=
    !(r.given.any fun e => e.1 == setting) &&
      match environment.valueOf? setting with
      | some value => !setting.accepts value
      | none => false
  if level.settings.any isBad then .error .badValue else .ok ()

/-- Checks that a level has what it needs. -/
def checkNeeded (environment : Environment) (level : Level) (r : Reading) : Except Refusal Unit :=
  if level = .sync && !(r.given.any fun e => e.1 == .key) &&
      (environment.valueOf? .key).isNone then .error .missingArgument
  else .ok ()

/-! ## Arguments -/

/-- What is to be done. -/
inductive Command where
  | build
  | sync (dryRun : Bool) (output : OutputFormat) (key url : String)
  | send (recipients sender key : Option String) (url : String)
deriving DecidableEq, Repr

/-- A command line that can be run. -/
structure Arguments where
  command : Command
  verbose : Bool
  /-- The mode that was asked for. -/
  modeGiven : Option Mode
  /-- The program that compiles documents. -/
  compiler : String
deriving DecidableEq, Repr

/-- The mode in which a command runs if none is asked for. -/
def Command.defaultMode : Command → Mode
  | .build => .prod
  | .sync .. => .prod
  | .send .. => .dev

/-- The mode in which a command line runs. -/
def Arguments.mode (arguments : Arguments) : Mode :=
  arguments.modeGiven.getD arguments.command.defaultMode

/-- The value of a setting: that behind the command, else that before it, else that of the
environment. -/
def pick (before behind : Reading) (environment : Environment) (setting : Setting) :
    Option String :=
  (behind.given.lookup setting).orElse fun _ =>
    (before.given.lookup setting).orElse fun _ => environment.valueOf? setting

/-- The command of a level; nothing before a command. -/
def commandOf (value : Setting → Option String) : Level → Option Command
  | .program => none
  | .build => some .build
  | .sync => some (.sync (value .dryRun).isSome (((value .output).bind formatOf?).getD .pretty)
      ((value .key).getD "") ((value .url).getD Remote.Client.defaultUrl))
  | .send => some (.send (value .recipients) (value .sender) (value .key)
      ((value .url).getD Remote.Client.defaultUrl))

/-- What is missing if there is no command. -/
def withoutCommand (environment : Environment) (r : Reading) : Refusal :=
  if r.given.isEmpty && commonSettings.all fun s => (environment.valueOf? s).isNone then
    .nothingGiven
  else .noCommand

/-- Reads the arguments behind a command. -/
def readCommand (environment : Environment) (level : Level) (arguments : List String) :
    Except Refusal Reading := do
  let (r, _) ← readLevel level {} arguments
  let r ← r.settle
  checkEnvironment environment level r
  checkNeeded environment level r
  return r

/-- Reads a command line. -/
def Arguments.parse (environment : Environment) (arguments : List String) :
    Except Refusal Arguments := do
  let (before, command?) ← readLevel .program {} arguments
  match command? with
  | none =>
    let before ← before.settle
    checkEnvironment environment .program before
    throw (withoutCommand environment before)
  | some (level, rest) =>
    let behind ← readCommand environment level rest
    let before ← before.settle
    checkEnvironment environment .program before
    let value := pick before behind environment
    match commandOf value level with
    | none => throw .noCommand
    | some command => return {
        command
        verbose := (value .verbose).isSome
        modeGiven := (value .mode).bind modeOf?
        compiler := (value .compiler).getD "mjml" }

end MailTemplates.CommandLine
