import MailTemplates.Script.Expansion
import MailTemplates.Script.Tool.Basic
/-!
# Redirections

Before a command is run its channels are led to where its redirections say, one after another. If
one of them cannot be, the command is not run.

Channels are led one after another, and a later redirection sees where the earlier ones have led: a
channel that is copied first and led elsewhere afterwards keeps the place it had.
-/

namespace MailTemplates.Script.Machine

private def openReason (p : FileProblem) (reading : Bool) : String :=
  match p with
  | .notFound | .notDirectory => if reading then "No such file" else "Directory nonexistent"
  | _ => problemText p

/-- Leads a channel to a file. -/
def openFile (m : Machine) (channel : Nat) (opening : Opening) (name : String) : Machine × Bool :=
  let cannot (what : String) (p : FileProblem) : Machine × Bool :=
    let reason := openReason p (what == "open")
    (m.failed s!"cannot {what} {name}: {reason}" 2, false)
  let leading (other : Nat) : Machine × Bool :=
    match m.channel? other with
    | some c => (m.lead channel c, true)
    | none => cannot "open" .notFound
  let writing : Machine × Bool :=
    match m.tree.write (m.path name) ByteArray.empty with
    | .ok tree => ({ m with tree }.lead channel (.file (m.path name)), true)
    | .error p => cannot "create" p
  match name with
  | "/dev/null" => (m.lead channel .nowhere, true)
  | "/dev/zero" => (m.lead channel .zeros, true)
  | "/dev/stdin" => leading 0
  | "/dev/stdout" => leading 1
  | "/dev/stderr" => leading 2
  | _ =>
    match opening with
    | .reading =>
      match m.fileText name with
      | .ok text =>
        let (m, c) := m.newBuffer text
        (m.lead channel c, true)
      | .error .isDirectory => (m.lead channel .nowhere, true)
      | .error p => cannot "open" p
    | .writing => writing
    | .appending | .both =>
      if m.tree.isFile (m.path name) then (m.lead channel (.file (m.path name)), true) else writing

/-- Leads a channel where another one leads, or closes it. -/
def copyChannel (m : Machine) (channel : Nat) (source : String) : Machine × Bool :=
  if source == "-" then (m.close channel, true)
  else
    match source.toNat? with
    | none => (m.broken s!"Syntax error: {Flaw.message .badChannel}", false)
    | some n =>
      match m.channel? n with
      | some c => (m.lead channel c, true)
      | none => (m.failed s!"{n}: Bad file descriptor" 2, false)

/-- Leads channels as redirections say, until one of them fails. -/
def redirect (capture : Capture) (fuel : Nat) (m : Machine) : List Redirection → Machine × Bool
  | [] => (m, true)
  | r :: rs =>
    let (m, done) : Machine × Bool := match r with
      | .file channel opening target =>
        let (m, name) := expandText capture fuel m target
        if m.jump.isSome then (m, false) else m.openFile channel opening name
      | .copy channel source =>
        let (m, name) := expandText capture fuel m source
        if m.jump.isSome then (m, false) else m.copyChannel channel name
      | .document channel body =>
        let (m, text) := expandText capture fuel m body
        if m.jump.isSome then (m, false)
        else
          let (m, c) := m.newBuffer text.toList
          (m.lead channel c, true)
    if done then redirect capture fuel m rs else (m, false)

end MailTemplates.Script.Machine
