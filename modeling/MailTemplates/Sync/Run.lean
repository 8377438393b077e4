import MailTemplates.Build.Pipeline
import MailTemplates.Remote.Store
import MailTemplates.Sync.Comparable
import MailTemplates.Sync.Report
import MailTemplates.Sync.Schedule
/-!
# Synchronising a project with a store

Every template is built, and its active version fetched, all at the same time. Once everything is
done the templates that have changed are published, again all at the same time. If anything fails,
the failure that counts is that of the first template in the order of the project, and of one
template that of its build.

Main statement: `collect_of_load_error` (a missing component starts no work).
-/

namespace MailTemplates

/-- The work that collecting a template takes. -/
inductive Job where
  | build (template : Template)
  | fetch (template : Template)
deriving DecidableEq, Repr

namespace Sync

/-- The jobs of some templates: for each its build and then its fetch. -/
def jobs (templates : List Template) : List Job :=
  templates.flatMap fun t => [.build t, .fetch t]

/-- The worker for a job. Building leaves the store alone. -/
def worker {S : Type} (store : Store S) (buildPage : Template → Outcome String) :
    Job → Worker S (Outcome String)
  | .build t => fun s => (s, buildPage t)
  | .fetch t => store.fetch t

/-- The result of a build. A crash is a failure of the build. -/
def builtPage (t : Template) : Outcome String → Except Failure String
  | .ok page => .ok page
  | .error (.failure cause) => .error cause
  | .error .crash => .error (.stage "build" t.label (.workerCrashed "building"))

/-- The result of a fetch. A crash is a failure of the store. -/
def fetchedContent (t : Template) : Outcome String → Except Failure String
  | .ok content => .ok content
  | .error (.failure cause) => .error cause
  | .error .crash => .error (.remote (.fetchCrashed t.id))

/-- The result of publishing. A crash is a failure of the store. -/
def publishedVersion : Outcome Unit → Except Failure Unit
  | .ok () => .ok ()
  | .error (.failure cause) => .error cause
  | .error .crash => .error (.remote .publishCrashed)

/-- Puts the results of the jobs of some templates together, or gives the first failure. -/
def comparables : List Template → List (Outcome String) → Except Failure (List Comparable)
  | t :: templates, built :: fetched :: results => do
    let content ← builtPage t built
    let remote ← fetchedContent t fetched
    return ⟨t, content, remote⟩ :: (← comparables templates results)
  | _, _ => .ok []

/-- Builds all templates of a project and fetches what is published of them. -/
def collect {S : Type} (schedule : Schedule) (tree : FileTree) (project : LoadedProject)
    (compiler : Compiler) (store : Store S) (s : S) : S × Except Failure (List Comparable) :=
  match Components.load tree project.toProject with
  | .error failure => (s, .error failure)
  | .ok components =>
    let buildPage :=
      (Pipeline.ofProject project).buildTemplate tree project.toProject compiler components
    let (s, results) :=
      settle schedule ((jobs project.templates).map (worker store buildPage)) s
    (s, comparables project.templates results)

/-- The first failure of some results, if there is one. -/
def firstFailure : List (Outcome Unit) → Except Failure Unit
  | [] => .ok ()
  | result :: results => do
    publishedVersion result
    firstFailure results

/-- Publishes pages under one version name. Each is tried, whatever becomes of the others. -/
def publish {S : Type} (schedule : Schedule) (store : Store S) (changed : List Comparable)
    (version : String) (s : S) : S × Except Failure Unit :=
  let (s, results) :=
    settle schedule (changed.map fun c => store.publish c.template c.content version) s
  (s, firstFailure results)

/-- If a component is missing, neither a build nor a fetch is started. -/
theorem collect_of_load_error {S : Type} {schedule : Schedule} {tree : FileTree}
    {project : LoadedProject} {compiler : Compiler} {store : Store S} {s : S} {failure : Failure}
    (h : Components.load tree project.toProject = .error failure) :
    collect schedule tree project compiler store s = (s, .error failure) := by
  simp [collect, h]

end Sync

/-- Brings a store in line with a project, or only finds out what would change. -/
def sync {S : Type} (schedule : Schedule) (tree : FileTree) (project : LoadedProject)
    (compiler : Compiler) (store : Store S) (version : String) (dryRun : Bool) (s : S) :
    S × Except Failure Report :=
  match Sync.collect schedule tree project compiler store s with
  | (s, .error failure) => (s, .error failure)
  | (s, .ok comparables) =>
    let changed := changes comparables
    let report : Report := ⟨dryRun, changed.map Comparable.template⟩
    if dryRun then (s, .ok report)
    else
      match Sync.publish schedule store changed version s with
      | (s, .error failure) => (s, .error failure)
      | (s, .ok ()) => (s, .ok report)

end MailTemplates
