import Autograder.Log.Submission

/-!
# Sessions

A session is a run of steps over stored exercises, a ledger and an audit trail: files come and go,
configurations are stored, users submit code, and an administrator looks into the ledger and the
trail.
-/

namespace Autograder

open Autograder.Storage

/-- What a session works on. -/
structure Session where
  /-- The path of the storage root. -/
  root : String
  tree : FileTree := {}
  ledger : Ledger := {}
  /-- The audit trail, the oldest entry first. -/
  trail : List AuditEntry := []

namespace Session

/-- One step of a session. Paths of files are below the storage root. -/
inductive Step where
  | write (path : String) (content : ByteArray)
  | makeDirectory (path : String)
  | remove (path : String)
  | read (path : String)
  /-- Lays out an exercise, with a solution in a file of the given name. -/
  | create (id : ExerciseId) (config : ExerciseConfig) (solution : Option (String × String))
  | saveConfig (id : ExerciseId) (config : ExerciseConfig)
  | loadConfig (id : ExerciseId)
  | loadRubric (id : ExerciseId)
  | configOf (id : ExerciseId)
  | solutionOf (id : ExerciseId)
  | rulesOf (id : ExerciseId)
  | submit (attempt : Attempt) (code : String)
  /-- A submission that is audited in the log instead of the trail. -/
  | submitLogged (attempt : Attempt) (code : String)
  | claim (attempt : Attempt)
  | has (attempt : Attempt)
  | record (attempt : Attempt)
  | reset (attempt : Attempt)
  | audit (entry : AuditEntry)
  | readTrail

inductive Answer where
  | done (ok : Bool)
  | text (content : Option String)
  | created (directory : String)
  | saved (result : Except SaveFault Unit)
  | loadedConfig (result : Except MaterialFault ExerciseConfig)
  | loadedRubric (result : Except MaterialFault RubricFile)
  | config (result : Except SubmissionError ExerciseConfig)
  | solution (result : Except SubmissionError String)
  | rules (result : Except SubmissionError (List Rule))
  | submitted (result : Except SubmissionError SubmissionResult)
  | claimed (won : Bool)
  | has (used : Bool)
  | trail (entries : List AuditEntry)

/-- What a step leads to. -/
structure Next where
  session : Session
  answer : Answer
  records : List Log.Record := []

def exercises (session : Session) : Exercises :=
  ⟨session.tree.files, session.root⟩

/-- The session with a tree that was changed, and whether all of the change succeeded. -/
def changed (session : Session) (change : FileTree × Except FileError Unit) : Next where
  session := { session with tree := change.1 }
  answer := .done change.2.isOk

/-- Lays out an exercise. -/
def create (session : Session) (id : ExerciseId) (config : ExerciseConfig)
    (solution : Option (String × String)) : Next :=
  let (tree, _) := config.save session.tree session.root id
  let tree := match solution with
    | some (name, code) => (tree.write (id.file session.root name) code.toUTF8).toOption.getD tree
    | none => tree
  { session := { session with tree }, answer := .created (id.directory session.root) }

/-- The records of loading a rubric that is asked for. -/
def rubricRecords (session : Session) (id : ExerciseId) : List Log.Record :=
  Log.rubricLoading session.exercises id

def submit (session : Session) (attempt : Attempt) (code : String) (inLog : Bool) : Next :=
  let submitted := attempt.submit session.exercises session.ledger code
  { session :=
      { session with
        ledger := submitted.ledger
        trail := if inLog then session.trail else session.trail ++ [submitted.entry] }
    answer := .submitted submitted.result
    records :=
      Log.beforeAudit attempt session.exercises session.ledger code
        ++ (if inLog then [submitted.entry.record] else [])
        ++ Log.afterAudit attempt session.exercises session.ledger code }

def step (session : Session) : Step → Next
  | .write path content =>
    session.changed (session.tree.place (Path.join session.root path) content)
  | .makeDirectory path =>
    session.changed (session.tree.makeDirectories (Path.join session.root path))
  | .remove path => session.changed (session.tree.remove (Path.join session.root path))
  | .read path =>
    { session
      answer := .text (session.tree.files.readText (Path.join session.root path)).toOption }
  | .create id config solution => session.create id config solution
  | .saveConfig id config =>
    let (tree, result) := config.save session.tree session.root id
    { session := { session with tree }, answer := .saved result }
  | .loadConfig id => { session, answer := .loadedConfig (session.exercises.config id) }
  | .loadRubric id =>
    { session
      answer := .loadedRubric (session.exercises.rubric id)
      records := session.rubricRecords id }
  | .configOf id => { session, answer := .config (session.exercises.configOf id) }
  | .solutionOf id => { session, answer := .solution (session.exercises.solutionOf id) }
  | .rulesOf id =>
    { session
      answer := .rules (session.exercises.rulesOf id)
      records := if session.exercises.has id then session.rubricRecords id else [] }
  | .submit attempt code => session.submit attempt code false
  | .submitLogged attempt code => session.submit attempt code true
  | .claim attempt =>
    match session.ledger.claim? attempt with
    | some ledger => { session := { session with ledger }, answer := .claimed true }
    | none => { session, answer := .claimed false }
  | .has attempt => { session, answer := .has (session.ledger.has attempt) }
  | .record attempt =>
    { session := { session with ledger := session.ledger.record attempt }, answer := .done true }
  | .reset attempt =>
    { session := { session with ledger := session.ledger.reset attempt }, answer := .done true }
  | .audit entry =>
    { session := { session with trail := session.trail ++ [entry] }, answer := .done true }
  | .readTrail => { session, answer := .trail session.trail }

/-- Takes steps in order. -/
def run (session : Session) : List Step → List Next
  | [] => []
  | step :: rest =>
    let next := session.step step
    next :: next.session.run rest

/-- The session after steps. -/
def after (session : Session) (steps : List Step) : Session :=
  steps.foldl (fun session step => (session.step step).session) session

end Session

end Autograder
