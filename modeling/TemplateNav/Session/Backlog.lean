import TemplateNav.Session.Task

/-!
# The backlog of the worker

One worker runs the tasks of a session in the order they came.  The first task
is running and cannot be stopped; one behind it is skipped if its query was
cancelled in the meantime.  A query over its budget is answered while its task
stays in the backlog.
-/

namespace TemplateNav

/-- The end of a query, under the client's number for it. -/
structure Ended where
  id : Int
  answer : Option Answer
  deriving DecidableEq

/-- What a session says when several queries end. -/
structure Verdicts where
  ended : List Ended
  messages : List Message

namespace Verdicts

/-- Nothing ended. -/
def none : Verdicts := ⟨[], []⟩

end Verdicts

namespace Session

/-- Puts an accepted query to the worker; without a task it is answered at once. -/
def enqueue (session : Session) (id : Int) (query : Query) : Session × Option Task :=
  match session.accept query with
  | (session, none) => (session, none)
  | (session, some task) =>
    ({ session with backlog := session.backlog ++ [⟨id, task, false⟩] }, some task)

/-- Whether a job has no answer yet and its budget is used up. -/
def isOverdue (session : Session) (job : Job) : Bool :=
  !job.isAnswered && job.task.startedAt + job.task.budget ≤ session.clock

/-- Ends queries one after the other. -/
def settleAll (session : Session) : List (Job × Outcome) → Session × Verdicts
  | [] => (session, .none)
  | (job, outcome) :: rest =>
    let (session, verdict) := session.settle job.task outcome
    let (session, verdicts) := session.settleAll rest
    (session,
      ⟨⟨job.id, verdict.answer⟩ :: verdicts.ended, verdict.messages ++ verdicts.messages⟩)

/-- Answers the queries that are over their budget. -/
def expireOverdue (session : Session) : Session × Verdicts :=
  let overdue := session.backlog.filter session.isOverdue
  let session := { session with
    backlog := session.backlog.map fun job =>
      if session.isOverdue job then { job with isAnswered := true } else job }
  session.settleAll (overdue.map fun job => (job, .overBudget))

/-- Runs the jobs of the worker, of which the first may be running already. -/
def runJobs (session : Session) (isRunning : Bool) :
    List Job → Session × List (Job × Outcome)
  | [] => (session, [])
  | job :: rest =>
    if !isRunning && session.tracker.isCancelled job.task.ticket then
      let (session, outcomes) := session.runJobs false rest
      (session, (job, .cancelled) :: outcomes)
    else
      let (session, answer) := session.perform job.task
      let (session, outcomes) := session.runJobs false rest
      (session, (job, .finished answer) :: outcomes)

/-- Lets the worker run everything it holds, then answers the queries that have no answer yet. -/
def release (session : Session) : Session × Verdicts :=
  let (session, outcomes) := session.runJobs true session.backlog
  let session := { session with backlog := [] }
  session.settleAll (outcomes.filter fun outcome => !outcome.1.isAnswered)

end Session

end TemplateNav
