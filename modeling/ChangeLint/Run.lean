/-
A concurrent run of checkers. All attempts start together; each is due after its delay. The run looks at the results
when the first attempt has failed, or when all have ended; everything due at one instant ends before it looks. On a
failure the attempts that are not due yet are cancelled, and the run fails with the failure of the first checker, in the
order of the registry, among those that have failed by then. An attempt that ends itself as cancelled does not stop the
others, but the run then ends as cancelled.

An attempt may also stop the loop that all run in; nothing is looked at then. And a run may be cancelled from outside. It then
cancels what is not due yet and yields no findings.

The statuses are those of checkers that end as soon as they are cancelled.
-/
import ChangeLint.Checker.Basic

namespace ChangeLint.Run

/-- how a checker ended, if it did -/
inductive Status
  | done
  | raised
  | cancelled
  | unfinished
deriving DecidableEq, Repr

/-- an attempt under its checker's name -/
structure Entrant where
  name : Datum
  attempt : Attempt

def Entrant.due (e : Entrant) : Rat := e.attempt.delay

/-- what an entrant ends with -/
def Entrant.ending (e : Entrant) : Except Failure (Option (List Finding)) := e.attempt.act.result

/-- the failure of an entrant that fails; being cancelled is no failure, and stopping the loop is none either -/
def Entrant.failure? (e : Entrant) : Option Failure :=
  match e.ending with
  | .ok _ => none
  | .error .cancelled => none
  | .error f => if f.isHalting then none else some f

/-- what an entrant stops the loop with -/
def Entrant.halt? (e : Entrant) : Option Failure :=
  match e.ending with
  | .ok _ => none
  | .error f => if f.isHalting then some f else none

/-- the instants at which entrants are due, in order, each once -/
def instants (es : List Entrant) : List Rat := orderedSet (fun a b => a < b) (es.map Entrant.due)

/-- true when there is something to look at by a time: an entrant has failed or stopped the loop, or all have ended -/
def isRousing (es : List Entrant) (t : Rat) : Bool :=
  (es.any fun e => e.due ≤ t && (e.failure?.isSome || e.halt?.isSome)) || es.all fun e => e.due ≤ t

/-- when the run looks at the results: at the first instant at which there is something to look at -/
def lookTime (es : List Entrant) : Rat := ((instants es).find? (isRousing es)).getD 0

/-- the status of an entrant when everything due by a time has ended and the rest is cancelled -/
def Entrant.statusAt (t : Rat) (e : Entrant) : Status :=
  if e.due ≤ t then (match e.ending with | .ok _ => .done | .error _ => .raised) else .cancelled

/-- what the entrants due by a time did, in the order in which they were due -/
def traceUntil (t : Rat) (es : List Entrant) : List Event :=
  ((es.filter fun e => e.due ≤ t).mergeSort fun a b => a.due ≤ b.due).flatMap fun e => e.attempt.act.trace

/-- the end of a run: how each checker ended, and what the run returns -/
structure Outcome where
  statuses : List Status
  act : Act (List (Option (List Finding)))

/-- the results of entrants that have all ended -/
def collect : List Entrant → Except Failure (List (Option (List Finding)))
  | [] => .ok []
  | e :: es => match e.ending with
    | .error f => .error f
    | .ok r => (collect es).map (r :: ·)

/-- the end of a run that looks at a time and finds a failure, if there is one; a loop that was stopped looks at nothing -/
def settle (es : List Entrant) (t : Rat) : Act (List (Option (List Finding))) :=
  let trace := traceUntil t es
  match es.findSome? fun e => if e.due ≤ t then e.halt? else none with
  | some f => ⟨trace, .error f⟩
  | none =>
    match es.find? fun e => e.due ≤ t && e.failure?.isSome with
    | some e =>
      let f := e.failure?.getD .cancelled
      ⟨trace ++ [.note ⟨.error, "Checker " ++ e.name.plain ++ " failed: " ++ f.message⟩], .error f⟩
    | none => ⟨trace, collect es⟩

/-- runs entrants together; `cancelAt` is when the run is cancelled from outside -/
def gather (cancelAt : Option Rat) (es : List Entrant) : Outcome :=
  let look := lookTime es
  let settled : Outcome := ⟨es.map (Entrant.statusAt look), settle es look⟩
  match cancelAt with
  | none => settled
  | some c =>
    if es.isEmpty || look < c then settled
    else ⟨es.map (Entrant.statusAt c), ⟨traceUntil c es, .error .cancelled⟩⟩

def entrants {ι : Type} (checkers : List (Checker ι)) (input : ι) : List Entrant :=
  checkers.map fun c => ⟨c.name, c.attempt input⟩

/-- the findings of all results, noting the number of each; a result that is no list ends the run -/
def joinNoted : List (Datum × Option (List Finding)) → Act (List Finding)
  | [] => pure []
  | (_, none) :: _ => Act.fail (.misuse (.noLength Datum.null.kindName))
  | (name, some fs) :: rest => do
    Act.note .debug (name.plain ++ s!": {fs.length} finding(s)")
    let more ← joinNoted rest
    pure (fs ++ more)

/-- the findings of all results; a result that is no list ends the run -/
def join : List (Option (List Finding)) → Act (List Finding)
  | [] => pure []
  | none :: _ => Act.fail (.misuse (.notIterable Datum.null.kindName))
  | some fs :: rest => do
    let more ← join rest
    pure (fs ++ more)

/-- statuses and findings of a run -/
structure Result where
  statuses : List Status
  act : Act (List Finding)

/-- runs diff checkers on one snapshot and joins their findings in the order of the registry; names that are no texts cannot
be noted, and then nothing is started -/
def diffCheckers (cancelAt : Option Rat) (checkers : List (Checker Snapshot)) (s : Snapshot) : Result :=
  let names := checkers.map (·.name)
  match Finding.misfit? names with
  | some f => ⟨checkers.map fun _ => .unfinished, Act.fail f⟩
  | none =>
    let o := gather cancelAt (entrants checkers s)
    ⟨o.statuses, do
      Act.note .debug (s!"Running {checkers.length} diff checker(s): " ++ ", ".intercalate (names.map Datum.plain))
      let results ← o.act
      joinNoted (names.zip results)⟩

/-- runs merge-request checkers and joins their findings in the order of the registry -/
def mergeRequestCheckers (cancelAt : Option Rat) (checkers : List (Checker MergeRequest)) (m : MergeRequest) : Result :=
  let o := gather cancelAt (entrants checkers m)
  ⟨o.statuses, o.act >>= join⟩

end ChangeLint.Run
