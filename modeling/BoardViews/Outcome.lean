import BoardViews.Event
import BoardViews.Failure
import BoardViews.Store.Basic

/-
  What an operation leaves behind: a result or a failure, the store, and notes, which are log
  lines and events in the order in which they arise. Notes hold the log lines from INFO on; the
  two lines for debugging, one that `create` writes of the siblings that it moved and one that
  `publish_team_event` writes of an event that went out, are left out. No setting leaves out any
  of the others: `Settings.logLevel` decides what of the log is shown, not what is written.

  Publishing is best effort: an event that cannot be published is replaced by a log line and nothing
  else is different (`Note.deliver`, for `publish_team_event`). Every write goes through
  `Store.transact`: statements and a commit, and where one of them fails the rollback and the log
  line that the functions of the repositories share.
-/

namespace BoardViews

/-- The levels of log lines, from INFO on. -/
inductive Level where
  | info
  | warning
  | error
  deriving DecidableEq, Repr

/-- The name of a level. -/
def Level.name : Level → String
  | .info => "INFO"
  | .warning => "WARNING"
  | .error => "ERROR"

/-- A line of the log, or an event. -/
inductive Note where
  | log (level : Level) (text : String)
  | event (e : Event)

namespace Note

/-- A note as it is delivered: an event that cannot be published is replaced by a log line
(`publish_team_event`). Its line for debugging, where the event goes out, is no note. -/
def delivered (reason : Option String) : Note → Note
  | .log level text => .log level text
  | .event e =>
    match e.obstacle? reason with
    | none => .event e
    | some why => .log .error ("Failed to publish team event: " ++ why)

/-- The notes as they are delivered, with the reason for which publishing fails, if it does. -/
def deliver (reason : Option String) (notes : List Note) : List Note :=
  notes.map (delivered reason)

/-- The events among notes. -/
def events (notes : List Note) : List Event :=
  notes.filterMap fun | .event e => some e | .log _ _ => none

/-- The log lines among notes. -/
def logs (notes : List Note) : List (Level × String) :=
  notes.filterMap fun | .log level text => some (level, text) | .event _ => none

@[simp] theorem events_nil : events [] = [] := rfl

@[simp] theorem events_log (level : Level) (text : String) (ns : List Note) :
    events (.log level text :: ns) = events ns := rfl

@[simp] theorem events_event (e : Event) (ns : List Note) :
    events (.event e :: ns) = e :: events ns := rfl

@[simp] theorem events_append (ns ms : List Note) : events (ns ++ ms) = events ns ++ events ms :=
  List.filterMap_append

/-- Delivery keeps the events that nothing stands in the way of, in their order. -/
theorem events_deliver (reason : Option String) (ns : List Note) :
    events (deliver reason ns) = (events ns).filter fun e => (e.obstacle? reason).isNone := by
  induction ns with
  | nil => rfl
  | cons n ns ih =>
    rw [deliver, List.map_cons, ← deliver]
    cases n with
    | log level text => simpa [delivered] using ih
    | event e =>
      cases h : e.obstacle? reason with
      | none => simp [delivered, h, ih]
      | some why => simp [delivered, h, ih]

end Note

/-- What an operation leaves behind. -/
structure Outcome (α : Type) where
  result : Except Failure α
  store : Store
  notes : List Note

namespace Outcome

variable {α β : Type}

/-- An operation that succeeds and changes nothing. -/
def done (s : Store) (a : α) : Outcome α := ⟨.ok a, s, []⟩

/-- An operation that is refused. -/
def refused (s : Store) (why : Refusal) : Outcome α := ⟨.error (.refusal why), s, []⟩

/-- An operation that cannot be carried out and changes nothing. -/
def broken (s : Store) (why : Fault) : Outcome α := ⟨.error (.fault why), s, []⟩

/-- Notes that follow a success. -/
def noting (o : Outcome α) (notes : α → List Note) : Outcome α :=
  match o.result with
  | .ok a => { o with notes := o.notes ++ notes a }
  | .error _ => o

/-- The result changed by a function. -/
def map (f : α → β) (o : Outcome α) : Outcome β := ⟨o.result.map f, o.store, o.notes⟩

/-- The outcome where publishing fails for a reason, if there is one. -/
def deliver (reason : Option String) (o : Outcome α) : Outcome α :=
  { o with notes := Note.deliver reason o.notes }

end Outcome

/-- A log line where the store could not carry out what was being done. -/
def Outcome.blaming {α : Type} (doing : String) (o : Outcome α) : Outcome α :=
  match o.result with
  | .error (.fault f) =>
    if f.isOfStatement then
      { o with notes := o.notes ++ [.log .error ("Error " ++ doing ++ ": <" ++ f.label ++ ">")] }
    else o
  | _ => o

/-! ## Sessions -/

/-- The work of a session on the store. What it writes is seen by the session alone, from one
statement to the next; a fault ends it and leaves what was written so far. -/
abbrev Work (α : Type) : Type := EStateM Fault Store α

instance : MonadLift (Except Fault) (EStateM Fault Store) where
  monadLift
    | .ok a => pure a
    | .error f => throw f

namespace Work

variable {α β : Type} {s s' : Store}

@[simp] theorem run_pure (a : α) (s : Store) : (pure a : Work α).run s = .ok a s := rfl

@[simp] theorem run_get (s : Store) : (get : Work Store).run s = .ok s s := rfl

@[simp] theorem run_set (t s : Store) : (set t : Work PUnit).run s = .ok ⟨⟩ t := rfl

@[simp] theorem run_modify (f : Store → Store) (s : Store) :
    (modify f : Work PUnit).run s = .ok ⟨⟩ (f s) := rfl

/-- Work that follows other work goes on with what that one wrote. -/
theorem run_bind_eq_ok {work : Work α} {next : α → Work β} {b : β} :
    (work >>= next).run s = .ok b s' ↔
      ∃ a t, work.run s = .ok a t ∧ (next a).run t = .ok b s' := by
  change EStateM.bind work next s = _ ↔ _
  unfold EStateM.bind EStateM.run
  cases work s with
  | ok a t =>
    constructor
    · intro h
      exact ⟨a, t, rfl, h⟩
    · rintro ⟨a', t', h, h'⟩
      cases h
      exact h'
  | error f t =>
    constructor
    · intro h
      cases h
    · rintro ⟨a', t', h, -⟩
      cases h

/-- A check in front of the statements writes nothing. -/
theorem run_lift_eq_ok {check : Except Fault α} {a : α} :
    (liftM check : Work α).run s = .ok a s' ↔ check = .ok a ∧ s' = s := by
  cases check with
  | ok b =>
    change EStateM.Result.ok b s = .ok a s' ↔ _
    simp [eq_comm]
  | error f =>
    change EStateM.Result.error f s = .ok a s' ↔ _
    simp

end Work

/-- A session on the store: where its work fails, all that it wrote is dropped. -/
def Store.attempt {α : Type} (s : Store) (work : Work α) : Outcome α :=
  match work.run s with
  | .ok a s' => ⟨.ok a, s', []⟩
  | .error f _ => .broken s f

/-- The commit of a session: it fails where the connection is lost. -/
def reach (connected : Bool) : Work Unit :=
  if connected then pure () else throw .connectionLost

/-- The work of a session, followed by its commit. -/
def committed {α : Type} (connected : Bool) (work : Work α) : Work α := do
  let a ← work
  reach connected
  return a

/-- A commit that fails finds everything written; only the end of the session drops it. -/
theorem committed_run {α : Type} (connected : Bool) (work : Work α) (s : Store) :
    (committed connected work).run s =
      match work.run s with
      | .ok a s' => if connected then .ok a s' else .error .connectionLost s'
      | .error f s' => .error f s' := by
  change EStateM.bind work _ s = _
  unfold EStateM.bind EStateM.run
  cases work s with
  | ok a s' => cases connected <;> rfl
  | error f s' => rfl

/-- The work of a session and its commit, with a log line that says what was being done if the store
could not carry it out. -/
def Store.transact {α : Type} (s : Store) (connected : Bool) (doing : String) (work : Work α) :
    Outcome α :=
  (s.attempt (committed connected work)).blaming doing

end BoardViews
