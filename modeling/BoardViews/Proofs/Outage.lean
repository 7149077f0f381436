import BoardViews.Proofs.Replay
import Mathlib.Data.List.Forall2

/-
  What an outage of the channel changes. Events are published after the commit, one by one, and a
  failure is caught where it arises (`publish_team_event`). So a run in which nothing can be
  published gives the same answers and leaves the same stores as one in which publishing works,
  and where the one publishes an event the other one has a line in its log. Nothing is assumed of
  the run or of the store that it starts from.

  Publishing that works still cannot do without a date and a text; an event that has none is lost
  in both runs, with the same line.
-/

namespace BoardViews

/-! ## Notes -/

/-- A note where publishing works, and what takes its place where publishing fails. -/
inductive Note.Muted : Note → Note → Prop
  | log {level : Level} {text : String} : Muted (.log level text) (.log level text)
  | event {e : Event} {why : String} :
      Muted (.event e) (.log .error ("Failed to publish team event: " ++ why))

/-- Where publishing fails, nothing is published: an event is lost for the reason for which it would
be lost anyway, or else for that one. -/
theorem Event.obstacle?_some (e : Event) (why : String) :
    e.obstacle? (some why) = some ((e.obstacle? none).getD why) := by
  unfold obstacle?
  cases e.time.dateFault? with
  | some date => rfl
  | none => cases e.toJson.writeFault? Json.maxDepth <;> rfl

namespace Note

variable {ns ms : List Note}

theorem muted_delivered (why : String) (n : Note) :
    (n.delivered none).Muted (n.delivered (some why)) := by
  cases n with
  | log level text => exact .log
  | event e =>
    have lost := e.obstacle?_some why
    simp only [delivered, lost]
    cases e.obstacle? none with
    | none => exact .event
    | some other => exact .log

theorem muted_deliver (why : String) (ns : List Note) :
    List.Forall₂ Muted (deliver none ns) (deliver (some why) ns) := by
  unfold deliver
  rw [List.forall₂_map_left_iff, List.forall₂_map_right_iff, List.forall₂_same]
  exact fun n _ => muted_delivered why n

/-- Muted notes hold no event. -/
theorem events_of_muted (h : List.Forall₂ Muted ns ms) : events ms = [] := by
  induction h with
  | nil => rfl
  | cons muted _ ih => cases muted <;> exact ih

end Note

/-! ## Visits -/

/-- A visit where publishing fails for a reason, or where it works. -/
def Visit.publishing (fault : Option String) (v : Visit) : Visit :=
  { v with env := { v.env with publishFault := fault } }

/-- An outcome where publishing works, and one that differs from it in its notes alone, which are
muted. -/
structure Outcome.Muted {α : Type} (o o' : Outcome α) : Prop where
  result : o'.result = o.result
  store : o'.store = o.store
  notes : List.Forall₂ Note.Muted o.notes o'.notes

/-- No task asks whether publishing works. -/
theorem Task.perform_publishing (env : Env) (fault : Option String) (s : Store) (a : Access)
    (t : Task) : t.perform { env with publishFault := fault } s a = t.perform env s a := by
  cases t <;> rfl

theorem Request.attempt_publishing (env : Env) (fault : Option String) (s : Store) (r : Request) :
    r.attempt { env with publishFault := fault } s = r.attempt env s := by
  unfold attempt
  split
  · rfl
  · exact Task.perform_publishing env fault s _ _

theorem Visit.muted (v : Visit) (why : String) (s : Store) :
    ((v.publishing none).outcome s).Muted ((v.publishing (some why)).outcome s) := by
  have outcome (fault : Option String) :
      (v.publishing fault).outcome s = (v.request.attempt v.env s).deliver fault := by
    change (v.request.attempt { v.env with publishFault := fault } s).deliver fault = _
    rw [Request.attempt_publishing]
  rw [outcome none, outcome (some why)]
  exact ⟨rfl, rfl, Note.muted_deliver why _⟩

/-! ## Runs -/

namespace Store

/-- The notes of a run, those of one visit after those of the other. -/
def notes : Store → List Visit → List Note
  | _, [] => []
  | s, v :: run => (v.outcome s).notes ++ notes (v.outcome s).store run

theorem after_publishing (s : Store) (run : List (Visit × String)) :
    s.after (run.map fun e => e.1.publishing (some e.2)) =
      s.after (run.map fun e => e.1.publishing none) := by
  induction run generalizing s with
  | nil => rfl
  | cons e run ih =>
    have first := e.1.muted e.2 s
    have rest := ih ((e.1.publishing (some e.2)).outcome s).store
    refine rest.trans ?_
    rw [first.store]
    rfl

theorem history_publishing (s : Store) (run : List (Visit × String)) :
    s.history (run.map fun e => e.1.publishing (some e.2)) =
      s.history (run.map fun e => e.1.publishing none) := by
  induction run generalizing s with
  | nil => rfl
  | cons e run ih =>
    have first := e.1.muted e.2 s
    rw [List.map_cons, List.map_cons, history, history, first.result, first.store, ih]
    rfl

theorem notes_publishing (s : Store) (run : List (Visit × String)) :
    List.Forall₂ Note.Muted (s.notes (run.map fun e => e.1.publishing none))
      (s.notes (run.map fun e => e.1.publishing (some e.2))) := by
  induction run generalizing s with
  | nil => exact .nil
  | cons e run ih =>
    have first := e.1.muted e.2 s
    rw [List.map_cons, List.map_cons, notes, notes, first.store]
    exact List.rel_append first.notes (ih _)

/-- Nobody but the team notices that nothing can be published: every visit of a run has the same
answer and leaves the same store as where publishing works. No event is published, and the log is
that of the other run with one more line in the place of each event. -/
theorem lost_events_are_only_logged (s : Store) (run : List (Visit × String)) :
    let works := run.map fun e => e.1.publishing none
    let fails := run.map fun e => e.1.publishing (some e.2)
    s.history fails = s.history works ∧
      (∀ n, s.after (fails.take n) = s.after (works.take n)) ∧
      Note.events (s.notes fails) = [] ∧
      List.Forall₂ Note.Muted (s.notes works) (s.notes fails) := by
  intro works fails
  have muted := s.notes_publishing run
  refine ⟨s.history_publishing run, fun n => ?_, Note.events_of_muted muted, muted⟩
  rw [← List.map_take, ← List.map_take]
  exact s.after_publishing (run.take n)

/-- A category is created and two views are put into it while nothing can be published. -/
example :
    let run : List Visit := [.sample "u" "b" (.creation "a"),
      .sample "u" "b" (.categorize (some "a") ["v", "w"])]
    Note.logs (sample.notes (run.map (Visit.publishing (some "timeout")))) =
      (.info, "User u created view category a on board b") ::
        List.replicate 3 (.error, "Failed to publish team event: timeout") := by
  rfl

end Store

end BoardViews
