import BoardViews.Proofs.Run
import BoardViews.Store.Upkeep

/-
  Failure is atomic. A session may have written when a fault ends it: a category may be inserted
  and its siblings moved (`create`), or some of many views moved (`upsert`), before the commit
  fails. None of that is stored, and nothing is announced. `Outcome.Atomic` says so of one
  outcome, each way of making an outcome keeps it, and the methods of `CategorizationService` and
  the writes past them are made in these ways. Nothing is assumed of the store, the clock or the
  connection.

  A plain insertion is left out on purpose: with a foreign value in the place of the table it
  stores its row and then fails.
-/

namespace BoardViews

namespace Outcome

variable {α β : Type} {s : Store} {o : Outcome α}

/-- Where an operation on a store fails, the store is as it was and nothing is announced. -/
def Atomic (s : Store) (o : Outcome α) : Prop :=
  ∀ f, o.result = .error f → o.store = s ∧ Note.events o.notes = []

/-! ## Outcomes that are made in one go -/

theorem atomic_done (s : Store) (a : α) : (done s a).Atomic s := by
  intro f h
  cases h

theorem atomic_refused (s : Store) (why : Refusal) : (refused s why : Outcome α).Atomic s :=
  fun _ _ => ⟨rfl, rfl⟩

theorem atomic_broken (s : Store) (why : Fault) : (broken s why : Outcome α).Atomic s :=
  fun _ _ => ⟨rfl, rfl⟩

/-! ## Outcomes that are made of others -/

theorem Atomic.map (h : o.Atomic s) (f : α → β) : (o.map f).Atomic s := by
  intro e he
  unfold Outcome.map at he ⊢
  cases hr : o.result with
  | ok a => rw [hr] at he; cases he
  | error e' => exact h e' hr

/-- What is noted after a success is not noted after a failure. -/
theorem Atomic.noting (h : o.Atomic s) (notes : α → List Note) : (o.noting notes).Atomic s := by
  intro e he
  unfold Outcome.noting at he ⊢
  cases hr : o.result with
  | ok a => simp only [hr] at he; cases he
  | error e' => exact h e' hr

theorem Atomic.blaming (h : o.Atomic s) (doing : String) : (o.blaming doing).Atomic s := by
  unfold Outcome.blaming
  split
  · next f hr =>
    split
    · obtain ⟨hs, hn⟩ := h (.fault f) hr
      intro e _
      exact ⟨hs, by simp [hn]⟩
    · exact h
  · exact h

theorem Atomic.deliver (h : o.Atomic s) (reason : Option String) :
    (o.deliver reason).Atomic s := by
  intro e he
  obtain ⟨hs, hn⟩ := h e he
  refine ⟨hs, ?_⟩
  rw [Outcome.deliver, Note.events_deliver, hn, List.filter_nil]

end Outcome

open Outcome

/-! ## Sessions -/

/-- Whatever the statements of a session are and wherever a fault ends them, the store is as it was
before the session. -/
theorem Store.atomic_attempt {α : Type} (s : Store) (work : Work α) :
    (s.attempt work).Atomic s := by
  unfold Store.attempt
  split
  · intro f hf
    cases hf
  · exact atomic_broken s _

theorem Store.atomic_transact {α : Type} (s : Store) (connected : Bool) (doing : String)
    (work : Work α) : (s.transact connected doing work).Atomic s :=
  (s.atomic_attempt _).blaming doing

theorem Env.atomic_timed {α : Type} (env : Env) (s : Store) (work : Int → Outcome α)
    (h : ∀ millis, (work millis).Atomic s) : (env.timed s work).Atomic s := by
  unfold Env.timed
  split
  · exact h _
  · exact atomic_broken s _

/-! ## Writes -/

theorem Store.atomic_reorderCategories (s : Store) (connected : Bool) (board : String)
    (proposed : List RawText) : (s.reorderCategories connected board proposed).Atomic s := by
  unfold Store.reorderCategories
  dsimp only
  split
  · exact s.atomic_transact _ _ _
  · intro f hf
    cases hf

theorem Store.atomic_reorderViews (s : Store) (connected : Bool) (category : String)
    (proposed : List RawText) : (s.reorderViews connected category proposed).Atomic s := by
  unfold Store.reorderViews
  dsimp only
  split
  · exact s.atomic_transact _ _ _
  · intro f hf
    cases hf

theorem Store.atomic_createRecord (s : Store) (connected : Bool) (freshId : String)
    (millis : Except ClockFault Int) (r : Record) :
    (s.createRecord connected freshId millis r).Atomic s := by
  unfold Store.createRecord
  split
  · exact atomic_broken s _
  · exact s.atomic_transact _ _ _

theorem Store.atomic_editRecord (s : Store) (connected : Bool) (id : Option String) (r : Record) :
    (s.editRecord connected id r).Atomic s := by
  unfold Store.editRecord
  split
  · exact atomic_refused s _
  · split
    · exact atomic_broken s _
    · exact (s.atomic_attempt _).blaming _

/-! ## The service -/

theorem Task.atomic_perform (env : Env) (s : Store) (a : Access) (t : Task) :
    (t.perform env s a).Atomic s := by
  cases t with
  | create name type id collapsed =>
    exact env.atomic_timed s _ fun _ => ((s.atomic_transact _ _ _).noting _).map _
  | get c => exact atomic_done s _
  | update c name collapsed =>
    exact env.atomic_timed s _ fun _ => ((s.atomic_transact _ _ _).noting _).map _
  | delete c =>
    exact env.atomic_timed s _ fun _ => ((s.atomic_transact _ _ _).noting _).map _
  | list => exact atomic_done s _
  | reorder order => exact ((s.atomic_reorderCategories _ _ _).noting _).map _
  | categorize id views => exact ((s.atomic_transact _ _ _).noting _).map _
  | uncategorize view => exact ((s.atomic_transact _ _ _).noting _).map _
  | reorderViews id order => exact ((s.atomic_reorderViews _ _ _).noting _).map _
  | setVisibility id view visible => exact ((s.atomic_transact _ _ _).noting _).map _

theorem Request.atomic_run (env : Env) (s : Store) (r : Request) : (r.run env s).Atomic s := by
  refine Atomic.deliver ?_ _
  unfold Request.attempt
  split
  · exact atomic_refused s _
  · exact Task.atomic_perform env s _ _

/-! ## Upkeep -/

/-- The writes of the repositories. -/
def Upkeep.isWrite : Upkeep → Bool
  | .create _ | .edit _ _ | .delete _ _ _ | .reorder _ _ | .place _ _ | .reorderViews _ _
  | .setVisibility _ _ _ => true
  | .category _ | .live _ | .membership _ | .views _ | .listing _ | .board _ | .access _ _
  | .insert _ _ => false

theorem Upkeep.atomic_run (env : Env) (s : Store) (u : Upkeep) (h : u.isWrite) :
    (u.run env s).Atomic s := by
  cases u with
  | create row => exact (s.atomic_createRecord _ _ _ _).map _
  | edit id values => exact (s.atomic_editRecord _ _ _).map _
  | delete id user board =>
    refine env.atomic_timed s _ fun millis => Atomic.map ?_ _
    split
    · exact s.atomic_transact _ _ _
    · exact s.atomic_transact _ _ _
  | reorder board order =>
    cases board with
    | none => exact atomic_done s _
    | some b => exact (s.atomic_reorderCategories _ _ _).map _
  | place category views =>
    cases category with
    | none => exact (s.atomic_transact _ _ _).map _
    | some c => exact (s.atomic_transact _ _ _).map _
  | reorderViews category order =>
    cases category with
    | none => exact atomic_done s _
    | some c => exact (s.atomic_reorderViews _ _ _).map _
  | setVisibility category view visible =>
    refine Atomic.map ?_ _
    split
    · exact s.atomic_transact _ _ _
    · exact s.atomic_transact _ _ _
  | category id => cases h
  | live b => cases h
  | membership v => cases h
  | views c => cases h
  | listing b => cases h
  | board id => cases h
  | access user b => cases h
  | insert kind row => cases h

/-- A request or a write that fails leaves every row as it was, and no event is published. -/
theorem failure_leaves_no_trace (env : Env) (s : Store) :
    (∀ (r : Request) (f : Failure), (r.run env s).result = .error f →
      (r.run env s).store = s ∧ Note.events (r.run env s).notes = []) ∧
    ∀ (u : Upkeep) (f : Failure), u.isWrite → (u.run env s).result = .error f →
      (u.run env s).store = s ∧ Note.events (u.run env s).notes = [] := by
  constructor
  · intro r f h
    exact r.atomic_run env s f h
  · intro u f hw h
    exact u.atomic_run env s hw f h

/-- The connection is lost when a category was inserted and its sibling moved, and when the first of
two views was moved. -/
theorem lost_commits_leave_no_trace :
    let s := Store.sample.after [.sample "u" "b" (.creation "a")]
    let env : Env := { Env.sample with connected := false }
    let r : Request := ⟨some "u", some "b", .creation "c"⟩
    let u : Upkeep := .place (some "a") ["v", "w"]
    ((r.run env s).result = .error (.fault .connectionLost) ∧ (r.run env s).store = s ∧
      Note.events (r.run env s).notes = []) ∧
    ((u.run env s).store = s ∧ Note.events (u.run env s).notes = []) := by
  refine ⟨⟨rfl, ?_⟩, ?_⟩
  · exact (failure_leaves_no_trace _ _).1 _ _ rfl
  · exact (failure_leaves_no_trace _ _).2 _ (.fault .connectionLost) rfl rfl

end BoardViews
