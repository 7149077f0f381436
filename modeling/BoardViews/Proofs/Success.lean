import BoardViews.Proofs.Step

/-
  What a task comes to. A task can fail, but only for a fault of the store or the clock: it is never
  refused. Where the store can be written and has place and the clock can be read, it succeeds, but
  for the creation of a category under an id that is taken. `Session` says what a write that
  succeeds has done; here each write is told by what it answers.
-/

namespace BoardViews

/-! ## What is not refused -/

namespace Outcome

variable {α β : Type} {o : Outcome α}

/-- An outcome that is not a refusal. -/
def Unrefused (o : Outcome α) : Prop := ∀ why, o.result ≠ .error (.refusal why)

theorem noting_map_result (o : Outcome α) (notes : α → List Note) (f : α → β) :
    ((o.noting notes).map f).result = o.result.map f :=
  congrArg (Except.map f) (noting_result o notes)

theorem Unrefused.noting_map (h : o.Unrefused) (notes : α → List Note) (f : α → β) :
    ((o.noting notes).map f).Unrefused := by
  intro why
  rw [noting_map_result]
  cases ho : o.result with
  | ok a => nofun
  | error e =>
    intro hr
    cases hr
    exact h why ho

theorem blaming_result (o : Outcome α) (doing : String) : (o.blaming doing).result = o.result := by
  unfold blaming
  split
  · split <;> rfl
  · rfl

end Outcome

open Outcome

/-- What a session answers: what its work comes to, if the commit is reached. -/
theorem Store.transact_result {α : Type} (s : Store) (connected : Bool) (doing : String)
    (work : Work α) :
    (s.transact connected doing work).result =
      match work.run s with
      | .ok a _ => if connected then .ok a else .error (.fault .connectionLost)
      | .error f _ => .error (.fault f) := by
  unfold transact attempt
  rw [blaming_result, committed_run]
  cases work.run s with
  | ok a s' => cases connected <;> rfl
  | error f s' => rfl

theorem Store.unrefused_transact {α : Type} (s : Store) (connected : Bool) (doing : String)
    (work : Work α) : (s.transact connected doing work).Unrefused := by
  intro why
  rw [transact_result]
  split
  · split <;> nofun
  · nofun

theorem Env.unrefused_timed {α : Type} {env : Env} {s : Store} {work : Int → Outcome α}
    (h : ∀ millis, (work millis).Unrefused) : (env.timed s work).Unrefused := by
  unfold timed
  split
  · exact h _
  · nofun

/-- A task can fail, but it is not refused. -/
theorem Task.unrefused_perform (env : Env) (s : Store) (a : Access) (t : Task) :
    (t.perform env s a).Unrefused := by
  cases t with
  | create name type id collapsed =>
    exact Env.unrefused_timed fun _ => (s.unrefused_transact _ _ _).noting_map _ _
  | get c => exact nofun
  | update c name collapsed =>
    exact Env.unrefused_timed fun _ => (s.unrefused_transact _ _ _).noting_map _ _
  | delete c =>
    exact Env.unrefused_timed fun _ => (s.unrefused_transact _ _ _).noting_map _ _
  | list => exact nofun
  | reorder order =>
    refine Unrefused.noting_map ?_ _ _
    unfold Store.reorderCategories
    dsimp only
    split
    · exact s.unrefused_transact _ _ _
    · exact nofun
  | categorize id views => exact (s.unrefused_transact _ _ _).noting_map _ _
  | uncategorize view => exact (s.unrefused_transact _ _ _).noting_map _ _
  | reorderViews id order =>
    refine Unrefused.noting_map ?_ _ _
    unfold Store.reorderViews
    dsimp only
    split
    · exact s.unrefused_transact _ _ _
    · exact nofun
  | setVisibility id view visible => exact (s.unrefused_transact _ _ _).noting_map _ _

/-! ## What succeeds -/

/-- The store has place for the rows that a command adds to it. -/
def Store.HasPlaceFor (s : Store) : Command → Prop
  | .create _ _ _ _ => s.categories.rows.length < Table.capacity
  | .categorize _ views => s.memberships.rows.length + views.eraseDups.length ≤ Table.capacity
  | .uncategorize _ => s.memberships.rows.length < Table.capacity
  | .get _ | .update _ _ _ | .delete _ | .list | .reorder _ | .reorderViews _ _
  | .setVisibility _ _ _ => True

/-- Nothing stands in the way of a command from outside: the store can be written and has place,
and the clock reads a time that can be stored. -/
structure Env.Serves (env : Env) (s : Store) (command : Command) : Prop where
  connected : env.connected = true
  clock : ∃ millis, env.now.millis = .ok millis ∧ fitsWord millis = true
  place : s.HasPlaceFor command

/-- A command creates a category under an id that one has already, deleted or not and on whatever
board. -/
def Store.Repeats (s : Store) (env : Env) (command : Command) : Prop :=
  ∃ name type id collapsed, command = .create name type id collapsed ∧
    ∃ c ∈ s.categories.rows, c.id = (stripped? id).getD env.freshId

namespace Work

variable {α β : Type} {s t : Store} {work : Work α} {next : α → Work β}

theorem run_bind_ok {a : α} (h : work.run s = .ok a t) :
    (work >>= next).run s = (next a).run t := by
  change EStateM.bind work next s = _
  unfold EStateM.bind
  rw [show work s = .ok a t from h]
  rfl

theorem run_bind_error {f : Fault} (h : work.run s = .error f t) :
    (work >>= next).run s = .error f t := by
  change EStateM.bind work next s = _
  unfold EStateM.bind
  rw [show work s = .error f t from h]

theorem run_lift_ok {check : Except Fault α} {a : α} (h : check = .ok a) :
    (liftM check : Work α).run s = .ok a s :=
  run_lift_eq_ok.2 ⟨h, rfl⟩

end Work

namespace Table

variable {α κ : Type} [DecidableEq κ] {key : α → κ} {t : Table key} {r : α}

theorem added_of_taken (taken : ∃ q ∈ t.rows, key q = key r) (columns : List String) :
    t.added columns r = .error (.duplicateKey columns) := by
  unfold added
  rw [(t.insert?_eq_none_iff r).2 taken]

theorem added_of_free (free : ¬∃ q ∈ t.rows, key q = key r) (room : t.rows.length < capacity)
    (columns : List String) :
    ∃ u, t.added columns r = .ok u ∧ u.rows.length = t.rows.length + 1 := by
  cases hi : t.insert? r with
  | none => exact absurd ((t.insert?_eq_none_iff r).1 hi) free
  | some u =>
    have length := length_insert? hi
    exact ⟨u, added_ok.2 ⟨hi, by omega⟩, length⟩

theorem added_of_full (free : ¬∃ q ∈ t.rows, key q = key r) (full : ¬t.rows.length < capacity)
    (columns : List String) : t.added columns r = .error .noPlace := by
  cases h : t.insert? r with
  | none => exact absurd ((t.insert?_eq_none_iff r).1 h) free
  | some u =>
    have length := length_insert? h
    unfold added
    rw [h]
    exact if_neg (by omega)

end Table

namespace Store

variable {s : Store} {c : Category}

theorem handOver_of_fits {cs : List Cell} (h : ∀ c ∈ cs, c.fits = true) :
    handOver cs = .ok () :=
  if_pos (List.all_eq_true.2 h)

/-- A category is added, or the fault of adding it ends the work. -/
theorem addCategory_run (s : Store) (c : Category) :
    (addCategory c).run s =
      match s.categories.added ["view_categories.id"] c with
      | .ok t => .ok () (lowerSiblings { s with categories := t } c)
      | .error f => .error f s := by
  have inserted : (insertCategory c).run s =
      match s.categories.added ["view_categories.id"] c with
      | .ok t => .ok () { s with categories := t }
      | .error f => .error f s := by
    unfold insertCategory
    rw [Work.run_bind_ok (Work.run_get s)]
    cases s.categories.added ["view_categories.id"] c <;> rfl
  unfold addCategory
  cases h : s.categories.added ["view_categories.id"] c with
  | ok t =>
    rw [h] at inserted
    rw [Work.run_bind_ok inserted, Work.run_modify]
  | error f =>
    rw [h] at inserted
    rw [Work.run_bind_error inserted]

theorem createCategory_result
    (handed : handOver [c.createAt, c.updateAt, c.deleteAt, c.sortOrder] = .ok ()) :
    (s.createCategory true c).result =
      match s.categories.added ["view_categories.id"] c with
      | .ok _ => .ok c
      | .error f => .error (.fault f) := by
  have added := s.addCategory_run c
  unfold createCategory
  rw [transact_result, Work.run_bind_ok (Work.run_lift_ok handed)]
  cases h : s.categories.added ["view_categories.id"] c with
  | ok t =>
    rw [h] at added
    rw [Work.run_bind_ok added]
    rfl
  | error f =>
    rw [h] at added
    rw [Work.run_bind_error added]

theorem saveCategory_result (handed : handOver [c.updateAt] = .ok ()) :
    (s.saveCategory true c).result = .ok c := by
  unfold saveCategory
  rw [transact_result, Work.run_bind_ok (Work.run_lift_ok handed)]
  rfl

theorem deleteCategory_result (s : Store) (id user board : String) {millis : Int}
    (handed : handOver [.int millis] = .ok ()) :
    ∃ n, (s.deleteCategory true id user board millis).result = .ok n := by
  unfold deleteCategory
  rw [transact_result, Work.run_bind_ok (Work.run_lift_ok handed)]
  exact ⟨_, rfl⟩

theorem hasRoom_moved (category : String) {views : List String}
    (room : s.memberships.rows.length + views.length ≤ Table.capacity) :
    HasRoom s.memberships (s.moved category views).memberships := by
  obtain ⟨-, most⟩ := s.length_moved category views
  exact .inr (Nat.le_trans most room)

/-- Placing views succeeds where the store can be written and has place for the new memberships. -/
theorem placeViews_of_room {category : String} {views : List String}
    (room : HasRoom s.memberships (s.moved category views).memberships) :
    s.placeViews true category views =
      ⟨.ok (views.filterMap (s.moved category views).memberships.find?),
        s.moved category views, []⟩ := by
  have moved := moveViews_eq_ok_iff.2 ⟨rfl, room⟩
  have work : (do
      moveViews category views
      let s' ← get
      return views.filterMap s'.memberships.find? : Work (List Membership)).run s =
      .ok (views.filterMap (s.moved category views).memberships.find?)
        (s.moved category views) := by
    rw [Work.run_bind_ok moved]
    rfl
  unfold placeViews transact attempt
  rw [committed_run, work]
  rfl

theorem placeViews_result (category : String) {views : List String}
    (room : s.memberships.rows.length + views.length ≤ Table.capacity) :
    ∃ ms, (s.placeViews true category views).result = .ok ms := by
  rw [placeViews_of_room (hasRoom_moved category room)]
  exact ⟨_, rfl⟩

theorem placeView_result (category view : String)
    (room : s.memberships.rows.length < Table.capacity) :
    ∃ m, (s.placeView true category view).result = .ok m := by
  have fits : s.memberships.rows.length + [view].length ≤ Table.capacity := room
  have moved := moveViews_eq_ok_iff.2 ⟨rfl, hasRoom_moved category fits⟩
  unfold placeView
  rw [transact_result, Work.run_bind_ok moved]
  exact ⟨_, rfl⟩

end Store

section

variable {env : Env} {s : Store} {a : Access} {command : Command} {task : Task}

theorem Env.timed_of_clock {α : Type} {millis : Int} (clock : env.now.millis = .ok millis)
    (work : Int → Outcome α) : env.timed s work = work millis := by
  unfold timed
  rw [clock]

/-- A creation that nothing stands in the way of fails where its id is taken, and succeeds where it
is not. -/
theorem Task.create_result {name type : String} {id : Option String} {collapsed : Bool}
    (connected : env.connected = true)
    (clock : ∃ millis, env.now.millis = .ok millis ∧ fitsWord millis = true)
    (room : s.categories.rows.length < Table.capacity) :
    ((∃ c ∈ s.categories.rows, c.id = id.getD env.freshId) →
      ((Task.create name type id collapsed).perform env s a).result =
        .error (.fault (.duplicateKey ["view_categories.id"]))) ∧
    ((¬∃ c ∈ s.categories.rows, c.id = id.getD env.freshId) →
      ∃ c, ((Task.create name type id collapsed).perform env s a).result =
        .ok (.category c)) := by
  obtain ⟨millis, clock, word⟩ := clock
  have handed : Store.handOver [.int millis, .int millis, .int 0, .int 0] = .ok () := by
    refine Store.handOver_of_fits fun c hc => ?_
    simp only [List.mem_cons, List.not_mem_nil, or_false] at hc
    rcases hc with rfl | rfl | rfl | rfl
    · exact word
    · exact word
    · rfl
    · rfl
  have created := Store.createCategory_result (s := s)
    (c := a.newCategory env millis name type id collapsed) handed
  simp only [perform]
  rw [Env.timed_of_clock clock, Outcome.noting_map_result, connected, created]
  constructor
  · intro taken
    rw [Table.added_of_taken taken]
    rfl
  · intro free
    obtain ⟨t, added, -⟩ := Table.added_of_free
      (r := a.newCategory env millis name type id collapsed) free room ["view_categories.id"]
    rw [added]
    exact ⟨_, rfl⟩

/-- A task of any other command succeeds where nothing stands in its way. -/
theorem Task.perform_result (serves : env.Serves s command) (ht : s.task a command = .ok task)
    (other : ∀ name type id collapsed, command ≠ .create name type id collapsed) :
    ∃ reply, (task.perform env s a).result = .ok reply := by
  obtain ⟨connected, ⟨millis, clock, word⟩, place⟩ := serves
  have handed : Store.handOver [.int millis] = .ok () :=
    Store.handOver_of_fits fun c hc => by rwa [List.mem_singleton.1 hc]
  -- Notes and the form of a reply make no difference to whether an outcome succeeds.
  have noted {α β : Type} {o : Outcome α} {x : α} (h : o.result = .ok x) (notes : α → List Note)
      (f : α → β) : ∃ y, ((o.noting notes).map f).result = .ok y := by
    rw [Outcome.noting_map_result, h]
    exact ⟨f x, rfl⟩
  cases command with
  | create name type id collapsed => exact absurd rfl (other name type id collapsed)
  | get id =>
    obtain ⟨c, -, rfl⟩ := exists_of_map_eq_ok ht
    exact ⟨_, rfl⟩
  | update id name collapsed =>
    obtain ⟨c, -, rfl⟩ := exists_of_map_eq_ok ht
    simp only [perform]
    rw [Env.timed_of_clock clock, connected]
    exact noted (Store.saveCategory_result handed) _ _
  | delete id =>
    obtain ⟨c, -, rfl⟩ := exists_of_map_eq_ok ht
    obtain ⟨n, deleted⟩ := s.deleteCategory_result c.id a.user a.board.id handed
    simp only [perform]
    rw [Env.timed_of_clock clock, connected]
    exact noted deleted _ _
  | list =>
    cases ht
    exact ⟨_, rfl⟩
  | reorder order =>
    cases ht
    simp only [perform]
    rw [connected]
    exact noted (s.reorderCategories_result a.board.id order) _ _
  | categorize id views =>
    obtain ⟨t, -, rfl⟩ := exists_of_map_eq_ok ht
    obtain ⟨ms, placed⟩ := Store.placeViews_result t place
    simp only [perform]
    rw [connected]
    exact noted placed _ _
  | uncategorize view =>
    cases ht
    obtain ⟨m, placed⟩ := Store.placeView_result uncategorized view place
    simp only [perform]
    rw [connected]
    exact noted placed _ _
  | reorderViews id order =>
    obtain ⟨c, -, rfl⟩ := exists_of_map_eq_ok ht
    simp only [perform]
    rw [connected]
    exact noted (s.reorderViews_result c.id order) _ _
  | setVisibility id view visible =>
    obtain ⟨c, -, rfl⟩ := exists_of_map_eq_ok ht
    simp only [perform]
    rw [connected]
    exact ⟨_, rfl⟩

end

end BoardViews
