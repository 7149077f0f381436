import BoardViews.Proofs.Authority
import BoardViews.Proofs.Replay

/-
  The life of a category. A category that was created is there for good, and its id is never given
  to another one, on whatever board. Once it is deleted (`soft_delete`) it does not change again;
  its update time changes where its owner updates it and nowhere else, so its times are in order.
  Runs start without categories; only the order of the times asks for a clock that does not go
  back.

  `Category.Goes` lists what a visit makes of a category, in four cases. What lasts over a run is
  read from these by `Store.became_after`, and what holds of every category that a run made by
  `Store.forall_after`.
-/

namespace BoardViews

/-! ## What becomes of a category -/

/-- What a request with its answer makes of a category, where the clock reads a time. -/
inductive Category.Goes (c : Category) (r : Request) (result : Except Failure Reply)
    (clock : Except ClockFault Int) : Category → Prop
  | same : c.Goes r result clock c
  | ranked (live : c.isLive = true) (n : Cell) : c.Goes r result clock { c with sortOrder := n }
  | edited {id name : Option String} {collapsed : Option Bool} {millis : Int} {reply : Reply}
      (kept : c.isDeleted = false) (named : id = some c.id) (onBoard : r.board = some c.boardId)
      (asked : r.command = .update id name collapsed) (read : clock = .ok millis)
      (done : result = .ok reply) :
      c.Goes r result clock (c.edited millis (stripped? name) collapsed)
  | deleted {millis : Int} (kept : c.isDeleted = false) (read : clock = .ok millis) :
      c.Goes r result clock { c with deleteAt := .int millis }

/-- A category that was just made has the time of the clock and is not deleted. -/
structure Category.IsNew (clock : Except ClockFault Int) (c : Category) (millis : Int) :
    Prop where
  read : clock = .ok millis
  createAt : c.createAt = .int millis
  updateAt : c.updateAt = .int millis
  deleteAt : c.deleteAt = .int 0

/-- A category as a command makes it: of one of the types, with a name that is more than blanks, and
under the given id or the new one. -/
inductive Category.IsMade (env : Env) (a : Access) : Command → Category → Prop
  | intro {name id : Option String} {type title : String} {collapsed : Option Bool} {millis : Int}
      (titled : stripped? name = some title) (typed : type ∈ categoryTypes)
      (read : env.now.millis = .ok millis) :
      IsMade env a (.create name (some type) id collapsed)
        (a.newCategory env millis title type (stripped? id) (collapsed.getD false))

/-- The id of the category that a request made, if it made one. -/
def Request.made? (r : Request) (result : Except Failure Reply) : Option String :=
  match r.command, result with
  | .create _ _ _ _, .ok (.category c) => some c.id
  | _, _ => none

namespace Category

variable {c new : Category} {r : Request} {result : Except Failure Reply}
  {clock : Except ClockFault Int}

theorem Goes.lowered : c.Goes r result clock (new.lowered c) := by
  unfold Category.lowered
  split
  · next h => exact .ranked h.2.1 _
  · exact .same

theorem Goes.arranged {board : String} {p : Plan RawText} :
    c.Goes r result clock (c.arranged board p) := by
  unfold Category.arranged
  split
  · next h => exact .ranked h.2 _
  · exact .same

theorem IsMade.isNew {env : Env} {a : Access} {command : Command} (made : c.IsMade env a command) :
    ∃ millis, c.IsNew env.now.millis millis := by
  cases made with
  | intro titled typed read => exact ⟨_, read, rfl, rfl, rfl⟩

end Category

/-! ## Steps -/

/-- What may be added may be described in other words. -/
theorem Table.Evolves.imp_added {α κ : Type} {key : α → κ} {allowed : α → α → Prop}
    {added added' : α → Prop} {t t' : Table key} (h : t.Evolves allowed added t')
    (imp : ∀ r, added r → added' r) : t.Evolves allowed added' t' where
  kept := h.kept
  new r' hr' := (h.new r' hr').imp_right (imp r')

section

variable {env : Env} {s s' : Store} {a : Access} {r : Request} {reply : Reply}
  {events : List Event}

/-- The categories of a store go on as those of another one: each is still there as a request made
it, and those that are new were just made. -/
abbrev Store.Proceeds (s s' : Store) (r : Request) (result : Except Failure Reply)
    (clock : Except ClockFault Int) : Prop :=
  Table.Evolves (fun c c' => c.Goes r result clock c') (fun c => ∃ millis, c.IsNew clock millis)
    s.categories s'.categories

/-- A step deletes and updates only what it found not deleted, and it makes a category only if it
creates one. -/
theorem Step.evolves (step : Step env s a r.command reply s' events) (granted : a.Granted s r) :
    Table.Evolves (fun c c' => c.Goes r (.ok reply) env.now.millis c')
      (Category.IsMade env a r.command) s.categories s'.categories := by
  have onBoard := granted.board_id
  have stay {command : Command} : Table.Evolves
      (fun c c' => c.Goes r (.ok reply) env.now.millis c') (Category.IsMade env a command)
      s.categories s.categories := .refl fun _ _ => .same
  generalize hc : r.command = command at step
  cases step with
  | @create _ _ _ _ _ millis c t titled typed clock word made added room reached =>
    refine .insert_mapRows added (Category.lowered_id c) (fun q _ => .lowered) ?_
    rw [c.lowered_self, made]
    exact .intro titled typed clock
  | get found => exact stay
  | update owned titled clock word reached =>
    refine .mapRows (Category.replaced_id _) fun q hq => ?_
    rcases owned.replaced_cases hq _ _ _ with h | ⟨rfl, h⟩
    · rw [h]
      exact .same
    · rw [h]
      rw [← owned.onBoard] at onBoard
      exact .edited owned.kept owned.named onBoard hc clock rfl
  | delete owned clock word reached =>
    refine .mapRows (Category.tombstoned_id _ _ _ _) fun q hq => ?_
    rcases owned.tombstoned_cases hq _ _ _ with h | ⟨rfl, h⟩
    · rw [h]
      exact .same
    · rw [h]
      exact .deleted owned.kept clock
  | list => exact stay
  | reorder plan reached => exact .mapRows (Category.arranged_id _ _) fun _ _ => .arranged
  | categorize target stored reached => exact stay
  | uncategorize stored reached => exact stay
  | reorderViews owned plan reached => exact stay
  | setVisibility owned reached => exact stay

theorem Step.proceeds (step : Step env s a r.command reply s' events) (granted : a.Granted s r) :
    s.Proceeds s' r (.ok reply) env.now.millis :=
  (step.evolves granted).imp_added fun _ made => made.isNew

/-- The ids of the categories that a change of rows leaves are those that there were. -/
theorem map_id_map {rows : List Category} {f : Category → Category}
    (h : ∀ c, (f c).id = c.id) : (rows.map f).map Category.id = rows.map Category.id := by
  rw [List.map_map]
  exact List.map_congr_left fun c _ => h c

/-- The category that a request makes comes after all others, and it is the only one that does. -/
theorem Step.map_id (step : Step env s a r.command reply s' events) :
    s'.categories.rows.map Category.id =
      s.categories.rows.map Category.id ++ (r.made? (.ok reply)).toList := by
  have stay : s.categories.rows.map Category.id = s.categories.rows.map Category.id ++ [] :=
    (List.append_nil _).symm
  have changed {f : Category → Category} (h : ∀ c, (f c).id = c.id) :
      (s.categories.rows.map f).map Category.id = s.categories.rows.map Category.id ++ [] :=
    (map_id_map h).trans stay
  unfold Request.made?
  generalize r.command = command at step
  cases step with
  | @create _ _ _ _ _ millis c t titled typed clock word made added room reached =>
    have rows : t.rows = s.categories.rows ++ [c] := Table.insert?_rows added
    refine (map_id_map c.lowered_id).trans ?_
    rw [rows, List.map_append]
    rfl
  | get found => exact stay
  | update owned titled clock word reached => exact changed (Category.replaced_id _)
  | delete owned clock word reached => exact changed (Category.tombstoned_id _ _ _ _)
  | list => exact stay
  | reorder plan reached => exact changed (Category.arranged_id _ _)
  | categorize target stored reached => exact stay
  | uncategorize stored reached => exact stay
  | reorderViews owned plan reached => exact stay
  | setVisibility owned reached => exact stay

end

/-! ## Visits -/

section

variable (v : Visit) (s : Store)

theorem Visit.proceeds :
    s.Proceeds (v.outcome s).store v.request (v.outcome s).result v.env.now.millis := by
  rcases v.cases s with ⟨f, -, hs⟩ | ⟨reply, a, events, hr, granted, step⟩
  · rw [hs]
    exact .refl fun _ _ => .same
  · rw [hr]
    exact step.proceeds granted

theorem Visit.map_id :
    (v.outcome s).store.categories.rows.map Category.id =
      s.categories.rows.map Category.id ++ (v.request.made? (v.outcome s).result).toList := by
  rcases v.cases s with ⟨f, hf, hs⟩ | ⟨reply, a, events, hr, -, step⟩
  · have none : v.request.made? (.error f) = none := by
      unfold Request.made?
      cases v.request.command <;> rfl
    rw [hf, hs, none]
    exact (List.append_nil _).symm
  · rw [hr]
    exact step.map_id

end

/-- A row that is there after a table went on was there before, or it was added. -/
theorem Table.Evolves.origin {α κ : Type} {key : α → κ} {allowed : α → α → Prop}
    {added : α → Prop} {t t' : Table key} (h : t.Evolves allowed added t') {r' : α}
    (hr : r' ∈ t'.rows) : (∃ r ∈ t.rows, allowed r r') ∨ added r' := by
  rcases h.new r' hr with ⟨r, mem, same⟩ | new
  · obtain ⟨q, hq, key, ok⟩ := h.kept r mem
    obtain rfl : q = r' := Table.eq_of_key hq hr (key.trans same)
    exact .inl ⟨r, mem, ok⟩
  · exact .inr new

/-! ## What lasts -/

/-- A request that updates a category. -/
structure Request.Updates (r : Request) (result : Except Failure Reply) (c : Category) : Prop where
  asked : ∃ name collapsed, r.command = .update (some c.id) name collapsed
  onBoard : r.board = some c.boardId
  done : ∃ reply, result = .ok reply

/-- What has become of a category by way of a history. -/
structure Category.Became (history : List (Request × Except Failure Reply)) (c c' : Category) :
    Prop where
  id : c'.id = c.id
  onBoard : c'.boardId = c.boardId
  gone : c.isDeleted = true → c' = c
  updated : c'.updateAt ≠ c.updateAt → ∃ e ∈ history, e.1.Updates e.2 c

namespace Category.Became

variable {c c' c'' : Category} {h h' : List (Request × Except Failure Reply)}

theorem refl (c : Category) : c.Became [] c where
  id := rfl
  onBoard := rfl
  gone _ := rfl
  updated hu := absurd rfl hu

theorem trans (first : c.Became h c') (later : c'.Became h' c'') : c.Became (h ++ h') c'' where
  id := later.id.trans first.id
  onBoard := later.onBoard.trans first.onBoard
  gone deleted := by
    have same : c' = c := first.gone deleted
    subst same
    exact later.gone deleted
  updated hu := by
    -- A time that is another one at the end was changed on the way there or after it.
    by_cases hf : c'.updateAt = c.updateAt
    · obtain ⟨e, mem, asked, onBoard, done⟩ := later.updated (hf.symm ▸ hu)
      rw [first.id] at asked
      rw [first.onBoard] at onBoard
      exact ⟨e, List.mem_append_right h mem, asked, onBoard, done⟩
    · obtain ⟨e, mem, updates⟩ := first.updated hf
      exact ⟨e, List.mem_append_left h' mem, updates⟩

end Category.Became

theorem Category.Goes.became {c c' : Category} {r : Request} {result : Except Failure Reply}
    {clock : Except ClockFault Int} (goes : c.Goes r result clock c') :
    c.Became [(r, result)] c' := by
  cases goes with
  | same => exact ⟨rfl, rfl, fun _ => rfl, fun hu => absurd rfl hu⟩
  | ranked live n =>
    refine ⟨rfl, rfl, fun deleted => ?_, fun hu => absurd rfl hu⟩
    rw [kept_of_isLive live] at deleted
    cases deleted
  | edited kept named onBoard asked read done =>
    refine ⟨rfl, rfl, fun deleted => ?_, fun _ => ⟨_, List.mem_singleton_self _, ?_⟩⟩
    · rw [kept] at deleted
      cases deleted
    · exact ⟨⟨_, _, by rw [asked, named]⟩, onBoard, _, done⟩
  | deleted kept read =>
    refine ⟨rfl, rfl, fun deleted => ?_, fun hu => absurd rfl hu⟩
    rw [kept] at deleted
    cases deleted

namespace Store

variable {s : Store} {run : List Visit} {c : Category}

/-- Every category is still there after a run. -/
theorem became_after (run : List Visit) (hc : c ∈ s.categories.rows) :
    ∃ c' ∈ (s.after run).categories.rows, c.Became (s.history run) c' := by
  induction run generalizing s c with
  | nil => exact ⟨c, hc, .refl c⟩
  | cons v run ih =>
    obtain ⟨c', hc', -, goes⟩ := (v.proceeds s).kept c hc
    obtain ⟨c'', hc'', later⟩ := ih hc'
    exact ⟨c'', hc'', goes.became.trans later⟩

/-- The ids of the categories that a history made. -/
def made (history : List (Request × Except Failure Reply)) : List String :=
  history.filterMap fun e => e.1.made? e.2

theorem map_id_after (s : Store) (run : List Visit) :
    (s.after run).categories.rows.map Category.id =
      s.categories.rows.map Category.id ++ made (s.history run) := by
  induction run generalizing s with
  | nil => exact (List.append_nil _).symm
  | cons v run ih =>
    refine (ih (v.outcome s).store).trans ?_
    rw [v.map_id s, List.append_assoc]
    congr 1
    unfold made
    rw [history, List.filterMap_cons]
    cases v.request.made? (v.outcome s).result <;> rfl

/-- What holds of every new category, and of what a visit makes of a category that it holds of,
holds of every category that a run made. -/
theorem forall_after {P : List Visit → Category → Prop} (start : s.categories.rows = [])
    (new : ∀ past v c millis, c.IsNew v.env.now.millis millis → P (past ++ [v]) c)
    (goes : ∀ past v result c c', P past c → c.Goes v.request result v.env.now.millis c' →
      P (past ++ [v]) c') :
    ∀ c ∈ (s.after run).categories.rows, P run c := by
  -- From the end of the run, for what is said of a category may depend on the visits before it.
  induction run using List.reverseRecOn with
  | nil =>
    intro c hc
    rw [show (s.after []).categories.rows = [] from start] at hc
    cases hc
  | append_singleton past v ih =>
    intro c hc
    rw [after_append] at hc
    rcases (v.proceeds (s.after past)).origin hc with ⟨q, hq, h⟩ | ⟨millis, h⟩
    · exact goes past v _ q c (ih q hq) h
    · exact new past v c millis h

end Store

/-! ## Times -/

/-- What the clock read along a run, where it could be read. -/
def readings (run : List Visit) : List Int := run.filterMap fun v => v.env.now.millis.toOption

theorem readings_append (past run : List Visit) :
    readings (past ++ run) = readings past ++ readings run :=
  List.filterMap_append

theorem readings_singleton {v : Visit} {millis : Int} (read : v.env.now.millis = .ok millis) :
    readings [v] = [millis] := by
  unfold readings
  rw [List.filterMap_cons, read]
  rfl

/-- When a category was created, when it was updated last, and when it was deleted, which is zero if
it was not. -/
structure Category.Times (c : Category) (created updated deleted : Int) : Prop where
  createAt : c.createAt = .int created
  updateAt : c.updateAt = .int updated
  deleteAt : c.deleteAt = .int deleted

/-- Times of a category that are in order. -/
def InOrder (created updated deleted : Int) : Prop :=
  created ≤ updated ∧ (deleted = 0 ∨ updated ≤ deleted)

/-- A category with times that a run gave it: it was updated at a reading of the clock, and its
times are in order where those readings are. -/
def Category.TimedBy (past : List Visit) (c : Category) : Prop :=
  ∃ created updated deleted, c.Times created updated deleted ∧ updated ∈ readings past ∧
    ((readings past).Pairwise (· ≤ ·) → InOrder created updated deleted)

namespace Category

variable {c c' : Category} {past : List Visit} {v : Visit} {millis : Int}

theorem IsNew.timedBy (new : c.IsNew v.env.now.millis millis) : c.TimedBy (past ++ [v]) := by
  refine ⟨millis, millis, 0, ⟨new.createAt, new.updateAt, new.deleteAt⟩, ?_, fun _ => ?_⟩
  · rw [readings_append, readings_singleton new.read]
    exact List.mem_append_right _ (List.mem_singleton_self millis)
  · exact ⟨Int.le_refl millis, .inl rfl⟩

/-- The update time of a category is no later than a reading of the clock that comes after it. -/
theorem TimedBy.goes {r : Request} {result : Except Failure Reply} (timed : c.TimedBy past)
    (goes : c.Goes r result v.env.now.millis c') : c'.TimedBy (past ++ [v]) := by
  obtain ⟨created, updated, deleted, ⟨hc, hu, hd⟩, mem, order⟩ := timed
  have earlier (h : (readings (past ++ [v])).Pairwise (· ≤ ·)) :
      InOrder created updated deleted := by
    rw [readings_append] at h
    exact order (List.pairwise_append.1 h).1
  have still : updated ∈ readings (past ++ [v]) := by
    rw [readings_append]
    exact List.mem_append_left _ mem
  have passed {n : Int} (read : v.env.now.millis = .ok n)
      (h : (readings (past ++ [v])).Pairwise (· ≤ ·)) : updated ≤ n := by
    rw [readings_append, readings_singleton read] at h
    exact (List.pairwise_append.1 h).2.2 updated mem n (List.mem_singleton_self n)
  cases goes with
  | same => exact ⟨created, updated, deleted, ⟨hc, hu, hd⟩, still, earlier⟩
  | ranked live n => exact ⟨created, updated, deleted, ⟨hc, hu, hd⟩, still, earlier⟩
  | @edited _ _ _ n _ kept named onBoard asked read done =>
    -- What is edited is not deleted, so there is no deletion time that could be passed.
    have never : deleted = 0 := by
      rw [isDeleted, hd] at kept
      simpa [Cell.isYes] using kept
    refine ⟨created, n, deleted, ⟨hc, rfl, hd⟩, ?_, fun h => ⟨?_, .inl never⟩⟩
    · rw [readings_append, readings_singleton read]
      exact List.mem_append_right _ (List.mem_singleton_self n)
    · exact Int.le_trans (earlier h).1 (passed read h)
  | @deleted n kept read =>
    refine ⟨created, updated, n, ⟨hc, hu, rfl⟩, still, fun h => ⟨(earlier h).1, ?_⟩⟩
    exact .inr (passed read h)

end Category

namespace Store

variable {s : Store}

theorem timed_after (start : s.categories.rows = []) (run : List Visit) :
    ∀ c ∈ (s.after run).categories.rows, c.TimedBy run := by
  refine forall_after (P := Category.TimedBy) start ?_ ?_
  · intro past v c millis new
    exact new.timedBy
  · intro past v result c c' timed goes
    exact timed.goes goes

/-- Of a run that starts without categories: no category is ever taken away, and the ids of those
that were made are all different; a category that is deleted is the same from then on; its update
time changes only where a request updates it; and its times are in order if the clock does not go
back. -/
theorem categories_are_permanent (start : s.categories.rows = []) (run more : List Visit) :
    (∀ c ∈ (s.after run).categories.rows, ∃ c' ∈ (s.after (run ++ more)).categories.rows,
      c'.id = c.id ∧ (c.deleteAt ≠ .int 0 → c' = c) ∧
        (c'.updateAt ≠ c.updateAt → ∃ e ∈ (s.after run).history more, e.1.Updates e.2 c)) ∧
    ((s.after run).categories.rows.map Category.id = made (s.history run) ∧
      (made (s.history run)).Nodup) ∧
    ((readings run).Pairwise (· ≤ ·) → ∀ c ∈ (s.after run).categories.rows,
      ∃ created updated deleted, c.Times created updated deleted ∧
        InOrder created updated deleted) := by
  have timed := timed_after start run
  have ids : (s.after run).categories.rows.map Category.id = made (s.history run) := by
    rw [map_id_after, start]
    rfl
  refine ⟨fun c hc => ?_, ⟨ids, ?_⟩, fun forward c hc => ?_⟩
  · obtain ⟨c', hc', became⟩ := became_after more hc
    rw [after_append]
    refine ⟨c', hc', became.id, fun gone => became.gone ?_, became.updated⟩
    obtain ⟨-, -, deleted, ⟨-, -, hd⟩, -⟩ := timed c hc
    rw [Category.isDeleted, hd]
    simpa [hd, Cell.isYes] using gone
  · rw [← ids]
    exact (s.after run).categories.nodup
  · obtain ⟨created, updated, deleted, times, -, order⟩ := timed c hc
    exact ⟨created, updated, deleted, times, order forward⟩

/-- A category is created, updated a second later and deleted in the next one. Another one cannot be
created under its id, and one that is created on its board leaves it as it is. -/
theorem deleted_category_lasts :
    let at_ (second : Int) (command : Command) : Visit :=
      ⟨{ Env.sample with now := ⟨second * 1000000⟩ }, ⟨some "u", some "b", command⟩⟩
    let run := [at_ 1 (.creation "a"), at_ 2 (.update (some "a") (some "n") none),
      at_ 3 (.delete (some "a"))]
    let more := [at_ 4 (.creation "a"), at_ 4 (.creation "c")]
    let gone : Category :=
      ⟨"a", "n", "u", "b", .int 1000, .int 2000, .int 3000, false, .int 0, "custom"⟩
    gone ∈ (sample.after run).categories.rows ∧
      gone ∈ (sample.after (run ++ more)).categories.rows ∧
      made (sample.history (run ++ more)) = ["a", "c"] ∧ InOrder 1000 2000 3000 := by
  intro at_ run more gone
  have there : gone ∈ (sample.after run).categories.rows := by decide
  obtain ⟨lasting, -, ordered⟩ := categories_are_permanent (s := sample) rfl run more
  obtain ⟨c, hc, -, same, -⟩ := lasting gone there
  obtain ⟨created, updated, deleted, times, order⟩ := ordered (by decide) gone there
  refine ⟨there, ?_, ?_, ?_⟩
  · rw [← same (by decide)]
    exact hc
  · rw [← (categories_are_permanent (s := sample) rfl (run ++ more) []).2.1.1]
    decide
  · rw [← Cell.int.inj times.createAt, ← Cell.int.inj times.updateAt,
      ← Cell.int.inj times.deleteAt] at order
    exact order

end Store

end BoardViews
