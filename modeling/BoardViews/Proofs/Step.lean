import BoardViews.Proofs.Atomic
import BoardViews.Proofs.Results
import BoardViews.Proofs.Session

/-
  What a request to the `CategorizationService` that succeeds does. `Step` lists it command by
  command: what was found and checked for the command, the reply, the store that is left, and the
  events. `Request.run_ok` says that a request that succeeds is such a step, and that the events
  are those that can be delivered; the theorems about requests split on the ten steps and never
  open the service again.
-/

namespace BoardViews

/-! ## Outcomes that succeed -/

theorem Env.timed_ok {α : Type} {env : Env} {s : Store} {work : Int → Outcome α} {a : α}
    (h : (env.timed s work).result = .ok a) :
    ∃ millis, env.now.millis = .ok millis ∧ env.timed s work = work millis := by
  unfold Env.timed at h ⊢
  cases hm : env.now.millis with
  | ok millis => exact ⟨millis, rfl, rfl⟩
  | error why =>
    rw [hm] at h
    cases h

/-- An outcome with notes and another form of its reply succeeds as the outcome itself does. -/
theorem Outcome.noting_map_ok {α β : Type} {o : Outcome α} {notes : α → List Note} {f : α → β}
    {b : β} (h : ((o.noting notes).map f).result = .ok b) :
    ∃ a, o.result = .ok a ∧ b = f a ∧ ((o.noting notes).map f).store = o.store ∧
      ((o.noting notes).map f).notes = o.notes ++ notes a := by
  obtain ⟨result, store, ns⟩ := o
  cases result with
  | ok a =>
    cases h
    exact ⟨a, rfl, rfl, rfl, rfl⟩
  | error f => cases h

theorem Outcome.noting_result {α : Type} (o : Outcome α) (notes : α → List Note) :
    (o.noting notes).result = o.result := by
  unfold Outcome.noting
  split <;> rfl

/-! ## What was found and checked -/

/-- A user with access to a board: the board is the live one of the request, the user is the one of
the request and may view it. -/
structure Access.Granted (a : Access) (s : Store) (r : Request) : Prop where
  board : s.board? r.board = some a.board
  user : r.user = some a.user
  viewer : s.canView r.user r.board = true

/-- A stored category of a board that is not marked as deleted, under the id that was given. -/
structure Store.HasLive (s : Store) (board : String) (id : Option String) (c : Category) :
    Prop where
  mem : c ∈ s.categories.rows
  named : id = some c.id
  kept : c.isDeleted = false
  onBoard : c.boardId = board

/-- Such a category that belongs to the user. -/
structure Store.HasOwned (s : Store) (a : Access) (id : Option String) (c : Category) : Prop
    extends s.HasLive a.board.id id c where
  owner : c.userId = a.user

theorem Access.Granted.board_id {a : Access} {s : Store} {r : Request} (h : a.Granted s r) :
    r.board = some a.board.id := by
  have hb := h.board
  unfold Store.board? at hb
  cases hr : r.board with
  | none =>
    rw [hr] at hb
    cases hb
  | some id =>
    rw [hr, Option.filter_eq_some_iff] at hb
    rw [Table.find?_key hb.1]

namespace Store

variable {s : Store} {a : Access} {id : Option String} {c : Category}

theorem access_ok {r : Request} (h : s.access r.user r.board = .ok a) : a.Granted s r := by
  unfold access at h
  split at h
  · cases h
  · next b hb =>
    split at h
    · cases h
    · next u hu =>
      split at h
      · next hv =>
        cases h
        exact ⟨hb, hu, hv⟩
      · cases h

theorem liveCategory_ok {board : String} (h : s.liveCategory board id = .ok c) :
    s.HasLive board id c := by
  unfold liveCategory at h
  split at h
  · cases h
  · next q hq =>
    split at h
    · next hc =>
      cases h
      unfold category? at hq
      obtain ⟨i, rfl, hi⟩ := Option.bind_eq_some_iff.1 hq
      simp only [Bool.and_eq_true, Bool.not_eq_true', beq_iff_eq] at hc
      exact ⟨Table.find?_mem hi, by rw [Table.find?_key hi], hc.1, hc.2⟩
    · cases h

theorem ownedCategory_ok (h : s.ownedCategory a id = .ok c) : s.HasOwned a id c := by
  unfold ownedCategory at h
  split at h
  · cases h
  · next q hq =>
    split at h
    · next ho =>
      cases h
      exact ⟨liveCategory_ok hq, ho⟩
    · cases h

/-- Views are put into a category of the user, or into the one that stands for none. -/
inductive HasTarget (s : Store) (a : Access) (id : Option String) : String → Prop
  | none (named : id = some uncategorized) : s.HasTarget a id uncategorized
  | owned {c : Category} (owned : s.HasOwned a id c) : s.HasTarget a id c.id

theorem HasTarget.named {t : String} (target : s.HasTarget a id t) : id = some t := by
  cases target with
  | none named => exact named
  | owned owned => exact owned.named

theorem target_ok {t : String} (h : s.target a id = .ok t) : s.HasTarget a id t := by
  unfold target at h
  split at h
  · next hi =>
    cases h
    exact .none hi
  · obtain ⟨c, hc, rfl⟩ := exists_of_map_eq_ok h
    exact .owned (ownedCategory_ok hc)

end Store

/-! ## Steps -/

/-- What a command that succeeds does: the reply, the store that is left, and the events. -/
inductive Step (env : Env) (s : Store) (a : Access) :
    Command → Reply → Store → List Event → Prop
  | create {name id : Option String} {type title : String} {collapsed : Option Bool}
      {millis : Int} {c : Category} {t : Table Category.id}
      (titled : stripped? name = some title) (typed : type ∈ categoryTypes)
      (clock : env.now.millis = .ok millis) (word : fitsWord millis)
      (made : c = a.newCategory env millis title type (stripped? id) (collapsed.getD false))
      (added : s.categories.insert? c = some t) (room : t.rows.length ≤ Table.capacity)
      (reached : env.connected = true) :
      Step env s a (.create name (some type) id collapsed) (.category c)
        (Store.lowerSiblings { s with categories := t } c) [a.event env (.category c)]
  | get {id : Option String} {c : Category} (found : s.HasLive a.board.id id c) :
      Step env s a (.get id) (.category c) s []
  | update {id name : Option String} {collapsed : Option Bool} {millis : Int} {c : Category}
      (owned : s.HasOwned a id c) (titled : name.isSome → (stripped? name).isSome)
      (clock : env.now.millis = .ok millis) (word : fitsWord millis)
      (reached : env.connected = true) :
      Step env s a (.update id name collapsed)
        (.category (c.edited millis (stripped? name) collapsed))
        (s.putCategory (c.edited millis (stripped? name) collapsed))
        [a.event env (.category (c.edited millis (stripped? name) collapsed))]
  | delete {id : Option String} {millis : Int} {c : Category} (owned : s.HasOwned a id c)
      (clock : env.now.millis = .ok millis) (word : fitsWord millis)
      (reached : env.connected = true) :
      Step env s a (.delete id) (.category { c with deleteAt := .int millis })
        (s.markDeleted c.id a.user a.board.id millis)
        [a.event env (.category { c with deleteAt := .int millis })]
  | list : Step env s a .list (.listing (s.listing a.board.id)) s []
  | reorder {order : List RawText} {p : Plan RawText}
      (plan : p = reconcile (s.categoryOrder a.board.id) order)
      (reached : p.accepted = true → env.connected = true) :
      Step env s a (.reorder order) (.order p.order) (s.applyCategoryPlan a.board.id p)
        [a.event env (.categoryOrder a.board.id p.order)]
  | categorize {id : Option String} {t : String} {views : List String} {ms : List Membership}
      (target : s.HasTarget a id t)
      (stored : ms = views.eraseDups.filterMap (s.moved t views.eraseDups).memberships.find?)
      (reached : env.connected = true) :
      Step env s a (.categorize id views) (.memberships ms) (s.moved t views.eraseDups)
        (ms.map fun m => a.event env (.membership m.categoryId m.viewId m.hidden))
  | uncategorize {view : String} {m : Membership}
      (stored : m = ((s.moved uncategorized [view]).memberships.find? view).getD
        ⟨view, uncategorized, false, .int 0⟩)
      (reached : env.connected = true) :
      Step env s a (.uncategorize view) (.membership m) (s.moved uncategorized [view])
        (if env.settings.broadcastUncategorize then
          [a.event env (.membership m.categoryId m.viewId m.hidden)]
        else [])
  | reorderViews {id : Option String} {c : Category} {order : List RawText} {p : Plan RawText}
      (owned : s.HasOwned a id c) (plan : p = reconcile (s.viewOrder c.id) order)
      (reached : p.accepted = true → env.connected = true) :
      Step env s a (.reorderViews id order) (.order p.order) (s.applyViewPlan c.id p)
        [a.event env (.viewOrder c.id p.order)]
  | setVisibility {id : Option String} {c : Category} {view : String} {visible : Bool}
      (owned : s.HasOwned a id c) (reached : env.connected = true) :
      Step env s a (.setVisibility id view visible) .done (s.markHidden c.id view (!visible))
        [a.event env (.membership c.id view (!visible))]

/-! ## Tasks that succeed are steps -/

/-- An integer that was handed over to the store is one of at most 64 bits. -/
theorem fitsWord_of_handOver {cs : List Cell} (h : Store.handOver cs = .ok ()) {n : Int}
    (hn : Cell.int n ∈ cs) : fitsWord n := by
  unfold Store.handOver at h
  split at h
  · next hf => exact List.all_eq_true.1 hf _ hn
  · cases h

theorem events_map_event (es : List Event) : Note.events (es.map Note.event) = es := by
  induction es with
  | nil => rfl
  | cons e es ih => rw [List.map_cons, Note.events_event, ih]

section

variable {env : Env} {s : Store} {a : Access} {reply : Reply} {id name : Option String}
  {collapsed : Option Bool} {c : Category}

theorem step_create {type title : String} (titled : stripped? name = some title)
    (typed : type ∈ categoryTypes) {o : Outcome Reply}
    (ho : o = (Task.create title type (stripped? id) (collapsed.getD false)).perform env s a)
    (h : o.result = .ok reply) :
    Step env s a (.create name (some type) id collapsed) reply o.store (Note.events o.notes) := by
  subst ho
  obtain ⟨millis, clock, ht⟩ := Env.timed_ok h
  simp only [Task.perform] at h ht ⊢
  rw [ht] at h ⊢
  obtain ⟨c, hc, rfl, hs, hn⟩ := Outcome.noting_map_ok h
  obtain ⟨reached, hh, t, added, room, he⟩ := Store.createCategory_ok hc
  rw [he] at hc
  cases hc
  rw [hs, hn, he]
  exact .create titled typed clock (fitsWord_of_handOver hh (List.mem_cons_self ..)) rfl added
    room reached

theorem step_update (owned : s.HasOwned a id c) (titled : name.isSome → (stripped? name).isSome)
    {o : Outcome Reply} (ho : o = (Task.update c (stripped? name) collapsed).perform env s a)
    (h : o.result = .ok reply) :
    Step env s a (.update id name collapsed) reply o.store (Note.events o.notes) := by
  subst ho
  obtain ⟨millis, clock, ht⟩ := Env.timed_ok h
  simp only [Task.perform] at h ht ⊢
  rw [ht] at h ⊢
  obtain ⟨c', hc, rfl, hs, hn⟩ := Outcome.noting_map_ok h
  obtain ⟨reached, hh, he⟩ := Store.saveCategory_ok hc
  rw [he] at hc
  cases hc
  rw [hs, hn, he]
  exact .update owned titled clock (fitsWord_of_handOver hh (List.mem_singleton.2 rfl)) reached

theorem step_delete (owned : s.HasOwned a id c) {o : Outcome Reply}
    (ho : o = (Task.delete c).perform env s a) (h : o.result = .ok reply) :
    Step env s a (.delete id) reply o.store (Note.events o.notes) := by
  subst ho
  obtain ⟨millis, clock, ht⟩ := Env.timed_ok h
  simp only [Task.perform] at h ht ⊢
  rw [ht] at h ⊢
  obtain ⟨n, hc, rfl, hs, hn⟩ := Outcome.noting_map_ok h
  obtain ⟨reached, hh, he⟩ := Store.deleteCategory_ok hc
  rw [hs, hn, he]
  exact .delete owned clock (fitsWord_of_handOver hh (List.mem_singleton.2 rfl)) reached

theorem step_reorder {order : List RawText} {o : Outcome Reply}
    (ho : o = (Task.reorder order).perform env s a) (h : o.result = .ok reply) :
    Step env s a (.reorder order) reply o.store (Note.events o.notes) := by
  subst ho
  unfold Task.perform at h ⊢
  obtain ⟨ids, hr, rfl, hs, hn⟩ := Outcome.noting_map_ok h
  obtain ⟨reached, rfl, hstore, hevents⟩ := Store.reorderCategories_ok hr
  rw [hs, hn, hstore, Note.events_append, hevents]
  exact .reorder rfl reached

theorem step_categorize {views : List String} {t : String} (target : s.HasTarget a id t)
    {o : Outcome Reply} (ho : o = (Task.categorize t views).perform env s a)
    (h : o.result = .ok reply) :
    Step env s a (.categorize id views) reply o.store (Note.events o.notes) := by
  subst ho
  unfold Task.perform at h ⊢
  obtain ⟨ms, hr, rfl, hs, hn⟩ := Outcome.noting_map_ok h
  obtain ⟨reached, stored, he⟩ := Store.placeViews_ok hr
  have hm : ms.map (a.announceMembership env) =
      (ms.map fun m => a.event env (.membership m.categoryId m.viewId m.hidden)).map
        Note.event := by
    rw [List.map_map]
    rfl
  rw [hs, hn, he, hm, List.nil_append, events_map_event]
  exact .categorize target stored reached

theorem step_uncategorize {view : String} {o : Outcome Reply}
    (ho : o = (Task.uncategorize view).perform env s a) (h : o.result = .ok reply) :
    Step env s a (.uncategorize view) reply o.store (Note.events o.notes) := by
  subst ho
  unfold Task.perform at h ⊢
  obtain ⟨m, hr, rfl, hs, hn⟩ := Outcome.noting_map_ok h
  obtain ⟨reached, stored, he⟩ := Store.placeView_ok hr
  have hm : Note.events (if env.settings.broadcastUncategorize then
      [a.announceMembership env m] else []) =
      if env.settings.broadcastUncategorize then
        [a.event env (.membership m.categoryId m.viewId m.hidden)] else [] := by
    split <;> rfl
  rw [hs, hn, he, List.nil_append, hm]
  exact .uncategorize stored reached

theorem step_reorderViews {order : List RawText} (owned : s.HasOwned a id c) {o : Outcome Reply}
    (ho : o = (Task.reorderViews c.id order).perform env s a) (h : o.result = .ok reply) :
    Step env s a (.reorderViews id order) reply o.store (Note.events o.notes) := by
  subst ho
  unfold Task.perform at h ⊢
  obtain ⟨ids, hr, rfl, hs, hn⟩ := Outcome.noting_map_ok h
  obtain ⟨reached, rfl, hstore, hevents⟩ := Store.reorderViews_ok hr
  rw [hs, hn, hstore, Note.events_append, hevents]
  exact .reorderViews owned rfl reached

theorem step_setVisibility {view : String} {visible : Bool} (owned : s.HasOwned a id c)
    {o : Outcome Reply} (ho : o = (Task.setVisibility c.id view visible).perform env s a)
    (h : o.result = .ok reply) :
    Step env s a (.setVisibility id view visible) reply o.store (Note.events o.notes) := by
  subst ho
  unfold Task.perform at h ⊢
  obtain ⟨n, hr, rfl, hs, hn⟩ := Outcome.noting_map_ok h
  obtain ⟨reached, he⟩ := Store.setVisibility_ok hr
  rw [hs, hn, he]
  exact .setVisibility owned reached

end

/-! ## Requests that succeed are steps -/

theorem Store.admitted_ok {s : Store} {r : Request} {a : Access} {t : Task}
    (h : s.admitted r = .ok (a, t)) :
    r.objection? = none ∧ a.Granted s r ∧ s.task a r.command = .ok t := by
  unfold admitted at h
  split at h
  · cases h
  · next hr =>
    split at h
    · cases h
    · next a' ha =>
      obtain ⟨t', ht, he⟩ := exists_of_map_eq_ok h
      cases he
      exact ⟨hr, access_ok ha, ht⟩

namespace Request

variable {r : Request} {name type id : Option String} {collapsed : Option Bool}

/-- A creation that nothing is wrong with has a name and one of the types. -/
theorem sound_create (h : r.objection? = none) (hc : r.command = .create name type id collapsed) :
    ∃ title kind, stripped? name = some title ∧ type = some kind ∧ kind ∈ categoryTypes := by
  unfold objection? at h
  rw [hc] at h
  dsimp only at h
  split at h
  · cases h
  · next hn =>
    split at h
    · cases h
    · split at h
      · cases h
      · split at h
        · next ht =>
          obtain ⟨title, titled⟩ := Option.ne_none_iff_exists'.1 (by simpa using hn)
          obtain ⟨kind, rfl, typed⟩ := (Option.any_eq_true _ _).1 ht
          exact ⟨title, kind, titled, rfl, by simpa using typed⟩
        · cases h

/-- An update that nothing is wrong with leaves the name alone or gives one. -/
theorem sound_update (h : r.objection? = none) (hc : r.command = .update id name collapsed) :
    name.isSome → (stripped? name).isSome := by
  intro hn
  obtain ⟨n, rfl⟩ := Option.isSome_iff_exists.1 hn
  unfold objection? at h
  rw [hc] at h
  dsimp only at h
  split at h
  · cases h
  · next ht => simpa [Option.isSome_iff_ne_none] using ht

/-- A request that succeeds is a step, of a user who may view the board. -/
theorem attempt_ok {env : Env} {s : Store} {reply : Reply}
    (h : (r.attempt env s).result = .ok reply) :
    ∃ a, a.Granted s r ∧ Step env s a r.command reply (r.attempt env s).store
      (Note.events (r.attempt env s).notes) := by
  unfold attempt at h ⊢
  split at h
  · cases h
  · next a t ha =>
    obtain ⟨sound, granted, ht⟩ := Store.admitted_ok ha
    refine ⟨a, granted, ?_⟩
    cases hc : r.command with
    | create name type id collapsed =>
      obtain ⟨title, kind, titled, rfl, typed⟩ := sound_create sound hc
      rw [hc, Store.task, titled] at ht
      cases ht
      exact step_create titled typed rfl h
    | get id =>
      rw [hc] at ht
      obtain ⟨c, found, rfl⟩ := exists_of_map_eq_ok ht
      cases h
      exact .get (Store.liveCategory_ok found)
    | update id name collapsed =>
      rw [hc] at ht
      obtain ⟨c, owned, rfl⟩ := exists_of_map_eq_ok ht
      exact step_update (Store.ownedCategory_ok owned) (sound_update sound hc) rfl h
    | delete id =>
      rw [hc] at ht
      obtain ⟨c, owned, rfl⟩ := exists_of_map_eq_ok ht
      exact step_delete (Store.ownedCategory_ok owned) rfl h
    | list =>
      rw [hc] at ht
      cases ht
      cases h
      exact .list
    | reorder order =>
      rw [hc] at ht
      cases ht
      exact step_reorder rfl h
    | categorize id views =>
      rw [hc] at ht
      obtain ⟨c, target, rfl⟩ := exists_of_map_eq_ok ht
      exact step_categorize (Store.target_ok target) rfl h
    | uncategorize view =>
      rw [hc] at ht
      cases ht
      exact step_uncategorize rfl h
    | reorderViews id order =>
      rw [hc] at ht
      obtain ⟨c, owned, rfl⟩ := exists_of_map_eq_ok ht
      exact step_reorderViews (Store.ownedCategory_ok owned) rfl h
    | setVisibility id view visible =>
      rw [hc] at ht
      obtain ⟨c, owned, rfl⟩ := exists_of_map_eq_ok ht
      exact step_setVisibility (Store.ownedCategory_ok owned) rfl h

/-- Delivery drops the events that cannot be published and nothing else. -/
theorem run_ok {env : Env} {s : Store} {reply : Reply} (h : (r.run env s).result = .ok reply) :
    ∃ a events, a.Granted s r ∧ Step env s a r.command reply (r.run env s).store events ∧
      Note.events (r.run env s).notes =
        events.filter fun e => (e.obstacle? env.publishFault).isNone := by
  obtain ⟨a, granted, step⟩ := attempt_ok h
  exact ⟨a, _, granted, step, Note.events_deliver _ _⟩

end Request

/-- A visit fails and leaves the store as it was, or it is a step. -/
theorem Visit.cases (v : Visit) (s : Store) :
    (∃ f, (v.outcome s).result = .error f ∧ (v.outcome s).store = s) ∨
      ∃ reply a events, (v.outcome s).result = .ok reply ∧ a.Granted s v.request ∧
        Step v.env s a v.request.command reply (v.outcome s).store events := by
  cases h : (v.outcome s).result with
  | error f =>
    obtain ⟨hs, -⟩ := Request.atomic_run v.env s v.request f h
    exact .inl ⟨f, rfl, hs⟩
  | ok reply =>
    obtain ⟨a, events, granted, step, -⟩ := Request.run_ok h
    exact .inr ⟨reply, a, events, rfl, granted, step⟩

/-- What every step of a run keeps, the run keeps: a visit that fails changes nothing. -/
theorem Store.after_of_step {P : Store → Prop} {s : Store} {run : List Visit} (start : P s)
    (keeps : ∀ v ∈ run, ∀ s reply a events, P s → (v.outcome s).result = .ok reply →
      a.Granted s v.request →
      Step v.env s a v.request.command reply (v.outcome s).store events → P (v.outcome s).store) :
    P (s.after run) := by
  induction run generalizing s with
  | nil => exact start
  | cons v run ih =>
    have first : P (v.outcome s).store := by
      rcases v.cases s with ⟨f, -, hs⟩ | ⟨reply, a, events, ok, granted, step⟩
      · rw [hs]
        exact start
      · exact keeps v (List.mem_cons_self ..) s reply a events start ok granted step
    exact ih first fun w hw => keeps w (List.mem_cons_of_mem v hw)

end BoardViews
