import BoardViews.Proofs.Lookup
import BoardViews.Proofs.Reorder
import BoardViews.Proofs.Run
import Mathlib.Data.List.Induction

/-
  A membership is what its history left. Of a run that starts without memberships, a view has one
  if and only if it was moved (`categorize`, `uncategorize`); it is in the category that it was
  moved to last, with the flag that it was given last (`set_view_visibility`) and the place that
  it was ranked at last (`reorder_views_in_category`), each by a visit that named it together with
  the category that it was in at that moment.

  `Command.Affects` says what a command that succeeds does to what is found under a view, in four
  cases; `Store.told_after` goes from what one visit does to a value to what a run does to it.
-/

namespace BoardViews

/-! ## What is given to a view -/

/-- A view is in a category. -/
def Store.Holds (s : Store) (category view : String) : Prop :=
  ∃ m ∈ s.memberships.rows, m.viewId = view ∧ m.categoryId = category

namespace Command

/-- A command that moves a view to a category, or to the one that stands for none. -/
inductive Moves (view : String) (s : Store) : Command → String → Prop
  | categorize {category : String} {views : List String} (named : view ∈ views) :
      Moves view s (.categorize (some category) views) category
  | uncategorize : Moves view s (.uncategorize view) uncategorized

/-- A command that shows a view in the category that it is in, or hides it there. -/
inductive Shows (view : String) (s : Store) : Command → Bool → Prop
  | setVisibility {category : String} {visible : Bool} (holds : s.Holds category view) :
      Shows view s (.setVisibility (some category) view visible) visible

/-- A command that proposes an order of the category that a view is in, which is accepted and names
the view last at a place. -/
inductive Ranks (view : String) (s : Store) : Command → Nat → Prop
  | reorderViews {category : String} {order : List RawText} {k : Nat}
      (holds : s.Holds category view) (accepted : order.length = (s.viewsIn category).length)
      (last : IsLastPlace order (.whole view) k) :
      Ranks view s (.reorderViews (some category) order) k

/-- What a command that succeeds makes of what is found under a view. -/
inductive Affects (view : String) (s : Store) (command : Command) : Option Membership → Prop
  | moved {category : String} (moves : command.Moves view s category) :
      Affects view s command (some (.carried category view (s.memberships.find? view)))
  | shown {m : Membership} {visible : Bool} (found : s.memberships.find? view = some m)
      (shows : command.Shows view s visible) :
      Affects view s command (some { m with hidden := !visible })
  | ranked {m : Membership} {k : Nat} (found : s.memberships.find? view = some m)
      (ranks : command.Ranks view s k) :
      Affects view s command (some { m with sortOrder := .int (k * gap) })
  | kept (unmoved : ∀ category, ¬command.Moves view s category)
      (unshown : ∀ visible, ¬command.Shows view s visible)
      (unranked : ∀ k, ¬command.Ranks view s k) :
      Affects view s command (s.memberships.find? view)

end Command

/-! ## Steps -/

section

variable {env : Env} {s s' : Store} {a : Access} {command : Command} {reply : Reply}
  {events : List Event} {view category : String} {id : Option String}

theorem Store.holds_iff {m : Membership} (found : s.memberships.find? view = some m) :
    s.Holds category view ↔ m.categoryId = category := by
  constructor
  · rintro ⟨q, hq, hv, rfl⟩
    have same : s.memberships.find? view = some q := Table.find?_eq_some_iff.2 ⟨hq, hv⟩
    rw [found] at same
    rw [Option.some.inj same]
  · intro h
    exact ⟨m, Table.find?_mem found, Table.find?_key found, h⟩

theorem Store.not_holds (absent : s.memberships.find? view = none) : ¬s.Holds category view := by
  rintro ⟨q, hq, hv, -⟩
  have found : s.memberships.find? view = some q := Table.find?_eq_some_iff.2 ⟨hq, hv⟩
  rw [absent] at found
  cases found

/-- Views that a command moves. -/
theorem Command.affects_moved {views : List String}
    (moves : ∀ c, command.Moves view s c ↔ view ∈ views ∧ c = category)
    (unshown : ∀ visible, ¬command.Shows view s visible)
    (unranked : ∀ k, ¬command.Ranks view s k) :
    command.Affects view s ((s.moved category views).memberships.find? view) := by
  rw [s.find?_moved]
  split
  · next hv => exact .moved ((moves category).2 ⟨hv, rfl⟩)
  · next hv => exact .kept (fun c h => hv ((moves c).1 h).1) unshown unranked

/-- A plan ranks the views of its category that its proposal names. -/
theorem Command.affects_arranged {order : List RawText} :
    (Command.reorderViews (some category) order).Affects view s
      ((s.applyViewPlan category (reconcile (s.viewOrder category) order)).memberships.find?
        view) := by
  have counted : (s.viewOrder category).length = (s.viewsIn category).length := List.length_map _
  have kept (unranked : ∀ k, ¬(Command.reorderViews (some category) order).Ranks view s k) :
      (Command.reorderViews (some category) order).Affects view s (s.memberships.find? view) :=
    .kept nofun nofun unranked
  by_cases accepted : order.length = (s.viewsIn category).length
  · have found := s.memberships.find?_mapRows
      (Membership.arranged category (reconcile (s.viewOrder category) order))
      (Membership.arranged_viewId _ _) view
    rw [Store.applyViewPlan, found]
    cases hm : s.memberships.find? view with
    | none =>
      rw [Option.map_none, ← hm]
      refine kept ?_
      rintro k ⟨holds, -, -⟩
      exact Store.not_holds hm holds
    | some m =>
      have recounted : m.Recounted category order
          (m.arranged category (reconcile (s.viewOrder category) order)) :=
        Store.recounted_arrangedView (Table.find?_mem hm) (accepted.trans counted.symm)
      rw [Option.map_some]
      generalize m.arranged category _ = m' at recounted
      obtain rfl : m.viewId = view := Table.find?_key hm
      cases recounted with
      | named isIn last =>
        exact .ranked hm (.reorderViews ((Store.holds_iff hm).2 isIn) accepted last)
      | other h =>
        rw [← hm]
        refine kept ?_
        rintro k ⟨holds, -, last⟩
        exact h ⟨(Store.holds_iff hm).1 holds, List.mem_of_getElem? last.named⟩
  · rw [Store.applyViewPlan_stale (reconcile_stale fun h => accepted (h.trans counted))]
    refine kept ?_
    rintro k ⟨-, fits, -⟩
    exact accepted fits

/-- A mask hides the view that it names, if that view is in its category. -/
theorem Command.affects_masked {named : String} {visible : Bool} :
    (Command.setVisibility (some category) named visible).Affects view s
      ((s.markHidden category named (!visible)).memberships.find? view) := by
  have found := s.memberships.find?_mapRows (Membership.masked category named (!visible))
    (Membership.masked_viewId _ _ _) view
  rw [Store.markHidden, found]
  cases hm : s.memberships.find? view with
  | none =>
    rw [Option.map_none, ← hm]
    refine .kept nofun ?_ nofun
    rintro _ ⟨holds⟩
    exact Store.not_holds hm holds
  | some m =>
    obtain rfl : m.viewId = view := Table.find?_key hm
    rw [Option.map_some, Membership.masked]
    split
    · next h =>
      simp only [Membership.isIn, Bool.and_eq_true, beq_iff_eq] at h
      obtain ⟨rfl, isIn⟩ := h
      exact .shown hm (.setVisibility ((Store.holds_iff hm).2 isIn))
    · next h =>
      rw [← hm]
      refine .kept nofun ?_ nofun
      rintro _ ⟨holds⟩
      exact h (by simp [Membership.isIn, (Store.holds_iff hm).1 holds])

/-- What a step makes of what is found under a view. -/
theorem Step.affects (step : Step env s a command reply s' events) (view : String) :
    command.Affects view s (s'.memberships.find? view) := by
  cases step with
  | create | get | update | delete | list | reorder => exact .kept nofun nofun nofun
  | categorize target stored reached =>
    rw [target.named]
    refine Command.affects_moved (fun c => ?_) nofun nofun
    rw [List.mem_eraseDups]
    constructor
    · rintro ⟨named⟩
      exact ⟨named, rfl⟩
    · rintro ⟨named, rfl⟩
      exact .categorize named
  | uncategorize stored reached =>
    refine Command.affects_moved (fun c => ?_) nofun nofun
    rw [List.mem_singleton]
    constructor
    · rintro ⟨⟩
      exact ⟨rfl, rfl⟩
    · rintro ⟨rfl, rfl⟩
      exact .uncategorize
  | reorderViews owned plan reached =>
    subst plan
    rw [owned.named]
    exact Command.affects_arranged
  | setVisibility owned reached =>
    rw [owned.named]
    exact Command.affects_masked

end

/-! ## Visits -/

/-- A visit that succeeds and whose command gives a value. -/
def Visit.Gives {α : Type} (P : Store → Command → α → Prop) (s : Store) (v : Visit) (x : α) :
    Prop :=
  (∃ reply, (v.outcome s).result = .ok reply) ∧ P s v.request.command x

/-- How a value that is read from a store goes on: a visit that gives one sets it, and every other
visit leaves it alone. -/
structure Store.Follows {α β : Type} (P : Store → Command → α → Prop) (set : α → β)
    (read : Store → β) : Prop where
  given : ∀ s v x, Visit.Gives P s v x → read (v.outcome s).store = set x
  kept : ∀ s v, (∀ x, ¬Visit.Gives P s v x) → read (v.outcome s).store = read s

section

variable {α β : Type} {P : Store → Command → α → Prop} {set : α → β} {view : String}

/-- For what is read from a membership it is enough to know what a command that succeeds does. -/
theorem Store.Follows.of_affects (read : Option Membership → β)
    (given : ∀ {s command found x}, Command.Affects view s command found → P s command x →
      read found = set x)
    (kept : ∀ {s command found}, Command.Affects view s command found → (∀ x, ¬P s command x) →
      read found = read (s.memberships.find? view)) :
    Follows P set fun s => read (s.memberships.find? view) where
  given s v x := by
    rintro ⟨⟨reply, ok⟩, gives⟩
    rcases v.cases s with ⟨f, failed, -⟩ | ⟨_, a, events, -, -, step⟩
    · rw [failed] at ok
      cases ok
    · exact given (step.affects view) gives
  kept s v unset := by
    rcases v.cases s with ⟨f, -, same⟩ | ⟨reply, a, events, ok, -, step⟩
    · rw [same]
    · exact kept (step.affects view) fun x gives => unset x ⟨⟨reply, ok⟩, gives⟩

end

section

variable (view : String)

/-- A view has a membership from when it was moved on, in the category that it was moved to. -/
theorem Store.follows_moves :
    Follows (Command.Moves view) some
      fun s => (s.memberships.find? view).map Membership.categoryId := by
  refine .of_affects (Option.map Membership.categoryId) ?_ ?_
  · intro s command found category affects moves
    cases affects with
    | moved moves' => cases moves <;> cases moves' <;> rfl
    | shown found shows => cases shows; cases moves
    | ranked found ranks => cases ranks; cases moves
    | kept unmoved => exact absurd moves (unmoved category)
  · intro s command found affects unset
    cases affects with
    | moved moves => exact absurd moves (unset _)
    | shown found shows => rw [found]; rfl
    | ranked found ranks => rw [found]; rfl
    | kept => rfl

/-- A view has the flag that it was given, and it is shown before that. -/
theorem Store.follows_shows :
    Follows (Command.Shows view) not
      fun s => ((s.memberships.find? view).map Membership.hidden).getD false := by
  refine .of_affects (fun found => (found.map Membership.hidden).getD false) ?_ ?_
  · intro s command found visible affects shows
    cases affects with
    | moved moves => cases shows; cases moves
    | shown found shows' => cases shows; cases shows'; rfl
    | ranked found ranks => cases shows; cases ranks
    | kept unmoved unshown => exact absurd shows (unshown visible)
  · intro s command found affects unset
    cases affects with
    | moved moves => rfl
    | shown found shows => exact absurd shows (unset _)
    | ranked found ranks => rw [found]; rfl
    | kept => rfl

/-- A view has the sort order of the place that it was given, and it comes first before that. -/
theorem Store.follows_ranks :
    Follows (Command.Ranks view) (fun k => .int (k * gap))
      fun s => ((s.memberships.find? view).map Membership.sortOrder).getD (.int 0) := by
  refine .of_affects (fun found => (found.map Membership.sortOrder).getD (.int 0)) ?_ ?_
  · intro s command found k affects ranks
    cases affects with
    | moved moves => cases ranks; cases moves
    | shown found shows => cases ranks; cases shows
    | ranked found ranks' =>
      obtain ⟨-, -, last⟩ := ranks
      obtain ⟨-, -, last'⟩ := ranks'
      rw [last.eq last']
      rfl
    | kept unmoved unshown unranked => exact absurd ranks (unranked k)
  · intro s command found affects unset
    cases affects with
    | moved moves => rfl
    | shown found shows => rw [found]; rfl
    | ranked found ranks => exact absurd ranks (unset _)
    | kept => rfl

end

/-! ## Runs -/

namespace Store

variable {α β : Type}

/-- No visit of a run gives a value. -/
def Never (P : Store → Command → α → Prop) : Store → List Visit → Prop :=
  Along fun s v => ∀ x, ¬v.Gives P s x

/-- The value that is given by the last visit of a run that gives one. -/
inductive Last (P : Store → Command → α → Prop) (s : Store) (run : List Visit) : α → Prop
  | intro {past later : List Visit} {v : Visit} {x : α} (split : run = past ++ v :: later)
      (gives : v.Gives P (s.after past) x) (last : (s.after (past ++ [v])).Never P later) :
      Last P s run x

/-- What a run says of a value: what the last visit that gives one sets it to, or what it is
otherwise. -/
inductive Told (P : Store → Command → α → Prop) (set : α → β) (otherwise : β) (s : Store)
    (run : List Visit) : β → Prop
  | last {x : α} (last : s.Last P run x) : Told P set otherwise s run (set x)
  | never (never : s.Never P run) : Told P set otherwise s run otherwise

variable {P : Store → Command → α → Prop} {set : α → β} {read : Store → β} {s : Store}
  {past later : List Visit} {v : Visit} {x : α}

theorem Never.not_gives (never : s.Never P (past ++ v :: later)) : ¬v.Gives P (s.after past) x :=
  (along_append.1 never).2.1 x

/-- The last value stays the last one where a visit that gives none comes after it. -/
theorem Last.append {run : List Visit} (last : s.Last P run x)
    (unset : ∀ y, ¬v.Gives P (s.after run) y) : s.Last P (run ++ [v]) x := by
  cases last with
  | intro split gives last =>
    subst split
    refine .intro (List.append_assoc ..) gives (along_append.2 ⟨last, ?_, trivial⟩)
    rw [← after_append, List.append_assoc]
    exact unset

/-- What goes on as visits give it is what a run says of it. -/
theorem told_after (follows : Follows P set read) (s : Store) (run : List Visit) :
    s.Told P set (read s) run (read (s.after run)) := by
  -- The last visit gives a value, or it is told by the run before it.
  induction run using List.reverseRecOn with
  | nil => exact .never trivial
  | append_singleton run v ih =>
    have hv : s.after (run ++ [v]) = (v.outcome (s.after run)).store := s.after_append run [v]
    rw [hv]
    by_cases h : ∃ x, v.Gives P (s.after run) x
    · obtain ⟨x, gives⟩ := h
      rw [follows.given _ v x gives]
      exact .last (.intro rfl gives trivial)
    · have unset : ∀ x, ¬v.Gives P (s.after run) x := fun x gives => h ⟨x, gives⟩
      rw [follows.kept _ v unset]
      generalize read (s.after run) = y at ih
      cases ih with
      | last last => exact .last (last.append unset)
      | never never => exact .never (along_append.2 ⟨never, unset, trivial⟩)

end Store

/-! ## Memberships -/

/-- A membership that is what a run left of the moves, flags and places of its view. -/
structure Membership.LeftBy (s : Store) (run : List Visit) (m : Membership) : Prop where
  category : s.Last (Command.Moves m.viewId) run m.categoryId
  hidden : s.Told (Command.Shows m.viewId) not false run m.hidden
  sortOrder : s.Told (Command.Ranks m.viewId) (fun k => .int (k * gap)) (.int 0) run m.sortOrder

/-- A visit that does not set flags keeps them, and one that does not rank views keeps their sort
orders. -/
theorem Visit.keeps (v : Visit) {s : Store} {m : Membership} (hm : m ∈ s.memberships.rows) :
    ∃ m' ∈ (v.outcome s).store.memberships.rows, m'.viewId = m.viewId ∧
      ((∀ category view visible,
        v.request.command ≠ .setVisibility category view visible) → m'.hidden = m.hidden) ∧
      ((∀ category order, v.request.command ≠ .reorderViews category order) →
        m'.sortOrder = m.sortOrder) := by
  have found := Store.mem_memberships_iff.1 hm
  rcases v.cases s with ⟨f, -, same⟩ | ⟨reply, a, events, -, -, step⟩
  · rw [same]
    exact ⟨m, hm, rfl, fun _ => rfl, fun _ => rfl⟩
  · have affects := step.affects m.viewId
    generalize hf : (v.outcome s).store.memberships.find? m.viewId = after at affects
    generalize v.request.command = command at affects
    cases affects with
    | moved moves =>
      refine ⟨_, Table.find?_mem hf, rfl, ?_⟩
      rw [found]
      exact ⟨fun _ => rfl, fun _ => rfl⟩
    | shown found' shows =>
      rw [found] at found'
      cases found'
      refine ⟨_, Table.find?_mem hf, rfl, fun other => ?_, fun _ => rfl⟩
      cases shows
      exact absurd rfl (other _ _ _)
    | ranked found' ranks =>
      rw [found] at found'
      cases found'
      refine ⟨_, Table.find?_mem hf, rfl, fun _ => rfl, fun other => ?_⟩
      cases ranks
      exact absurd rfl (other _ _)
    | kept =>
      rw [found] at hf
      exact ⟨m, Table.find?_mem hf, rfl, fun _ => rfl, fun _ => rfl⟩

namespace Store

variable {s : Store} {run : List Visit} {view : String}

theorem find?_of_no_memberships (start : s.memberships.rows = []) (view : String) :
    s.memberships.find? view = none := by
  unfold Table.find?
  rw [start]
  rfl

/-- After a run that starts without memberships, a view has one if and only if it was moved. -/
theorem moved_iff (start : s.memberships.rows = []) :
    (∃ m ∈ (s.after run).memberships.rows, m.viewId = view) ↔
      ∃ past v later category, run = past ++ v :: later ∧
        v.Gives (Command.Moves view) (s.after past) category := by
  have told := told_after (follows_moves view) s run
  rw [find?_of_no_memberships start, Option.map_none] at told
  constructor
  · rintro ⟨m, hm, rfl⟩
    rw [mem_memberships_iff.1 hm, Option.map_some] at told
    generalize hc : some m.categoryId = c at told
    cases told with
    | last last =>
      cases last with
      | intro split gives last => exact ⟨_, _, _, _, split, gives⟩
    | never never => cases hc
  · rintro ⟨past, v, later, category, rfl, gives⟩
    cases hf : (s.after (past ++ v :: later)).memberships.find? view with
    | some m => exact ⟨m, Table.find?_mem hf, Table.find?_key hf⟩
    | none =>
      rw [hf, Option.map_none] at told
      generalize hc : (none : Option String) = c at told
      cases told with
      | last last => cases hc
      | never never => exact absurd gives never.not_gives

/-- What is stored of a view is what the run left of it. -/
theorem leftBy_after (start : s.memberships.rows = []) {m : Membership}
    (hm : m ∈ (s.after run).memberships.rows) : m.LeftBy s run := by
  have none := find?_of_no_memberships start m.viewId
  have found := mem_memberships_iff.1 hm
  have moves := told_after (follows_moves m.viewId) s run
  have shows := told_after (follows_shows m.viewId) s run
  have ranks := told_after (follows_ranks m.viewId) s run
  rw [none, found] at moves shows ranks
  refine ⟨?_, shows, ranks⟩
  rw [Option.map_some] at moves
  generalize hc : some m.categoryId = c at moves
  cases moves with
  | last last =>
    cases hc
    exact last
  | never never => cases hc

/-- A membership is determined by its history: after a run that starts without memberships, a view
has one if and only if it was moved, it has no other one, and that one is what the run left. No
visit changes a flag unless it sets flags, or a sort order unless it ranks views. -/
theorem membership_is_told (start : s.memberships.rows = []) (run : List Visit) (view : String) :
    ((∃ m ∈ (s.after run).memberships.rows, m.viewId = view) ↔
      ∃ past v later category, run = past ++ v :: later ∧
        v.Gives (Command.Moves view) (s.after past) category) ∧
    (∀ m ∈ (s.after run).memberships.rows, m.viewId = view →
      m.LeftBy s run ∧ ∀ q ∈ (s.after run).memberships.rows, q.viewId = view → q = m) ∧
    ∀ (t : Store) (v : Visit), ∀ m ∈ t.memberships.rows,
      ∃ m' ∈ (v.outcome t).store.memberships.rows, m'.viewId = m.viewId ∧
        ((∀ category view visible,
          v.request.command ≠ .setVisibility category view visible) → m'.hidden = m.hidden) ∧
        ((∀ category order, v.request.command ≠ .reorderViews category order) →
          m'.sortOrder = m.sortOrder) := by
  refine ⟨moved_iff start, fun m hm hv => ⟨leftBy_after start hm, fun q hq hw => ?_⟩, ?_⟩
  · exact Table.eq_of_key hq hm (hw.trans hv.symm)
  · intro t v m hm
    exact v.keeps hm

/-- A view is ranked behind another one, hidden in its category and taken out of it; that it is
shown in the category afterwards is nothing to it. -/
theorem hidden_view_is_told :
    let past : List Visit := [.sample "u" "b" (.creation "a"),
      .sample "u" "b" (.categorize (some "a") ["v", "w"])]
    let ranked : Visit := .sample "u" "b" (.reorderViews (some "a") ["w", "v"])
    let more : List Visit := [.sample "u" "b" (.setVisibility (some "a") "v" false),
      .sample "u" "b" (.uncategorize "v"),
      .sample "u" "b" (.setVisibility (some "a") "v" true)]
    let run := past ++ ranked :: more
    (sample.after run).memberships.rows =
        [⟨"v", uncategorized, true, .int 10⟩, ⟨"w", "a", false, .int 0⟩] ∧
      ∀ m ∈ (sample.after run).memberships.rows, m.LeftBy sample run := by
  intro past ranked more run
  have current : (sample.after past).viewOrder "a" = [.whole "v", .whole "w"] := by
    let row (view : String) : Membership := ⟨view, "a", false, .int 0⟩
    have rows : (sample.after past).memberships.rows.filter (fun m => m.categoryId == "a") =
        [row "v", row "w"] := by
      decide
    have tie : [row "v", row "w"].Pairwise fun m q =>
        sortsBefore (m.sortOrder, m.viewId) (q.sortOrder, q.viewId) = true :=
      List.pairwise_pair.2 (sortsBefore_int.2 (.inr ⟨rfl, by decide⟩))
    rw [viewOrder, viewsIn_eq, rows, displayed_eq_of_perm (by decide) (.refl _) tie]
    rfl
  have taken : (ranked.outcome (sample.after past)).store =
      (sample.after past).applyViewPlan "a" (reconcile ["v", "w"] ["w", "v"]) := by
    have answer : (ranked.outcome (sample.after past)).result =
        .ok (.order (reconcile ((sample.after past).viewOrder "a") ["w", "v"]).order) :=
      Sequence.run_result (q := .views "a") rfl rfl
    obtain ⟨row, p, -, rfl, -, hstore, -⟩ := Sequence.run_ok (q := .views "a") answer
    rw [← current]
    exact hstore
  have whole : sample.after run = ((sample.after past).applyViewPlan "a"
      (reconcile ["v", "w"] ["w", "v"])).after more := by
    rw [← taken]
    exact after_append_cons _ past more ranked
  have rows : (sample.after run).memberships.rows =
      [⟨"v", uncategorized, true, .int 10⟩, ⟨"w", "a", false, .int 0⟩] := by
    rw [whole]
    decide
  refine ⟨rows, fun m hm => ?_⟩
  exact ((membership_is_told rfl run m.viewId).2.1 m hm rfl).1

end Store

end BoardViews
