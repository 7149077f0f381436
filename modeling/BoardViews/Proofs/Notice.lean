import BoardViews.Proofs.Frame
import BoardViews.Proofs.Lookup
import BoardViews.Proofs.Run
import Mathlib.Data.List.Forall2

/-
  What a team is told, through the `ChangeNotifier`. A request that fails, and one that only
  reads, tells nothing. A category that was changed is told once, as it is stored and handed back,
  and it is the one that the request names on its board; views that were put into a category are
  told once each, in the order in which they were first named, as they are stored; an order is
  told as it is handed back. All of it goes to the team of the board, after the commit. What is
  assumed (`works`) is that nothing stands in the way of an event.

  `Announced` lists this command by command, and each of the ten steps is one of its cases.
-/

namespace BoardViews

/-! ## Notices -/

/-- What an event says: what was changed, by its name, and how. -/
def Event.said (e : Event) : String × Json := (e.action.name, e.payload)

/-- What is said of a category. -/
def Category.notice (c : Category) : String × Json :=
  ("UPDATE_VIEW_CATEGORY", .record [("view_category", .record c.fields)])

/-- What is said of a view in a category. -/
def viewNotice (category view : String) (hidden : Bool) : String × Json :=
  ("UPDATE_VIEW_CATEGORY_VIEW",
    .record [("category_id", .text category), ("view_id", .text view), ("hidden", .bool hidden)])

/-- What is said of a membership. -/
def Membership.notice (m : Membership) : String × Json := viewNotice m.categoryId m.viewId m.hidden

/-- What is said of the order of the categories of a board. -/
def boardOrderNotice (board : String) (ids : List RawText) : String × Json :=
  ("REORDER_VIEW_CATEGORIES",
    .record [("board_id", .text board), ("category_order", Json.texts ids)])

/-- What is said of the order of the views of a category. -/
def viewOrderNotice (category : String) (ids : List RawText) : String × Json :=
  ("REORDER_VIEW_CATEGORY_VIEWS",
    .record [("category_id", .text category), ("view_order", Json.texts ids)])

/-- What the team of a board is told of a command that was answered, with the store that is left;
`broadcast` says whether it is told of views that are taken out of their categories. -/
inductive Announced (broadcast : Bool) (board : String) (s : Store) :
    Command → Reply → List (String × Json) → Prop
  | create {name type id : Option String} {collapsed : Option Bool} {c : Category}
      (stored : c ∈ s.categories.rows) (onBoard : c.boardId = board)
      (named : ∀ given, stripped? id = some given → c.id = given)
      (titled : stripped? name = some c.name) (typed : type = some c.type) :
      Announced broadcast board s (.create name type id collapsed) (.category c) [c.notice]
  | get {id : Option String} {c : Category} (stored : c ∈ s.categories.rows)
      (onBoard : c.boardId = board) (named : id = some c.id) :
      Announced broadcast board s (.get id) (.category c) []
  | update {id name : Option String} {collapsed : Option Bool} {c : Category}
      (stored : c ∈ s.categories.rows) (onBoard : c.boardId = board) (named : id = some c.id) :
      Announced broadcast board s (.update id name collapsed) (.category c) [c.notice]
  | delete {id : Option String} {c : Category} (stored : c ∈ s.categories.rows)
      (onBoard : c.boardId = board) (named : id = some c.id) :
      Announced broadcast board s (.delete id) (.category c) [c.notice]
  | list {entries : List (Category × List Membership)} :
      Announced broadcast board s .list (.listing entries) []
  | reorder {order ids : List RawText} :
      Announced broadcast board s (.reorder order) (.order ids) [boardOrderNotice board ids]
  | categorize {id : Option String} {views : List String} {ms : List Membership}
      (stored : List.Forall₂ (fun view m => m.viewId = view ∧ id = some m.categoryId ∧
        m ∈ s.memberships.rows) views.eraseDups ms) :
      Announced broadcast board s (.categorize id views) (.memberships ms)
        (ms.map Membership.notice)
  | uncategorize {m : Membership} (stored : m ∈ s.memberships.rows)
      (taken : m.categoryId = uncategorized) :
      Announced broadcast board s (.uncategorize m.viewId) (.membership m)
        (if broadcast then [m.notice] else [])
  | reorderViews {category : String} {order ids : List RawText} :
      Announced broadcast board s (.reorderViews (some category) order) (.order ids)
        [viewOrderNotice category ids]
  | setVisibility {category view : String} {visible : Bool} :
      Announced broadcast board s (.setVisibility (some category) view visible) .done
        [viewNotice category view (!visible)]

/-! ## Rows that are told are stored -/

namespace Store

variable {s : Store} {a : Access} {id : Option String} {c : Category}

/-- A new category is stored as it was made. -/
theorem mem_lowerSiblings {t : Table Category.id} (added : s.categories.insert? c = some t) :
    c ∈ (lowerSiblings { s with categories := t } c).categories.rows := by
  have hc : c ∈ t.rows := by
    rw [Table.insert?_rows added]
    exact List.mem_append_right _ (List.mem_singleton.2 rfl)
  have mapped : c.lowered c ∈ t.rows.map c.lowered := List.mem_map_of_mem hc
  rw [c.lowered_self] at mapped
  exact mapped

theorem mem_putCategory {q : Category} (hc : c ∈ s.categories.rows) (h : c.id = q.id) :
    q ∈ (s.putCategory q).categories.rows := by
  have own : q.replaced c = q := if_pos h
  have mapped : q.replaced c ∈ s.categories.rows.map q.replaced := List.mem_map_of_mem hc
  rw [own] at mapped
  exact mapped

theorem HasOwned.mem_markDeleted (owned : s.HasOwned a id c) (millis : Int) :
    { c with deleteAt := .int millis } ∈
      (s.markDeleted c.id a.user a.board.id millis).categories.rows := by
  have own : Category.tombstoned c.id a.user a.board.id millis c =
      { c with deleteAt := .int millis } := by
    unfold Category.tombstoned Category.isOwned
    simp [owned.owner, owned.onBoard]
  rw [← own]
  exact List.mem_map_of_mem owned.mem

/-- The memberships that are handed back are those of the views that were moved, one for each. -/
theorem filterMap_find?_moved (s : Store) (category : String) (views : List String) :
    views.filterMap (s.moved category views).memberships.find? =
      views.map fun v => .carried category v (s.memberships.find? v) := by
  rw [← List.filterMap_eq_map]
  refine List.filterMap_congr fun v hv => ?_
  rw [find?_moved, if_pos hv]
  rfl

end Store

/-! ## Steps -/

section

variable {env : Env} {s s' : Store} {a : Access} {command : Command} {reply : Reply}
  {events : List Event}

/-- A step tells what is to be told of its command. -/
theorem Step.announced (step : Step env s a command reply s' events) :
    Announced env.settings.broadcastUncategorize a.board.id s' command reply
      (events.map Event.said) := by
  cases step with
  | @create name id type title collapsed millis c t titled typed clock word made added room
      reached =>
    subst made
    have named : ∀ given, stripped? id = some given →
        (stripped? id).getD env.freshId = given := by
      intro given h
      rw [h, Option.getD_some]
    exact .create (Store.mem_lowerSiblings added) rfl named titled rfl
  | get found => exact .get found.mem found.onBoard found.named
  | update owned titled clock word reached =>
    exact .update (Store.mem_putCategory owned.mem rfl) owned.onBoard owned.named
  | delete owned clock word reached =>
    exact .delete (owned.mem_markDeleted _) owned.onBoard owned.named
  | list => exact .list
  | reorder plan reached => exact .reorder
  | @categorize id t views ms target stored reached =>
    rw [Store.filterMap_find?_moved] at stored
    rw [List.map_map]
    refine .categorize ?_
    rw [stored, List.forall₂_map_right_iff, List.forall₂_same]
    intro v hv
    exact ⟨rfl, target.named, Store.mem_moved hv⟩
  | @uncategorize view m stored reached =>
    have named : view ∈ [view] := List.mem_singleton.2 rfl
    have found := (s.find?_moved uncategorized [view] view).trans (if_pos named)
    rw [found, Option.getD_some] at stored
    have told : (if env.settings.broadcastUncategorize then
        [a.event env (.membership m.categoryId m.viewId m.hidden)] else []).map Event.said =
        if env.settings.broadcastUncategorize then [m.notice] else [] := by
      split <;> rfl
    rw [told]
    subst stored
    exact .uncategorize (Store.mem_moved named) rfl
  | reorderViews owned plan reached =>
    rw [owned.named]
    exact .reorderViews
  | setVisibility owned reached =>
    rw [owned.named]
    exact .setVisibility

/-- The events of a step are for the team of its board. -/
theorem Step.team (step : Step env s a command reply s' events) :
    ∀ e ∈ events, e.team = a.board.teamId := by
  intro e he
  cases step with
  | get | list => cases he
  | create | update | delete | reorder | reorderViews | setVisibility =>
    rw [List.mem_singleton.1 he]
    rfl
  | categorize target stored reached =>
    obtain ⟨m, -, rfl⟩ := List.mem_map.1 he
    rfl
  | uncategorize stored reached =>
    split at he
    · rw [List.mem_singleton.1 he]
      rfl
    · cases he

end

/-! ## Requests -/

/-- Where nothing stands in the way of the events of a request, the team is told of the change that
it made, once and as it is stored, and of nothing else. -/
theorem request_is_announced {env : Env} {s : Store} {r : Request}
    (works : ∀ e ∈ Note.events (r.attempt env s).notes, e.obstacle? env.publishFault = none) :
    (∀ f, (r.run env s).result = .error f → Note.events (r.run env s).notes = []) ∧
    ∀ reply, (r.run env s).result = .ok reply →
      ∃ board, s.board? r.board = some board ∧
        Announced env.settings.broadcastUncategorize board.id (r.run env s).store r.command reply
          ((Note.events (r.run env s).notes).map Event.said) ∧
        ∀ e ∈ Note.events (r.run env s).notes, e.channel = "team:" ++ board.teamId ∧
          e.toJson.field? "team_id" = some (.text board.teamId) := by
  constructor
  · intro f h
    exact (r.atomic_run env s f h).2
  · intro reply h
    obtain ⟨a, granted, step⟩ := Request.attempt_ok h
    have delivered : Note.events (r.run env s).notes = Note.events (r.attempt env s).notes := by
      refine (Note.events_deliver _ _).trans (List.filter_eq_self.2 fun e he => ?_)
      rw [works e he]
      rfl
    rw [delivered]
    refine ⟨a.board, granted.board, step.announced, fun e he => ?_⟩
    have team := step.team e he
    rw [← team]
    exact ⟨rfl, rfl⟩

/-- Two views are put into a category, one of them twice, and the other one is hidden there already;
the category is given a new name in another request. -/
theorem repeated_view_is_announced_once :
    let s : Store := { Store.sample with
      categories := .ofList
        [⟨"a", "a", "u", "b", .int 1, .int 1, .int 0, false, .int 0, "custom"⟩]
      memberships := .ofList [⟨"v", "a", true, .int 0⟩] }
    let r : Request := ⟨some "u", some "b", .categorize (some "a") ["w", "v", "w"]⟩
    let q : Request := ⟨some "u", some "b", .update (some "a") (some " n ") none⟩
    let renamed : Category :=
      ⟨"a", "n", "u", "b", .int 1, .int 1000, .int 0, false, .int 0, "custom"⟩
    (∀ e ∈ Note.events (r.attempt .sample s).notes, e.obstacle? none = none) ∧
      (r.run .sample s).result =
        .ok (.memberships [⟨"w", "a", false, .int 0⟩, ⟨"v", "a", true, .int 0⟩]) ∧
      (Note.events (r.run .sample s).notes).map Event.said =
        [viewNotice "a" "w" false, viewNotice "a" "v" true] ∧
      (q.run .sample s).result = .ok (.category renamed) ∧
      (Note.events (q.run .sample s).notes).map Event.said = [renamed.notice] ∧
      renamed ∈ (q.run .sample s).store.categories.rows := by
  intro s r q renamed
  have made : Note.events (r.attempt .sample s).notes =
      [(Change.membership "a" "w" false).event "t" Env.sample.now,
        (Change.membership "a" "v" true).event "t" Env.sample.now] := rfl
  have works : ∀ e ∈ Note.events (r.attempt .sample s).notes, e.obstacle? none = none := by
    rw [made]
    intro e he
    simp only [List.mem_cons, List.not_mem_nil, or_false] at he
    rcases he with rfl | rfl <;> rfl
  have made' : Note.events (q.attempt .sample s).notes =
      [(Change.category renamed).event "t" Env.sample.now] := rfl
  have works' : ∀ e ∈ Note.events (q.attempt .sample s).notes, e.obstacle? none = none := by
    rw [made']
    intro e he
    rw [List.mem_singleton.1 he]
    rfl
  have answer : (r.run .sample s).result =
      .ok (.memberships [⟨"w", "a", false, .int 0⟩, ⟨"v", "a", true, .int 0⟩]) := rfl
  have answer' : (q.run .sample s).result = .ok (.category renamed) := rfl
  obtain ⟨board, -, announced, -⟩ := (request_is_announced works).2 _ answer
  obtain ⟨board', -, announced', -⟩ := (request_is_announced works').2 _ answer'
  refine ⟨works, answer, ?_, answer', ?_⟩
  · generalize (Note.events (r.run .sample s).notes).map Event.said = told at announced ⊢
    cases announced with
    | categorize stored => rfl
  · generalize (Note.events (q.run .sample s).notes).map Event.said = told at announced' ⊢
    cases announced' with
    | update stored onBoard named => exact ⟨rfl, stored⟩

end BoardViews
