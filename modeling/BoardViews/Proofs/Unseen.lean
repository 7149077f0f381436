import BoardViews.Proofs.Admission
import BoardViews.Proofs.Replay

/-
  What cannot be seen. To a user on a board a store is its board, whether the user may view it,
  the categories of the board that are not deleted, and the views of these. Two stores that agree
  on that much may differ in all else: in deleted categories, in those of other boards, in all
  other memberships. A command that works within the board (`Command.isWithin`), which is every
  one that neither makes a category nor moves views, has the same answer in both, leaves the same
  notes, and leaves stores that again look the same.

  `Store.LooksLike` is that relation. What is read through it is equal, each write keeps it, and
  `Outcome.Matches` carries both through the ways of making an outcome.
-/

namespace BoardViews

/-! ## Stores that look the same -/

/-- A category that is there to be seen on a board. -/
structure Category.IsSeenOn (c : Category) (board : Option String) : Prop where
  onBoard : board = some c.boardId
  kept : c.isDeleted = false

/-- Where the deletion time is an integer, as that of every category of the service is, the
categories that are seen are the live ones. -/
theorem Category.isSeenOn_iff_isLive {c : Category} {board : Option String} {n : Int}
    (h : c.deleteAt = .int n) : c.IsSeenOn board ↔ board = some c.boardId ∧ c.isLive = true := by
  constructor
  · rintro ⟨onBoard, kept⟩
    exact ⟨onBoard, isLive_of_kept kept h⟩
  · rintro ⟨onBoard, live⟩
    exact ⟨onBoard, kept_of_isLive live⟩

/-- One store looks like another one to a user on a board. -/
structure Store.LooksLike (s : Store) (user board : Option String) (t : Store) : Prop where
  row : board.bind s.boards.find? = board.bind t.boards.find?
  viewer : s.canView user board = t.canView user board
  categories : ∀ c : Category, c.IsSeenOn board →
    (c ∈ s.categories.rows ↔ c ∈ t.categories.rows)
  memberships : ∀ c ∈ s.categories.rows, c.IsSeenOn board → ∀ m : Membership,
    m.categoryId = c.id → (m ∈ s.memberships.rows ↔ m ∈ t.memberships.rows)

/-- A command that works within a board: it neither makes a category nor moves views. -/
def Command.isWithin : Command → Bool
  | .create _ _ _ _ | .categorize _ _ | .uncategorize _ => false
  | .get _ | .update _ _ _ | .delete _ | .list | .reorder _ | .reorderViews _ _
  | .setVisibility _ _ _ => true

/-- Two tables that agree on the rows of a kind have the same rows of that kind, but for their
order. -/
theorem Table.filter_perm {α κ : Type} {key : α → κ} {t u : Table key} {p : α → Bool}
    (h : ∀ r, p r = true → (r ∈ t.rows ↔ r ∈ u.rows)) :
    (t.rows.filter p).Perm (u.rows.filter p) := by
  have nodup (t : Table key) : (t.rows.filter p).Nodup := (t.nodup.of_map key).filter p
  rw [List.perm_ext_iff_of_nodup (nodup t) (nodup u)]
  intro r
  rw [List.mem_filter, List.mem_filter]
  exact and_congr_left (h r)

/-- Rows are displayed in the same way in whatever order they are stored. -/
theorem displayed_congr {α : Type} {rank : α → Cell} {key : α → String} {rows l : List α}
    (nodup : (rows.map key).Nodup) (perm : rows.Perm l) :
    displayed rank key rows = displayed rank key l :=
  displayed_eq_of_perm nodup (perm.trans (displayed_perm rank key l).symm)
    (displayed_sorted rank key l)

namespace Store.LooksLike

variable {s t : Store} {user board : Option String} {b : String}

theorem refl (s : Store) : s.LooksLike user board s where
  row := rfl
  viewer := rfl
  categories _ _ := Iff.rfl
  memberships _ _ _ _ _ := Iff.rfl

theorem symm (alike : s.LooksLike user board t) : t.LooksLike user board s where
  row := alike.row.symm
  viewer := alike.viewer.symm
  categories c seen := (alike.categories c seen).symm
  memberships c hc seen m hm :=
    (alike.memberships c ((alike.categories c seen).2 hc) seen m hm).symm

/-! ## What is read -/

theorem access_eq (alike : s.LooksLike user board t) :
    s.access user board = t.access user board := by
  unfold access board?
  rw [alike.row, alike.viewer]

theorem hasLive (alike : s.LooksLike user (some b) t) {id : Option String} {c : Category}
    (h : s.HasLive b id c) : t.HasLive b id c where
  mem := (alike.categories c ⟨congrArg some h.onBoard.symm, h.kept⟩).1 h.mem
  named := h.named
  kept := h.kept
  onBoard := h.onBoard

theorem liveCategory_eq (alike : s.LooksLike user (some b) t) (id : Option String) :
    s.liveCategory b id = t.liveCategory b id := by
  rcases s.liveCategory_cases b id with ⟨c, hc, h⟩ | ⟨absent, h⟩
  · rcases t.liveCategory_cases b id with ⟨d, hd, k⟩ | ⟨absent, k⟩
    · rw [h, k, (alike.hasLive hc).eq hd]
    · exact absurd ⟨c, alike.hasLive hc⟩ absent
  · rcases t.liveCategory_cases b id with ⟨d, hd, k⟩ | ⟨-, k⟩
    · exact absurd ⟨d, alike.symm.hasLive hd⟩ absent
    · rw [h, k]

theorem ownedCategory_eq {a : Access} (alike : s.LooksLike user (some a.board.id) t)
    (id : Option String) : s.ownedCategory a id = t.ownedCategory a id := by
  unfold ownedCategory
  rw [alike.liveCategory_eq]

theorem task_eq {a : Access} (alike : s.LooksLike user (some a.board.id) t) (command : Command) :
    s.task a command = t.task a command := by
  cases command <;> simp only [task, target, alike.liveCategory_eq, alike.ownedCategory_eq]

theorem admitted_eq {r : Request} (alike : s.LooksLike r.user r.board t) :
    s.admitted r = t.admitted r := by
  unfold admitted
  rw [alike.access_eq]
  split
  · rfl
  · split
    · rfl
    · next a ha =>
      rw [← alike.access_eq] at ha
      rw [(access_ok ha).board_id] at alike
      rw [alike.task_eq]

/-- What two stores show of a board is the same. -/
theorem liveCategories_eq (alike : s.LooksLike user (some b) t) :
    s.liveCategories b = t.liveCategories b := by
  have perm : (s.liveRows b).Perm (t.liveRows b) := by
    unfold liveRows rowsOn
    rw [List.filter_filter, List.filter_filter]
    refine Table.filter_perm fun c hc => alike.categories c ?_
    simp only [Bool.and_eq_true, beq_iff_eq] at hc
    exact ⟨congrArg some hc.2.symm, Category.kept_of_isLive hc.1⟩
  rw [Store.liveCategories_eq, Store.liveCategories_eq]
  exact displayed_congr (s.liveRows_ids_nodup b) perm

/-- The memberships of a category that is seen are the same, but for their order. -/
theorem views_perm (alike : s.LooksLike user board t) {c : Category}
    (hc : c ∈ s.categories.rows) (seen : c.IsSeenOn board) {p : Membership → Bool}
    (inside : ∀ m, p m = true → m.categoryId = c.id) :
    (s.memberships.rows.filter p).Perm (t.memberships.rows.filter p) :=
  Table.filter_perm fun m hm => alike.memberships c hc seen m (inside m hm)

theorem viewsIn_eq (alike : s.LooksLike user board t) {c : Category}
    (hc : c ∈ s.categories.rows) (seen : c.IsSeenOn board) :
    s.viewsIn c.id = t.viewsIn c.id := by
  rw [Store.viewsIn_eq, Store.viewsIn_eq]
  refine displayed_congr (s.viewRows_nodup c.id) (alike.views_perm hc seen fun m hm => ?_)
  simpa using hm

theorem listing_eq (alike : s.LooksLike user (some b) t) : s.listing b = t.listing b := by
  rw [Store.listing_eq, Store.listing_eq, ← alike.liveCategories_eq]
  refine List.map_congr_left fun c hc => ?_
  obtain ⟨mem, onBoard, live⟩ := mem_liveCategories.1 hc
  rw [alike.viewsIn_eq mem ⟨congrArg some onBoard.symm, Category.kept_of_isLive live⟩]

/-! ## What is written -/

/-- A change of categories that makes none be seen that was not is seen in the same way. -/
theorem mapCategories (alike : s.LooksLike user board t) {f : Category → Category}
    (hk : ∀ c, (f c).id = c.id)
    (hs : ∀ c ∈ s.categories.rows, (f c).IsSeenOn board → c.IsSeenOn board)
    (ht : ∀ c ∈ t.categories.rows, (f c).IsSeenOn board → c.IsSeenOn board) :
    Store.LooksLike { s with categories := s.categories.mapRows f hk } user board
      { t with categories := t.categories.mapRows f hk } where
  row := alike.row
  viewer := alike.viewer
  categories c seen := by
    simp only [Table.mapRows_rows, List.mem_map]
    constructor
    · rintro ⟨q, hq, rfl⟩
      exact ⟨q, (alike.categories q (hs q hq seen)).1 hq, rfl⟩
    · rintro ⟨q, hq, rfl⟩
      exact ⟨q, (alike.categories q (ht q hq seen)).2 hq, rfl⟩
  memberships c hc seen m hm := by
    -- A category that is seen after the change was seen before it, under the same id.
    simp only [Table.mapRows_rows, List.mem_map] at hc
    obtain ⟨q, hq, rfl⟩ := hc
    exact alike.memberships q hq (hs q hq seen) m (hm.trans (hk q))

/-- So is a change of memberships that leaves each in its category. -/
theorem mapMemberships (alike : s.LooksLike user board t) {f : Membership → Membership}
    (hk : ∀ m, (f m).viewId = m.viewId) (still : ∀ m, (f m).categoryId = m.categoryId) :
    Store.LooksLike { s with memberships := s.memberships.mapRows f hk } user board
      { t with memberships := t.memberships.mapRows f hk } where
  row := alike.row
  viewer := alike.viewer
  categories := alike.categories
  memberships c hc seen m hm := by
    simp only [Table.mapRows_rows, List.mem_map]
    constructor
    · rintro ⟨q, hq, rfl⟩
      exact ⟨q, (alike.memberships c hc seen q ((still q).symm.trans hm)).1 hq, rfl⟩
    · rintro ⟨q, hq, rfl⟩
      exact ⟨q, (alike.memberships c hc seen q ((still q).symm.trans hm)).2 hq, rfl⟩

end Store.LooksLike

section

variable {s t : Store} {user : Option String} {a : Access} {id : Option String} {c q : Category}

namespace Store

theorem HasLive.isSeenOn {b : String} (h : s.HasLive b id c) : c.IsSeenOn (some b) where
  onBoard := congrArg some h.onBoard.symm
  kept := h.kept

theorem HasOwned.seen_of_replaced (owned : s.HasOwned a id c) (hq : q ∈ s.categories.rows)
    {millis : Int} {name : Option String} {collapsed : Option Bool} {board : Option String}
    (seen : ((c.edited millis name collapsed).replaced q).IsSeenOn board) : q.IsSeenOn board := by
  rcases owned.replaced_cases hq millis name collapsed with h | ⟨rfl, h⟩
  · rw [h] at seen
    exact seen
  · rw [h] at seen
    exact ⟨seen.onBoard, owned.kept⟩

theorem HasOwned.seen_of_tombstoned (owned : s.HasOwned a id c) (hq : q ∈ s.categories.rows)
    {user b : String} {millis : Int} {board : Option String}
    (seen : (q.tombstoned c.id user b millis).IsSeenOn board) : q.IsSeenOn board := by
  rcases owned.tombstoned_cases hq user b millis with h | ⟨rfl, h⟩
  · rw [h] at seen
    exact seen
  · rw [h] at seen
    exact ⟨seen.onBoard, owned.kept⟩

end Store

theorem Category.seen_of_arranged {b : String} {p : Plan RawText} {board : Option String}
    (seen : (q.arranged b p).IsSeenOn board) : q.IsSeenOn board := by
  unfold Category.arranged at seen
  split at seen
  · exact ⟨seen.onBoard, seen.kept⟩
  · exact seen

namespace Store.LooksLike

theorem hasOwned (alike : s.LooksLike user (some a.board.id) t) (owned : s.HasOwned a id c) :
    t.HasOwned a id c where
  toHasLive := alike.hasLive owned.toHasLive
  owner := owned.owner

theorem putCategory (alike : s.LooksLike user (some a.board.id) t) (owned : s.HasOwned a id c)
    (millis : Int) (name : Option String) (collapsed : Option Bool) :
    (s.putCategory (c.edited millis name collapsed)).LooksLike user (some a.board.id)
      (t.putCategory (c.edited millis name collapsed)) :=
  alike.mapCategories (Category.replaced_id _) (fun _ hq => owned.seen_of_replaced hq)
    fun _ hq => (alike.hasOwned owned).seen_of_replaced hq

theorem markDeleted (alike : s.LooksLike user (some a.board.id) t) (owned : s.HasOwned a id c)
    (millis : Int) :
    (s.markDeleted c.id a.user a.board.id millis).LooksLike user (some a.board.id)
      (t.markDeleted c.id a.user a.board.id millis) :=
  alike.mapCategories (Category.tombstoned_id _ _ _ _) (fun _ hq => owned.seen_of_tombstoned hq)
    fun _ hq => (alike.hasOwned owned).seen_of_tombstoned hq

end Store.LooksLike

end

/-! ## What is left behind -/

/-- Two outcomes with the same answer and the same notes, which leave stores that look the same. -/
structure Outcome.Matches {α : Type} (user board : Option String) (o o' : Outcome α) : Prop where
  result : o.result = o'.result
  notes : o.notes = o'.notes
  alike : o.store.LooksLike user board o'.store

namespace Outcome.Matches

variable {α β : Type} {user board : Option String} {o o' : Outcome α}

theorem map (h : o.Matches user board o') (f : α → β) :
    (o.map f).Matches user board (o'.map f) where
  result := congrArg (Except.map f) h.result
  notes := h.notes
  alike := h.alike

theorem noting (h : o.Matches user board o') (notes : α → List Note) :
    (o.noting notes).Matches user board (o'.noting notes) := by
  unfold Outcome.noting
  rw [h.result]
  split
  · exact ⟨rfl, congrArg (· ++ _) h.notes, h.alike⟩
  · exact h

theorem blaming (h : o.Matches user board o') (doing : String) :
    (o.blaming doing).Matches user board (o'.blaming doing) := by
  unfold Outcome.blaming
  rw [h.result]
  split
  · split
    · exact ⟨rfl, congrArg (· ++ _) h.notes, h.alike⟩
    · exact h
  · exact h

theorem deliver (h : o.Matches user board o') (reason : Option String) :
    (o.deliver reason).Matches user board (o'.deliver reason) where
  result := h.result
  notes := congrArg (Note.deliver reason) h.notes
  alike := h.alike

end Outcome.Matches

open Outcome

/-- Work that comes to the same in two stores: to the same value, with stores that look the same,
or to the same fault. -/
inductive Work.Agrees {α : Type} (user board : Option String) :
    EStateM.Result Fault Store α → EStateM.Result Fault Store α → Prop
  | ok {a : α} {s t : Store} (alike : s.LooksLike user board t) :
      Agrees user board (.ok a s) (.ok a t)
  | error {f : Fault} {s t : Store} : Agrees user board (.error f s) (.error f t)

section

variable {α β : Type} {s t : Store} {user board : Option String}

/-- Work behind a check comes to the same if it does so where the check passes. -/
theorem Work.Agrees.check {check : Except Fault β} {next next' : β → Work α}
    (h : ∀ b, Agrees user board ((next b).run s) ((next' b).run t)) :
    Agrees user board ((liftM check >>= next : Work α).run s)
      ((liftM check >>= next' : Work α).run t) := by
  cases check with
  | ok b => exact h b
  | error f => exact .error

/-- Work that changes the store and gives a value. -/
theorem Work.Agrees.modify {f g : Store → Store} {a : α}
    (h : (f s).LooksLike user board (g t)) :
    Agrees user board ((do modify f; return a : Work α).run s)
      ((do modify g; return a : Work α).run t) :=
  .ok h

theorem Store.LooksLike.transact (alike : s.LooksLike user board t) {work work' : Work α}
    (h : Work.Agrees user board (work.run s) (work'.run t)) (connected : Bool) (doing : String) :
    (s.transact connected doing work).Matches user board (t.transact connected doing work') := by
  refine Matches.blaming ?_ doing
  unfold Store.attempt
  rw [committed_run, committed_run]
  generalize work.run s = x at h
  generalize work'.run t = y at h
  cases h with
  | ok left =>
    cases connected with
    | true => exact ⟨rfl, rfl, left⟩
    | false => exact ⟨rfl, rfl, alike⟩
  | error => exact ⟨rfl, rfl, alike⟩

end

/-! ## Tasks -/

section

variable {env : Env} {s t : Store} {user : Option String} {a : Access} {id : Option String}
  {c : Category}

namespace Store.LooksLike

theorem saveCategory (alike : s.LooksLike user (some a.board.id) t) (owned : s.HasOwned a id c)
    (connected : Bool) (millis : Int) (name : Option String) (collapsed : Option Bool) :
    (s.saveCategory connected (c.edited millis name collapsed)).Matches user (some a.board.id)
      (t.saveCategory connected (c.edited millis name collapsed)) :=
  alike.transact (.check fun _ => .modify (alike.putCategory owned millis name collapsed)) _ _

theorem deleteCategory (alike : s.LooksLike user (some a.board.id) t) (owned : s.HasOwned a id c)
    (connected : Bool) (millis : Int) :
    (s.deleteCategory connected c.id a.user a.board.id millis).Matches user (some a.board.id)
      (t.deleteCategory connected c.id a.user a.board.id millis) := by
  have counted : s.categories.rows.countP (Category.isOwned c.id a.user a.board.id) =
      t.categories.rows.countP (Category.isOwned c.id a.user a.board.id) := by
    rw [List.countP_eq_length_filter, List.countP_eq_length_filter]
    refine (Table.filter_perm fun q hq => ?_).length_eq
    simp only [Category.isOwned, Bool.and_eq_true, beq_iff_eq] at hq
    have owned' := alike.hasOwned owned
    constructor
    · intro mem
      rw [owned.eq_of_id mem hq.1.1]
      exact owned'.mem
    · intro mem
      rw [owned'.eq_of_id mem hq.1.1]
      exact owned.mem
  refine alike.transact (.check fun _ => ?_) _ _
  rw [counted]
  exact .modify (alike.markDeleted owned millis)

theorem reorderCategories {b : String} (alike : s.LooksLike user (some b) t) (connected : Bool)
    (proposed : List RawText) :
    (s.reorderCategories connected b proposed).Matches user (some b)
      (t.reorderCategories connected b proposed) := by
  unfold Store.reorderCategories categoryOrder
  rw [alike.liveCategories_eq]
  dsimp only
  split
  · refine alike.transact (.modify ?_) _ _
    exact alike.mapCategories (Category.arranged_id _ _) (fun _ _ => Category.seen_of_arranged)
      fun _ _ => Category.seen_of_arranged
  · exact ⟨rfl, rfl, alike⟩

theorem reorderViews {board : Option String} (alike : s.LooksLike user board t)
    (hc : c ∈ s.categories.rows) (seen : c.IsSeenOn board) (connected : Bool)
    (proposed : List RawText) :
    (s.reorderViews connected c.id proposed).Matches user board
      (t.reorderViews connected c.id proposed) := by
  unfold Store.reorderViews viewOrder
  rw [alike.viewsIn_eq hc seen]
  dsimp only
  split
  · refine alike.transact (.modify ?_) _ _
    exact alike.mapMemberships (Membership.arranged_viewId _ _) (Membership.arranged_categoryId _ _)
  · exact ⟨rfl, rfl, alike⟩

theorem setVisibility {board : Option String} (alike : s.LooksLike user board t)
    (hc : c ∈ s.categories.rows) (seen : c.IsSeenOn board) (connected : Bool) (view : String)
    (visible : Bool) :
    (s.setVisibility connected c.id view visible).Matches user board
      (t.setVisibility connected c.id view visible) := by
  have counted : s.memberships.rows.countP (Membership.isIn c.id view) =
      t.memberships.rows.countP (Membership.isIn c.id view) := by
    rw [List.countP_eq_length_filter, List.countP_eq_length_filter]
    refine (alike.views_perm hc seen fun m hm => ?_).length_eq
    simp only [Membership.isIn, Bool.and_eq_true, beq_iff_eq] at hm
    exact hm.2
  unfold Store.setVisibility
  rw [counted]
  refine alike.transact (.modify ?_) _ _
  exact alike.mapMemberships (Membership.masked_viewId _ _ _) (Membership.masked_categoryId _ _ _)

end Store.LooksLike

theorem Env.matches_timed {α : Type} {board : Option String} (alike : s.LooksLike user board t)
    {work work' : Int → Outcome α} (h : ∀ millis, (work millis).Matches user board (work' millis)) :
    (env.timed s work).Matches user board (env.timed t work') := by
  unfold Env.timed
  split
  · exact h _
  · exact ⟨rfl, rfl, alike⟩

/-- A task that works within the board is carried out in the same way. -/
theorem Task.matches_perform (alike : s.LooksLike user (some a.board.id) t) {command : Command}
    (within : command.isWithin = true) {task : Task} (ht : s.task a command = .ok task) :
    (task.perform env s a).Matches user (some a.board.id) (task.perform env t a) := by
  cases command with
  | get id =>
    obtain ⟨c, -, rfl⟩ := exists_of_map_eq_ok ht
    exact ⟨rfl, rfl, alike⟩
  | update id name collapsed =>
    obtain ⟨c, owned, rfl⟩ := exists_of_map_eq_ok ht
    refine Env.matches_timed alike fun millis => .map (.noting ?_ _) _
    exact alike.saveCategory (Store.ownedCategory_ok owned) _ millis _ _
  | delete id =>
    obtain ⟨c, owned, rfl⟩ := exists_of_map_eq_ok ht
    refine Env.matches_timed alike fun millis => .map (.noting ?_ _) _
    exact alike.deleteCategory (Store.ownedCategory_ok owned) _ millis
  | list =>
    cases ht
    have same : Reply.listing (s.listing a.board.id) = .listing (t.listing a.board.id) :=
      congrArg _ alike.listing_eq
    exact ⟨congrArg Except.ok same, rfl, alike⟩
  | reorder order =>
    cases ht
    exact .map (.noting (alike.reorderCategories _ order) _) _
  | reorderViews id order =>
    obtain ⟨c, found, rfl⟩ := exists_of_map_eq_ok ht
    have owned := Store.ownedCategory_ok found
    exact .map (.noting (alike.reorderViews owned.mem owned.isSeenOn _ order) _) _
  | setVisibility id view visible =>
    obtain ⟨c, found, rfl⟩ := exists_of_map_eq_ok ht
    have owned := Store.ownedCategory_ok found
    exact .map (.noting (alike.setVisibility owned.mem owned.isSeenOn _ view visible) _) _
  | create name type id collapsed => cases within
  | categorize id views => cases within
  | uncategorize view => cases within

end

/-! ## Requests -/

theorem Request.matches_run (env : Env) {s t : Store} {r : Request}
    (within : r.command.isWithin = true) (alike : s.LooksLike r.user r.board t) :
    (r.run env s).Matches r.user r.board (r.run env t) := by
  refine Outcome.Matches.deliver ?_ _
  unfold attempt
  rw [← alike.admitted_eq]
  split
  · exact ⟨rfl, rfl, alike⟩
  · next a task admitted =>
    obtain ⟨-, granted, ht⟩ := Store.admitted_ok admitted
    rw [granted.board_id] at alike ⊢
    exact Task.matches_perform alike within ht

/-- Over a run of a user on a board that stays within it, two stores that look the same give the
same answers, and they look the same at its end. -/
theorem Store.LooksLike.after {s t : Store} {user board : Option String} {run : List Visit}
    (alike : s.LooksLike user board t)
    (within : ∀ v ∈ run, v.request.user = user ∧ v.request.board = board ∧
      v.request.command.isWithin = true) :
    s.history run = t.history run ∧ (s.after run).LooksLike user board (t.after run) := by
  induction run generalizing s t with
  | nil => exact ⟨rfl, alike⟩
  | cons v run ih =>
    obtain ⟨rfl, rfl, inside⟩ := within v (List.mem_cons_self ..)
    have same := Request.matches_run v.env inside alike
    obtain ⟨rest, looks⟩ := ih same.alike fun w hw => within w (List.mem_cons_of_mem v hw)
    refine ⟨?_, looks⟩
    unfold history
    exact congrArg₂ _ (congrArg _ same.result) rest

/-- A user on a board cannot tell two stores apart that look the same, by any command that works
within the board: the answer is the same, to the words of a refusal, the events and log lines are
the same and come in the same order, and the stores that are left look the same again. What is seen
of a store are the live categories of the board, where their deletion times are integers. -/
theorem unseen_rows_make_no_difference (env : Env) {s t : Store} (r : Request)
    (within : r.command.isWithin = true) (alike : s.LooksLike r.user r.board t) :
    (r.run env s).result = (r.run env t).result ∧ (r.run env s).notes = (r.run env t).notes ∧
      (r.run env s).store.LooksLike r.user r.board (r.run env t).store ∧
      ∀ (c : Category) (n : Int), c.deleteAt = .int n →
        (c.IsSeenOn r.board ↔ r.board = some c.boardId ∧ c.isLive = true) := by
  have same := Request.matches_run env within alike
  exact ⟨same.result, same.notes, same.alike, fun c n time => Category.isSeenOn_iff_isLive time⟩

/-- A category that was deleted and one of another board are as good as missing, whatever views are
in them. -/
theorem deleted_category_looks_missing :
    let row : Category :=
      ⟨"a", "a", "u", "b", .int 1000, .int 1000, .int 0, false, .int 0, "custom"⟩
    let gone : Category := { row with id := "g", deleteAt := .int 2000 }
    let other : Category := { row with id := "x", boardId := "d" }
    let s : Store := { Store.sample with categories := .ofList [row] }
    let t : Store := { s with
      categories := .ofList [gone, row, other]
      memberships := .ofList [⟨"v", "g", false, .int 0⟩, ⟨"w", "x", true, .int 0⟩] }
    let r (id : String) : Request := ⟨some "u", some "b", .delete (some id)⟩
    ((r "g").run .sample t).result = .error (.refusal (.noCategory (some "g"))) ∧
      ((r "x").run .sample t).result = .error (.refusal (.noCategory (some "x"))) := by
  intro row gone other s t r
  have alike : s.LooksLike (some "u") (some "b") t := by
    refine ⟨rfl, rfl, fun c seen => ?_, fun c hc seen m hm => ?_⟩
    · have rows : t.categories.rows = [gone, row, other] := by decide
      rw [rows]
      constructor
      · intro hc
        exact List.mem_cons_of_mem _ (List.mem_append_left [other] hc)
      · intro hc
        simp only [List.mem_cons, List.not_mem_nil, or_false] at hc
        rcases hc with rfl | rfl | rfl
        · exact absurd seen.kept (by decide)
        · exact List.mem_singleton_self row
        · exact absurd seen.onBoard (by decide)
    · obtain rfl : c = row := List.mem_singleton.1 hc
      have apart : ∀ m ∈ t.memberships.rows, m.categoryId ≠ row.id := by decide
      constructor
      · intro h
        cases h
      · intro h
        exact absurd hm (apart m h)
  constructor
  · rw [← (unseen_rows_make_no_difference .sample (r "g") rfl alike).1]
    rfl
  · rw [← (unseen_rows_make_no_difference .sample (r "x") rfl alike).1]
    rfl

end BoardViews
