import BoardViews.Proofs.Frame
import BoardViews.Proofs.Reorder
import BoardViews.Proofs.Run

/-
  Sort orders stand for a list. What is shown of a board after a run is found again from the
  history of the run alone, by keeping a list of ids: a category that is created comes to its
  front, one that is deleted leaves it, and a permutation takes its place. The run starts without
  categories and is `Visit.Orderly` on the board: every proposal for its order is stale or a
  permutation, and no category is deleted at the very first millisecond, which would leave it
  live.

  What carries this is that the sort orders of live categories are multiples of the gap that are
  not negative, so that a new category comes before all those that were lowered for it, and that
  there are fewer gaps than rows, so that no sum is beyond 64 bits.
-/

namespace BoardViews

/-! ## Histories -/

/-- What a request that was answered does to the ids of the categories of a board. -/
def Request.replayed (r : Request) (b : String) (result : Except Failure Reply)
    (ids : List String) : List String :=
  if r.board = some b then
    match r.command, result with
    | .create _ _ _ _, .ok (.category c) => c.id :: ids
    | .delete (some id), .ok _ => ids.erase id
    | .reorder order, .ok _ =>
      if order.Perm (ids.map .whole) then order.filterMap RawText.string? else ids
    | _, _ => ids
  else ids

/-- The requests of a run, each with what it is answered. -/
def Store.history : Store → List Visit → List (Request × Except Failure Reply)
  | _, [] => []
  | s, v :: run => (v.request, (v.outcome s).result) :: history (v.outcome s).store run

/-- The ids of the categories of a board as a history tells them. -/
def replay (b : String) (history : List (Request × Except Failure Reply)) : List String :=
  history.foldl (fun ids e => e.1.replayed b e.2 ids) []

/-- A visit that proposes no other ids for a board than those that are shown, unless they are of
another number, and deletes none of its categories in the millisecond that stands for none. -/
structure Visit.Orderly (b : String) (s : Store) (v : Visit) : Prop where
  fits : ∀ order, v.request.board = some b → v.request.command = .reorder order →
    order.length ≠ (s.categoryOrder b).length ∨ order.Perm (s.categoryOrder b)
  timed : ∀ id, v.request.board = some b → v.request.command = .delete id →
    v.env.now.millis ≠ .ok 0

/-! ## Ranks -/

namespace Store

/-- The sort orders of live categories count gaps, of which there are fewer than rows. -/
structure Ranked (s : Store) (b : String) : Prop where
  counted : ∀ c ∈ s.liveRows b, ∃ k : Nat, k < (s.rowsOn b).length ∧ c.sortOrder = .int (k * gap)
  room : s.categories.rows.length ≤ Table.capacity

/-- The ids of the categories that are shown of a board. -/
def shownIds (s : Store) (b : String) : List String := (s.liveCategories b).map Category.id

variable {s s' : Store} {b : String}

theorem map_whole_shownIds (s : Store) (b : String) :
    (s.shownIds b).map .whole = s.categoryOrder b := by
  unfold shownIds categoryOrder
  rw [List.map_map]
  rfl

theorem filterMap_string?_map_whole (ids : List String) :
    (ids.map RawText.whole).filterMap RawText.string? = ids := by
  rw [List.filterMap_map]
  exact List.filterMap_some

theorem shownIds_nodup (s : Store) (b : String) : (s.shownIds b).Nodup :=
  ((s.liveCategories_perm b).map Category.id).nodup_iff.2 (s.liveRows_ids_nodup b)

theorem Ranked.length_rowsOn_le (ranked : s.Ranked b) : (s.rowsOn b).length ≤ Table.capacity :=
  Nat.le_trans (List.length_filter_le _ _) ranked.room

/-- Ranks and what is shown of a board depend on its rows alone. -/
theorem Ranked.congr (ranked : s.Ranked b) (h : s'.rowsOn b = s.rowsOn b)
    (room : s'.categories.rows.length ≤ Table.capacity) : s'.Ranked b := by
  refine ⟨?_, room⟩
  unfold liveRows
  rw [h]
  exact ranked.counted

theorem shownIds_congr (h : s'.rowsOn b = s.rowsOn b) : s'.shownIds b = s.shownIds b := by
  unfold shownIds
  rw [liveCategories_congr h]

/-! ## Creation -/

section

variable {c : Category} {t : Table Category.id}

/-- A live category with a rank moves down by one rank. -/
theorem sortOrder_lowered {r : Category} {k : Nat} (hb : r.boardId = c.boardId)
    (live : r.isLive = true) (hid : r.id ≠ c.id) (hk : k < Table.capacity)
    (rank : r.sortOrder = .int (k * gap)) :
    (c.lowered r).sortOrder = .int ((k + 1 : Nat) * gap) := by
  have sum : (k : Int) * gap + gap = (k + 1 : Nat) * gap := by
    unfold gap
    omega
  -- The sum is an integer only as long as it has 64 bits; that is what rows are bounded for.
  have fits : fitsWord ((k : Int) * gap + gap) = true := by
    rw [fitsWord_iff]
    unfold gap wordEnd
    unfold Table.capacity at hk
    omega
  unfold Category.lowered
  rw [if_pos ⟨hb, live, hid⟩, ← sum]
  dsimp only
  rw [rank, Cell.plus_int fits]

theorem rowsOn_lowerSiblings (added : s.categories.insert? c = some t) (hb : c.boardId = b) :
    (lowerSiblings { s with categories := t } c).rowsOn b = (s.rowsOn b).map c.lowered ++ [c] := by
  have hmap : (lowerSiblings { s with categories := t } c).rowsOn b =
      (({ s with categories := t } : Store).rowsOn b).map c.lowered :=
    rowsOn_of_map rfl (fun r _ => Category.lowered_boardId c r) b
  rw [hmap, rowsOn_insert? added, if_pos hb, List.map_append, List.map_singleton, c.lowered_self]

theorem liveRows_lowerSiblings (added : s.categories.insert? c = some t) (hb : c.boardId = b)
    (live : c.isLive = true) :
    (lowerSiblings { s with categories := t } c).liveRows b =
      (s.liveRows b).map c.lowered ++ [c] := by
  unfold liveRows
  rw [rowsOn_lowerSiblings added hb, List.filter_append,
    filter_map_of fun r _ => Category.lowered_isLive c r]
  congr 1
  exact List.filter_eq_self.2 (by simpa using live)

/-- The ranks of the other live categories after a creation. -/
theorem Ranked.lowered (ranked : s.Ranked b) (added : s.categories.insert? c = some t)
    (hb : c.boardId = b) {r : Category} (hr : r ∈ s.liveRows b) :
    ∃ k : Nat, k < (s.rowsOn b).length ∧ r.sortOrder = .int (k * gap) ∧
      (c.lowered r).sortOrder = .int ((k + 1 : Nat) * gap) := by
  obtain ⟨k, hk, rank⟩ := ranked.counted r hr
  obtain ⟨hr, onBoard, live⟩ := mem_liveRows.1 hr
  have hlt : k < Table.capacity := Nat.lt_of_lt_of_le hk ranked.length_rowsOn_le
  have hid : r.id ≠ c.id := Table.key_ne_of_insert? added hr
  exact ⟨k, hk, rank, sortOrder_lowered (onBoard.trans hb.symm) live hid hlt rank⟩

theorem Ranked.create (ranked : s.Ranked b) (added : s.categories.insert? c = some t)
    (hb : c.boardId = b) (live : c.isLive = true) (top : c.sortOrder = .int 0)
    (room : t.rows.length ≤ Table.capacity) :
    (lowerSiblings { s with categories := t } c).Ranked b := by
  have hlength : ((lowerSiblings { s with categories := t } c).rowsOn b).length =
      (s.rowsOn b).length + 1 := by
    rw [rowsOn_lowerSiblings added hb, List.length_append, List.length_map, List.length_singleton]
  constructor
  · intro r' hr'
    rw [liveRows_lowerSiblings added hb live, List.mem_append, List.mem_singleton] at hr'
    rw [hlength]
    rcases hr' with hr' | rfl
    · obtain ⟨r, hr, rfl⟩ := List.mem_map.1 hr'
      obtain ⟨k, hk, -, rank⟩ := ranked.lowered added hb hr
      exact ⟨k + 1, Nat.succ_lt_succ hk, rank⟩
    · exact ⟨0, Nat.succ_pos _, by rw [top]; rfl⟩
  · exact Nat.le_trans (Nat.le_of_eq (List.length_map _)) room

/-- All live categories move by the same step, so those with equal sort orders are still told apart
by their ids. -/
theorem Ranked.displayed_lowered (ranked : s.Ranked b)
    (added : s.categories.insert? c = some t) (hb : c.boardId = b) :
    displayed Category.sortOrder Category.id ((s.liveRows b).map c.lowered) =
      (s.liveCategories b).map c.lowered := by
  rw [liveCategories_eq]
  refine displayed_map fun q hq r hr => ?_
  obtain ⟨k, -, hk, hk'⟩ := ranked.lowered added hb hq
  obtain ⟨l, -, hl, hl'⟩ := ranked.lowered added hb hr
  have hlt : ((k + 1 : Nat) * gap < (l + 1 : Nat) * gap) ↔ (k * gap < l * gap) := by
    unfold gap
    omega
  have heq : ((k + 1 : Nat) * gap = (l + 1 : Nat) * gap) ↔ (k * gap = l * gap) := by
    unfold gap
    omega
  rw [hk, hk', hl, hl', Category.lowered_id, Category.lowered_id, Bool.eq_iff_iff,
    sortsBefore_int, sortsBefore_int, hlt, heq]

theorem Ranked.liveCategories_create (ranked : s.Ranked b)
    (added : s.categories.insert? c = some t) (hb : c.boardId = b) (live : c.isLive = true)
    (top : c.sortOrder = .int 0) :
    (lowerSiblings { s with categories := t } c).liveCategories b =
      c :: (s.liveCategories b).map c.lowered := by
  rw [liveCategories_eq]
  apply displayed_eq_of_perm (liveRows_ids_nodup _ b)
  · rw [liveRows_lowerSiblings added hb live]
    refine (List.perm_append_singleton _ _).trans (.cons _ ?_)
    exact (s.liveCategories_perm b).symm.map _
  · rw [List.pairwise_cons]
    constructor
    -- Every other sort order is at least one gap now, so the new one comes first without a tie.
    · intro r' hr'
      obtain ⟨r, hr, rfl⟩ := List.mem_map.1 hr'
      obtain ⟨k, -, -, rank⟩ := ranked.lowered added hb ((s.liveCategories_perm b).mem_iff.1 hr)
      rw [top, rank, sortsBefore_int]
      unfold gap
      omega
    · rw [← ranked.displayed_lowered added hb]
      exact displayed_sorted _ _ _

/-- A category that is created comes in front of those that are shown. -/
theorem Ranked.shownIds_create (ranked : s.Ranked b) (added : s.categories.insert? c = some t)
    (hb : c.boardId = b) (live : c.isLive = true) (top : c.sortOrder = .int 0) :
    (lowerSiblings { s with categories := t } c).shownIds b = c.id :: s.shownIds b := by
  unfold shownIds
  rw [ranked.liveCategories_create added hb live top, List.map_cons, List.map_map]
  refine congrArg (c.id :: ·) (List.map_congr_left fun r _ => ?_)
  exact Category.lowered_id c r

end

/-! ## Updates -/

/-- A change of rows that keeps all that decides where they are shown. -/
theorem shownIds_of_map {f : Category → Category}
    (h : s'.categories.rows = s.categories.rows.map f)
    (hid : ∀ r, (f r).id = r.id)
    (kept : ∀ r ∈ s.categories.rows, (f r).boardId = r.boardId ∧ (f r).isLive = r.isLive ∧
      (f r).sortOrder = r.sortOrder) :
    s'.shownIds b = s.shownIds b := by
  have hrows : s'.liveRows b = (s.liveRows b).map f :=
    liveRows_of_map h (fun r hr => (kept r hr).1) fun r hr => (kept r (mem_rowsOn.1 hr).1).2.1
  have rank {r : Category} (hr : r ∈ s.liveRows b) : (f r).sortOrder = r.sortOrder :=
    (kept r (mem_liveRows.1 hr).1).2.2
  unfold shownIds
  rw [liveCategories_eq, liveCategories_eq, hrows, displayed_map, List.map_map]
  · exact List.map_congr_left fun r _ => hid r
  · intro q hq r hr
    rw [hid, hid, rank hq, rank hr]

/-- Where each row is mapped on its board, the ranks that the live ones have then are enough. -/
theorem Ranked.of_counted {f : Category → Category} (ranked : s.Ranked b)
    (h : s'.categories.rows = s.categories.rows.map f)
    (kept : ∀ r ∈ s.categories.rows, (f r).boardId = r.boardId)
    (counted : ∀ r ∈ s.rowsOn b, (f r).isLive = true →
      ∃ k : Nat, k < (s.rowsOn b).length ∧ (f r).sortOrder = .int (k * gap)) :
    s'.Ranked b := by
  have hrows := rowsOn_of_map h kept b
  constructor
  · intro r' hr'
    obtain ⟨hr', live⟩ := List.mem_filter.1 hr'
    rw [hrows] at hr'
    obtain ⟨r, hr, rfl⟩ := List.mem_map.1 hr'
    rw [hrows, List.length_map]
    exact counted r hr live
  · rw [h, List.length_map]
    exact ranked.room

/-- Ranks are kept where no row is lost, and each live one had its rank before. -/
theorem Ranked.of_map {f : Category → Category} (ranked : s.Ranked b)
    (h : s'.categories.rows = s.categories.rows.map f)
    (kept : ∀ r ∈ s.categories.rows, (f r).boardId = r.boardId)
    (old : ∀ r ∈ s.rowsOn b, (f r).isLive = true → r.isLive = true ∧
      (f r).sortOrder = r.sortOrder) : s'.Ranked b := by
  refine ranked.of_counted h kept fun r hr live => ?_
  obtain ⟨live, rank⟩ := old r hr live
  rw [rank]
  exact ranked.counted r (List.mem_filter.2 ⟨hr, live⟩)

/-! ## Deletion -/

section

variable {a : Access} {id : Option String} {c : Category} {millis : Int}

/-- Of the live categories of a board, all but the deleted one are left, and they are as they
were. -/
theorem liveRows_markDeleted (owned : s.HasOwned a id c) (hm : millis ≠ 0) :
    (s.markDeleted c.id a.user a.board.id millis).liveRows b =
      (s.liveRows b).filter fun r => r.id != c.id := by
  have hrows : (s.markDeleted c.id a.user a.board.id millis).rowsOn b =
      (s.rowsOn b).map (Category.tombstoned c.id a.user a.board.id millis) :=
    rowsOn_of_map rfl (fun r _ => Category.tombstoned_boardId _ _ _ _ r) b
  have gone (r : Category) (hr : r ∈ s.rowsOn b) :
      (Category.tombstoned c.id a.user a.board.id millis r).isLive =
        (r.id != c.id && r.isLive) := by
    unfold Category.tombstoned Category.isOwned
    by_cases hid : r.id = c.id
    · obtain rfl := owned.eq_of_id (mem_rowsOn.1 hr).1 hid
      simp [owned.owner, owned.onBoard, Category.isLive, hm]
    · simp [hid]
  unfold liveRows
  rw [hrows, filter_map_of gone, ← List.filter_filter]
  refine (List.map_congr_left fun r hr => ?_).trans (List.map_id' _)
  have hid : r.id ≠ c.id := by simpa using (List.mem_filter.1 hr).2
  unfold Category.tombstoned Category.isOwned
  rw [beq_false_of_ne hid, Bool.false_and, Bool.false_and]
  rfl

/-- A category that is deleted leaves the list. -/
theorem shownIds_markDeleted (owned : s.HasOwned a id c) (hm : millis ≠ 0) :
    (s.markDeleted c.id a.user a.board.id millis).shownIds b = (s.shownIds b).erase c.id := by
  rw [(s.shownIds_nodup b).erase_eq_filter]
  unfold shownIds
  rw [liveCategories_eq, liveCategories_eq, liveRows_markDeleted owned hm,
    displayed_filter (s.liveRows_ids_nodup b), List.filter_map]
  rfl

theorem Ranked.markDeleted (ranked : s.Ranked b) (hm : millis ≠ 0) {id user board : String} :
    (s.markDeleted id user board millis).Ranked b := by
  refine ranked.of_map rfl (fun r _ => Category.tombstoned_boardId _ _ _ _ r) fun r _ live => ?_
  unfold Category.tombstoned at live ⊢
  split at live
  · simp [Category.isLive, hm] at live
  · next hr =>
    rw [if_neg hr]
    exact ⟨live, rfl⟩

end

/-! ## Reordering -/

theorem Ranked.reorder {order : List RawText} (ranked : s.Ranked b)
    (perm : order.Perm (s.categoryOrder b)) :
    (s.applyCategoryPlan b (reconcile (s.categoryOrder b) order)).Ranked b := by
  have hlength : order.length ≤ (s.rowsOn b).length := by
    rw [perm.length_eq]
    exact s.length_categoryOrder_le b
  refine ranked.of_counted rfl (fun r _ => Category.arranged_boardId b _ r) fun r hr live => ?_
  rw [Category.arranged_isLive] at live
  obtain ⟨hr, onBoard⟩ := mem_rowsOn.1 hr
  have hmem := mem_categoryOrder hr onBoard live
  have hlt := List.idxOf_lt_length_iff.2 (perm.mem_iff.2 hmem)
  refine ⟨order.idxOf (.whole r.id), Nat.lt_of_lt_of_le hlt hlength, ?_⟩
  exact sortOrder_arranged onBoard live (sortOrder?_of_perm (s.categoryOrder_nodup b) perm hmem)

/-- What a reorder does to the list: a permutation takes its place. -/
theorem shownIds_reorder {order : List RawText}
    (h : order.length ≠ (s.categoryOrder b).length ∨ order.Perm (s.categoryOrder b)) :
    (s.applyCategoryPlan b (reconcile (s.categoryOrder b) order)).shownIds b =
      if order.Perm ((s.shownIds b).map .whole) then order.filterMap RawText.string?
      else s.shownIds b := by
  rw [map_whole_shownIds]
  split
  · next perm =>
    have shown : (s.applyCategoryPlan b (reconcile (s.categoryOrder b) order)).categoryOrder b =
        order := Sequence.current_written_of_perm (q := .categories) perm
    rw [← filterMap_string?_map_whole (Store.shownIds _ b), map_whole_shownIds, shown]
  · next perm =>
    have stale := h.resolve_right perm
    rw [applyCategoryPlan_stale (reconcile_stale stale)]

end Store

/-! ## Visits -/

section

variable {env : Env} {s s' : Store} {a : Access} {command : Command} {reply : Reply}
  {events : List Event} {b : String}

/-- No step has more rows than there is place for. -/
theorem Step.room (step : Step env s a command reply s' events)
    (room : s.categories.rows.length ≤ Table.capacity) :
    s'.categories.rows.length ≤ Table.capacity := by
  have mapped (f : Category → Category) : (s.categories.rows.map f).length ≤ Table.capacity := by
    rw [List.length_map]
    exact room
  cases step with
  | create titled typed clock word made added room reached =>
    exact Nat.le_trans (Nat.le_of_eq (List.length_map _)) room
  | get found => exact room
  | update owned titled clock word reached => exact mapped _
  | delete owned clock word reached => exact mapped _
  | list => exact room
  | reorder plan reached => exact mapped _
  | categorize target stored reached => exact room
  | uncategorize stored reached => exact room
  | reorderViews owned plan reached => exact room
  | setVisibility owned reached => exact room

/-- A step on a board does to its list what the request is replayed as. -/
theorem Step.replays {r : Request} (step : Step env s a r.command reply s' events)
    (named : r.board = some a.board.id) (ranked : s.Ranked a.board.id)
    (orderly : Visit.Orderly a.board.id s ⟨env, r⟩) :
    s'.Ranked a.board.id ∧
      s'.shownIds a.board.id = r.replayed a.board.id (.ok reply) (s.shownIds a.board.id) := by
  unfold Request.replayed
  rw [if_pos named]
  have fits := fun order => orderly.fits order named
  have timed := fun id => orderly.timed id named
  dsimp only at fits timed
  generalize r.command = command at step fits timed
  cases step with
  | create titled typed clock word made added room reached =>
    subst made
    exact ⟨ranked.create added rfl rfl rfl room, ranked.shownIds_create added rfl rfl rfl⟩
  | get found => exact ⟨ranked, rfl⟩
  | update owned titled clock word reached =>
    constructor
    · refine ranked.of_map rfl (fun r hr => (owned.replaced_edited _ _ _ hr).1) fun r hr live => ?_
      obtain ⟨-, kept, rank⟩ := owned.replaced_edited _ _ _ (Store.mem_rowsOn.1 hr).1
      exact ⟨kept.symm.trans live, rank⟩
    · exact Store.shownIds_of_map rfl (Category.replaced_id _) fun r hr =>
        owned.replaced_edited _ _ _ hr
  | @delete id millis c owned clock word reached =>
    have hm : millis ≠ 0 := by
      rintro rfl
      exact timed _ rfl clock
    refine ⟨ranked.markDeleted hm, ?_⟩
    rw [owned.named]
    exact Store.shownIds_markDeleted owned hm
  | list => exact ⟨ranked, rfl⟩
  | reorder plan reached =>
    subst plan
    refine ⟨?_, Store.shownIds_reorder (fits _ rfl)⟩
    rcases fits _ rfl with stale | perm
    · rw [Store.applyCategoryPlan_stale (reconcile_stale stale)]
      exact ranked
    · exact ranked.reorder perm
  | categorize target stored reached => exact ⟨ranked.congr rfl ranked.room, rfl⟩
  | uncategorize stored reached => exact ⟨ranked.congr rfl ranked.room, rfl⟩
  | reorderViews owned plan reached => exact ⟨ranked.congr rfl ranked.room, rfl⟩
  | setVisibility owned reached => exact ⟨ranked.congr rfl ranked.room, rfl⟩

end

theorem Request.replayed_error {r : Request} {b : String} {f : Failure} {ids : List String} :
    r.replayed b (.error f) ids = ids := by
  unfold replayed
  split
  · split <;> simp_all
  · rfl

/-- A visit does to the list of a board what it is replayed as, whatever board it is on and whether
it fails or not. -/
theorem Visit.replays {v : Visit} {s : Store} {b : String} (ranked : s.Ranked b)
    (orderly : v.Orderly b s) :
    (v.outcome s).store.Ranked b ∧
      (v.outcome s).store.shownIds b =
        v.request.replayed b (v.outcome s).result (s.shownIds b) := by
  rcases v.cases s with ⟨f, hf, hs⟩ | ⟨reply, a, events, hr, granted, step⟩
  · rw [hs, hf, Request.replayed_error]
    exact ⟨ranked, rfl⟩
  · rw [hr]
    by_cases hb : b = a.board.id
    · subst hb
      exact step.replays granted.board_id ranked orderly
    · have hrows := step.rowsOn_other hb
      have other : v.request.board ≠ some b := by
        rw [granted.board_id]
        exact fun h => hb (Option.some.inj h).symm
      refine ⟨ranked.congr hrows (step.room ranked.room), ?_⟩
      exact (Store.shownIds_congr hrows).trans (if_neg other).symm

/-! ## Runs -/

namespace Store

variable {s : Store} {b : String} {run : List Visit}

/-- A run does to the list of a board what its history is replayed as. -/
theorem Ranked.after (ranked : s.Ranked b) (orderly : s.Along (Visit.Orderly b) run) :
    (s.after run).Ranked b ∧
      (s.after run).shownIds b =
        (s.history run).foldl (fun ids e => e.1.replayed b e.2 ids) (s.shownIds b) := by
  induction run generalizing s with
  | nil => exact ⟨ranked, rfl⟩
  | cons v run ih =>
    obtain ⟨fits, orderly⟩ := orderly
    obtain ⟨ranked', shown⟩ := Visit.replays ranked fits
    obtain ⟨ranked'', shown'⟩ := ih ranked' orderly
    refine ⟨ranked'', ?_⟩
    rw [shown] at shown'
    exact shown'

theorem ranked_of_no_categories (h : s.categories.rows = []) : s.Ranked b := by
  constructor
  · intro c hc
    have hmem := (mem_liveRows.1 hc).1
    rw [h] at hmem
    cases hmem
  · rw [h]
    exact Nat.zero_le _

theorem shownIds_of_no_categories (h : s.categories.rows = []) : s.shownIds b = [] := by
  have hrows : s.liveRows b = [] := by
    unfold liveRows rowsOn
    rw [h]
    rfl
  unfold shownIds
  rw [liveCategories_eq, hrows]
  exact congrArg _ List.mergeSort_nil

/-- After a run that starts without categories, the list of a board is what its history is replayed
as. -/
theorem shownIds_after (start : s.categories.rows = [])
    (orderly : s.Along (Visit.Orderly b) run) :
    (s.after run).shownIds b = replay b (s.history run) := by
  obtain ⟨-, shown⟩ := (ranked_of_no_categories start).after orderly
  rw [shown, shownIds_of_no_categories start]
  rfl

theorem map_id_listing (s : Store) (b : String) :
    (s.listing b).map (fun e => e.1.id) = s.shownIds b := by
  rw [listing_eq, List.map_map]
  rfl

/-- The categories that are shown of a board are those of the history of the run, in its order, and
every reorder hands back that order. -/
theorem replay_is_shown (start : s.categories.rows = [])
    (orderly : s.Along (Visit.Orderly b) run) :
    ((s.after run).listing b).map (fun e => e.1.id) = replay b (s.history run) ∧
    (∀ env user reply, (Request.run env (s.after run) ⟨user, some b, .list⟩).result = .ok reply →
      ∃ entries, reply = .listing entries ∧
        entries.map (fun e => e.1.id) = replay b (s.history run)) ∧
    ∀ past v more order reply, run = past ++ v :: more → v.request.board = some b →
      v.request.command = .reorder order → (v.outcome (s.after past)).result = .ok reply →
      reply = .order ((replay b (s.history (past ++ [v]))).map .whole) := by
  have shown : ((s.after run).listing b).map (fun e => e.1.id) = replay b (s.history run) := by
    rw [map_id_listing]
    exact shownIds_after start orderly
  refine ⟨shown, ?_, ?_⟩
  · intro env user reply h
    obtain ⟨a, events, granted, step, -⟩ := Request.run_ok h
    have hb : b = a.board.id := Option.some.inj granted.board_id
    generalize (Request.run env (s.after run) ⟨user, some b, .list⟩).store = s' at step
    cases step with
    | list => exact ⟨_, rfl, by rw [← hb]; exact shown⟩
  · rintro past ⟨env, user, board, command⟩ more order reply rfl hboard hcommand h
    cases hboard
    cases hcommand
    rw [List.append_cons, along_append] at orderly
    have hpast := along_append.1 orderly.1
    have fits := hpast.2.1.fits order rfl rfl
    obtain ⟨row, p, -, rfl, rfl, hstore, -⟩ := Sequence.run_ok (q := .categories) h
    have settled := Sequence.categories.settled_written b (s.after past) order
    rw [← shownIds_after start orderly.1, map_whole_shownIds, after_append]
    refine congrArg Reply.order ?_
    rw [← settled.inEffect fits, ← hstore]
    rfl

/-- Three categories are created on a board, and one on another; one of the three is deleted, and
the order of the others is turned around. -/
theorem turned_order_is_shown :
    let past : List Visit := [.sample "u" "b" (.creation "a"), .sample "w" "d" (.creation "x"),
      .sample "u" "b" (.creation "c"), .sample "u" "b" (.creation "e"),
      .sample "u" "b" (.delete (some "c"))]
    let last : Visit := .sample "u" "b" (.reorder ["a", "e"])
    ((sample.after (past ++ [last])).listing "b").map (fun e => e.1.id) = ["a", "e"] := by
  intro past last
  have perm : [RawText.whole "a", .whole "e"].Perm ((sample.after past).categoryOrder "b") := by
    refine .trans ?_ (((sample.after past).liveCategories_perm "b").map _).symm
    decide
  have clock : Env.sample.now.millis = .ok 1000 := rfl
  have others : ∀ v ∈ past, ∀ s : Store, v.Orderly "b" s := by
    intro v hv s
    have hv : v.env = .sample ∧ ∀ order, v.request.command ≠ .reorder order := by
      simp only [past, List.mem_cons, List.not_mem_nil, or_false] at hv
      rcases hv with rfl | rfl | rfl | rfl | rfl <;> exact ⟨rfl, nofun⟩
    refine ⟨fun order _ hc => absurd hc (hv.2 order), fun id _ _ h => ?_⟩
    rw [hv.1, clock] at h
    cases h
  have orderly : sample.Along (Visit.Orderly "b") (past ++ [last]) := by
    refine along_append.2 ⟨along_of_forall others, ⟨fun order _ hc => ?_, nofun⟩, trivial⟩
    cases hc
    exact .inr perm
  have answer : (last.outcome (sample.after past)).result = .ok (.order ["a", "e"]) := by
    have hr : (last.outcome (sample.after past)).result =
        .ok (.order (reconcile ((sample.after past).categoryOrder "b") ["a", "e"]).order) :=
      Sequence.run_result (q := .categories) rfl rfl
    rw [hr, reconcile_order_of_taken perm.length_eq]
  refine (replay_is_shown rfl orderly).1.trans ?_
  change last.request.replayed "b" (last.outcome (sample.after past)).result
    (replay "b" (sample.history past)) = _
  rw [answer]
  rfl

end Store

end BoardViews
