import BoardViews.Http.Server
import BoardViews.Socket

/-
  Paths and their segments. A path has segments just if each of them follows a slash, is not empty
  and holds no slash; so a text that is put into a path in the place of a segment is found again if
  it may be a segment, and leads elsewhere or nowhere if not.
-/

namespace BoardViews.Http

/-! ## Segments -/

/-- A text that can be a segment of a path. -/
def IsSegment (t : String) : Prop := t ≠ "" ∧ '/' ∉ t.toList

instance (t : String) : Decidable (IsSegment t) := inferInstanceAs (Decidable (_ ∧ _))

/-- Every text is made of pieces without separators. -/
theorem exists_pieces (sep : Char) (cs : List Char) :
    ∃ (piece : List Char) (pieces : List (List Char)), sep ∉ piece ∧ (∀ p ∈ pieces, sep ∉ p) ∧
      cs = piece ++ pieces.flatMap (sep :: ·) := by
  induction cs with
  | nil => exact ⟨[], [], by simp, by simp, rfl⟩
  | cons c cs ih =>
    obtain ⟨piece, pieces, first, others, rfl⟩ := ih
    by_cases hc : c = sep
    · subst hc
      exact ⟨[], piece :: pieces, by simp, List.forall_mem_cons.2 ⟨first, others⟩, by simp⟩
    · exact ⟨c :: piece, pieces, by simp [first, Ne.symm hc], others, rfl⟩

/-- What is made of pieces is split into them. -/
theorem splitOn_pieces {sep : Char} {piece : List Char} {pieces : List (List Char)}
    (first : sep ∉ piece) (others : ∀ p ∈ pieces, sep ∉ p) :
    (piece ++ pieces.flatMap (sep :: ·)).splitOn sep = piece :: pieces := by
  induction pieces generalizing piece with
  | nil => simpa using List.splitOn_eq_singleton first
  | cons p ps ih =>
    obtain ⟨hp, hps⟩ := List.forall_mem_cons.1 others
    rw [List.flatMap_cons, List.cons_append, List.splitOn_append_cons_self_of_not_mem first,
      ih hp hps]

/-- The segments of a path are the only ones that it is made of. -/
theorem segments?_eq_some_iff {path : String} {parts : List String} :
    segments? path = some parts ↔
      (∀ p ∈ parts, IsSegment p) ∧ path.toList = parts.flatMap fun p => '/' :: p.toList := by
  constructor
  · obtain ⟨piece, pieces, first, others, made⟩ := exists_pieces '/' path.toList
    unfold segments?
    rw [made, splitOn_pieces first others]
    intro h
    split at h
    · next rest split =>
      obtain ⟨rfl, rfl⟩ := List.cons.inj split
      split at h
      · cases h
      · next filled =>
        cases h
        refine ⟨fun p hp => ?_, by simp [List.flatMap_map]⟩
        obtain ⟨q, hq, rfl⟩ := List.mem_map.1 hp
        have nonempty : q ≠ [] := by
          rintro rfl
          exact filled (List.any_eq_true.2 ⟨[], hq, rfl⟩)
        exact ⟨by simpa using nonempty, by simpa using others q hq⟩
    · cases h
  · rintro ⟨proper, made⟩
    have others : ∀ q ∈ parts.map String.toList, '/' ∉ q := by
      intro q hq
      obtain ⟨p, hp, rfl⟩ := List.mem_map.1 hq
      exact (proper p hp).2
    have pieces : path.toList.splitOn '/' = [] :: parts.map String.toList := by
      rw [← splitOn_pieces List.not_mem_nil others, List.flatMap_map]
      exact congrArg _ made
    have filled : ¬ (parts.map String.toList).any (·.isEmpty) = true := by
      rw [List.any_eq_true]
      rintro ⟨q, hq, empty⟩
      obtain ⟨p, hp, rfl⟩ := List.mem_map.1 hq
      exact (proper p hp).1 (by simpa using empty)
    unfold segments?
    rw [pieces]
    dsimp only
    rw [if_neg filled, List.map_map]
    simp

/-! ## Routes -/

section

variable {method path board : String} {c : Call} {d : Deed}

theorem exists_segments_of_mem_routes {route : String × Call} (h : route ∈ routes path) :
    ∃ parts, segments? path = some parts ∧ route ∈ calls parts := by
  unfold routes at h
  split at h
  · next parts found => exact ⟨parts, found, h⟩
  · cases h

/-- What is called is called by a route that fits the path. -/
theorem mem_routes_of_destination (h : destination method path = .call c) :
    (method, c) ∈ routes path := by
  unfold destination at h
  split at h
  · next route found =>
    have same : route.1 = method := by simpa using List.find?_some found
    have mem : route ∈ routes path := List.mem_of_find?_eq_some found
    cases h
    exact same ▸ mem
  · split at h
    · cases h
    · split at h <;> cases h

/-- A board that something is asked of stands in the path. -/
theorem isSegment_of_destination (h : destination method path = .call (.onBoard board d)) :
    IsSegment board := by
  obtain ⟨parts, found, mem⟩ := exists_segments_of_mem_routes (mem_routes_of_destination h)
  unfold calls at mem
  split at mem
  · split at mem
    · cases List.mem_singleton.1 mem
    · cases mem
  · next stored rest =>
    obtain ⟨route, -, e⟩ := List.mem_map.1 mem
    obtain ⟨rfl, -⟩ := Call.onBoard.inj (Prod.mk.inj e).2
    exact (segments?_eq_some_iff.1 found).1 stored (by simp)
  · cases mem

/-! ## A board's own paths -/

/-- A path that is made of a board and of what follows it leads where that leads on the board. -/
theorem routes_onBoard {rest : List String} (h : IsSegment board)
    (proper : ∀ p ∈ rest, IsSegment p)
    (made : path.toList =
      ("api" :: "v1" :: "boards" :: board :: rest).flatMap fun p => '/' :: p.toList) :
    routes path = (deeds rest).map fun d => (d.1, .onBoard board d.2) := by
  have found : segments? path = some ("api" :: "v1" :: "boards" :: board :: rest) := by
    refine segments?_eq_some_iff.2 ⟨?_, made⟩
    simp only [List.forall_mem_cons]
    exact ⟨by decide, by decide, by decide, h, proper⟩
  unfold routes
  rw [found]
  rfl

/-- The path of the listing of a board. -/
def listingPath (board : String) : String := "/api/v1/boards/" ++ board ++ "/view-categories"

theorem destination_listingPath (h : IsSegment board) :
    destination "GET" (listingPath board) = .call (.onBoard board .list) := by
  have made : (listingPath board).toList =
      ["api", "v1", "boards", board, "view-categories"].flatMap fun p => '/' :: p.toList := by
    unfold listingPath
    simp
  unfold destination
  rw [routes_onBoard h (by decide) made]
  rfl

/-- The path at which a view is taken out of all categories. -/
def uncategorizePath (board view : String) : String :=
  "/api/v1/boards/" ++ board ++ "/views/" ++ view ++ "/uncategorize"

theorem destination_uncategorizePath {view : String} (h : IsSegment board) (k : IsSegment view) :
    destination "POST" (uncategorizePath board view) =
      .call (.onBoard board (.uncategorize view)) := by
  have made : (uncategorizePath board view).toList =
      ["api", "v1", "boards", board, "views", view, "uncategorize"].flatMap
        fun p => '/' :: p.toList := by
    unfold uncategorizePath
    simp
  have proper : ∀ p ∈ ["views", view, "uncategorize"], IsSegment p := by
    simp only [List.forall_mem_cons]
    exact ⟨by decide, k, by decide, fun _ absurd => nomatch absurd⟩
  unfold destination
  rw [routes_onBoard h proper made]
  rfl

/-- The path of a category of a board. -/
def categoryPath (board category : String) : String :=
  "/api/v1/boards/" ++ board ++ "/view-categories/" ++ category

section

variable {category : String}

/-- The path of a category called `reorder` is that of the order of the categories as well. -/
theorem routes_categoryPath (h : IsSegment board) (k : IsSegment category) :
    routes (categoryPath board category) =
      (if endsAs "reorder" category then [("PUT", .onBoard board .reorder)] else []) ++
        [("GET", .onBoard board (.get category)), ("PUT", .onBoard board (.update category)),
          ("DELETE", .onBoard board (.delete category))] := by
  have made : (categoryPath board category).toList =
      ["api", "v1", "boards", board, "view-categories", category].flatMap
        fun p => '/' :: p.toList := by
    unfold categoryPath
    simp
  have proper : ∀ p ∈ ["view-categories", category], IsSegment p := by
    simp only [List.forall_mem_cons]
    exact ⟨by decide, k, fun _ absurd => nomatch absurd⟩
  have asked : deeds ["view-categories", category] =
      (if endsAs "reorder" category then [("PUT", .reorder)] else []) ++
        [("GET", .get category), ("PUT", .update category), ("DELETE", .delete category)] := rfl
  rw [routes_onBoard h proper made, asked]
  cases endsAs "reorder" category <;> rfl

theorem destination_get_categoryPath (h : IsSegment board) (k : IsSegment category) :
    destination "GET" (categoryPath board category) = .call (.onBoard board (.get category)) := by
  unfold destination
  rw [routes_categoryPath h k]
  cases endsAs "reorder" category <;> rfl

theorem destination_delete_categoryPath (h : IsSegment board) (k : IsSegment category) :
    destination "DELETE" (categoryPath board category) =
      .call (.onBoard board (.delete category)) := by
  unfold destination
  rw [routes_categoryPath h k]
  cases endsAs "reorder" category <;> rfl

theorem destination_put_categoryPath (h : IsSegment board) (k : IsSegment category) :
    destination "PUT" (categoryPath board category) = .call (.onBoard board
      (if endsAs "reorder" category then .reorder else .update category)) := by
  unfold destination
  rw [routes_categoryPath h k]
  cases endsAs "reorder" category <;> rfl

end

end

end BoardViews.Http

namespace BoardViews.Socket

/-- The path of a board's socket names the board, if the board can be named in a path at all. -/
theorem board?_path (board : String) :
    board? (path board) = if Http.IsSegment board then some board else none := by
  have made : (path board).toList =
      ["api", "v1", "ws", "boards", board].flatMap fun p => '/' :: p.toList := by
    unfold path
    simp
  by_cases h : Http.IsSegment board
  · have found : Http.segments? (path board) = some ["api", "v1", "ws", "boards", board] := by
      refine Http.segments?_eq_some_iff.2 ⟨?_, made⟩
      simp only [List.forall_mem_cons]
      exact ⟨by decide, by decide, by decide, by decide, h, fun _ absurd => nomatch absurd⟩
    rw [if_pos h]
    unfold board?
    rw [found]
    rfl
  · rw [if_neg h]
    unfold board?
    split
    · next other found =>
      obtain ⟨proper, made'⟩ := Http.segments?_eq_some_iff.1 found
      have same : board.toList = other.toList := by
        simpa only [List.flatMap_cons, List.flatMap_nil, List.append_nil, List.cons_append,
          List.append_cancel_left_eq, List.cons.injEq, true_and] using made.symm.trans made'
      exact absurd (String.toList_inj.1 same ▸ proper other (by simp)) h
    · rfl

end BoardViews.Socket
