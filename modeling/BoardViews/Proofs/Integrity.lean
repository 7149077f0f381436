import BoardViews.Proofs.Admission
import BoardViews.Proofs.Lifecycle
import BoardViews.Text.Digit

/-
  What is stored is well formed. However blank, empty or absent the values of the requests of a
  run are, every category has an id and a name without blanks around them, an owner, one of the
  types and a live board; every membership is in a category that is stored, deleted or not, or in
  the one that stands for none. No category has that id, so a view that was taken out of its
  category is shown on no board. Runs start without categories and memberships, and of new ids it
  is assumed that they are hexadecimal digits (`Text.IsHex`), as `new_id` makes them.

  What a request makes of a category is read from `Category.Goes` and `Category.IsMade`, and where
  a membership may be put from `Store.MayFill`. That categories are never taken away keeps the
  memberships sound.
-/

namespace BoardViews

/-! ## Trimmed texts -/

namespace Text

/-- A text that is not empty and neither starts nor ends with a blank. -/
structure IsTrimmed (s : String) : Prop where
  first : ∃ c, s.toList.head? = some c ∧ isBlank c = false
  last : ∃ c, s.toList.getLast? = some c ∧ isBlank c = false

theorem IsTrimmed.ne_empty {s : String} (h : IsTrimmed s) : s ≠ "" := by
  rintro rfl
  obtain ⟨c, hc, -⟩ := h.first
  cases hc

/-- Nothing behind a trimmed text belongs to the class. -/
theorem trim_last (p : Char → Bool) (cs : List Char) (c : Char)
    (h : (trim p cs).getLast? = some c) : p c = false := by
  have front := List.head?_dropWhile_not p (cs.dropWhile p).reverse
  unfold trim at h
  rw [List.getLast?_reverse] at h
  rw [h] at front
  exact front

/-- What is left of a text without the blanks around it is trimmed. -/
theorem isTrimmed_strip {s : String} (h : strip s ≠ "") : IsTrimmed (strip s) := by
  have left : trim isBlank s.toList ≠ [] := by
    intro none
    apply h
    unfold strip
    rw [none]
  constructor
  · have first := List.head?_eq_some_head left
    rw [toList_strip]
    exact ⟨_, first, trim_head _ _ _ first⟩
  · have last := List.getLast?_eq_some_getLast left
    rw [toList_strip]
    exact ⟨_, last, trim_last _ _ _ last⟩

/-- A text of hexadecimal digits, as new ids are. -/
def IsHex (s : String) : Prop := s ≠ "" ∧ ∀ c ∈ s.toList, (hexValue? c).isSome = true

theorem isBlank_of_hexValue? {c : Char} (h : (hexValue? c).isSome = true) : isBlank c = false := by
  have le_iff {c d : Char} : c ≤ d ↔ c.toNat ≤ d.toNat := Iff.rfl
  have range : 0x30 ≤ c.toNat ∧ c.toNat ≤ 0x66 := by
    unfold hexValue? at h
    simp only [le_iff, Char.reduceToNat] at h
    split at h
    · omega
    · split at h
      · omega
      · split at h
        · omega
        · simp at h
  unfold isBlank isSpace
  simp
  omega

theorem IsHex.isTrimmed {s : String} (h : IsHex s) : IsTrimmed s := by
  have some_ : s.toList ≠ [] := by
    intro none
    exact h.1 (String.toList_eq_nil_iff.1 none)
  have plain : ∀ c ∈ s.toList, isBlank c = false := fun c hc => isBlank_of_hexValue? (h.2 c hc)
  constructor
  · exact ⟨_, List.head?_eq_some_head some_, plain _ (List.head_mem some_)⟩
  · exact ⟨_, List.getLast?_eq_some_getLast some_, plain _ (List.getLast_mem some_)⟩

end Text

theorem isTrimmed_of_stripped? {name : Option String} {title : String}
    (h : stripped? name = some title) : Text.IsTrimmed title := by
  unfold stripped? at h
  obtain ⟨found, given⟩ := Option.filter_eq_some_iff.1 h
  obtain ⟨n, rfl, rfl⟩ := Option.map_eq_some_iff.1 found
  exact Text.isTrimmed_strip (by simpa using given)

/-! ## Categories -/

/-- A category as it is to be stored. -/
structure Category.WellFormed (s : Store) (c : Category) : Prop where
  id : Text.IsTrimmed c.id
  name : Text.IsTrimmed c.name
  owner : c.userId ≠ ""
  type : c.type = "system" ∨ c.type = "custom"
  board : ∃ b ∈ s.boards.rows, b.id = c.boardId ∧ b.isLive = true

namespace Category

variable {s : Store} {a : Access} {env : Env} {r : Request} {result : Except Failure Reply}
  {clock : Except ClockFault Int} {command : Command} {c c' : Category}

/-- Nothing that becomes of a category takes its form away; a new name has been trimmed. -/
theorem WellFormed.goes (h : c.WellFormed s) (goes : c.Goes r result clock c') :
    c'.WellFormed s := by
  cases goes with
  | same => exact h
  | ranked live n => exact { h with }
  | @edited _ name _ _ _ kept named onBoard asked read done =>
    refine { h with name := ?_ }
    cases hn : stripped? name with
    | none => exact h.name
    | some title => exact isTrimmed_of_stripped? hn
  | deleted kept read => exact { h with }

/-- The id of a category is the one that was given, without the blanks around it, or a new one. -/
theorem IsMade.isTrimmed_id (made : c.IsMade env a command) (fresh : Text.IsHex env.freshId) :
    Text.IsTrimmed c.id := by
  cases made with
  | @intro name id type title collapsed millis titled typed read =>
    change Text.IsTrimmed ((stripped? id).getD env.freshId)
    cases hi : stripped? id with
    | none => exact fresh.isTrimmed
    | some i => exact isTrimmed_of_stripped? hi

/-- A category is well formed when it is made, by a user with an id on a board that was found. -/
theorem IsMade.wellFormed (made : c.IsMade env a command) (fresh : Text.IsHex env.freshId)
    (user : a.user ≠ "") (board : a.board ∈ s.boards.rows ∧ a.board.isLive = true) :
    c.WellFormed s := by
  have named := made.isTrimmed_id fresh
  cases made with
  | @intro name id type title collapsed millis titled typed read =>
    have known : type = "system" ∨ type = "custom" := by simpa [categoryTypes] using typed
    exact ⟨named, isTrimmed_of_stripped? titled, user, known, a.board, board.1, rfl, board.2⟩

end Category

/-! ## Requests -/

namespace Request

variable {env : Env} {s : Store} {r : Request}

/-- Nothing is wrong with a request that succeeds. -/
theorem objection?_of_ok {reply : Reply} (h : (r.run env s).result = .ok reply) :
    r.objection? = none := by
  change (r.attempt env s).result = .ok reply at h
  unfold attempt at h
  split at h
  · cases h
  · next admitted => exact (Store.admitted_ok admitted).1

/-- A creation that nothing is wrong with is that of a user with an id. -/
theorem user_of_made {a : Access} {c : Category} (sound : r.objection? = none)
    (user : r.user = some a.user) (made : c.IsMade env a r.command) : a.user ≠ "" := by
  generalize hc : r.command = command at made
  cases made with
  | intro titled typed read =>
    unfold objection? at sound
    rw [hc, user] at sound
    simp only [isGiven, Option.any_some] at sound
    intro empty
    simp [empty, titled] at sound

end Request

/-! ## Stores -/

namespace Store

/-- A store of well formed categories, with memberships in these or in the one that stands for
none. -/
structure Sound (s : Store) : Prop where
  categories : ∀ c ∈ s.categories.rows, c.WellFormed s
  memberships : ∀ m ∈ s.memberships.rows,
    m.categoryId = uncategorized ∨ ∃ c ∈ s.categories.rows, c.id = m.categoryId

variable {s s' : Store}

theorem Sound.step {env : Env} {a : Access} {r : Request} {reply : Reply} {events : List Event}
    (sound : s.Sound) (fresh : Text.IsHex env.freshId) (fine : r.objection? = none)
    (granted : a.Granted s r) (step : Step env s a r.command reply s' events) : s'.Sound := by
  have framed := step.framed granted
  have board : a.board ∈ s.boards.rows ∧ a.board.isLive = true := by
    obtain ⟨mem, -, live⟩ := board?_eq_some_iff.1 granted.board
    exact ⟨mem, live⟩
  have moved {c : Category} (h : c.WellFormed s) : c.WellFormed s' := by
    refine { h with board := ?_ }
    rw [framed.boards]
    exact h.board
  constructor
  · intro c' hc'
    apply moved
    rcases (step.evolves granted).origin hc' with ⟨c, hc, goes⟩ | made
    · exact (sound.categories c hc).goes goes
    · exact made.wellFormed fresh (Request.user_of_made fine granted.user made) board
  · intro m' hm'
    -- No category is taken away, so it is enough that there was one before.
    have lasting {id : String} (h : ∃ c ∈ s.categories.rows, c.id = id) :
        ∃ c ∈ s'.categories.rows, c.id = id := by
      obtain ⟨c, hc, rfl⟩ := h
      obtain ⟨c', hc', same, -⟩ := framed.categories.kept c hc
      exact ⟨c', hc', same⟩
    have filled (h : s.MayFill r.user r.board m'.categoryId) :
        m'.categoryId = uncategorized ∨ ∃ c ∈ s'.categories.rows, c.id = m'.categoryId := by
      rcases h with none | ⟨c, hc, named, -⟩
      · exact .inl none
      · exact .inr (lasting ⟨c, hc, named⟩)
    rcases framed.memberships.origin hm' with ⟨m, hm, went⟩ | new
    · by_cases same : m'.categoryId = m.categoryId
      · rw [same]
        exact (sound.memberships m hm).imp_right lasting
      · exact filled (went.moved same)
    · exact filled new

theorem Sound.after (sound : s.Sound) {run : List Visit}
    (fresh : ∀ v ∈ run, Text.IsHex v.env.freshId) : (s.after run).Sound := by
  refine after_of_step sound fun v hv s reply a events sound ok granted step => ?_
  exact sound.step (fresh v hv) (Request.objection?_of_ok ok) granted step

/-- A view that was taken out of its category is shown on no board. -/
theorem Sound.not_listed (sound : s.Sound) {m : Membership} (hm : m ∈ s.memberships.rows)
    (none : m.categoryId = uncategorized) {b : String} {e : Category × List Membership}
    (he : e ∈ s.listing b) {q : Membership} (hq : q ∈ e.2) : q.viewId ≠ m.viewId := by
  rw [listing_eq] at he
  obtain ⟨c, hc, rfl⟩ := List.mem_map.1 he
  have stored := (mem_liveCategories.1 hc).1
  rw [viewsIn_eq, (displayed_perm _ _ _).mem_iff, List.mem_filter] at hq
  have inside : q.categoryId = c.id := by simpa using hq.2
  intro same
  have one : q = m := Table.eq_of_key hq.1 hm same
  rw [one, none] at inside
  exact (sound.categories c stored).id.ne_empty inside.symm

/-- After any run that starts without categories and memberships every category is well formed;
every membership is in a stored category or in the one that stands for none; and a view in the
latter is shown on no board. -/
theorem stored_rows_are_well_formed (noCategories : s.categories.rows = [])
    (noMemberships : s.memberships.rows = []) (run : List Visit)
    (fresh : ∀ v ∈ run, Text.IsHex v.env.freshId) :
    (∀ c ∈ (s.after run).categories.rows, c.WellFormed (s.after run)) ∧
      (∀ m ∈ (s.after run).memberships.rows,
        m.categoryId = uncategorized ∨
          ∃ c ∈ (s.after run).categories.rows, c.id = m.categoryId) ∧
      ∀ m ∈ (s.after run).memberships.rows, m.categoryId = uncategorized →
        ∀ b, ∀ e ∈ (s.after run).listing b, ∀ q ∈ e.2, q.viewId ≠ m.viewId := by
  have start : s.Sound := by
    constructor
    · simp [noCategories]
    · simp [noMemberships]
  have sound := start.after fresh
  refine ⟨sound.categories, sound.memberships, fun m hm none b e he q hq => ?_⟩
  exact sound.not_listed hm none he hq

/-- A category is created under a blank id, renamed and deleted; one of its views is taken out of
it, and the other one stays in it. -/
theorem deleted_category_is_well_formed :
    let run : List Visit := [
      .sample "u" "b" (.create (some " n\t") (some "custom") (some " ") none),
      .sample "u" "b" (.categorize (some "f") ["v", "w"]),
      .sample "u" "b" (.update (some "f") (some "\u2003m m ") none),
      .sample "u" "b" (.categorize (some "") ["v"]),
      .sample "u" "b" (.delete (some "f"))]
    (sample.after run).categories.rows =
        [⟨"f", "m m", "u", "b", .int 1000, .int 1000, .int 1000, false, .int 0, "custom"⟩] ∧
      (sample.after run).memberships.rows =
        [⟨"v", "", false, .int 0⟩, ⟨"w", "f", false, .int 0⟩] ∧
      (∀ c ∈ (sample.after run).categories.rows, c.WellFormed (sample.after run)) ∧
      ∀ b, ∀ e ∈ (sample.after run).listing b, ∀ q ∈ e.2, q.viewId ≠ "v" := by
  intro run
  have categories : (sample.after run).categories.rows =
      [⟨"f", "m m", "u", "b", .int 1000, .int 1000, .int 1000, false, .int 0, "custom"⟩] := by
    decide
  have memberships : (sample.after run).memberships.rows =
      [⟨"v", "", false, .int 0⟩, ⟨"w", "f", false, .int 0⟩] := by decide
  have fresh : ∀ v ∈ run, Text.IsHex v.env.freshId := by
    have digit : Text.IsHex "f" := ⟨by decide, by simp [Text.hexValue?]⟩
    intro v hv
    simp only [run, List.mem_cons, List.not_mem_nil, or_false] at hv
    rcases hv with rfl | rfl | rfl | rfl | rfl <;> exact digit
  obtain ⟨formed, -, hidden⟩ := stored_rows_are_well_formed (s := sample) rfl rfl run fresh
  refine ⟨categories, memberships, formed, ?_⟩
  refine hidden ⟨"v", "", false, .int 0⟩ ?_ rfl
  rw [memberships]
  exact List.mem_cons_self ..

end Store

end BoardViews
