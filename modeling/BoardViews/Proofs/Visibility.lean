import BoardViews.Proofs.Latest
import BoardViews.Proofs.Notice

/-
  Whether what a team is told of a view is stored. Views that are put into a category are told as
  they are stored. A view that is shown or hidden in a category (`set_view_visibility`) is told as
  the request has it, whether or not the view is in that category; where it is not, nothing is
  stored and the team is told of a membership that there is not.
-/

namespace BoardViews

/-- A view is in a category and hidden there, or shown. -/
def Store.HoldsAs (s : Store) (category view : String) (hidden : Bool) : Prop :=
  ∃ m ∈ s.memberships.rows, m.viewId = view ∧ m.categoryId = category ∧ m.hidden = hidden

section

variable {env : Env} {s s' : Store} {command : Command} {reply : Reply} {category view : String}
  {hidden : Bool}

theorem viewNotice_inj {category' view' : String} {hidden' : Bool}
    (h : viewNotice category view hidden = viewNotice category' view' hidden') :
    category = category' ∧ view = view' ∧ hidden = hidden' := by
  simpa [viewNotice, Json.record] using h

/-- After a view was masked in a category it is there with the new flag, if it was there before. -/
theorem Store.holdsAs_markHidden :
    (s.markHidden category view hidden).HoldsAs category view hidden ↔ s.Holds category view := by
  constructor
  · rintro ⟨q, hq, hv, hc, -⟩
    obtain ⟨m, hm, rfl⟩ := List.mem_map.1 hq
    rw [Membership.masked_viewId] at hv
    rw [Membership.masked_categoryId] at hc
    exact ⟨m, hm, hv, hc⟩
  · rintro ⟨m, hm, hv, hc⟩
    have masked : m.masked category view hidden = { m with hidden := hidden } :=
      if_pos (by simp [Membership.isIn, hv, hc])
    refine ⟨m.masked category view hidden, List.mem_map_of_mem hm, ?_⟩
    rw [masked]
    exact ⟨hv, hc, rfl⟩

/-- Of any other command, what the team is told of a view is stored. -/
theorem Announced.holdsAs {broadcast : Bool} {board : String} {told : List (String × Json)}
    (announced : Announced broadcast board s command reply told)
    (other : ∀ id view visible, command ≠ .setVisibility id view visible)
    (said : viewNotice category view hidden ∈ told) : s.HoldsAs category view hidden := by
  have stored {m : Membership} (hm : m ∈ s.memberships.rows)
      (h : viewNotice category view hidden = m.notice) : s.HoldsAs category view hidden := by
    obtain ⟨rfl, rfl, rfl⟩ := viewNotice_inj h
    exact ⟨m, hm, rfl, rfl, rfl⟩
  cases announced with
  | get | list => cases said
  | create | update | delete | reorder | reorderViews =>
    simp [viewNotice, Category.notice, boardOrderNotice, viewOrderNotice] at said
  | @categorize id views ms rows =>
    obtain ⟨m, hm, same⟩ := List.mem_map.1 said
    have turned : List.Forall₂ (fun m v => m ∈ s.memberships.rows ∧ m.viewId = v) ms
        views.eraseDups := (rows.imp fun v m h => ⟨h.2.2, h.1⟩).flip
    exact stored (((List.forall₂_and_left ms _).1 turned).1 m hm) same.symm
  | uncategorize row =>
    split at said
    · exact stored row (List.mem_singleton.1 said)
    · cases said
  | setVisibility => exact absurd rfl (other _ _ _)

/-- A step tells its team of a view as it is stored, unless it shows or hides the view in a category
that the view is not in. -/
theorem Step.holdsAs_iff {a : Access} {events : List Event} {e : Event}
    (step : Step env s a command reply s' events) (he : e ∈ events)
    (said : e.said = viewNotice category view hidden) :
    s'.HoldsAs category view hidden ↔
      ((∃ id view visible, command = .setVisibility id view visible) → s.Holds category view) := by
  by_cases masks : ∃ id view visible, command = .setVisibility id view visible
  · refine .trans ?_ (forall_prop_of_true masks).symm
    obtain ⟨id, v, visible, rfl⟩ := masks
    cases step with
    | setVisibility owned reached =>
      rw [List.mem_singleton.1 he] at said
      obtain ⟨rfl, rfl, rfl⟩ := viewNotice_inj said
      exact Store.holdsAs_markHidden
  · have told : viewNotice category view hidden ∈ events.map Event.said :=
      List.mem_map.2 ⟨e, he, said⟩
    have stored := step.announced.holdsAs (fun id v visible h => masks ⟨id, v, visible, h⟩) told
    exact iff_of_true stored fun h => absurd h masks

end

/-! ## Requests -/

/-- What a team is told of a view after a request is stored, unless the request shows or hides the
view in a category that the view was not in: then the team is told all the same, and it is not
stored. -/
theorem announced_view_is_stored_iff {env : Env} {s : Store} {r : Request} {reply : Reply}
    {e : Event} {category view : String} {hidden : Bool} (h : (r.run env s).result = .ok reply)
    (published : e ∈ Note.events (r.run env s).notes)
    (said : e.said = viewNotice category view hidden) :
    (r.run env s).store.HoldsAs category view hidden ↔
      ((∃ id view visible, r.command = .setVisibility id view visible) →
        s.Holds category view) := by
  obtain ⟨a, events, -, step, delivered⟩ := Request.run_ok h
  rw [delivered, List.mem_filter] at published
  exact step.holdsAs_iff published.1 said

/-- A view that is hidden in its category is told to be hidden there, and it is. -/
theorem hidden_view_is_announced_as_stored :
    let s := Store.sample.after
      [.sample "u" "b" (.creation "a"), .sample "u" "b" (.categorize (some "a") ["v"])]
    let v := Visit.sample "u" "b" (.setVisibility (some "a") "v" false)
    s.Holds "a" "v" ∧ (v.outcome s).result = .ok .done ∧
      (Note.events (v.outcome s).notes).map Event.said = [viewNotice "a" "v" true] ∧
      (v.outcome s).store.HoldsAs "a" "v" true := by
  intro s v
  have answer : (v.outcome s).result = .ok .done := rfl
  have events : Note.events (v.outcome s).notes =
      [(Change.membership "a" "v" true).event "t" Env.sample.now] := rfl
  have inCategory : s.Holds "a" "v" :=
    ⟨⟨"v", "a", false, .int 0⟩, List.mem_singleton.2 rfl, rfl, rfl⟩
  have published : (Change.membership "a" "v" true).event "t" Env.sample.now ∈
      Note.events (v.outcome s).notes := by
    rw [events]
    exact List.mem_singleton.2 rfl
  have stored := (announced_view_is_stored_iff answer published rfl).2 fun _ => inCategory
  refine ⟨inCategory, answer, ?_, stored⟩
  rw [events]
  rfl

/-- A view that was never put into any category is told to be hidden in one. -/
theorem view_without_membership_is_announced :
    let s := Store.sample.after [.sample "u" "b" (.creation "a")]
    let v := Visit.sample "u" "b" (.setVisibility (some "a") "ghost" false)
    s.Reachable ∧ (v.outcome s).result = .ok .done ∧
      (Note.events (v.outcome s).notes).map Event.said = [viewNotice "a" "ghost" true] ∧
      ¬(v.outcome s).store.HoldsAs "a" "ghost" true := by
  intro s v
  have events : Note.events (v.outcome s).notes =
      [(Change.membership "a" "ghost" true).event "t" Env.sample.now] := rfl
  have empty : (v.outcome s).store.memberships.rows = [] := rfl
  refine ⟨.after (.start rfl rfl) (by decide), rfl, ?_, ?_⟩
  · rw [events]
    rfl
  · rintro ⟨m, hm, -⟩
    rw [empty] at hm
    cases hm

end BoardViews
