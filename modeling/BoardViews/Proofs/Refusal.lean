import BoardViews.Proofs.Admission
import BoardViews.Proofs.Success

/-
  When a request is refused. `Store.grounds` lists what a request can be refused for, in one order
  for all commands: what is wrong with it by itself, then its board, then the category that it
  names, as the methods of `CategorizationService` check them. It is refused for the first ground
  that is met and for no other. Where none is met it succeeds, if the store can be written, has
  place and the clock can be read (`Env.Serves`); only the creation of a category under an id that
  is taken fails even then.

  Each check is told against its own list of grounds, and the lists follow one another as the
  checks do. A category is not found if the one of its id on the board counts as deleted; where
  deletion times are integers, that is if none of its id on the board is live.
-/

namespace BoardViews

/-! ## Grounds -/

/-- Why a request may be refused, and what has to be the case for it. -/
structure Ground where
  why : Refusal
  met : Prop

/-- Grounds in the order in which they count. -/
abbrev Grounds := List Ground

namespace Grounds

/-- What grounds come to: the first one that is met, or nothing if none is. -/
inductive ComeTo : Grounds → Option Refusal → Prop
  | nil : ComeTo [] none
  | met {g : Ground} {gs : Grounds} (met : g.met) : ComeTo (g :: gs) (some g.why)
  | unmet {g : Ground} {gs : Grounds} {verdict : Option Refusal} (unmet : ¬g.met)
      (rest : ComeTo gs verdict) : ComeTo (g :: gs) verdict

variable {gs hs : Grounds} {v w : Option Refusal} {why : Refusal}

/-- Grounds come to one thing only. -/
theorem ComeTo.eq (h : gs.ComeTo v) (k : gs.ComeTo w) : v = w := by
  induction h with
  | nil =>
    cases k
    rfl
  | met met =>
    cases k with
    | met _ => rfl
    | unmet unmet _ => exact absurd met unmet
  | unmet unmet _ ih =>
    cases k with
    | met met => exact absurd met unmet
    | unmet _ rest => exact ih rest

theorem ComeTo.append_some (h : gs.ComeTo (some why)) (hs : Grounds) :
    ComeTo (gs ++ hs) (some why) := by
  generalize hv : some why = v at h
  induction h with
  | nil => cases hv
  | met met => exact .met met
  | unmet unmet _ ih => exact .unmet unmet (ih hv)

theorem ComeTo.append_none (h : gs.ComeTo none) (k : hs.ComeTo v) : ComeTo (gs ++ hs) v := by
  generalize hw : (none : Option Refusal) = w at h
  induction h with
  | nil => exact k
  | met met => cases hw
  | unmet unmet _ ih => exact .unmet unmet (ih hw)

theorem comeTo_none_iff : gs.ComeTo none ↔ ∀ g ∈ gs, ¬g.met := by
  constructor
  · intro h
    generalize hw : (none : Option Refusal) = w at h
    induction h with
    | nil => nofun
    | met met => cases hw
    | unmet unmet _ ih => exact List.forall_mem_cons.2 ⟨unmet, ih hw⟩
  · intro h
    induction gs with
    | nil => exact .nil
    | cons g gs ih =>
      obtain ⟨unmet, rest⟩ := List.forall_mem_cons.1 h
      exact .unmet unmet (ih rest)

/-- A test for one ground in front of others. -/
theorem ComeTo.test {g : Ground} {test : Prop} [Decidable test] (tests : test ↔ g.met)
    (rest : gs.ComeTo v) : ComeTo (g :: gs) (if test then some g.why else v) := by
  split
  · next h => exact .met (tests.1 h)
  · next h => exact .unmet (mt tests.2 h) rest

end Grounds

/-- What is wrong with a request by itself. -/
def Request.ownGrounds (r : Request) : Grounds :=
  match r.command with
  | .create name type _ _ =>
    [⟨.nameRequired, Text.strip (name.getD "") = ""⟩, ⟨.userRequired, r.user.getD "" = ""⟩,
      ⟨.boardRequired, r.board.getD "" = ""⟩,
      ⟨.unknownType, ∀ t ∈ categoryTypes, type ≠ some t⟩]
  | .update _ (some name) _ => [⟨.nameRequired, Text.strip name = ""⟩]
  | _ => []

/-- The category that a command names. The one that stands for none is not looked for. -/
def Command.named? : Command → Option (Option String)
  | .get id | .update id _ _ | .delete id | .reorderViews id _ | .setVisibility id _ _ => some id
  | .categorize id _ => if id = some uncategorized then none else some id
  | .create _ _ _ _ | .list | .reorder _ | .uncategorize _ => none

/-- Whether a command is for the owner of the category that it names. -/
def Command.isForOwner : Command → Bool
  | .update _ _ _ | .delete _ | .categorize _ _ | .reorderViews _ _ | .setVisibility _ _ _ => true
  | .get _ | .create _ _ _ _ | .list | .reorder _ | .uncategorize _ => false

namespace Store

/-- What is wrong with the board of a request. -/
def boardGrounds (s : Store) (user board : Option String) : Grounds :=
  [⟨.noBoard board, ¬∃ row ∈ s.boards.rows, board = some row.id ∧ row.isLive = true⟩,
    ⟨.boardDenied, ¬s.LetsIn user board⟩]

/-- What is wrong with the category of a request. -/
def categoryGrounds (s : Store) (r : Request) : Grounds :=
  match r.command.named? with
  | none => []
  | some id =>
    [⟨.noCategory id, ¬∃ c ∈ s.categories.rows, id = some c.id ∧ r.board = some c.boardId ∧
        c.isDeleted = false⟩,
      ⟨.categoryDenied, r.command.isForOwner = true ∧
        ∃ c ∈ s.categories.rows, id = some c.id ∧ r.user ≠ some c.userId⟩]

/-- Where the deletion times of all categories are integers, a category is missing just if none with
its id is live on the board. -/
theorem noCategory_met_iff {s : Store} {r : Request} {id : Option String} {g : Ground}
    (times : ∀ c ∈ s.categories.rows, ∃ n, c.deleteAt = .int n)
    (hg : g ∈ s.categoryGrounds r) (missing : g.why = .noCategory id) :
    g.met ↔ ¬∃ c ∈ s.categories.rows, id = some c.id ∧ r.board = some c.boardId ∧
      c.isLive = true := by
  unfold categoryGrounds at hg
  split at hg
  · cases hg
  · simp only [List.mem_cons, List.not_mem_nil, or_false] at hg
    rcases hg with rfl | rfl
    · cases missing
      refine not_congr (exists_congr fun c => and_congr_right fun hc => ?_)
      obtain ⟨n, time⟩ := times c hc
      exact and_congr_right fun _ => and_congr_right fun _ =>
        ⟨fun kept => Category.isLive_of_kept kept time, Category.kept_of_isLive⟩
    · cases missing

/-- All that a request can be refused for. -/
def grounds (s : Store) (r : Request) : Grounds :=
  r.ownGrounds ++ (s.boardGrounds r.user r.board ++ s.categoryGrounds r)

end Store

/-! ## What each check comes to -/

/-- The reason of a check that fails. -/
def refusal? {α : Type} : Except Refusal α → Option Refusal
  | .error why => some why
  | .ok _ => none

theorem refusal?_map {α β : Type} (x : Except Refusal α) (f : α → β) :
    refusal? (x.map f) = refusal? x := by
  cases x <;> rfl

theorem stripped?_eq_none_iff {name : Option String} :
    stripped? name = none ↔ Text.strip (name.getD "") = "" := by
  cases name with
  | none => simp [stripped?]; decide
  | some n => simp [stripped?, Option.filter]

theorem isGiven_eq_false_iff {id : Option String} : isGiven id = false ↔ id.getD "" = "" := by
  cases id <;> simp [isGiven]

theorem Request.comeTo_objection (r : Request) : r.ownGrounds.ComeTo r.objection? := by
  have named {name : Option String} :
      (stripped? name).isNone = true ↔ Text.strip (name.getD "") = "" := by
    rw [Option.isNone_iff_eq_none, stripped?_eq_none_iff]
  have given {id : Option String} : (!isGiven id) = true ↔ id.getD "" = "" := by
    rw [Bool.not_eq_true', isGiven_eq_false_iff]
  have typed (type : Option String) :
      Grounds.ComeTo [⟨.unknownType, ∀ t ∈ categoryTypes, type ≠ some t⟩]
        (if type.any categoryTypes.contains then none else some .unknownType) := by
    have known : type.any categoryTypes.contains = true ↔ ∃ t ∈ categoryTypes, type = some t := by
      simp only [Option.any_eq_true, List.contains_iff_mem, and_comm]
    split
    · next h =>
      obtain ⟨t, ht, rfl⟩ := known.1 h
      exact .unmet (fun unknown => unknown t ht rfl) .nil
    · next h => exact .met fun t ht same => h (known.2 ⟨t, ht, same⟩)
  unfold ownGrounds objection?
  cases r.command with
  | create name type id collapsed => exact .test named (.test given (.test given (typed type)))
  | update id name collapsed =>
    cases name with
    | none => exact .nil
    | some n => exact .test named .nil
  | get id => exact .nil
  | delete id => exact .nil
  | list => exact .nil
  | reorder order => exact .nil
  | categorize id views => exact .nil
  | uncategorize view => exact .nil
  | reorderViews id order => exact .nil
  | setVisibility id view visible => exact .nil

namespace Store

variable {s : Store} {a : Access} {r : Request} {id : Option String}

theorem comeTo_access (s : Store) (user board : Option String) :
    (s.boardGrounds user board).ComeTo (refusal? (s.access user board)) := by
  have there : (∃ row ∈ s.boards.rows, board = some row.id ∧ row.isLive = true) ↔
      (s.board? board).isSome = true := by
    simp only [Option.isSome_iff_exists, board?_eq_some_iff]
  rcases s.access_cases user board with ⟨absent, h⟩ | ⟨found, closed, h⟩ | ⟨a, found, -, view, h⟩
  · rw [h]
    refine .met fun live => ?_
    rw [there, absent] at live
    cases live
  · rw [h]
    refine .unmet (not_not.2 (there.2 found)) (.met fun letsIn => ?_)
    rw [canView_iff.2 letsIn] at closed
    cases closed
  · rw [h]
    refine .unmet (not_not.2 (there.2 ?_)) (.unmet (not_not.2 (canView_iff.1 view)) .nil)
    rw [found]
    rfl

/-- A category is found where the first ground of its command is not met. -/
theorem hasLive_iff (onBoard : r.board = some a.board.id) {c : Category} :
    s.HasLive a.board.id id c ↔
      c ∈ s.categories.rows ∧ id = some c.id ∧ r.board = some c.boardId ∧ c.isDeleted = false := by
  rw [onBoard]
  constructor
  · rintro ⟨mem, named, kept, at_⟩
    exact ⟨mem, named, congrArg some at_.symm, kept⟩
  · rintro ⟨mem, named, at_, kept⟩
    exact ⟨mem, named, kept, (Option.some.inj at_).symm⟩

/-- A command for anyone who may view the board comes to what the look-up of its category does. -/
theorem comeTo_live (s : Store) (onBoard : r.board = some a.board.id)
    (named : r.command.named? = some id) (anyone : r.command.isForOwner = false) :
    (s.categoryGrounds r).ComeTo (refusal? (s.liveCategory a.board.id id)) := by
  unfold categoryGrounds
  rw [named]
  dsimp only
  simp only [← hasLive_iff onBoard]
  rcases s.liveCategory_cases a.board.id id with ⟨c, live, h⟩ | ⟨absent, h⟩
  · rw [h]
    refine .unmet ?_ (.unmet (fun owner => ?_) .nil)
    · exact not_not.2 ⟨c, live⟩
    · rw [anyone] at owner
      cases owner.1
  · rw [h]
    exact .met absent

theorem comeTo_owned (s : Store) (user : r.user = some a.user)
    (onBoard : r.board = some a.board.id) (named : r.command.named? = some id)
    (owner : r.command.isForOwner = true) :
    (s.categoryGrounds r).ComeTo (refusal? (s.ownedCategory a id)) := by
  unfold categoryGrounds
  rw [named, user]
  simp only [← hasLive_iff onBoard]
  rcases s.ownedCategory_cases a id with ⟨c, owned, h⟩ | ⟨c, live, foreign, h⟩ | ⟨absent, h⟩
  · rw [h]
    refine .unmet (not_not.2 ⟨c, owned.toHasLive⟩) (.unmet ?_ .nil)
    rintro ⟨-, q, hq, same, foreign⟩
    have id_eq : q.id = c.id := Option.some.inj (same.symm.trans owned.named)
    rw [owned.eq_of_id hq id_eq, owned.owner] at foreign
    exact foreign rfl
  · rw [h]
    refine .unmet (not_not.2 ⟨c, live⟩) (.met ⟨owner, c, live.mem, live.named, fun mine => ?_⟩)
    exact foreign (Option.some.inj mine).symm
  · rw [h]
    exact .met absent

theorem comeTo_task (s : Store) (user : r.user = some a.user)
    (onBoard : r.board = some a.board.id) :
    (s.categoryGrounds r).ComeTo (refusal? (s.task a r.command)) := by
  have owned {β : Type} {id : Option String} {f : Category → β} (named : r.command.named? = some id)
      (owner : r.command.isForOwner = true) :
      (s.categoryGrounds r).ComeTo (refusal? ((s.ownedCategory a id).map f)) := by
    rw [refusal?_map]
    exact s.comeTo_owned user onBoard named owner
  have free (nameless : r.command.named? = none) : (s.categoryGrounds r).ComeTo none := by
    unfold categoryGrounds
    rw [nameless]
    exact .nil
  cases hc : r.command <;> rw [hc] at owned free
  case create name type id collapsed => exact free rfl
  case get id =>
    rw [task, refusal?_map]
    exact s.comeTo_live onBoard (by rw [hc]; rfl) (by rw [hc]; rfl)
  case update id name collapsed => exact owned rfl rfl
  case delete id => exact owned rfl rfl
  case list => exact free rfl
  case reorder order => exact free rfl
  case categorize id views =>
    rw [task, refusal?_map, target]
    split
    · next sentinel => exact free (if_pos sentinel)
    · next other => exact owned (if_neg other) rfl
  case uncategorize view => exact free rfl
  case reorderViews id order => exact owned rfl rfl
  case setVisibility id view visible => exact owned rfl rfl

/-- A request is admitted if none of its grounds is met, and refused for the first one if any is. -/
theorem comeTo_admitted (s : Store) (r : Request) :
    (s.grounds r).ComeTo (refusal? (s.admitted r)) := by
  have own := r.comeTo_objection
  unfold grounds admitted
  cases hr : r.objection? with
  | some why =>
    rw [hr] at own
    exact own.append_some _
  | none =>
    rw [hr] at own
    refine own.append_none ?_
    have board := s.comeTo_access r.user r.board
    cases ha : s.access r.user r.board with
    | error why =>
      rw [ha] at board
      exact board.append_some _
    | ok a =>
      rw [ha] at board
      refine board.append_none ?_
      have granted := access_ok ha
      dsimp only
      rw [refusal?_map]
      exact s.comeTo_task granted.user granted.board_id

end Store

/-! ## Requests -/

theorem Request.run_refused_iff {env : Env} {s : Store} {r : Request} {why : Refusal} :
    (r.run env s).result = .error (.refusal why) ↔ s.admitted r = .error why := by
  change (r.attempt env s).result = _ ↔ _
  unfold attempt
  cases s.admitted r with
  | error w =>
    change Except.error (Failure.refusal w) = _ ↔ _
    simp
  | ok admitted =>
    constructor
    · intro h
      exact absurd h (Task.unrefused_perform env s _ _ why)
    · nofun

/-- A request on which no ground is met succeeds where nothing stands in its way, unless it creates
a category under an id that is taken. -/
theorem Request.run_of_unmet {env : Env} {s : Store} {r : Request}
    (serves : env.Serves s r.command) (unmet : (s.grounds r).ComeTo none) :
    (s.Repeats env r.command →
      (r.run env s).result = .error (.fault (.duplicateKey ["view_categories.id"]))) ∧
    (¬s.Repeats env r.command → ∃ reply, (r.run env s).result = .ok reply) := by
  have verdict := (s.comeTo_admitted r).eq unmet
  obtain ⟨⟨a, task⟩, admitted⟩ : ∃ x, s.admitted r = .ok x := by
    cases h : s.admitted r with
    | ok x => exact ⟨x, rfl⟩
    | error why =>
      rw [h] at verdict
      cases verdict
  have ran : (r.run env s).result = (task.perform env s a).result := by
    change (r.attempt env s).result = _
    unfold attempt
    rw [admitted]
  obtain ⟨-, -, ht⟩ := Store.admitted_ok admitted
  rw [ran]
  by_cases creates : ∃ name type id collapsed, r.command = .create name type id collapsed
  · obtain ⟨name, type, id, collapsed, hc⟩ := creates
    rw [hc] at serves ht ⊢
    cases ht
    obtain ⟨taken, free⟩ := Task.create_result (a := a) serves.connected serves.clock serves.place
    constructor
    · rintro ⟨_, _, _, _, ⟨⟩, repeats⟩
      exact taken repeats
    · intro new
      obtain ⟨c, created⟩ := free fun repeats => new ⟨_, _, _, _, rfl, repeats⟩
      exact ⟨_, created⟩
  · constructor
    · rintro ⟨name, type, id, collapsed, hc, -⟩
      exact absurd ⟨name, type, id, collapsed, hc⟩ creates
    · intro _
      refine Task.perform_result serves ht fun name type id collapsed hc => ?_
      exact creates ⟨name, type, id, collapsed, hc⟩

/-- A request is refused for the first of its grounds that is met, and for no other reason: what it
says is invalid, then its board is not found or denied, then its category is not found or denied. A
category is not found where none is kept under its id on the board, which is to say that none is
live there, as long as the deletion times are integers. Where no ground is met and nothing else
stands in its way it succeeds, but for the creation of a category under an id that is taken, which
repeats a key. -/
theorem first_ground_decides (env : Env) (s : Store) (r : Request) :
    (∀ why, (r.run env s).result = .error (.refusal why) ↔ (s.grounds r).ComeTo (some why)) ∧
    ((∀ g ∈ r.ownGrounds, g.why.kind = .invalid) ∧
      (s.boardGrounds r.user r.board).map (·.why.kind) = [.notFound, .denied] ∧
      (s.categoryGrounds r).map (·.why.kind) ∈ [[], [.notFound, .denied]] ∧
      ((∀ c ∈ s.categories.rows, ∃ n, c.deleteAt = .int n) →
        ∀ g ∈ s.categoryGrounds r, ∀ id, g.why = .noCategory id →
          (g.met ↔ ¬∃ c ∈ s.categories.rows, id = some c.id ∧ r.board = some c.boardId ∧
            c.isLive = true))) ∧
    (env.Serves s r.command → (∀ g ∈ s.grounds r, ¬g.met) →
      (s.Repeats env r.command →
        (r.run env s).result = .error (.fault (.duplicateKey ["view_categories.id"]))) ∧
      (¬s.Repeats env r.command → ∃ reply, (r.run env s).result = .ok reply)) := by
  refine ⟨fun why => ?_, ⟨fun g hg => ?_, rfl, ?_, fun times g hg id missing => ?_⟩,
    fun serves unmet => ?_⟩
  · rw [Request.run_refused_iff]
    have verdict := s.comeTo_admitted r
    constructor
    · intro h
      rw [h] at verdict
      exact verdict
    · intro h
      have same := verdict.eq h
      cases ha : s.admitted r with
      | ok x =>
        rw [ha] at same
        cases same
      | error w =>
        rw [ha] at same
        cases same
        rfl
  · unfold Request.ownGrounds at hg
    split at hg
    · simp only [List.mem_cons, List.not_mem_nil, or_false] at hg
      rcases hg with rfl | rfl | rfl | rfl <;> rfl
    · rw [List.mem_singleton.1 hg]
      rfl
    · cases hg
  · unfold Store.categoryGrounds
    split
    · exact List.mem_cons_self ..
    · exact List.mem_cons_of_mem _ (List.mem_singleton_self _)
  · exact Store.noCategory_met_iff times hg missing
  · exact Request.run_of_unmet serves (Grounds.comeTo_none_iff.2 unmet)

/-- Someone who may not view the board is told so, and not that the category is missing as well.
Nothing is wrong with a creation under an id that is taken, and yet it fails. -/
theorem stranger_is_denied_the_board :
    let s := Store.sample.after [.sample "u" "b" (.creation "a")]
    let stranger : Request := ⟨some "w", some "b", .delete (some "x")⟩
    let again : Request := ⟨some "u", some "b", .creation "a"⟩
    (stranger.run .sample s).result = .error (.refusal .boardDenied) ∧
      (again.run .sample s).result =
        .error (.fault (.duplicateKey ["view_categories.id"])) := by
  intro s stranger again
  constructor
  · have there : ∃ row ∈ s.boards.rows, stranger.board = some row.id ∧ row.isLive = true := by
      decide
    have outside : ¬s.LetsIn stranger.user stranger.board := by
      rw [← Store.canView_iff]
      decide
    refine ((first_ground_decides .sample s stranger).1 .boardDenied).2 ?_
    exact .unmet (not_not.2 there) (.met outside)
  · have room : s.categories.rows.length < Table.capacity := by decide
    have serves : Env.Serves .sample s again.command := ⟨rfl, ⟨1000, rfl, rfl⟩, room⟩
    have unmet : (s.grounds again).ComeTo none := s.comeTo_admitted again
    have repeats : s.Repeats .sample again.command := ⟨_, _, _, _, rfl, by decide⟩
    obtain ⟨-, -, decided⟩ := first_ground_decides .sample s again
    exact (decided serves (Grounds.comeTo_none_iff.1 unmet)).1 repeats

end BoardViews
