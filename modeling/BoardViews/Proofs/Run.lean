import BoardViews.Service

/-
  Runs. A visit is a request with what it finds around it; a run is a list of visits, of any users
  on any boards, each of which finds the store that those before it left. The stores that can be
  reached come from one that has no categories and no memberships by visits, and by what other
  services do to users, boards and members in between.
-/

namespace BoardViews

/-- A request and what it finds around it. -/
structure Visit where
  env : Env
  request : Request

/-- What a visit leaves behind. -/
def Visit.outcome (v : Visit) (s : Store) : Outcome Reply := v.request.run v.env s

namespace Store

/-- The store after a run. -/
def after (s : Store) (run : List Visit) : Store := run.foldl (fun s v => (v.outcome s).store) s

/-- Whether every visit of a run has a property in the store that it finds. -/
def Along (P : Store → Visit → Prop) : Store → List Visit → Prop
  | _, [] => True
  | s, v :: run => P s v ∧ Along P (v.outcome s).store run

theorem after_append (s : Store) (run more : List Visit) :
    s.after (run ++ more) = (s.after run).after more :=
  List.foldl_append

theorem after_append_cons (s : Store) (past later : List Visit) (v : Visit) :
    s.after (past ++ v :: later) = (v.outcome (s.after past)).store.after later :=
  s.after_append past (v :: later)

theorem along_append {P : Store → Visit → Prop} {s : Store} {run more : List Visit} :
    s.Along P (run ++ more) ↔ s.Along P run ∧ (s.after run).Along P more := by
  induction run generalizing s with
  | nil => exact (true_and _).symm.to_iff
  | cons v run ih => exact (and_congr_right fun _ => ih).trans and_assoc.symm

theorem along_of_forall {P : Store → Visit → Prop} {s : Store} {run : List Visit}
    (h : ∀ v ∈ run, ∀ s, P s v) : s.Along P run := by
  induction run generalizing s with
  | nil => trivial
  | cons v run ih =>
    refine ⟨h v (List.mem_cons_self ..) s, ih fun w hw => ?_⟩
    exact h w (List.mem_cons_of_mem v hw)

/-- The stores that can be reached: the service starts without categories and memberships, new ids
are not empty, and users, boards and members are the business of others. -/
inductive Reachable : Store → Prop
  | start {s : Store} (noCategories : s.categories.rows = [])
      (noMemberships : s.memberships.rows = []) : Reachable s
  | visit {s : Store} {v : Visit} (reached : Reachable s) (fresh : v.env.freshId ≠ "") :
      Reachable (v.outcome s).store
  | elsewhere {s : Store} (users : Table User.id) (boards : Table Board.id)
      (members : Table Member.key) (reached : Reachable s) :
      Reachable { s with users := users, boards := boards, members := members }

theorem Reachable.after {s : Store} (h : s.Reachable) {run : List Visit}
    (fresh : ∀ v ∈ run, v.env.freshId ≠ "") : (s.after run).Reachable := by
  induction run generalizing s with
  | nil => exact h
  | cons v run ih =>
    refine ih (.visit h (fresh v (List.mem_cons_self ..))) fun w hw => ?_
    exact fresh w (List.mem_cons_of_mem v hw)

/-- Two boards, each of which only its creator may view. -/
def sample : Store :=
  { boards := .ofList [⟨"b", "t", "", "u", .int 1, .int 1, .int 0⟩,
      ⟨"d", "t", "", "w", .int 1, .int 1, .int 0⟩] }

end Store

/-- The first second of 1970, with everything at work. -/
def Env.sample : Env := { now := ⟨1000000⟩, freshId := "f" }

/-- A visit at that time. -/
def Visit.sample (user board : String) (command : Command) : Visit :=
  ⟨.sample, ⟨some user, some board, command⟩⟩

/-- The creation of a category under a name that is its id as well. -/
def Command.creation (id : String) : Command := .create (some id) (some "custom") (some id) none

end BoardViews
