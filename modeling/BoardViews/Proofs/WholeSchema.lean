import BoardViews.Proofs.Making
import BoardViews.Proofs.Results
import Mathlib.Data.List.Induction

/-
  A step of the schema is taken as a whole or not at all, though every statement takes effect at
  once. The tables of the migration and those of the service (`init_db`) have the same names and
  the same indexes, so whichever of the two made them, `Database.IsWhole` holds as soon as a step
  is over: either there is nothing, or there are all tables with all indexes. In a whole database
  the first statement of `upgrade` fails, and in an empty one the first statement of `downgrade`;
  where the first statement does not fail, no later one does, whatever rows there are. The steps
  start from an empty database and are otherwise any.
-/

namespace BoardViews.Schema

/-! ## Undoing -/

/-- The statements that undo those of a shape. -/
def Shape.undoing (s : Shape) : List Statement :=
  (s.indexes.reverse.map fun i => .dropIndex i.name s.name) ++ [.dropTable s.name]

theorem Shape.undone_statements (s : Shape) :
    s.statements.reverse.filterMap Statement.undone? = s.undoing := by
  have indexes : (s.indexes.map (Statement.createIndex s.name)).reverse.filterMap
      Statement.undone? = s.indexes.reverse.map fun i => .dropIndex i.name s.name := by
    rw [← List.map_reverse, List.filterMap_map, ← List.filterMap_eq_map]
    rfl
  unfold Shape.statements undoing
  rw [List.reverse_cons, List.filterMap_append, indexes]
  rfl

/-- What made shapes is undone from the last one on. -/
theorem Shape.undone_all (ss : List Shape) :
    (ss.flatMap Shape.statements).reverse.filterMap Statement.undone? =
      ss.reverse.flatMap Shape.undoing := by
  induction ss with
  | nil => rfl
  | cons s ss ih =>
    rw [List.flatMap_cons, List.reverse_append, List.filterMap_append, ih, s.undone_statements,
      List.reverse_cons, List.flatMap_append, List.flatMap_singleton]

/-- The name and the indexes of a table, which are all that a statement down asks for. -/
def Stored.label (t : Stored) : String × List Index := (t.shape.name, t.indexes)

/-- The name and the indexes of the table that a shape makes. -/
def Shape.label (s : Shape) : String × List Index := (s.name, s.indexes)

namespace Database

section

variable {tables : List Stored} {shape : Shape} {last : Stored}

/-- The indexes of a table that stands last are dropped from the last one on. -/
theorem script_dropIndexes (shape : Shape) (last : Stored) {made : List Index}
    (others : ∀ t ∈ tables, ∀ i ∈ t.indexes, ∀ j ∈ made, i.name ≠ j.name)
    (nodup : (made.map (·.name)).Nodup) :
    script ⟨tables ++ [{ last with indexes := made }]⟩
        (made.reverse.map fun i => .dropIndex i.name shape.name) =
      (⟨tables ++ [{ last with indexes := [] }]⟩, .ok ()) := by
  induction made using List.reverseRecOn with
  | nil => rfl
  | append_singleton made i ih =>
    have there : (⟨tables ++ [{ last with indexes := made ++ [i] }]⟩ : Database).hasIndex i.name =
        true := by
      unfold hasIndex
      simp
    have elsewhere : tables.map
        (fun t => { t with indexes := t.indexes.filter (·.name != i.name) }) = tables := by
      refine (List.map_congr_left fun t ht => ?_).trans (List.map_id tables)
      have kept : t.indexes.filter (·.name != i.name) = t.indexes := by
        rw [List.filter_eq_self]
        intro j hj
        simpa using others t ht j hj i (by simp)
      rw [kept]
      rfl
    have here : (made ++ [i]).filter (·.name != i.name) = made := by
      rw [List.map_append, List.nodup_append] at nodup
      have kept : made.filter (·.name != i.name) = made := by
        rw [List.filter_eq_self]
        intro j hj
        simpa using nodup.2.2 j.name (List.mem_map_of_mem hj) i.name (by simp)
      rw [List.filter_append, kept]
      simp
    have executed : (⟨tables ++ [{ last with indexes := made ++ [i] }]⟩ : Database).execute
        (.dropIndex i.name shape.name) = .ok ⟨tables ++ [{ last with indexes := made }]⟩ := by
      unfold execute
      dsimp only
      rw [there, if_pos rfl, List.map_append, elsewhere, List.map_singleton]
      dsimp only
      rw [here]
    have rest := ih (fun t ht k hk j hj => others t ht k hk j (List.mem_append_left _ hj))
      (by rw [List.map_append] at nodup; exact (List.nodup_append.1 nodup).1)
    rw [List.reverse_append, List.reverse_singleton, List.singleton_append, List.map_cons,
      script_cons_ok executed, rest]

/-- A table that stands last is dropped after its indexes, whatever rows it has. -/
theorem script_undoing (labelled : last.label = shape.label)
    (other : ∀ t ∈ tables, sameName t.shape.name shape.name = false)
    (others : ∀ t ∈ tables, ∀ i ∈ t.indexes, ∀ j ∈ shape.indexes, i.name ≠ j.name)
    (nodup : (shape.indexes.map (·.name)).Nodup) :
    script ⟨tables ++ [last]⟩ shape.undoing = (⟨tables⟩, .ok ()) := by
  have name : last.shape.name = shape.name := congrArg Prod.fst labelled
  have indexes : last.indexes = shape.indexes := congrArg Prod.snd labelled
  have bare := script_dropIndexes shape last others nodup
  have there : (⟨tables ++ [{ last with indexes := [] }]⟩ : Database).hasTable shape.name =
      true := by
    unfold hasTable table?
    rw [List.find?_isSome]
    exact ⟨_, List.mem_append_right _ (List.mem_singleton_self _), by
      rw [name]
      exact sameName_refl _⟩
  have executed : (⟨tables ++ [{ last with indexes := [] }]⟩ : Database).execute
      (.dropTable shape.name) = .ok ⟨tables⟩ := by
    have kept : tables.filter (fun t => !sameName t.shape.name shape.name) = tables := by
      rw [List.filter_eq_self]
      intro t ht
      rw [other t ht]
      rfl
    unfold execute
    dsimp only
    rw [there, if_pos rfl, List.filter_append, kept]
    simp [name, sameName_refl]
  rw [← indexes] at bare
  unfold Shape.undoing
  rw [← indexes, script_append bare, script_cons_ok executed]
  rfl

end

/-- Tables that are labelled as shapes with names of their own are dropped one after the other. -/
theorem script_undone {ss : List Shape} (apart : Shape.Apart ss) {tables : List Stored}
    (labelled : tables.map Stored.label = ss.map Shape.label) :
    script ⟨tables⟩ (ss.reverse.flatMap Shape.undoing) = ({}, .ok ()) := by
  induction ss using List.reverseRecOn generalizing tables with
  | nil =>
    rw [List.map_eq_nil_iff.1 labelled]
    rfl
  | append_singleton ss s ih =>
    rw [List.map_append, List.map_eq_append_iff] at labelled
    obtain ⟨front, back, rfl, first, one⟩ := labelled
    obtain ⟨last, rfl, labelled⟩ := List.map_eq_singleton_iff.1 one
    have made : ∀ t ∈ front, ∃ shape ∈ ss,
        t.shape.name = shape.name ∧ t.indexes = shape.indexes := by
      intro t ht
      have mem : t.label ∈ ss.map Shape.label := first ▸ List.mem_map_of_mem ht
      obtain ⟨shape, hs, same⟩ := List.mem_map.1 mem
      exact ⟨shape, hs, congrArg Prod.fst same.symm, congrArg Prod.snd same.symm⟩
    have names := List.pairwise_append.1 apart.tables
    have indexes := apart.indexes
    rw [List.flatMap_append, List.nodup_append, List.flatMap_singleton] at indexes
    have other : ∀ t ∈ front, sameName t.shape.name s.name = false := by
      intro t ht
      obtain ⟨shape, hs, name, -⟩ := made t ht
      rw [name]
      exact names.2.2 shape hs s (List.mem_singleton_self s)
    have others : ∀ t ∈ front, ∀ i ∈ t.indexes, ∀ j ∈ s.indexes, i.name ≠ j.name := by
      intro t ht i hi j hj
      obtain ⟨shape, hs, -, same⟩ := made t ht
      rw [same] at hi
      have before : i.name ∈ ss.flatMap fun shape => shape.indexes.map (·.name) :=
        List.mem_flatMap.2 ⟨shape, hs, List.mem_map_of_mem hi⟩
      exact indexes.2.2 i.name before j.name (List.mem_map_of_mem hj)
    have dropped : script ⟨front ++ [last]⟩ s.undoing = (⟨front⟩, .ok ()) :=
      script_undoing labelled other others indexes.2.1
    have rest := ih ⟨names.1, indexes.1⟩ first
    rw [List.reverse_append, List.reverse_singleton, List.singleton_append, List.flatMap_cons,
      script_append dropped, rest]

/-! ## Whole databases -/

/-- A database with the five tables and all of their indexes, and no others; by whom they were made
and what rows they have is left open. -/
def IsWhole (db : Database) : Prop :=
  db.tables.map Stored.label = Shape.declared.map Shape.label

theorem label_migrated : Shape.migrated.map Shape.label = Shape.declared.map Shape.label := by
  decide +kernel

theorem label_ofShapes (ss : List Shape) :
    (ofShapes ss).tables.map Stored.label = ss.map Shape.label := by
  unfold ofShapes
  rw [List.map_map]
  rfl

theorem isWhole_migrated : (ofShapes Shape.migrated).IsWhole :=
  (label_ofShapes _).trans label_migrated

theorem isWhole_declared : (ofShapes Shape.declared).IsWhole := label_ofShapes _

section

variable {db : Database}

theorem IsWhole.tables_ne_nil (whole : db.IsWhole) : db.tables ≠ [] := by
  intro none
  unfold IsWhole at whole
  rw [none] at whole
  cases whole

theorem IsWhole.exists_table (whole : db.IsWhole) {s : Shape} (hs : s ∈ Shape.declared) :
    ∃ t ∈ db.tables, t.label = s.label :=
  List.mem_map.1 (whole ▸ List.mem_map_of_mem hs)

theorem IsWhole.hasTable (whole : db.IsWhole) {s : Shape} (hs : s ∈ Shape.declared) :
    db.hasTable s.name = true := by
  obtain ⟨t, ht, same⟩ := whole.exists_table hs
  have name : t.shape.name = s.name := congrArg Prod.fst same
  unfold Database.hasTable table?
  rw [List.find?_isSome]
  exact ⟨t, ht, name ▸ sameName_refl _⟩

/-- Of two tables with the same name there is only one. -/
theorem IsWhole.eq_of_name (whole : db.IsWhole) {t u : Stored} (ht : t ∈ db.tables)
    (hu : u ∈ db.tables) (same : t.shape.name = u.shape.name) : t.label = u.label := by
  have distinct : ∀ p ∈ Shape.declared.map Shape.label, ∀ q ∈ Shape.declared.map Shape.label,
      p.1 = q.1 → p = q := by decide +kernel
  rw [← whole] at distinct
  exact distinct _ (List.mem_map_of_mem ht) _ (List.mem_map_of_mem hu) same

/-! ## Steps -/

/-- Where there are tables the migration up fails at once. -/
theorem IsWhole.step_upgrade (whole : db.IsWhole) :
    db.step .upgrade = (db, .error (.tableExists "users")) := by
  have there : db.hasTable Model.users.shape.name = true := whole.hasTable (List.mem_cons_self ..)
  have refused : db.execute (.createTable Migration.users) = .error (.tableExists "users") :=
    if_pos there
  have first : Schema.upgrade = .createTable Migration.users :: Schema.upgrade.tail := rfl
  unfold step
  dsimp only
  rw [first]
  unfold script
  rw [refused]
  rfl

/-- Where there are no tables the migration down fails at once. -/
theorem step_downgrade_empty : ({} : Database).step .downgrade =
    ({}, .error (.noIndex "ix_view_category_views_category_id")) := rfl

/-- The migration down drops all tables, whoever made them and whatever is in them. -/
theorem IsWhole.step_downgrade (whole : db.IsWhole) :
    db.step .downgrade = ({}, .ok (.tables [])) := by
  have dropped := script_undone Shape.apart_migrated (whole.trans label_migrated.symm)
  show seen (db.script Schema.downgrade) = _
  rw [← undone_upgrade, Schema.upgrade, Shape.undone_all, dropped]
  rfl

/-- Where no table is missing nothing is made. -/
theorem IsWhole.step_fill (whole : db.IsWhole) : db.step .fill = (db, .ok (.tables db.tables)) := by
  have none : missing db = [] := by
    unfold missing
    rw [List.filter_eq_nil_iff.2]
    · rfl
    · intro s hs
      simp [whole.hasTable hs]
  unfold step
  dsimp only
  rw [none]
  rfl

/-- Rows are put into a table that is there. -/
theorem mem_of_target {target : Target} {s : Stored} (h : db.target target = .ok s) :
    s ∈ db.tables := by
  unfold Database.target at h
  dsimp only at h
  split at h
  · cases h
  · split at h
    · split at h
      · next found =>
        cases h
        exact List.mem_of_find?_eq_some found
      · cases h
    · cases h

/-- A table with one more row has the name and the indexes that it had. -/
theorem label_of_insert {s t : Stored} {values : Values} (h : s.insert values = .ok t) :
    t.label = s.label := by
  unfold Stored.insert at h
  obtain ⟨n, -, h⟩ := bind_eq_ok_iff.1 h
  obtain ⟨cells, -, h⟩ := bind_eq_ok_iff.1 h
  dsimp only at h
  split at h
  · cases h
  · split at h
    · cases h
    · cases h
      rfl

/-- An insert that is taken puts more rows into one of the tables. -/
theorem insert_ok {table : String} {values : List (String × Binding)} {t : Stored}
    {db' : Database} (h : db.insert table values = .ok (t, db')) :
    ∃ s ∈ db.tables, t.label = s.label ∧ db' = db.putTable t := by
  unfold insert at h
  obtain ⟨target, -, h⟩ := bind_eq_ok_iff.1 h
  obtain ⟨s, found, h⟩ := bind_eq_ok_iff.1 h
  split at h
  · cases h
  · split at h
    · cases h
    · obtain ⟨cells, -, h⟩ := bind_eq_ok_iff.1 h
      obtain ⟨s', inserted, h⟩ := bind_eq_ok_iff.1 h
      cases h
      exact ⟨s, mem_of_target found, label_of_insert inserted, rfl⟩

theorem IsWhole.insert (whole : db.IsWhole) {table : String} {values : List (String × Binding)}
    {t : Stored} {db' : Database} (h : db.insert table values = .ok (t, db')) : db'.IsWhole := by
  obtain ⟨s, hs, same, rfl⟩ := insert_ok h
  have kept : (db.putTable t).tables.map Stored.label = db.tables.map Stored.label := by
    unfold putTable
    rw [List.map_map]
    refine List.map_congr_left fun u hu => ?_
    rw [Function.comp_apply]
    split
    · next named =>
      have name : u.shape.name = s.shape.name := named.trans (congrArg Prod.fst same)
      rw [same, whole.eq_of_name hu hs name]
    · rfl
  exact kept.trans whole

/-- There are no tables, or all of them with all of their indexes. -/
def IsSettled (db : Database) : Prop := db = {} ∨ db.IsWhole

/-- What a step does: it leaves a settled database settled, and all that it finds if it fails. -/
theorem IsSettled.step (settled : db.IsSettled) (st : Step) :
    (db.step st).1.IsSettled ∧ ∀ why, (db.step st).2 = .error why → (db.step st).1 = db := by
  cases st with
  | upgrade =>
    rcases settled with rfl | whole
    · rw [Database.step_upgrade]
      exact ⟨.inr isWhole_migrated, nofun⟩
    · rw [whole.step_upgrade]
      exact ⟨.inr whole, fun _ _ => rfl⟩
  | downgrade =>
    rcases settled with rfl | whole
    · rw [step_downgrade_empty]
      exact ⟨.inl rfl, fun _ _ => rfl⟩
    · rw [whole.step_downgrade]
      exact ⟨.inl rfl, nofun⟩
  | fill =>
    rcases settled with rfl | whole
    · rw [Database.step_fill]
      exact ⟨.inr isWhole_declared, nofun⟩
    · rw [whole.step_fill]
      exact ⟨.inr whole, nofun⟩
  | insert table values =>
    unfold Database.step
    cases h : db.insert table values with
    | error e =>
      dsimp only
      rw [h]
      exact ⟨settled, fun _ _ => rfl⟩
    | ok r =>
      dsimp only
      rw [h]
      refine ⟨?_, nofun⟩
      rcases settled with rfl | whole
      · obtain ⟨s, hs, -⟩ := insert_ok h
        cases hs
      · exact .inr (whole.insert h)

end

/-! ## Runs -/

/-- The database after steps that are taken one after the other, those that fail among them. -/
def taken (db : Database) (steps : List Step) : Database :=
  steps.foldl (fun db st => (db.step st).1) db

theorem taken_cons (db : Database) (st : Step) (steps : List Step) :
    db.taken (st :: steps) = (db.step st).1.taken steps := rfl

theorem IsSettled.taken {db : Database} (settled : db.IsSettled) (steps : List Step) :
    (db.taken steps).IsSettled := by
  induction steps generalizing db with
  | nil => exact settled
  | cons st steps ih =>
    rw [taken_cons]
    exact ih (settled.step st).1

/-- Whatever steps a fresh database was taken through, the migration up and down, the service's own
making of tables and inserts, some of them in vain: there are no tables, or there are all five with
all of their indexes. A step that fails leaves every table and every row as it was. The migration
up fails just if there are tables, the migration down just if there are none, and the service's own
making never. -/
theorem schema_steps_are_all_or_nothing (past : List Step) :
    let db := ({} : Database).taken past
    (db.tables = [] ∨ db.IsWhole) ∧
      (∀ step why, (db.step step).2 = .error why → (db.step step).1 = db) ∧
      ((db.step .upgrade).2.isOk = true ↔ db.tables = []) ∧
      ((db.step .downgrade).2.isOk = true ↔ db.IsWhole) ∧ (db.step .fill).2.isOk = true := by
  intro db
  have settled : db.IsSettled := IsSettled.taken (.inl rfl) past
  have kept (step : Step) (why : Trouble) (failed : (db.step step).2 = .error why) :
      (db.step step).1 = db := (settled.step step).2 why failed
  rcases settled with empty | whole
  · rw [empty, Database.step_upgrade, step_downgrade_empty, Database.step_fill]
    have bare : ¬ ({} : Database).IsWhole := fun whole => whole.tables_ne_nil rfl
    exact ⟨.inl rfl, empty ▸ kept, iff_of_true rfl rfl, iff_of_false nofun bare, rfl⟩
  · rw [whole.step_upgrade, whole.step_downgrade, whole.step_fill]
    exact ⟨.inr whole, kept, iff_of_false nofun whole.tables_ne_nil, iff_of_true rfl whole, rfl⟩

/-- The service makes its tables and a user is put there; then the migration up fails, and the user
is still there. The migration down takes the tables of the service away all the same. -/
theorem migration_fails_on_tables_of_service :
    let user : Step := .insert "users" [("id", .cell (.text "u")), ("username", .cell (.text "n")),
      ("create_at", .cell (.int 1)), ("update_at", .cell (.int 1))]
    let db := ({} : Database).taken [.fill, user]
    db.tables.map (·.rows.length) = [1, 0, 0, 0, 0] ∧ db.IsWhole ∧
      (db.step .upgrade).2 = .error (.tableExists "users") ∧ (db.step .upgrade).1 = db ∧
      (db.step .downgrade).1 = {} := by
  intro user db
  have filled : db = (ofShapes Shape.declared).taken [user] := by
    show ({} : Database).taken [.fill, user] = _
    rw [taken_cons, Database.step_fill]
  have rows : db.tables.map (·.rows.length) = [1, 0, 0, 0, 0] := by
    rw [filled]
    decide +kernel
  obtain ⟨settled, kept, -⟩ := schema_steps_are_all_or_nothing [.fill, user]
  have whole : db.IsWhole := by
    refine settled.resolve_left fun none => ?_
    rw [show db.tables = [] from none] at rows
    cases rows
  have refused := congrArg Prod.snd whole.step_upgrade
  exact ⟨rows, whole, refused, kept .upgrade _ refused, congrArg Prod.fst whole.step_downgrade⟩

end Database

end BoardViews.Schema
