import BoardViews.Schema.Migration
import Mathlib.Data.List.Forall2

/-
  Making tables in an empty database. Shapes whose tables and indexes all have names of their own
  are made one after the other, and in the end there are the tables of the shapes, with all their
  indexes and without rows. So the migration and the service, each by a script of its own, come to
  the tables that are written down in their lists of shapes.
-/

namespace BoardViews.Schema

/-- The table of a shape as it is made. -/
def Shape.fresh (s : Shape) : Stored := ⟨s, s.indexes, []⟩

/-- The database in which the tables of shapes were made. -/
def Database.ofShapes (ss : List Shape) : Database := ⟨ss.map Shape.fresh⟩

/-- Shapes that can be made side by side: no two tables and no two indexes have the same name. -/
structure Shape.Apart (ss : List Shape) : Prop where
  tables : ss.Pairwise fun s t => sameName s.name t.name = false
  indexes : (ss.flatMap fun s => s.indexes.map (·.name)).Nodup

theorem sameName_refl (name : String) : sameName name name = true := by
  unfold sameName
  exact beq_self_eq_true _

namespace Database

theorem script_cons_ok {db db' : Database} {s : Statement} (executed : db.execute s = .ok db')
    (ss : List Statement) : db.script (s :: ss) = db'.script ss := by
  simp only [script, executed]

/-- A script goes on where the one before it ended. -/
theorem script_append {db db' : Database} {ss : List Statement}
    (done : db.script ss = (db', .ok ())) (more : List Statement) :
    db.script (ss ++ more) = db'.script more := by
  induction ss generalizing db with
  | nil =>
    cases done
    rfl
  | cons s ss ih =>
    cases executed : db.execute s with
    | ok db'' =>
      rw [script_cons_ok executed] at done
      rw [List.cons_append, script_cons_ok executed, ih done]
    | error e =>
      unfold script at done
      rw [executed] at done
      cases done

section

variable {tables : List Stored} {shape : Shape} {made rest : List Index}

theorem table?_last (other : ∀ t ∈ tables, sameName t.shape.name shape.name = false) :
    (⟨tables ++ [⟨shape, made, []⟩]⟩ : Database).table? shape.name = some ⟨shape, made, []⟩ := by
  have before : tables.find? (fun t => sameName t.shape.name shape.name) = none := by
    rw [List.find?_eq_none]
    intro t ht
    simp [other t ht]
  unfold table?
  rw [List.find?_append, before, Option.none_or]
  exact List.find?_cons_of_pos (sameName_refl shape.name)

theorem putTable_last (other : ∀ t ∈ tables, sameName t.shape.name shape.name = false)
    (last t : Stored) (named : last.shape.name = shape.name) (same : t.shape.name = shape.name) :
    (⟨tables ++ [last]⟩ : Database).putTable t = ⟨tables ++ [t]⟩ := by
  have before : tables.map (fun u => if u.shape.name = t.shape.name then t else u) = tables := by
    refine (List.map_congr_left fun u hu => if_neg ?_).trans (List.map_id tables)
    intro taken
    have apart := other u hu
    rw [taken, same, sameName_refl] at apart
    cases apart
  unfold putTable
  rw [List.map_append, before, List.map_singleton, if_pos (named.trans same.symm)]

/-- The indexes of a table that stands last are made one after the other. -/
theorem script_indexes (other : ∀ t ∈ tables, sameName t.shape.name shape.name = false)
    (taken : ∀ t ∈ tables, ∀ i ∈ t.indexes, ∀ j ∈ rest, i.name ≠ j.name)
    (nodup : ((made ++ rest).map (·.name)).Nodup) :
    script ⟨tables ++ [⟨shape, made, []⟩]⟩ (rest.map (.createIndex shape.name)) =
      (⟨tables ++ [⟨shape, made ++ rest, []⟩]⟩, .ok ()) := by
  induction rest generalizing made with
  | nil =>
    rw [List.append_nil]
    rfl
  | cons i rest ih =>
    have unused : (⟨tables ++ [⟨shape, made, []⟩]⟩ : Database).hasIndex i.name = false := by
      have elsewhere : ∀ t ∈ tables, ∀ j ∈ t.indexes, j.name ≠ i.name :=
        fun t ht j hj => taken t ht j hj i (List.mem_cons_self ..)
      have here : ∀ j ∈ made, j.name ≠ i.name := by
        intro j hj same
        rw [List.map_append, List.nodup_append] at nodup
        exact nodup.2.2 j.name (List.mem_map_of_mem hj) i.name (by simp) same
      unfold hasIndex
      simp only [List.any_eq_false, List.mem_append, List.mem_singleton, beq_iff_eq,
        Bool.not_eq_true]
      rintro t (ht | rfl)
      · simpa using elsewhere t ht
      · simpa using here
    have executed : (⟨tables ++ [⟨shape, made, []⟩]⟩ : Database).execute
        (.createIndex shape.name i) = .ok ⟨tables ++ [⟨shape, made ++ [i], []⟩]⟩ := by
      unfold execute
      dsimp only
      rw [unused, table?_last other]
      dsimp only
      rw [putTable_last other _ _ rfl rfl]
      simp
    have more := @ih (made ++ [i])
      (fun t ht k hk j hj => taken t ht k hk j (List.mem_cons_of_mem i hj))
      (by rwa [List.append_assoc, List.singleton_append])
    rw [List.map_cons, script_cons_ok executed, more, List.append_assoc, List.singleton_append]

end

/-- The next of some shapes with names of their own is made. -/
theorem script_table {done rest : List Shape} {s : Shape}
    (apart : Shape.Apart (done ++ s :: rest)) :
    (ofShapes done).script s.statements = (ofShapes (done ++ [s]), .ok ()) := by
  have other : ∀ t ∈ done.map Shape.fresh, sameName t.shape.name s.name = false := by
    intro t ht
    obtain ⟨shape, hs, rfl⟩ := List.mem_map.1 ht
    exact (List.pairwise_append.1 apart.tables).2.2 shape hs s (List.mem_cons_self ..)
  have names := apart.indexes
  rw [List.flatMap_append, List.flatMap_cons, List.nodup_append] at names
  obtain ⟨-, later, across⟩ := names
  have taken : ∀ t ∈ done.map Shape.fresh, ∀ i ∈ t.indexes, ∀ j ∈ s.indexes, i.name ≠ j.name := by
    intro t ht i hi j hj
    obtain ⟨shape, hs, rfl⟩ := List.mem_map.1 ht
    refine across i.name (List.mem_flatMap.2 ⟨shape, hs, List.mem_map_of_mem hi⟩) j.name ?_
    exact List.mem_append_left _ (List.mem_map_of_mem hj)
  have unknown : (ofShapes done).hasTable s.name = false := by
    unfold hasTable table?
    rw [Option.isSome_eq_false_iff, Option.isNone_iff_eq_none, List.find?_eq_none]
    intro t ht
    simp [other t ht]
  have executed : (ofShapes done).execute (.createTable s) =
      .ok ⟨done.map Shape.fresh ++ [⟨s, [], []⟩]⟩ := by
    unfold execute
    dsimp only
    rw [unknown]
    rfl
  have made := @script_indexes _ s [] s.indexes other taken (List.nodup_append.1 later).1
  unfold Shape.statements
  rw [script_cons_ok executed, made]
  unfold ofShapes
  rw [List.map_append]
  rfl

/-- Shapes with names of their own are made one after the other. -/
theorem script_statements {done rest : List Shape} (apart : Shape.Apart (done ++ rest)) :
    (ofShapes done).script (rest.flatMap Shape.statements) = (ofShapes (done ++ rest), .ok ()) := by
  induction rest generalizing done with
  | nil =>
    rw [List.append_nil]
    rfl
  | cons s rest ih =>
    have one := script_table apart
    rw [List.flatMap_cons, script_append one, ih]
    · rw [List.append_assoc, List.singleton_append]
    · rwa [List.append_assoc, List.singleton_append]

/-- Shapes with names of their own are made in a database without tables. -/
theorem script_empty {ss : List Shape} (apart : Shape.Apart ss) :
    ({} : Database).script (ss.flatMap Shape.statements) = (ofShapes ss, .ok ()) :=
  @script_statements [] ss apart

end Database

/-! ## The five tables -/

theorem Shape.apart_migrated : Apart migrated where
  tables := by decide +kernel
  indexes := by decide +kernel

theorem Shape.apart_declared : Apart declared where
  tables := by decide +kernel
  indexes := by decide +kernel

/-- The migration makes its five tables in a fresh database. -/
theorem Database.step_upgrade : ({} : Database).step .upgrade =
    (ofShapes Shape.migrated, .ok (.tables (ofShapes Shape.migrated).tables)) := by
  show seen (({} : Database).script (Shape.migrated.flatMap Shape.statements)) = _
  rw [script_empty Shape.apart_migrated]
  rfl

/-- The service makes its five tables in a fresh database, for all of them are missing. -/
theorem Database.step_fill : ({} : Database).step .fill =
    (ofShapes Shape.declared, .ok (.tables (ofShapes Shape.declared).tables)) := by
  have all : missing {} = Shape.declared.flatMap Shape.statements := rfl
  show seen (({} : Database).script (missing {})) = _
  rw [all, script_empty Shape.apart_declared]
  rfl

end BoardViews.Schema
