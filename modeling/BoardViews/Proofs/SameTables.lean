import BoardViews.Proofs.Making
import BoardViews.Proofs.Results
import Mathlib.Data.List.Nodup
import Mathlib.Data.List.Perm.Basic

/-
  The tables of the migration (`upgrade`) and those of the service (`init_db`) take the same rows.
  They differ in the order of the columns of a category, which no insert depends on, and in the
  defaults that only the migration gives; an insert that names the columns with defaults
  (`NamesDefaults`) does not depend on these either. So of two such tables with the same rows an
  insert is taken by both or by none, and it leaves the same rows in both. `Stored.Same` says this
  of two tables, and `Database.Same` of the databases; inserts keep it one by one, whatever they
  are told to write.

  Why an insert is refused may differ, as the first column without a value does.
-/

namespace BoardViews.Schema

/-! ## Results that differ in their errors -/

/-- Two results that are both errors, or both values of which something holds. -/
inductive Alike {ε α β : Type} (R : α → β → Prop) : Except ε α → Except ε β → Prop
  | ok {a : α} {b : β} (h : R a b) : Alike R (.ok a) (.ok b)
  | error {e f : ε} : Alike R (.error e) (.error f)

section

variable {ε α β γ δ : Type} {R : α → β → Prop} {S : γ → δ → Prop} {x : Except ε α} {y : Except ε β}

theorem Alike.bind {f : α → Except ε γ} {g : β → Except ε δ} (h : Alike R x y)
    (next : ∀ a b, R a b → Alike S (f a) (g b)) : Alike S (x >>= f) (y >>= g) := by
  cases h with
  | ok h => exact next _ _ h
  | error => exact .error

theorem Alike.of_eq {y : Except ε α} {x : Except ε α} (h : x = y) :
    Alike (fun a b => a = b ∧ x = .ok a) x y := by
  subst h
  cases x with
  | ok a => exact .ok ⟨rfl, rfl⟩
  | error e => exact .error

theorem any_eq {p : α → Bool} {q : β → Bool} {xs : List α} {ys : List β}
    (h : List.Forall₂ R xs ys) (same : ∀ a b, R a b → p a = q b) : xs.any p = ys.any q := by
  induction h with
  | nil => rfl
  | cons head _ ih => rw [List.any_cons, List.any_cons, same _ _ head, ih]

/-- What is found in two lists that go together goes together. -/
theorem find?_cases {p : α → Bool} {q : β → Bool} {xs : List α} {ys : List β}
    (h : List.Forall₂ R xs ys) (same : ∀ a b, R a b → p a = q b) :
    (∃ a b, xs.find? p = some a ∧ ys.find? q = some b ∧ R a b) ∨
      xs.find? p = none ∧ ys.find? q = none := by
  induction h with
  | nil => exact .inr ⟨rfl, rfl⟩
  | @cons a b xs ys head tail ih =>
    cases hb : q b with
    | true =>
      have ha : p a = true := (same a b head).trans hb
      exact .inl ⟨a, b, List.find?_cons_of_pos ha, List.find?_cons_of_pos hb, head⟩
    | false =>
      have ha : p a = false := (same a b head).trans hb
      rw [List.find?_cons_of_neg (by simp [ha]), List.find?_cons_of_neg (by simp [hb])]
      exact ih

end

/-! ## Rows -/

/-- A row, and one with the same number and the same values in its columns, in whatever order. -/
structure Row.Same (r q : Row) : Prop where
  number : r.number = q.number
  slots : r.slots.Perm q.slots
  distinct : (r.slots.map (·.1)).Nodup

/-- Under a name that occurs once the same value is found in any order. -/
theorem find?_of_perm {l m : List (String × Slot)} (perm : l.Perm m)
    (distinct : (l.map (·.1)).Nodup) (name : String) :
    l.find? (·.1 == name) = m.find? (·.1 == name) := by
  induction perm with
  | nil => rfl
  | cons p _ ih =>
    rw [List.find?_cons, List.find?_cons, ih (List.nodup_cons.1 distinct).2]
  | swap p q l =>
    have apart : q.1 ≠ p.1 := by
      intro same
      simp [same] at distinct
    by_cases hp : p.1 = name
    · have hq : (q.1 == name) = false := beq_false_of_ne (hp ▸ apart)
      simp [hp, hq]
    · simp [List.find?_cons, beq_false_of_ne hp]
  | trans first _ ih ih' =>
    exact (ih distinct).trans (ih' ((first.map _).nodup_iff.1 distinct))

theorem Row.Same.at {r q : Row} (h : r.Same q) (columns : List String) :
    r.at columns = q.at columns := by
  unfold Row.at
  simp only [find?_of_perm h.slots h.distinct]

theorem Row.Same.isFilled {r q : Row} (h : r.Same q) (columns : List String) :
    r.isFilled columns = q.isFilled columns := by
  unfold Row.isFilled
  rw [h.at]

/-- Brought in the order of their names, both rows have the same in their columns. -/
theorem Row.Same.sorted {r q : Row} (h : r.Same q) :
    r.slots.mergeSort (fun a b => decide (a.1 ≤ b.1)) =
      q.slots.mergeSort fun a b => decide (a.1 ≤ b.1) := by
  have inOrder (l : List (String × Slot)) :
      (l.mergeSort fun a b => decide (a.1 ≤ b.1)).Pairwise
        fun a b => decide (a.1 ≤ b.1) = true := by
    refine List.pairwise_mergeSort ?_ ?_ l
    · intro a b c hab hbc
      simp only [decide_eq_true_eq] at hab hbc ⊢
      exact String.le_trans hab hbc
    · intro a b
      simpa using String.le_total a.1 b.1
  have perm : (r.slots.mergeSort fun a b => decide (a.1 ≤ b.1)).Perm
      (q.slots.mergeSort fun a b => decide (a.1 ≤ b.1)) :=
    (List.mergeSort_perm _ _).trans (h.slots.trans (List.mergeSort_perm _ _).symm)
  refine perm.eq_of_pairwise ?_ (inOrder _) (inOrder _)
  intro a b ha hb hab hba
  simp only [decide_eq_true_eq] at hab hba
  have ha' : a ∈ r.slots := (List.mergeSort_perm _ _).mem_iff.1 ha
  have hb' : b ∈ r.slots := h.slots.mem_iff.2 ((List.mergeSort_perm _ _).mem_iff.1 hb)
  exact List.inj_on_of_nodup_map h.distinct ha' hb' (String.le_antisymm hab hba)

/-! ## Tables -/

/-- The columns of a shape, without their defaults: names, types, and which are nullable. -/
def Shape.signature (s : Shape) : List (String × Kind × Bool) :=
  s.columns.map fun c => (c.name, c.kind, c.nullable)

/-- The migration and the models describe the same tables: the same names, the same columns in some
order, each with the same type and as nullable here as there, the same keys, references and indexes.
Only the migration gives columns defaults. -/
theorem Shape.migrated_agrees_declared :
    List.Forall₂ (fun s t => s.name = t.name ∧ s.signature.Perm t.signature ∧ s.key = t.key ∧
      s.references = t.references ∧ s.indexes = t.indexes ∧
      ∀ c ∈ t.columns, c.default? = none) migrated declared := by
  unfold migrated declared Model.all
  refine .cons ?_ (.cons ?_ (.cons ?_ (.cons ?_ (.cons ?_ .nil)))) <;> decide +kernel

/-- A table of the migration, and one that has the same columns in some order, without defaults, the
same keys and the same rows. -/
structure Stored.Same (t u : Stored) : Prop where
  migrated : t.shape ∈ Shape.migrated
  name : t.shape.name = u.shape.name
  signature : t.shape.signature.Perm u.shape.signature
  distinct : (t.shape.signature.map (·.1)).Nodup
  plain : ∀ c ∈ u.shape.columns, c.default? = none
  key : t.shape.key = u.shape.key
  indexes : t.indexes = u.indexes
  rows : List.Forall₂ Row.Same t.rows u.rows

namespace Stored

variable {t u : Stored} {values : Values}

theorem Same.uniques (h : t.Same u) : t.uniques = u.uniques := by
  unfold Stored.uniques
  rw [h.indexes, h.key]

/-- What is the same in all rows is the same in both tables. -/
theorem Same.map_rows {β : Type} (h : t.Same u) {f : Row → β}
    (same : ∀ r q, r.Same q → f r = f q) : t.rows.map f = u.rows.map f := by
  rw [← List.forall₂_eq_eq_eq, List.forall₂_map_left_iff, List.forall₂_map_right_iff]
  exact h.rows.imp same

/-- Both tables are shown in the same way. -/
theorem Same.listing (h : t.Same u) : t.listing = u.listing := by
  unfold Stored.listing
  dsimp only
  rw [h.map_rows fun r q same => same.sorted]

theorem Same.nextNumber (h : t.Same u) : t.nextNumber = u.nextNumber := by
  have folded (v : Stored) : v.nextNumber =
      (v.rows.map Row.number).foldl (fun n m => max n (m + 1)) 1 := by
    rw [List.foldl_map]
    rfl
  rw [folded, folded, h.map_rows fun r q same => same.number]

theorem Same.number (h : t.Same u) (values : Values) : t.number values = u.number values := by
  unfold Stored.number
  rw [h.nextNumber]

theorem Same.hasColumn (h : t.Same u) (name : String) : t.hasColumn name = u.hasColumn name := by
  have signed (v : Stored) :
      v.hasColumn name = v.shape.signature.any fun c => sameName name c.1 := by
    unfold Stored.hasColumn Shape.signature
    rw [List.any_map]
    rfl
  rw [signed, signed, h.signature.any_eq]

/-! ## Inserts into a table -/

/-- The value that an insert gives for a column of a name, if it gives one. -/
def given? (values : Values) (name : String) : Option Cell :=
  (values.find? fun v => sameName v.1 name).bind (·.2)

/-- Whether an insert names all columns that have defaults. -/
def NamesDefaults (t : Stored) (values : Values) : Prop :=
  ∀ c ∈ t.shape.columns, c.default? ≠ none → ∃ v ∈ values, sameName v.1 c.name = true

/-- The default of a column that is named makes no difference. -/
theorem value?_eq_given? {c : Column}
    (named : c.default? ≠ none → ∃ v ∈ values, sameName v.1 c.name = true) :
    value? values c = given? values c.name := by
  unfold value? given?
  cases found : values.find? fun v => sameName v.1 c.name with
  | some v => rfl
  | none =>
    cases default : c.default? with
    | none => rfl
    | some d =>
      obtain ⟨v, mem, same⟩ := named (by simp [default])
      exact absurd same (by simpa using List.find?_eq_none.1 found v mem)

/-- What an insert puts into the columns is made of the values that it gives, in their order. -/
theorem slots_eq_ok_iff (named : t.NamesDefaults values) {slots : List (String × Slot)} :
    t.slots values = .ok slots ↔
      List.Forall₂ (fun c p => p.1 = c.1 ∧ slot? c.2.1 c.2.2 (given? values c.1) = some p.2)
        t.shape.signature slots := by
  have members {R : Column → String × Slot → Prop} (h : List.Forall₂ R t.shape.columns slots) :
      List.Forall₂ (fun c p => (c.default? ≠ none → ∃ v ∈ values, sameName v.1 c.name = true) ∧
        R c p) t.shape.columns slots :=
    (List.forall₂_and_left _ _).2 ⟨named, h⟩
  unfold Stored.slots Shape.signature
  rw [mapM_eq_ok_iff, List.forall₂_map_left_iff]
  constructor
  · intro h
    refine (members h).imp fun c p both => ?_
    obtain ⟨named, made⟩ := both
    rw [← value?_eq_given? named]
    split at made
    · next slot found =>
      cases made
      exact ⟨rfl, found⟩
    · cases made
  · intro h
    refine (members h).imp fun c p both => ?_
    obtain ⟨named, same, found⟩ := both
    rw [← value?_eq_given? named] at found
    rw [found]
    exact congrArg Except.ok (Prod.ext same.symm rfl)

theorem map_fst_slots {slots : List (String × Slot)} (named : t.NamesDefaults values)
    (h : t.slots values = .ok slots) : slots.map (·.1) = t.shape.signature.map (·.1) := by
  rw [← List.forall₂_eq_eq_eq, List.forall₂_map_left_iff, List.forall₂_map_right_iff]
  exact ((slots_eq_ok_iff named).1 h).flip.imp fun p c both => both.1

theorem Same.namesDefaults (h : t.Same u) : u.NamesDefaults values :=
  fun c hc absurd_ => absurd (h.plain c hc) absurd_

/-- Both tables put the same into their columns, or take nothing. -/
theorem Same.slots (h : t.Same u) (named : t.NamesDefaults values) :
    Alike (fun cs ds => cs.Perm ds ∧ (cs.map (·.1)).Nodup) (t.slots values) (u.slots values) := by
  have named' : u.NamesDefaults values := h.namesDefaults
  cases hc : t.slots values with
  | ok cs =>
    obtain ⟨ds, made, perm⟩ :=
      List.perm_comp_forall₂ h.signature.symm ((slots_eq_ok_iff named).1 hc)
    rw [(slots_eq_ok_iff named').2 made]
    refine .ok ⟨perm.symm, ?_⟩
    rw [map_fst_slots named hc]
    exact h.distinct
  | error e =>
    cases hd : u.slots values with
    | error f => exact .error
    | ok ds =>
      obtain ⟨cs, made, -⟩ := List.perm_comp_forall₂ h.signature ((slots_eq_ok_iff named').1 hd)
      rw [(slots_eq_ok_iff named).2 made] at hc
      cases hc

theorem Same.append (h : t.Same u) {r q : Row} (same : r.Same q) :
    Same { t with rows := t.rows ++ [r] } { u with rows := u.rows ++ [q] } :=
  { h with rows := List.rel_append h.rows (.cons same .nil) }

/-- An insert that names all columns with defaults is taken by both tables or by none, and both are
the same afterwards. -/
theorem Same.insert (h : t.Same u) (named : t.NamesDefaults values) :
    Alike Same (t.insert values) (u.insert values) := by
  unfold Stored.insert
  refine Alike.bind (.of_eq (h.number values)) ?_
  rintro n _ ⟨rfl, -⟩
  refine Alike.bind (h.slots named) ?_
  rintro cs ds ⟨perm, distinct⟩
  have same : Row.Same ⟨n, cs⟩ ⟨n, ds⟩ := ⟨rfl, perm, distinct⟩
  have numbered : t.rows.any (·.number == n) = u.rows.any (·.number == n) :=
    any_eq h.rows fun r q both => by rw [both.number]
  have keyed (columns : List String) :
      t.rows.any (fun r => r.at columns == Row.at ⟨n, cs⟩ columns) =
        u.rows.any (fun q => q.at columns == Row.at ⟨n, ds⟩ columns) :=
    any_eq h.rows fun r q both => by rw [both.at, same.at]
  dsimp only
  rw [numbered, h.uniques]
  simp only [keyed, same.isFilled]
  split
  · exact .error
  · split
    · exact .error
    · exact .ok (h.append same)

end Stored

/-! ## Databases -/

/-- Two databases whose tables are the same, one by one. -/
def Database.Same (m d : Database) : Prop := List.Forall₂ Stored.Same m.tables d.tables

/-- An insert: a table and values for columns, as they are written. -/
structure Insert where
  table : String
  values : List (String × Binding)

/-- Whether an insert names every column that the migration gives a default, in the table that it
goes to. -/
def Insert.NamesDefaults (i : Insert) : Prop :=
  ∀ t, Target.read i.table (i.values.map (·.1)) = .ok t →
    ∀ shape ∈ Shape.migrated, sameName shape.name t.table = true →
      ∀ c ∈ shape.columns, c.default? ≠ none → ∃ name ∈ t.columns, sameName name c.name = true

theorem Binding.length_handOver {bindings : List Binding} {cells : List (Option Cell)}
    (h : Binding.handOver bindings = .ok cells) : cells.length = bindings.length := by
  unfold Binding.handOver at h
  rw [← (mapM_eq_ok_iff.1 h).length_eq, List.length_zipIdx]

namespace Database

variable {m d : Database}

theorem Same.target (h : m.Same d) (t : Target) :
    Alike (fun s s' => s.Same s' ∧ sameName s.shape.name t.table = true) (m.target t)
      (d.target t) := by
  have named (s s' : Stored) (same : s.Same s') :
      sameName s.shape.name t.table = sameName s'.shape.name t.table := by rw [same.name]
  unfold Database.target
  dsimp only
  split
  · exact .error
  · split
    · unfold table?
      rcases find?_cases h named with ⟨s, s', found, found', same⟩ | ⟨none, none'⟩
      · rw [found, found']
        exact .ok ⟨same, by simpa using List.find?_some found⟩
      · rw [none, none']
        exact .error
    · exact .error

theorem Same.putTable (h : m.Same d) {s s' : Stored} (same : s.Same s') :
    (m.putTable s).Same (d.putTable s') := by
  unfold Database.Same Database.putTable
  rw [List.forall₂_map_left_iff, List.forall₂_map_right_iff]
  refine List.Forall₂.imp (fun u u' both => ?_) h
  rw [both.name, same.name]
  split
  · exact same
  · exact both

/-- An insert is taken by both databases or by neither, and both are the same afterwards. -/
theorem Same.insert (h : m.Same d) {i : Insert} (names : i.NamesDefaults) :
    Alike (fun x y => x.1.Same y.1 ∧ x.2.Same y.2) (m.insert i.table i.values)
      (d.insert i.table i.values) := by
  unfold Database.insert
  refine Alike.bind (.of_eq rfl) ?_
  rintro t _ ⟨rfl, read⟩
  refine Alike.bind (h.target t) ?_
  rintro s s' ⟨same, found⟩
  simp only [same.hasColumn]
  split
  · exact .error
  · split
    · exact .error
    · next count =>
      refine Alike.bind (.of_eq rfl) ?_
      rintro cells _ ⟨rfl, handed⟩
      have length := Binding.length_handOver (ok_of_mapError handed)
      rw [List.length_map] at length
      have columns : (t.columns.zip cells).map (·.1) = t.columns :=
        List.map_fst_zip (by omega)
      have named : s.NamesDefaults (t.columns.zip cells) := by
        intro c hc default
        obtain ⟨name, mem, named⟩ :=
          names t (ok_of_mapError read) s.shape same.migrated found c hc default
        rw [← columns] at mem
        obtain ⟨v, hv, rfl⟩ := List.mem_map.1 mem
        exact ⟨v, hv, named⟩
      refine Alike.bind (same.insert named) ?_
      rintro u u' after
      exact .ok ⟨after, h.putTable after⟩

/-- Takes inserts one after the other, each of which changes nothing if it is refused; tells which
were taken, and the database in the end. -/
def inserts (db : Database) : List Insert → List Bool × Database
  | [] => ([], db)
  | i :: is =>
    let (db', seen) := db.step (.insert i.table i.values)
    let (taken, last) := db'.inserts is
    (seen.isOk :: taken, last)

theorem Same.step (h : m.Same d) {i : Insert} (names : i.NamesDefaults) :
    (m.step (.insert i.table i.values)).2.isOk = (d.step (.insert i.table i.values)).2.isOk ∧
      (m.step (.insert i.table i.values)).1.Same (d.step (.insert i.table i.values)).1 := by
  have alike := h.insert names
  unfold Database.step
  dsimp only
  generalize m.insert i.table i.values = x at alike
  generalize d.insert i.table i.values = y at alike
  cases alike with
  | ok both => exact ⟨rfl, both.2⟩
  | error => exact ⟨rfl, h⟩

theorem Same.inserts (h : m.Same d) {is : List Insert} (names : ∀ i ∈ is, i.NamesDefaults) :
    (m.inserts is).1 = (d.inserts is).1 ∧ (m.inserts is).2.Same (d.inserts is).2 := by
  induction is generalizing m d with
  | nil => exact ⟨rfl, h⟩
  | cons i is ih =>
    obtain ⟨first, others⟩ := List.forall_mem_cons.1 names
    obtain ⟨seen, after⟩ := h.step first
    obtain ⟨taken, last⟩ := ih after others
    exact ⟨congrArg₂ List.cons seen taken, last⟩

/-- Just made, the tables of the migration and those of the service are the same. -/
theorem same_fresh : (ofShapes Shape.migrated).Same (ofShapes Shape.declared) := by
  have distinct : ∀ s ∈ Shape.migrated, (s.signature.map (·.1)).Nodup := by decide +kernel
  have agree := (List.forall₂_and_left _ _).2
    ⟨fun s hs => (⟨hs, distinct s hs⟩ : s ∈ Shape.migrated ∧ _), Shape.migrated_agrees_declared⟩
  unfold Database.Same ofShapes
  rw [List.forall₂_map_left_iff, List.forall₂_map_right_iff]
  refine agree.imp fun s t h => ?_
  obtain ⟨⟨migrated, distinct⟩, name, signature, key, -, indexes, plain⟩ := h
  exact ⟨migrated, name, signature, distinct, plain, key, indexes, .nil⟩

/-- The migration and the service make tables that take the same rows: of any inserts each of which
names the columns with defaults, a fresh database takes the same ones whichever of the two made its
tables, and in the end the tables have the same rows and show the same. -/
theorem migration_and_service_make_the_same_tables {is : List Insert}
    (names : ∀ i ∈ is, i.NamesDefaults) :
    let m := ({} : Database).step .upgrade
    let d := ({} : Database).step .fill
    m.2.isOk = true ∧ d.2.isOk = true ∧ (m.1.inserts is).1 = (d.1.inserts is).1 ∧
      List.Forall₂ (fun t u => t.shape.name = u.shape.name ∧
          List.Forall₂ Row.Same t.rows u.rows ∧ t.listing = u.listing)
        (m.1.inserts is).2.tables (d.1.inserts is).2.tables := by
  intro m d
  have upgraded : m = _ := step_upgrade
  have filled : d = _ := step_fill
  obtain ⟨taken, last⟩ := same_fresh.inserts names
  rw [upgraded, filled]
  exact ⟨rfl, rfl, taken, List.Forall₂.imp (fun t u h => ⟨h.name, h.rows, h.listing⟩) last⟩

/-! ## Inserts of memberships -/

/-- The columns of an insert of a membership. -/
def viewColumns : List String := ["view_id", "category_id", "hidden", "sort_order"]

/-- An insert of a membership. -/
def membership (view category : Binding) : Insert :=
  ⟨"view_category_views", [("view_id", view), ("category_id", category),
    ("hidden", .cell (.int 0)), ("sort_order", .cell (.text "7"))]⟩

theorem read_membership (view category : Binding) :
    Target.read (membership view category).table ((membership view category).values.map (·.1)) =
      .ok { table := "view_category_views", columns := viewColumns } := by
  have read : Target.read "view_category_views" viewColumns =
      .ok { table := "view_category_views", columns := viewColumns } := by
    decide +kernel
  exact read

theorem namesDefaults_membership (view category : Binding) :
    (membership view category).NamesDefaults := by
  intro t read shape mem same c hc default
  obtain rfl := Except.ok.inj ((read_membership view category).symm.trans read)
  have split : Shape.migrated = Shape.migrated.take 4 ++ [Migration.viewCategoryViews] := rfl
  have apart := Shape.apart_migrated.tables
  rw [split, List.pairwise_append] at apart
  rw [split, List.mem_append, List.mem_singleton] at mem
  rcases mem with other | rfl
  · cases (apart.2.2 shape other _ (List.mem_singleton_self _)).symm.trans same
  · obtain rfl | rfl | rfl | rfl : c = _ ∨ c = _ ∨ c = _ ∨ c = _ := by
      simpa only [Migration.viewCategoryViews, List.mem_cons, List.not_mem_nil, or_false] using hc
    · exact absurd rfl default
    · exact absurd rfl default
    · exact ⟨"hidden", by simp [viewColumns], beq_self_eq_true _⟩
    · exact ⟨"sort_order", by simp [viewColumns], beq_self_eq_true _⟩

theorem namesDefaults_memberships (view : Binding) (categories : List Binding) :
    ∀ i ∈ categories.map (membership view), i.NamesDefaults := by
  intro i hi
  obtain ⟨category, -, rfl⟩ := List.mem_map.1 hi
  exact namesDefaults_membership view category

/-- What an insert comes to whose target is found and whose values are handed over. -/
theorem step_insert {db : Database} {i : Insert} {target : Target} {s : Stored}
    {cells : List (Option Cell)} (read : Target.read i.table (i.values.map (·.1)) = .ok target)
    (found : db.target target = .ok s) (known : ∀ c ∈ target.columns, s.hasColumn c = true)
    (count : target.columns.length = i.values.length)
    (handed : Binding.handOver (i.values.map (·.2)) = .ok cells) :
    db.step (.insert i.table i.values) =
      match s.insert (target.columns.zip cells) with
      | .ok s' => (db.putTable s', .ok (.table s'))
      | .error e => (db, .error e) := by
  have all : target.columns.find? (fun c => !(s.hasColumn c || isNumberName c)) = none := by
    rw [List.find?_eq_none]
    intro c hc
    simp [known c hc]
  have inserted : db.insert i.table i.values =
      (s.insert (target.columns.zip cells)).map fun s' => (s', db.putTable s') := by
    unfold Database.insert
    rw [read, handed]
    simp only [Except.mapError, bind, Except.bind, found, all, count, ne_eq, not_true_eq_false,
      if_false]
    cases s.insert (target.columns.zip cells) <;> rfl
  unfold step
  dsimp only
  rw [inserted]
  cases s.insert (target.columns.zip cells) <;> rfl

/-- The names that an insert of a membership is compared with have no capitals. -/
theorem lower_names : ∀ name ∈ ["users", "boards", "board_members", "view_categories",
    "view_category_views", "sqlite_master", "sqlite_schema", "sqlite_temp_master",
    "sqlite_temp_schema", "view_id", "category_id", "hidden", "sort_order", "rowid", "oid",
    "_rowid_"], Text.lower name = name := by
  decide +kernel

/-- The first row of a membership. -/
def viewRow (view category : String) : Row :=
  ⟨1, [("view_id", .filled (.text view)), ("category_id", .filled (.text category)),
    ("hidden", .filled (.int 0)), ("sort_order", .filled (.int 7))]⟩

/-- The table of memberships that the migration makes, with some rows. -/
def views (rows : List Row) : Stored := { Migration.viewCategoryViews.fresh with rows := rows }

/-- The tables that the migration makes, with rows of memberships alone. -/
def withViews (rows : List Row) : Database :=
  ⟨(Shape.migrated.take 4).map Shape.fresh ++ [views rows]⟩

/-- The values that an insert of a membership gives. -/
def viewValues (view : String) (category : Option String) : Values :=
  viewColumns.zip [some (.text view), category.map .text, some (.int 0), some (.text "7")]

section

variable (rows : List Row) (view : String)

theorem target_views (columns : List String) :
    (withViews rows).target { table := "view_category_views", columns := columns } =
      .ok (views rows) := by
  have low := lower_names
  simp only [List.forall_mem_cons] at low
  simp [target, ownTables, table?, withViews, Shape.migrated, Shape.fresh, views, sameName, low,
    Migration.users, Migration.boards, Migration.boardMembers, Migration.viewCategories,
    Migration.viewCategoryViews]

theorem putTable_views (others : List Row) :
    (withViews rows).putTable (views others) = withViews others := by
  simp [putTable, withViews, Shape.migrated, Shape.fresh, views, Migration.users, Migration.boards,
    Migration.boardMembers, Migration.viewCategories, Migration.viewCategoryViews]

theorem hasColumn_views : ∀ c ∈ viewColumns, (views rows).hasColumn c = true := by
  have low := lower_names
  simp only [List.forall_mem_cons] at low
  simp [viewColumns, Stored.hasColumn, views, Shape.fresh, Migration.viewCategoryViews, sameName,
    low]

theorem number_views (category : Option String) :
    (views rows).number (viewValues view category) = .ok (views rows).nextNumber := by
  have low := lower_names
  simp only [List.forall_mem_cons] at low
  simp [Stored.number, viewValues, viewColumns, isNumberName, numberNames, sameName, low]

/-- A membership has to have a category, and the text of its place is a number. -/
theorem slots_views (category : Option String) :
    (views rows).slots (viewValues view category) =
      match category with
      | some c => .ok (viewRow view c).slots
      | none => .error (.missingValue "view_category_views" "category_id") := by
  have low := lower_names
  simp only [List.forall_mem_cons] at low
  have seven : Kind.integer.adapt (.text "7") = .int 7 := by decide +kernel
  have zero : Kind.flag.adapt (.int 0) = .int 0 := rfl
  have text (s : String) : (Kind.text 36).adapt (.text s) = .text s := rfl
  cases category <;>
    simp [Stored.slots, views, Shape.fresh, Migration.viewCategoryViews, Stored.slot?,
      Stored.value?, viewValues, viewColumns, sameName, low, seven, zero, text, viewRow, bind,
      Except.bind, pure, Except.pure]

theorem step_membership {category : Binding} {given : Option String}
    (handed : Binding.handOver ((membership (.cell (.text view)) category).values.map (·.2)) =
      .ok [some (.text view), given.map .text, some (.int 0), some (.text "7")]) :
    (withViews rows).step
        (.insert (membership (.cell (.text view)) category).table
          (membership (.cell (.text view)) category).values) =
      match (views rows).insert (viewValues view given) with
      | .ok t => ((withViews rows).putTable t, .ok (.table t))
      | .error e => (withViews rows, .error e) :=
  step_insert (read_membership _ category) (target_views rows _) (hasColumn_views rows) rfl handed

end

theorem inserts_cons {db db' last : Database} {i : Insert} {is : List Insert} {taken : List Bool}
    {seen : Except Trouble Sight} (step : db.step (.insert i.table i.values) = (db', seen))
    (rest : db'.inserts is = (taken, last)) :
    db.inserts (i :: is) = (seen.isOk :: taken, last) := by
  unfold inserts
  rw [step]
  dsimp only
  rw [rest]

/-- Of three inserts of one view the first is taken; the second has its key, and the third no
category. -/
theorem inserts_memberships :
    (withViews []).inserts
        ([.cell (.text "c"), .cell (.text ""), .null].map (membership (.cell (.text "v")))) =
      ([true, false, false], withViews [viewRow "v" "c"]) := by
  have stored : (views []).insert (viewValues "v" (some "c")) = .ok (views [viewRow "v" "c"]) := by
    unfold Stored.insert
    rw [number_views, slots_views]
    rfl
  have key : (views [viewRow "v" "c"]).insert (viewValues "v" (some "")) =
      .error (.duplicateKey "view_category_views" ["view_id"]) := by
    unfold Stored.insert
    rw [number_views, slots_views]
    rfl
  have value : (views [viewRow "v" "c"]).insert (viewValues "v" none) =
      .error (.missingValue "view_category_views" "category_id") := by
    unfold Stored.insert
    rw [number_views, slots_views]
    rfl
  have first := @step_membership [] "v" (.cell (.text "c")) (some "c") rfl
  have second := @step_membership [viewRow "v" "c"] "v" (.cell (.text "")) (some "") rfl
  have third := @step_membership [viewRow "v" "c"] "v" .null none rfl
  rw [stored] at first
  dsimp only at first
  rw [putTable_views] at first
  rw [key] at second
  rw [value] at third
  exact inserts_cons first (inserts_cons second (inserts_cons third rfl))

/-- One view is put into a category, into none by the empty id, and into null: of the three inserts
both databases take the first one alone, the second having its key and the third no value, and the
row of the first is all that is stored. -/
theorem same_view_three_times :
    let is := [.cell (.text "c"), .cell (.text ""), .null].map (membership (.cell (.text "v")))
    let m := ({} : Database).step .upgrade
    let d := ({} : Database).step .fill
    (∀ i ∈ is, i.NamesDefaults) ∧ (m.1.inserts is).1 = [true, false, false] ∧
      (d.1.inserts is).1 = [true, false, false] ∧
      (m.1.inserts is).2.tables.map Stored.rows = [[], [], [], [],
        [⟨1, [("view_id", .filled (.text "v")), ("category_id", .filled (.text "c")),
          ("hidden", .filled (.int 0)), ("sort_order", .filled (.int 7))]⟩]] ∧
      List.Forall₂ (fun t u => t.shape.name = u.shape.name ∧
          List.Forall₂ Row.Same t.rows u.rows ∧ t.listing = u.listing)
        (m.1.inserts is).2.tables (d.1.inserts is).2.tables := by
  intro is m d
  have names : ∀ i ∈ is, i.NamesDefaults := namesDefaults_memberships _ _
  obtain ⟨-, -, taken, rows⟩ := migration_and_service_make_the_same_tables names
  have fresh : m.1 = withViews [] := congrArg Prod.fst step_upgrade
  have last : m.1.inserts is = ([true, false, false], withViews [viewRow "v" "c"]) := by
    rw [fresh]
    exact inserts_memberships
  have seen : (m.1.inserts is).1 = [true, false, false] := congrArg Prod.fst last
  have stored : (m.1.inserts is).2.tables.map Stored.rows = [[], [], [], [], [viewRow "v" "c"]] :=
    congrArg (fun r => r.2.tables.map Stored.rows) last
  exact ⟨names, seen, taken.symm.trans seen, stored, rows⟩

end Database

end BoardViews.Schema
