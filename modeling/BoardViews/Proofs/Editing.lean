import BoardViews.Proofs.Results
import BoardViews.Proofs.Rows
import BoardViews.Store.Edit

/-
  What editing a category writes (`update` of `ViewCategoryRepository`). The first write puts
  name, collapsed state and update time into the category of the edited id, the commit puts
  everything that was changed into the category that was loaded. Where both hit the same row, or
  the first one hits none, the edit succeeds, and then every column has the edited value; where
  the first one hits another row, the id is taken and the edit fails. So a column other than those
  three keeps its value only if it was not changed. The theorem is about edits of a stored
  category that succeed.

  Columns are compared by their cells: `Category.cell?` is what a category has in a column and
  `Entry.stored?` what a column stores of a value.
-/

namespace BoardViews

/-! ## Keys -/

namespace Keyed

variable {κ α β : Type} [DecidableEq κ]

theorem get?_append (key : κ) (es fs : List (κ × α)) :
    get? key (es ++ fs) = (get? key es).or (get? key fs) := by
  unfold get?
  rw [List.find?_append]
  cases es.find? fun e => decide (e.1 = key) <;> rfl

/-- Under a key that one item gives, there is what that item gives. -/
theorem get?_map {f : β → κ} (g : β → α) {xs : List β} {x : β} (nodup : (xs.map f).Nodup)
    (mem : x ∈ xs) : get? (f x) (xs.map fun y => (f y, g y)) = some (g x) := by
  have keys : ((xs.map fun y => (f y, g y)).map (·.1)).Nodup := by
    rw [List.map_map]
    exact nodup
  exact (get?_eq_some_iff keys).2 (List.mem_map_of_mem mem)

end Keyed

/-! ## Cells -/

/-- The cell of a column among cells, if there is one. -/
def Cells.at? (cells : Cells) (column : String) : Option Cell :=
  (Keyed.get? column cells).bind fun c => c

/-- What a column stores of a value, if the value can be stored. -/
def Entry.stored? (e : Entry) : Option Cell :=
  (e.binding.toOption.bind Binding.cell?).map e.column.kind.adapt

/-- A cell that a column of a type has when it was stored: a text, a switch or anything. -/
def Kind.Keeps : Kind → Cell → Prop
  | .text _, c => ∃ s, c = .text s
  | .flag, c => c = .int 0 ∨ c = .int 1
  | _, _ => True

/-- A switch is stored as zero or one. -/
theorem Binding.ofSwitch_cell {v : Json} {cell : Cell}
    (h : (ofSwitch v).toOption.bind cell? = some cell) : cell = .int 0 ∨ cell = .int 1 := by
  cases v with
  | null => cases h
  | bool b =>
    cases h
    cases b
    · exact .inl rfl
    · exact .inr rfl
  | int n =>
    unfold ofSwitch at h
    dsimp only at h
    split at h
    · next switch =>
      cases h
      exact switch.imp (congrArg Cell.int) (congrArg Cell.int)
    · cases h
  | real x =>
    unfold ofSwitch at h
    dsimp only at h
    split at h
    · cases h
      exact .inl rfl
    · cases h
      exact .inr rfl
    · cases h
  | text t => cases h
  | list items => cases h
  | object fields => cases h

/-- A stored cell as a value. -/
def Kind.json : Kind → Cell → Json
  | .flag, c => .bool c.isYes
  | _, c => c.toJson

theorem Entry.keeps_stored {e : Entry} {cell : Cell} (h : e.stored? = some cell) :
    e.column.kind.Keeps cell := by
  obtain ⟨given, bound, rfl⟩ := Option.map_eq_some_iff.1 h
  cases kind : e.column.kind with
  | text limit => exact ⟨_, rfl⟩
  | big => trivial
  | integer => trivial
  | flag =>
    have switch : given = .int 0 ∨ given = .int 1 := by
      unfold binding at bound
      rw [kind] at bound
      exact Binding.ofSwitch_cell bound
    rcases switch with rfl | rfl
    · exact .inl rfl
    · exact .inr rfl

theorem Binding.handOver_ok {bindings : List Binding} {cells : List (Option Cell)}
    (h : handOver bindings = .ok cells) : cells = bindings.map cell? := by
  have each : List.Forall₂ (fun b c => b.1.cell? = c) bindings.zipIdx cells := by
    refine (mapM_eq_ok_iff.1 h).imp fun b c taken => ?_
    split at taken
    · cases taken
    · split at taken
      · exact Except.ok.inj taken
      · cases taken
  rw [← List.forall₂_map_left_iff, List.forall₂_eq_eq_eq] at each
  calc cells = (bindings.zipIdx.map Prod.fst).map cell? := by rw [← each, List.map_map]; rfl
    _ = bindings.map cell? := by rw [List.zipIdx_map_fst]

theorem zipWith_bound {es : List Entry} {bindings : List Binding}
    (bound : List.Forall₂ (fun e b => e.binding = .ok b) es bindings) :
    es.zipWith (fun e c => (e.column.name, c.map e.column.kind.adapt))
        (bindings.map Binding.cell?) =
      es.map fun e => (e.column.name, e.stored?) := by
  induction bound with
  | nil => rfl
  | cons one rest ih =>
    rw [List.map_cons, List.zipWith_cons_cons, ih, List.map_cons]
    unfold Entry.stored?
    rw [one]
    rfl

theorem handOverEntries_ok {es : List Entry} {cells : Cells} (h : handOverEntries es = .ok cells) :
    cells = es.map fun e => (e.column.name, e.stored?) := by
  obtain ⟨bindings, bound, h⟩ := bind_eq_ok_iff.1 h
  obtain ⟨taken, handed, h⟩ := bind_eq_ok_iff.1 h
  obtain rfl := Binding.handOver_ok (ok_of_mapError handed)
  obtain rfl := Except.ok.inj h
  exact zipWith_bound (mapM_eq_ok_iff.1 bound)

namespace RowKind

variable {k : RowKind} {cells : Cells} {column : String}

theorem need_ok {cell : Cell} (h : k.need cells column = .ok cell) :
    cells.at? column = some cell := by
  unfold need at h
  unfold Cells.at?
  split at h
  · next found =>
    cases h
    exact found
  · cases h

/-- A text that was found among cells is what is there, if that is a text at all. -/
theorem needText_ok {limit : Nat} {s : String} (h : k.needText cells column = .ok s)
    (keeps : ∀ cell, cells.at? column = some cell → (Kind.text limit).Keeps cell) :
    cells.at? column = some (.text s) := by
  obtain ⟨cell, found, rfl⟩ := exists_of_map_eq_ok h
  obtain ⟨s, rfl⟩ := keeps cell (need_ok found)
  exact need_ok found

theorem needFlag_ok {b : Bool} (h : k.needFlag cells column = .ok b)
    (keeps : ∀ cell, cells.at? column = some cell → Kind.flag.Keeps cell) :
    cells.at? column = some (.int (if b then 1 else 0)) := by
  obtain ⟨cell, found, rfl⟩ := exists_of_map_eq_ok h
  rw [need_ok found]
  rcases keeps cell (need_ok found) with rfl | rfl
  · rfl
  · rfl

end RowKind

namespace Category

variable {c c' : Category} {r : Record} {cells : Cells} {column : Schema.Column}

/-- What a category has in a column. -/
def cell? (c : Category) (column : String) : Option Cell := c.cells.at? column

/-- The columns of categories. -/
def columns : List Schema.Column := RowKind.category.shape.columns

def idColumn : Schema.Column := ⟨"id", .text 36, false, none⟩

def nameColumn : Schema.Column := ⟨"name", .text 255, false, none⟩

def collapsedColumn : Schema.Column := ⟨"collapsed", .flag, false, none⟩

def updateAtColumn : Schema.Column := ⟨"update_at", .big, false, none⟩

theorem columns_eq : columns =
    [idColumn, nameColumn, ⟨"user_id", .text 36, false, none⟩,
     ⟨"board_id", .text 36, false, none⟩, collapsedColumn,
     ⟨"sort_order", .integer, false, none⟩, ⟨"type", .text 20, false, none⟩,
     ⟨"create_at", .big, false, none⟩, updateAtColumn, ⟨"delete_at", .big, false, none⟩] := rfl

theorem nodup_columns : (columns.map (·.name)).Nodup := by decide

/-- What a category is made of is what it has then. -/
theorem cell?_of_ofCells (h : ofCells cells = .ok c)
    (keeps : ∀ column ∈ columns, ∀ cell, cells.at? column.name = some cell →
      column.kind.Keeps cell) :
    ∀ column ∈ columns, c.cell? column.name = cells.at? column.name := by
  unfold ofCells at h
  simp only [bind_eq_ok_iff] at h
  obtain ⟨id, hid, name, hname, user, huser, board, hboard, collapsed, hcollapsed, sort, hsort,
    type, htype, create, hcreate, update, hupdate, delete, hdelete, h⟩ := h
  obtain rfl := Except.ok.inj h
  simp only [columns_eq, List.forall_mem_cons] at keeps ⊢
  obtain ⟨kid, kname, kuser, kboard, kcollapsed, -, ktype, -⟩ := keeps
  exact ⟨(RowKind.needText_ok hid kid).symm, (RowKind.needText_ok hname kname).symm,
    (RowKind.needText_ok huser kuser).symm, (RowKind.needText_ok hboard kboard).symm,
    (RowKind.needFlag_ok hcollapsed kcollapsed).symm, (RowKind.need_ok hsort).symm,
    (RowKind.needText_ok htype ktype).symm, (RowKind.need_ok hcreate).symm,
    (RowKind.need_ok hupdate).symm, (RowKind.need_ok hdelete).symm, List.forall_mem_nil _⟩

theorem keeps_cell : ∀ column ∈ columns, ∀ cell, c.cell? column.name = some cell →
    column.kind.Keeps cell := by
  simp only [columns_eq, List.forall_mem_cons]
  refine ⟨?_, ?_, ?_, ?_, ?_, ?_, ?_, ?_, ?_, ?_, List.forall_mem_nil _⟩ <;> rintro cell ⟨⟩
  · exact ⟨_, rfl⟩
  · exact ⟨_, rfl⟩
  · exact ⟨_, rfl⟩
  · exact ⟨_, rfl⟩
  · cases c.collapsed
    · exact .inl rfl
    · exact .inr rfl
  · trivial
  · exact ⟨_, rfl⟩
  · trivial
  · trivial
  · trivial

/-- A category as a record, told by its cells. -/
theorem valueOf_nil : ∀ column ∈ columns, c.valueOf [] column.name =
    ((c.cell? column.name).map column.kind.json).getD .null := by
  simp only [columns_eq, List.forall_mem_cons]
  refine ⟨rfl, rfl, rfl, rfl, ?_, rfl, rfl, rfl, rfl, rfl, List.forall_mem_nil _⟩
  obtain ⟨id, name, user, board, create, update, delete, collapsed, sort, type⟩ := c
  cases collapsed <;> rfl

/-! ## What is handed over -/

/-- The entry of a column in a category that was edited by a record. -/
def entry (c : Category) (r : Record) (column : Schema.Column) : Entry :=
  ⟨column, c.valueOf r column.name⟩

/-- Whether a record changes what a category has in a column. -/
def isChanged (c : Category) (r : Record) (column : String) : Bool :=
  !(c.valueOf r column).isSame (c.valueOf [] column)

/-- Whether an edited category has a value for a column. -/
def hasValue (c : Category) (r : Record) (column : String) : Bool :=
  match c.valueOf r column with
  | .null => false
  | _ => true

theorem hasValue_of_ne (h : c.valueOf r column.name ≠ .null) : c.hasValue r column.name = true := by
  unfold hasValue
  split
  · next null => exact absurd null h
  · rfl

/-- What is handed over for the columns that pass a test. -/
theorem get?_entries {p : Entry → Bool} {q : String → Bool}
    (same : ∀ e ∈ c.editedEntries r, p e = q e.column.name) (mem : column ∈ columns) :
    Keyed.get? column.name
        (((c.editedEntries r).filter p).map fun e => (e.column.name, e.stored?)) =
      if q column.name then some (c.entry r column).stored? else none := by
  have handed : ((c.editedEntries r).filter p).map (fun e => (e.column.name, e.stored?)) =
      (columns.map fun column => (column.name, (c.entry r column).stored?)).filter
        fun e => q e.1 := by
    rw [List.filter_congr same]
    unfold editedEntries
    rw [List.filter_map, List.filter_map, List.map_map]
    rfl
  rw [handed, Keyed.get?_filter, Keyed.get?_map _ nodup_columns mem]

theorem get?_changed (h : handOverEntries (c.changedEntries r) = .ok cells)
    (mem : column ∈ columns) :
    Keyed.get? column.name cells =
      if c.isChanged r column.name then some (c.entry r column).stored? else none := by
  obtain rfl := handOverEntries_ok h
  refine get?_entries (fun e he => ?_) mem
  obtain ⟨column, -, rfl⟩ := List.mem_map.1 he
  rfl

/-- A column without a value stores nothing. -/
theorem stored?_of_null {e : Entry} (h : e.value = .null) : e.stored? = none := by
  obtain ⟨column, value⟩ := e
  subst h
  unfold Entry.stored? Entry.binding
  cases column.kind <;> rfl

/-- For the first write the id is handed over too, if there is one. -/
theorem at?_first (h : handOverEntries (c.firstEntries r) = .ok cells) (mem : column ∈ columns)
    (written : column.name ∈ "id" :: editedFirst) :
    cells.at? column.name = (c.entry r column).stored? := by
  obtain rfl := handOverEntries_ok h
  let isId (name : String) : Bool := name == "id" && c.hasValue r name
  unfold Cells.at? firstEntries
  dsimp only
  rw [List.map_append, Keyed.get?_append, get?_entries (q := editedFirst.contains)
    (fun _ _ => rfl) mem, get?_entries (q := isId) ?ids mem]
  case ids =>
    intro e he
    obtain ⟨column, -, rfl⟩ := List.mem_map.1 he
    simp only [isId, hasValue]
    cases c.valueOf r column.name <;> rfl
  rcases List.mem_cons.1 written with id | first
  · have later : editedFirst.contains column.name = false := by
      rw [id]
      decide
    rw [later]
    by_cases null : c.valueOf r column.name = .null
    · have nothing : (c.entry r column).stored? = none := stored?_of_null null
      rw [nothing]
      cases isId column.name <;> rfl
    · have given : isId column.name = true := by
        rw [Bool.and_eq_true, beq_iff_eq]
        exact ⟨id, hasValue_of_ne null⟩
      rw [given]
      rfl
  · rw [if_pos (List.contains_iff_mem.2 first)]
    rfl

/-- The id that the first write looks for. -/
def editedId? (c : Category) (r : Record) : Option String :=
  (c.entry r idColumn).stored?.map Cell.toText

/-- An id that was not changed is looked for. -/
theorem editedId?_of_unchanged (h : c.isChanged r "id" = false) : c.editedId? r = some c.id := by
  have old : c.valueOf [] "id" = .text c.id := rfl
  have same : (c.valueOf r "id").isSame (.text c.id) = true := by
    simpa [isChanged, old] using h
  have value : c.valueOf r "id" = .text c.id := by
    cases value : c.valueOf r "id" with
    | text t =>
      rw [value] at same
      exact congrArg Json.text (eq_of_beq same)
    | _ =>
      rw [value] at same
      simp [Json.isSame, Json.number?] at same
  have entry : c.entry r idColumn = ⟨idColumn, .text c.id⟩ := congrArg (Entry.mk idColumn) value
  unfold editedId?
  rw [entry]
  rfl

/-- The row of an edited category after the first write, if that one hit it. -/
def touched (c : Category) (name : String) (collapsed : Bool) (updateAt : Cell) : Category :=
  { c with name := name, collapsed := collapsed, updateAt := updateAt }

theorem cell?_touched {name : String} {collapsed : Bool} {updateAt : Cell} :
    ∀ column ∈ columns, column.name ∉ editedFirst →
      (c.touched name collapsed updateAt).cell? column.name = c.cell? column.name := by
  simp only [columns_eq, List.forall_mem_cons]
  exact ⟨fun _ => rfl, fun h => absurd (by decide) h, fun _ => rfl, fun _ => rfl,
    fun h => absurd (by decide) h, fun _ => rfl, fun _ => rfl, fun _ => rfl,
    fun h => absurd (by decide) h, fun _ => rfl, List.forall_mem_nil _⟩

theorem forall_editedFirst {p : Schema.Column → Prop} (name : p nameColumn)
    (collapsed : p collapsedColumn) (updateAt : p updateAtColumn) :
    ∀ column ∈ columns, column.name ∈ editedFirst → p column := by
  simp only [columns_eq, List.forall_mem_cons]
  exact ⟨fun h => absurd h (by decide), fun _ => name, fun h => absurd h (by decide),
    fun h => absurd h (by decide), fun _ => collapsed, fun h => absurd h (by decide),
    fun h => absurd h (by decide), fun h => absurd h (by decide), fun _ => updateAt,
    fun h => absurd h (by decide), List.forall_mem_nil _⟩

theorem id_of_cell? {id : String} (h : c.cell? "id" = some (.text id)) : c.id = id := by
  cases h
  rfl

/-- A column has a value if nothing would be changed by it, or if what is stored of it is there. -/
def Has (c : Category) (column : Schema.Column) (v : Json) : Prop :=
  v.isSame (c.valueOf [] column.name) = true ∨ c.cell? column.name = (Entry.mk column v).stored?

end Category

/-! ## Writes -/

namespace Store

variable {s t : Store} {c c' q : Category} {r : Record} {old : String} {u : Unit}

/-- A row that takes the place of another one keeps all rows but that one, and no row has its id if
it is a new one. -/
theorem replaceCategory_ok (there : ∃ q ∈ s.categories.rows, q.id = old)
    (h : (replaceCategory old c').run s = .ok u t) :
    t = { s with categories := t.categories } ∧
      (c'.id ≠ old → ∀ q ∈ s.categories.rows, q.id ≠ c'.id) ∧
      ∀ q, q ∈ t.categories.rows ↔ q = c' ∨ q ∈ s.categories.rows ∧ q.id ≠ old := by
  unfold replaceCategory at h
  split at h
  · next same =>
    cases h
    refine ⟨rfl, fun other => absurd same other, fun q => ?_⟩
    change q ∈ s.categories.rows.map c'.replaced ↔ _
    rw [List.mem_map]
    unfold Category.replaced
    constructor
    · rintro ⟨p, mem, rfl⟩
      split
      · exact .inl rfl
      · next other => exact .inr ⟨mem, same ▸ other⟩
    · rintro (rfl | ⟨mem, other⟩)
      · obtain ⟨p, mem, e⟩ := there
        exact ⟨p, mem, if_pos (e.trans same.symm)⟩
      · exact ⟨q, mem, if_neg (same ▸ other)⟩
  · next other =>
    obtain ⟨s', s'', got, h⟩ := Work.run_bind_eq_ok.1 h
    cases got
    split at h
    · cases h
    · next categories inserted =>
      cases h
      have free : ∀ q ∈ s.categories.rows, q.id ≠ old → q.id ≠ c'.id := by
        intro q mem away
        exact Table.key_ne_of_insert? inserted (List.mem_filter.2 ⟨mem, by simpa using away⟩)
      refine ⟨rfl, fun _ q mem e => ?_, fun q => ?_⟩
      · exact free q mem (e ▸ other) e
      · change q ∈ categories.rows ↔ _
        rw [Table.insert?_rows inserted, List.mem_append, List.mem_singleton, or_comm]
        change q = c' ∨ q ∈ s.categories.rows.filter _ ↔ _
        rw [List.mem_filter, bne_iff_ne]

/-- The first write hits the row of the edited id, if there is one. -/
theorem writeFirst_ok (h : (writeFirst c r).run s = .ok u t) :
    (s.category? (c.editedId? r) = none ∧ t = s) ∨
      ∃ p name collapsed updateAt, s.category? (c.editedId? r) = some p ∧
        t = s.touchCategory p.id name collapsed updateAt ∧
        ∀ column ∈ Category.columns, column.name ∈ Category.editedFirst →
          (c.touched name collapsed updateAt).cell? column.name = (c.entry r column).stored? := by
  unfold writeFirst at h
  simp only [Work.run_bind_eq_ok, Work.run_lift_eq_ok, Work.run_get] at h
  obtain ⟨cells, s₁, ⟨handed, rfl⟩, s₂, s₃, got, h⟩ := h
  cases got
  have at? : ∀ column ∈ Category.columns, column.name ∈ "id" :: Category.editedFirst →
      cells.at? column.name = (c.entry r column).stored? :=
    fun column mem written => Category.at?_first handed mem written
  have id : ((Keyed.get? "id" cells).bind fun cell => cell.map Cell.toText) = c.editedId? r := by
    have idCell : cells.at? "id" = (c.entry r Category.idColumn).stored? :=
      at? Category.idColumn (by decide) (by decide)
    unfold Category.editedId?
    rw [← idCell]
    unfold Cells.at?
    cases Keyed.get? "id" cells <;> rfl
  rw [id] at h
  split at h
  · next missing =>
    cases h
    exact .inl ⟨missing, rfl⟩
  · next p found =>
    simp only [Work.run_bind_eq_ok, Work.run_lift_eq_ok, Work.run_modify] at h
    obtain ⟨name, s₂, ⟨hname, rfl⟩, collapsed, s₃, ⟨hcollapsed, rfl⟩, updateAt, s₄,
      ⟨hupdate, rfl⟩, h⟩ := h
    cases h
    have keeps : ∀ column ∈ Category.columns, column.name ∈ "id" :: Category.editedFirst →
        ∀ cell, cells.at? column.name = some cell → column.kind.Keeps cell := by
      intro column mem written cell has
      exact Entry.keeps_stored ((at? column mem written).symm.trans has)
    have names := RowKind.needText_ok hname (keeps Category.nameColumn (by decide) (by decide))
    have flags := RowKind.needFlag_ok hcollapsed
      (keeps Category.collapsedColumn (by decide) (by decide))
    refine .inr ⟨p, name, collapsed, updateAt, found, rfl, Category.forall_editedFirst ?_ ?_ ?_⟩
    · exact names.symm.trans (at? Category.nameColumn (by decide) (by decide))
    · exact flags.symm.trans (at? Category.collapsedColumn (by decide) (by decide))
    · exact (RowKind.need_ok hupdate).symm.trans
        (at? Category.updateAtColumn (by decide) (by decide))

/-- The commit writes what was changed, on top of what the row has by then. -/
theorem writeChanged_ok (found : s.category? c.id = some q)
    (h : (writeChanged c r).run s = .ok c' t) :
    (∀ column ∈ Category.columns, c'.cell? column.name =
        if c.isChanged r column.name then (c.entry r column).stored? else q.cell? column.name) ∧
      (replaceCategory c.id c').run s = .ok () t := by
  unfold writeChanged at h
  simp only [Work.run_bind_eq_ok, Work.run_lift_eq_ok, Work.run_get, Work.run_pure] at h
  obtain ⟨changed, s₁, ⟨handed, rfl⟩, s₂, s₃, got, made, s₄, ⟨ofCells, rfl⟩, u, s₅, replaced,
    h⟩ := h
  cases got
  cases h
  rw [found, Option.getD_some] at ofCells
  have at? : ∀ column ∈ Category.columns, (changed ++ q.cells).at? column.name =
      if c.isChanged r column.name then (c.entry r column).stored? else q.cell? column.name := by
    intro column mem
    unfold Cells.at?
    rw [Keyed.get?_append, Category.get?_changed handed mem]
    split <;> rfl
  refine ⟨fun column mem => ?_, replaced⟩
  rw [← at? column mem]
  refine Category.cell?_of_ofCells ofCells (fun column mem cell has => ?_) column mem
  rw [at? column mem] at has
  split at has
  · exact Entry.keeps_stored has
  · exact Category.keeps_cell column mem cell has

/-! ## Edits -/

section

variable {id name : String} {collapsed : Bool} {updateAt : Cell}

theorem category?_touchCategory (k : String) :
    (s.touchCategory id name collapsed updateAt).category? k =
      (s.category? k).map fun r => if r.id = id then r.touched name collapsed updateAt else r :=
  Table.find?_mapRows _ _ (by intro r; split <;> rfl) k

/-- The first write keeps all rows but the one that it hits. -/
theorem mem_touchCategory :
    q ∈ (s.touchCategory id name collapsed updateAt).categories.rows ∧ q.id ≠ id ↔
      q ∈ s.categories.rows ∧ q.id ≠ id := by
  change q ∈ s.categories.rows.map _ ∧ _ ↔ _
  rw [List.mem_map]
  constructor
  · rintro ⟨⟨p, mem, rfl⟩, other⟩
    by_cases hit : p.id = id
    · rw [if_pos hit] at other
      exact absurd hit other
    · rw [if_neg hit]
      exact ⟨mem, hit⟩
  · rintro ⟨mem, other⟩
    exact ⟨⟨q, mem, if_neg other⟩, other⟩

end

theorem category?_eq_some_iff {id : String} :
    s.category? id = some q ↔ q ∈ s.categories.rows ∧ q.id = id := Table.find?_eq_some_iff

/-- What is left by an edit that succeeds, column by column: what was changed is stored, and what
was not is left, but for a column of the first write, which may store it once more. -/
structure Edits (s : Store) (c : Category) (r : Record) (c' : Category) (t : Store) : Prop where
  frame : t = { s with categories := t.categories }
  rows : ∀ q, q ∈ t.categories.rows ↔ q = c' ∨ q ∈ s.categories.rows ∧ q.id ≠ c.id
  changed : ∀ column ∈ Category.columns, c.isChanged r column.name = true →
    c'.cell? column.name = (c.entry r column).stored?
  first : ∀ column ∈ Category.columns, c.isChanged r column.name = false →
    column.name ∈ Category.editedFirst →
      c'.cell? column.name = c.cell? column.name ∨
        c'.cell? column.name = (c.entry r column).stored?
  kept : ∀ column ∈ Category.columns, c.isChanged r column.name = false →
    column.name ∉ Category.editedFirst → c'.cell? column.name = c.cell? column.name

/-- Where the first write hits another row than that of the category, the edit fails: the second one
would have to give that row's id to the category. -/
theorem not_hit_other {p : Category} {name : String} {collapsed : Bool} {updateAt : Cell}
    (stored : s.category? c.id = some c) (hit : s.category? (c.editedId? r) = some p)
    (other : p.id ≠ c.id)
    (h : (writeChanged c r).run (s.touchCategory p.id name collapsed updateAt) = .ok c' t) :
    False := by
  obtain ⟨id, edited, found⟩ := Option.bind_eq_some_iff.1 hit
  obtain rfl : p.id = id := Table.find?_key found
  have mem : p ∈ s.categories.rows := Table.find?_mem found
  have changed : c.isChanged r "id" = true := by
    by_contra unchanged
    rw [Category.editedId?_of_unchanged (Bool.eq_false_iff.2 unchanged)] at edited
    exact other (Option.some.inj edited).symm
  have row : (s.touchCategory p.id name collapsed updateAt).category? c.id = some c := by
    rw [category?_touchCategory, stored, Option.map_some, if_neg (Ne.symm other)]
  obtain ⟨cells, replaced⟩ := writeChanged_ok row h
  have taken : c'.id = p.id := by
    refine Category.id_of_cell? ((cells Category.idColumn (by decide)).trans ?_)
    obtain ⟨cell, has, text⟩ := Option.map_eq_some_iff.1 edited
    obtain ⟨id, rfl⟩ := Entry.keeps_stored has
    exact (if_pos changed).trans (has.trans (congrArg (fun id => some (Cell.text id)) text))
  obtain ⟨-, free, -⟩ := replaceCategory_ok ⟨c, (category?_eq_some_iff.1 row).1, rfl⟩ replaced
  refine free (taken ▸ other) (p.touched name collapsed updateAt) ?_ taken.symm
  exact List.mem_map.2 ⟨p, mem, if_pos rfl⟩

theorem edits_of_writes {s₁ : Store} (stored : s.category? c.id = some c)
    (first : (writeFirst c r).run s = .ok u s₁) (second : (writeChanged c r).run s₁ = .ok c' t) :
    s.Edits c r c' t := by
  rcases writeFirst_ok first with ⟨-, rfl⟩ | ⟨p, name, collapsed, updateAt, hit, rfl, cells⟩
  · obtain ⟨cells, replaced⟩ := writeChanged_ok stored second
    obtain ⟨frame, -, rows⟩ :=
      replaceCategory_ok ⟨c, (category?_eq_some_iff.1 stored).1, rfl⟩ replaced
    refine ⟨frame, rows, fun column mem changed => ?_, fun column mem same _ => .inl ?_,
      fun column mem same _ => ?_⟩
    · rw [cells column mem, if_pos changed]
    · rw [cells column mem, if_neg (by simp [same])]
    · rw [cells column mem, if_neg (by simp [same])]
  · by_cases own : p.id = c.id
    · obtain ⟨mem, -⟩ := category?_eq_some_iff.1 stored
      obtain ⟨id, -, found⟩ := Option.bind_eq_some_iff.1 hit
      obtain rfl : p = c := Table.eq_of_key (Table.find?_mem found) mem own
      have row : (s.touchCategory p.id name collapsed updateAt).category? p.id =
          some (p.touched name collapsed updateAt) := by
        rw [category?_touchCategory, stored, Option.map_some, if_pos rfl]
      obtain ⟨after, replaced⟩ := writeChanged_ok row second
      obtain ⟨frame, -, rows⟩ :=
        replaceCategory_ok ⟨_, (category?_eq_some_iff.1 row).1, rfl⟩ replaced
      refine ⟨frame, fun q => (rows q).trans (or_congr_right mem_touchCategory),
        fun column mem changed => ?_, fun column mem same first => .inr ?_,
        fun column mem same other => ?_⟩
      · rw [after column mem, if_pos changed]
      · rw [after column mem, if_neg (by simp [same]), cells column mem first]
      · rw [after column mem, if_neg (by simp [same]), Category.cell?_touched column mem other]
    · exact (not_hit_other stored hit own second).elim

/-- A session that succeeds has stored what it wrote, and nothing is to be blamed. -/
theorem attempt_blaming_ok {α : Type} {doing : String} {work : Work α} {a : α}
    (h : ((s.attempt work).blaming doing).result = .ok a) :
    ∃ t, work.run s = .ok a t ∧ (s.attempt work).blaming doing = ⟨.ok a, t, []⟩ := by
  unfold attempt at h ⊢
  cases ran : work.run s with
  | ok b t =>
    rw [ran] at h
    cases h
    exact ⟨t, rfl, rfl⟩
  | error f t =>
    rw [ran] at h
    simp only [Outcome.broken, Outcome.blaming] at h
    split at h <;> cases h

theorem editRecord_ok {connected : Bool} (stored : s.category? c.id = some c)
    (done : (s.editRecord connected c.id r).result = .ok c') :
    s.Edits c r c' (s.editRecord connected c.id r).store := by
  unfold editRecord at done ⊢
  rw [stored] at done ⊢
  dsimp only at done ⊢
  split at done
  · cases done
  · obtain ⟨t, ran, outcome⟩ := attempt_blaming_ok done
    rw [outcome]
    simp only [Work.run_bind_eq_ok] at ran
    obtain ⟨u, s₁, first, v, s₂, reached, second⟩ := ran
    obtain rfl : s₁ = s₂ := by
      cases connected <;> cases reached
      rfl
    exact edits_of_writes stored first second

/-- An edit that succeeds touches one row, and name, collapsed state and update time have the edited
values there. Any other column is as it was just if it has the edited value already: a value that
was changed is stored, whatever column it is for. -/
theorem edit_leaves_column_iff_it_has_the_value {connected : Bool}
    (stored : s.category? c.id = some c)
    (done : (s.editRecord connected c.id r).result = .ok c') :
    let t := (s.editRecord connected c.id r).store
    (∀ column ∈ Category.columns, column.name ∈ Category.editedFirst →
        c'.Has column (c.valueOf r column.name)) ∧
      (∀ column ∈ Category.columns, column.name ∉ Category.editedFirst →
        (c'.cell? column.name = c.cell? column.name ↔ c.Has column (c.valueOf r column.name))) ∧
      t = { s with categories := t.categories } ∧
      ∀ q, q ∈ t.categories.rows ↔ q = c' ∨ q ∈ s.categories.rows ∧ q.id ≠ c.id := by
  intro t
  have edits : s.Edits c r c' t := editRecord_ok stored done
  refine ⟨fun column mem first => ?_, fun column mem other => ?_, edits.frame, edits.rows⟩
  · cases changed : c.isChanged r column.name with
    | true => exact .inr (edits.changed column mem changed)
    | false =>
      rcases edits.first column mem changed first with kept | written
      · refine .inl ?_
        rw [Category.valueOf_nil column mem, kept, ← Category.valueOf_nil column mem]
        simpa [Category.isChanged] using changed
      · exact .inr written
  · cases changed : c.isChanged r column.name with
    | true =>
      have unlike : (c.valueOf r column.name).isSame (c.valueOf [] column.name) = false := by
        simpa [Category.isChanged] using changed
      rw [edits.changed column mem changed, eq_comm]
      unfold Category.Has
      rw [unlike]
      simp [Category.entry]
    | false =>
      have alike : (c.valueOf r column.name).isSame (c.valueOf [] column.name) = true := by
        simpa [Category.isChanged] using changed
      exact iff_of_true (edits.kept column mem changed other) (.inl alike)

/-- Two categories of one board. -/
def paired : Store :=
  { categories := .ofList
      [⟨"c", "n", "u", "b", .int 1, .int 1, .int 0, false, .int 20, "custom"⟩,
       ⟨"d", "m", "u", "b", .int 1, .int 1, .int 0, false, .int 10, "custom"⟩] }

/-- A new name, with the sort order that was there. -/
theorem renaming_leaves_sort_order :
    let c : Category := ⟨"c", "n", "u", "b", .int 1, .int 1, .int 0, false, .int 20, "custom"⟩
    let r : Record := [("name", .text "k"), ("sort_order", .int 20)]
    ∃ c', (paired.editRecord true c.id r).result = .ok c' ∧ c'.name = "k" ∧
      c'.cell? "sort_order" = c.cell? "sort_order" := by
  intro c r
  have stored : paired.category? c.id = some c := by decide
  have done : (paired.editRecord true c.id r).result = .ok { c with name := "k" } := by
    decide +kernel
  obtain ⟨-, kept_iff, -, -⟩ := edit_leaves_column_iff_it_has_the_value stored done
  have same : (Json.int 20).isSame (.int 20) = true := by decide +kernel
  have kept := (kept_iff ⟨"sort_order", .integer, false, none⟩ (by decide) (by decide)).2
    (.inl same)
  exact ⟨_, done, rfl, kept⟩

/-- Someone who sets the sort order of a category and edits it has it stored. -/
theorem edited_sort_order_is_stored :
    ∃ c c', paired.category? c.id = some c ∧
      (paired.editRecord true c.id [("sort_order", .int 99)]).result = .ok c' ∧
      c' ∈ (paired.editRecord true c.id [("sort_order", .int 99)]).store.categories.rows ∧
      c'.sortOrder ≠ c.sortOrder := by
  let c : Category := ⟨"c", "n", "u", "b", .int 1, .int 1, .int 0, false, .int 20, "custom"⟩
  exact ⟨c, { c with sortOrder := .int 99 }, by decide, by decide +kernel, by decide +kernel,
    by decide⟩

end Store

end BoardViews
