/-
  Lists of keys with values in which a key keeps the place where it was first put and the value
  that was put last.
-/

namespace BoardViews.Keyed

variable {κ α : Type} [DecidableEq κ]

/-- Puts a value under a key: in its place if the key is there, at the end if not. -/
def put (key : κ) (value : α) : List (κ × α) → List (κ × α)
  | [] => [(key, value)]
  | e :: es => if e.1 = key then (key, value) :: es else e :: put key value es

/-- The value under a key. -/
def get? (key : κ) (es : List (κ × α)) : Option α :=
  (es.find? fun e => e.1 = key).map (·.2)

/-- Pairs put one after the other. -/
def ofList (es : List (κ × α)) : List (κ × α) :=
  es.foldl (fun acc e => put e.1 e.2 acc) []

theorem get?_put (key k : κ) (value : α) (es : List (κ × α)) :
    get? k (put key value es) = if k = key then some value else get? k es := by
  induction es with
  | nil =>
    by_cases h : k = key
    · subst h; simp [put, get?]
    · have h' : ¬ key = k := fun e => h e.symm
      simp [put, get?, h, h']
  | cons e es ih =>
    simp only [get?] at ih ⊢
    by_cases he : e.1 = key
    · by_cases h : k = key
      · subst h; simp [put, he]
      · have h' : ¬ key = k := fun e => h e.symm
        simp [put, he, h, h']
    · by_cases h : k = key
      · subst h; simpa [put, he] using ih
      · simp only [h, if_false] at ih
        by_cases hk : e.1 = k
        · simp [put, h, hk]
        · simpa [put, he, h, hk] using ih

/-- The keys after a put: one more at the end, unless it was there. -/
theorem map_fst_put (key : κ) (value : α) (es : List (κ × α)) :
    (put key value es).map (·.1) =
      if key ∈ es.map (·.1) then es.map (·.1) else es.map (·.1) ++ [key] := by
  induction es with
  | nil => simp [put]
  | cons e es ih =>
    by_cases he : e.1 = key
    · simp [put, he]
    · have h' : ¬ key = e.1 := fun h => he h.symm
      simp only [put, he, if_false, List.map_cons, ih, List.mem_cons, h', false_or]
      split <;> rfl

/-- What is put under a new key comes to the end. -/
theorem put_of_not_mem {key : κ} {es : List (κ × α)} (value : α) (h : key ∉ es.map (·.1)) :
    put key value es = es ++ [(key, value)] := by
  induction es with
  | nil => rfl
  | cons e es ih =>
    rw [List.map_cons, List.mem_cons, not_or] at h
    rw [put, if_neg (fun he => h.1 he.symm), ih h.2]
    rfl

/-- Where no key stands twice, a value is found under a key just if the two stand together. -/
theorem get?_eq_some_iff {key : κ} {value : α} {es : List (κ × α)} (nodup : (es.map (·.1)).Nodup) :
    get? key es = some value ↔ (key, value) ∈ es := by
  unfold get?
  constructor
  · intro h
    obtain ⟨e, found, rfl⟩ := Option.map_eq_some_iff.1 h
    have same : e.1 = key := by simpa using List.find?_some found
    rw [← same]
    exact List.mem_of_find?_eq_some found
  · intro mem
    induction es with
    | nil => cases mem
    | cons e es ih =>
      rw [List.map_cons, List.nodup_cons] at nodup
      rcases List.mem_cons.1 mem with rfl | later
      · rw [List.find?_cons_of_pos (by simp)]
        rfl
      · have other : e.1 ≠ key := fun same => nodup.1 (same ▸ List.mem_map_of_mem later)
        rw [List.find?_cons_of_neg (by simpa using other)]
        exact ih nodup.2 later

/-- Leaving out keys leaves the values of the others. -/
theorem get?_filter (p : κ → Bool) (key : κ) (es : List (κ × α)) :
    get? key (es.filter fun e => p e.1) = if p key then get? key es else none := by
  unfold get?
  rw [List.find?_filter]
  split
  · next hp =>
    congr 2
    funext e
    by_cases he : e.1 = key
    · simp [he, hp]
    · simp [he]
  · next hp =>
    rw [Option.map_eq_none_iff, List.find?_eq_none]
    rintro e - he
    simp only [decide_eq_true_eq] at he
    exact hp (he.2 ▸ he.1)

end BoardViews.Keyed
