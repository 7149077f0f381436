import BoardViews.Proofs.Scalar

/-
  Values that are read back. A value of whole texts, integers, switches and nulls, in lists and in
  objects whose keys differ, is read as it was written, in either style, unless it cannot be written
  at all: the limits of the writer are those of the reader.

  `ReadsBack` says for a given fuel that values, items and fields are read back; each of the three
  is one step from less fuel, and what is written is always longer than half the fuel that it takes.
-/

namespace BoardViews.Json

/-! ## Plain values -/

/-- The fields of an object whose keys are strings. -/
def wholeFields (fields : List (String × Json)) : List (RawText × Json) :=
  fields.map fun f => (.whole f.1, f.2)

/-- A value without fractions and broken texts, none of whose objects has a key twice. -/
inductive Plain : Json → Prop
  | null : Plain .null
  | bool (b : Bool) : Plain (.bool b)
  | int (n : Int) : Plain (.int n)
  | text (s : String) : Plain (.text s)
  | list {items : List Json} (plain : ∀ v ∈ items, Plain v) : Plain (.list items)
  | object {fields : List (String × Json)} (distinct : (fields.map Prod.fst).Nodup)
      (plain : ∀ f ∈ fields, Plain f.2) : Plain (.object (wholeFields fields))

/-- A plain value that can be written, and read, with `depth` more lists and objects. -/
structure Fits (depth : Nat) (v : Json) : Prop where
  plain : v.Plain
  writable : v.writeFault? depth = none

theorem itemsFault?_eq_none {depth : Nat} {vs : List Json} :
    itemsFault? depth vs = none ↔ ∀ v ∈ vs, v.writeFault? depth = none := by
  induction vs with
  | nil => simp [itemsFault?]
  | cons v vs ih => simp [itemsFault?, ih]

theorem fieldsFault?_eq_none {depth : Nat} {fs : List (String × Json)} :
    fieldsFault? depth (wholeFields fs) = none ↔ ∀ f ∈ fs, f.2.writeFault? depth = none := by
  unfold wholeFields
  induction fs with
  | nil => simp [fieldsFault?]
  | cons f fs ih => simp [fieldsFault?, ih]

section

variable {depth : Nat}

theorem Fits.int {n : Int} (fits : Fits depth (.int n)) :
    Text.digitCount n.natAbs ≤ maxIntegerDigits := by
  have h := fits.writable
  unfold writeFault? at h
  simpa using h

theorem Fits.list {items : List Json} (fits : Fits depth (.list items)) :
    depth ≠ 0 ∧ ∀ v ∈ items, Fits (depth - 1) v := by
  obtain ⟨plain, h⟩ := fits
  cases plain with
  | list plain =>
    unfold writeFault? at h
    split at h
    · cases h
    · next hd =>
      rw [itemsFault?_eq_none] at h
      exact ⟨hd, fun v hv => ⟨plain v hv, h v hv⟩⟩

theorem fits_object {fields : List (String × Json)} (plain : ∀ f ∈ fields, Plain f.2)
    (h : (Json.object (wholeFields fields)).writeFault? depth = none) :
    depth ≠ 0 ∧ ∀ f ∈ fields, Fits (depth - 1) f.2 := by
  unfold writeFault? at h
  split at h
  · cases h
  · next hd =>
    rw [fieldsFault?_eq_none] at h
    exact ⟨hd, fun f hf => ⟨plain f hf, h f hf⟩⟩

end

/-! ## What is written -/

/-- The characters of a value. -/
def chars (style : Style) (v : Json) : List Char := (pieces style v).flatMap Piece.ascii

/-- The characters of the items after the first, and of the bracket. -/
def itemChars (style : Style) (vs : List Json) : List Char :=
  (itemPieces style vs).flatMap Piece.ascii

/-- The characters of a key, with its quotes. -/
def keyChars (key : String) : List Char := Piece.ascii (.quoted key)

/-- The characters of the fields after the first, and of the brace. -/
def fieldChars (style : Style) (fs : List (String × Json)) : List Char :=
  (fieldPieces style (wholeFields fs)).flatMap Piece.ascii

section

variable {style : Style} {v : Json} {vs : List Json} {key : String} {fs : List (String × Json)}

theorem toList_write (style : Style) (v : Json) : (write style v).toList = chars style v := by
  unfold write
  rw [String.toList_ofList]
  rfl

theorem chars_list :
    chars style (.list (v :: vs)) = '[' :: (chars style v ++ itemChars style vs) := by
  simp [chars, itemChars, pieces, Piece.ascii]

theorem itemChars_nil : itemChars style [] = [']'] := rfl

theorem itemChars_cons :
    itemChars style (v :: vs) = style.comma ++ (chars style v ++ itemChars style vs) := by
  simp [chars, itemChars, itemPieces, Piece.ascii]

theorem chars_object : chars style (.object (wholeFields ((key, v) :: fs))) =
    '\x7b' :: (keyChars key ++ (style.colon ++ (chars style v ++ fieldChars style fs))) := by
  simp [chars, keyChars, fieldChars, wholeFields, pieces, Piece.ascii]

theorem fieldChars_nil : fieldChars style [] = ['\x7d'] := rfl

theorem fieldChars_cons : fieldChars style ((key, v) :: fs) =
    style.comma ++ (keyChars key ++ (style.colon ++ (chars style v ++ fieldChars style fs))) := by
  simp [chars, keyChars, fieldChars, wholeFields, fieldPieces, Piece.ascii]

/-- A character that a value may start with: it is no blank, it closes no list, and it is not taken
for a mark of the byte order. -/
structure Opens (c : Char) : Prop where
  gap : isGap c = false
  bracket : c ≠ ']'
  mark : c ≠ '\uFEFF'

theorem opens_of_isDigit {c : Char} (digit : c.isDigit = true) : Opens c := by
  constructor
  · rw [← Bool.not_eq_true]
    intro gap
    simp only [isGap, Bool.or_eq_true, beq_iff_eq] at gap
    rcases gap with ((rfl | rfl) | rfl) | rfl <;> cases digit
  · rintro rfl
    cases digit
  · rintro rfl
    cases digit

theorem Plain.exists_chars (plain : v.Plain) (style : Style) :
    ∃ c cs, chars style v = c :: cs ∧ Opens c := by
  have fixed {c : Char} {cs : List Char} (h : chars style v = c :: cs)
      (opens : isGap c = false ∧ c ≠ ']' ∧ c ≠ '\uFEFF') :
      ∃ c cs, chars style v = c :: cs ∧ Opens c :=
    ⟨c, cs, h, opens.1, opens.2.1, opens.2.2⟩
  cases plain with
  | null => exact fixed rfl (by decide)
  | bool b => cases b <;> exact fixed rfl (by decide)
  | int n =>
    obtain ⟨c, cs, h, first⟩ := exists_integer n
    have hc : chars style (.int n) = c :: cs := (List.append_nil _).trans h
    rcases first with rfl | digit
    · exact fixed hc (by decide)
    · exact ⟨c, cs, hc, opens_of_isDigit digit⟩
  | text s => exact fixed rfl (by decide)
  | @list items plain =>
    cases items with
    | nil => exact fixed rfl (by decide)
    | cons v vs => exact fixed chars_list (by decide)
  | @object fields distinct plain =>
    cases fields with
    | nil => exact fixed rfl (by decide)
    | cons f fs => exact fixed chars_object (by decide)

theorem Plain.length_pos (plain : v.Plain) (style : Style) : 0 < (chars style v).length := by
  obtain ⟨c, cs, h, -⟩ := plain.exists_chars style
  rw [h, List.length_cons]
  exact Nat.succ_pos _

end

/-! ## Gaps -/

/-- A style whose marks are a comma and a colon with nothing but blanks behind them. -/
structure Style.Readable (style : Style) : Prop where
  comma : ∃ gap, style.comma = ',' :: gap ∧ ∀ c ∈ gap, isGap c = true
  colon : ∃ gap, style.colon = ':' :: gap ∧ ∀ c ∈ gap, isGap c = true

theorem readable_spaced : spaced.Readable := by
  have blank : ∀ c ∈ [' '], isGap c = true := by
    intro c hc
    rw [List.mem_singleton.1 hc]
    rfl
  exact ⟨⟨[' '], rfl, blank⟩, ⟨[' '], rfl, blank⟩⟩

theorem readable_dense : dense.Readable := ⟨⟨[], rfl, nofun⟩, ⟨[], rfl, nofun⟩⟩

theorem skipGap_cons {c : Char} {cs : List Char} (h : isGap c = false) :
    skipGap (c :: cs) = c :: cs := by
  simp [skipGap, h]

theorem skipGap_append {gap cs : List Char} (h : ∀ c ∈ gap, isGap c = true) :
    skipGap (gap ++ cs) = skipGap cs :=
  List.dropWhile_append_of_pos h

theorem Plain.skipGap_chars {v : Json} (plain : v.Plain) (style : Style) (rest : List Char) :
    skipGap (chars style v ++ rest) = chars style v ++ rest := by
  obtain ⟨c, cs, h, opens⟩ := plain.exists_chars style
  rw [h, List.cons_append, skipGap_cons opens.gap]

theorem keyChars_append (key : String) (rest : List Char) :
    keyChars key ++ rest = '"' :: (key.toList.flatMap asciiChar ++ '"' :: rest) := by
  simp [keyChars, Piece.ascii]

theorem skipGap_keyChars (key : String) (rest : List Char) :
    skipGap (keyChars key ++ rest) = keyChars key ++ rest :=
  skipGap_cons (by decide)

/-! ## Steps of the reader -/

section

variable {fuel depth : Nat} {rest : List Char}

theorem readValue_text (s : String) :
    readValue (fuel + 1) depth (keyChars s ++ rest) = .ok (.text s, rest) := by
  rw [keyChars_append, readValue, readText_quoted]
  rfl

theorem readValue_integer {n : Int} (fits : Text.digitCount n.natAbs ≤ maxIntegerDigits)
    (ends : Ends rest) :
    readValue (fuel + 1) depth ((Text.integer n).toList ++ rest) = .ok (.int n, rest) := by
  obtain ⟨c, cs, h, first⟩ := exists_integer n
  have starts {d : Char} (hd : d ≠ '-') (other : d.isDigit = false) (r : List Char) :
      (Text.integer n).toList ++ rest = d :: r → False := by
    rw [h, List.cons_append]
    intro e
    obtain ⟨rfl, -⟩ := List.cons.inj e
    rcases first with minus | digit
    · exact hd minus
    · rw [other] at digit
      cases digit
  rw [readValue, words_integer]
  · exact readNumber_integer fits ends
  · exact starts (by decide) (by decide)
  · exact starts (by decide) (by decide)
  · exact starts (by decide) (by decide)

theorem readValue_list {c : Char} {cs : List Char} {items : List Json} (opens : Opens c)
    (h : readItems fuel depth (c :: cs) = .ok (items, rest)) :
    readValue (fuel + 1) (depth + 1) ('[' :: c :: cs) = .ok (.list items, rest) := by
  rw [readValue, skipGap_cons opens.gap, if_neg (Nat.succ_ne_zero depth), Nat.add_sub_cancel]
  split
  · next hc => exact absurd (List.cons.inj hc).1 opens.bracket
  · rw [h]
    rfl

theorem readValue_object {key : String} {cs : List Char} {fields : List (RawText × Json)}
    (h : readFields fuel depth [] (keyChars key ++ cs) = .ok (fields, rest)) :
    readValue (fuel + 1) (depth + 1) ('\x7b' :: (keyChars key ++ cs)) =
      .ok (.object fields, rest) := by
  rw [readValue, skipGap_keyChars, if_neg (Nat.succ_ne_zero depth), Nat.add_sub_cancel]
  split
  · next hc =>
    rw [keyChars_append] at hc
    cases hc
  · rw [h]
    rfl

theorem readItems_last {v : Json} {cs : List Char}
    (h : readValue fuel depth cs = .ok (v, ']' :: rest)) :
    readItems (fuel + 1) depth cs = .ok ([v], rest) := by
  rw [readItems, h]
  rfl

theorem readItems_cons {v : Json} {vs : List Json} {cs more : List Char}
    (h : readValue fuel depth cs = .ok (v, ',' :: more))
    (others : readItems fuel depth (skipGap more) = .ok (vs, rest)) :
    readItems (fuel + 1) depth cs = .ok (v :: vs, rest) := by
  have comma : skipGap (',' :: more) = ',' :: more := skipGap_cons (by decide)
  rw [readItems, h]
  simp only [bind, Except.bind, comma, others]

variable {key : String} {v : Json} {before : List (RawText × Json)} {cs more : List Char}

theorem readFields_last (h : readValue fuel depth (skipGap cs) = .ok (v, '\x7d' :: rest)) :
    readFields (fuel + 1) depth before (keyChars key ++ ':' :: cs) =
      .ok (Keyed.put (.whole key) v before, rest) := by
  have colon : skipGap (':' :: cs) = ':' :: cs := skipGap_cons (by decide)
  have brace : skipGap ('\x7d' :: rest) = '\x7d' :: rest := skipGap_cons (by decide)
  rw [keyChars_append, readFields, readText_quoted]
  simp only [bind, Except.bind, colon, h, brace]

theorem readFields_cons (h : readValue fuel depth (skipGap cs) = .ok (v, ',' :: more)) :
    readFields (fuel + 1) depth before (keyChars key ++ ':' :: cs) =
      readFields fuel depth (Keyed.put (.whole key) v before) (skipGap more) := by
  have colon : skipGap (':' :: cs) = ':' :: cs := skipGap_cons (by decide)
  have comma : skipGap (',' :: more) = ',' :: more := skipGap_cons (by decide)
  rw [keyChars_append, readFields, readText_quoted]
  simp only [bind, Except.bind, colon, h, comma]

end

/-! ## Reading back -/

/-- With this fuel, values, items and fields are read as they were written. -/
structure ReadsBack (style : Style) (fuel : Nat) : Prop where
  value : ∀ {v depth rest}, Fits depth v → Ends rest → 2 * (chars style v).length ≤ fuel →
    readValue fuel depth (chars style v ++ rest) = .ok (v, rest)
  items : ∀ {v vs depth rest}, (∀ w ∈ v :: vs, Fits depth w) →
    2 * (chars style v ++ itemChars style vs).length ≤ fuel →
      readItems fuel depth (chars style v ++ (itemChars style vs ++ rest)) = .ok (v :: vs, rest)
  fields : ∀ {before key v fs depth rest}, (∀ f ∈ (key, v) :: fs, Fits depth f.2) →
    ((before ++ (key, v) :: fs).map Prod.fst).Nodup →
    2 * (chars style v ++ fieldChars style fs).length ≤ fuel →
      readFields fuel depth (wholeFields before)
        (keyChars key ++ (style.colon ++ (chars style v ++ (fieldChars style fs ++ rest)))) =
          .ok (wholeFields (before ++ (key, v) :: fs), rest)

variable {style : Style} {fuel : Nat}

theorem ends_itemChars (readable : style.Readable) (vs : List Json) (rest : List Char) :
    Ends (itemChars style vs ++ rest) := by
  cases vs with
  | nil => exact ends_cons (.inr (.inl rfl))
  | cons v vs =>
    obtain ⟨gap, h, -⟩ := readable.comma
    rw [itemChars_cons, h]
    exact ends_cons (.inl rfl)

theorem ends_fieldChars (readable : style.Readable) (fs : List (String × Json))
    (rest : List Char) : Ends (fieldChars style fs ++ rest) := by
  cases fs with
  | nil => exact ends_cons (.inr (.inr rfl))
  | cons f fs =>
    obtain ⟨gap, h, -⟩ := readable.comma
    rw [fieldChars_cons, h]
    exact ends_cons (.inl rfl)

theorem put_wholeFields {before : List (String × Json)} {key : String} (v : Json)
    (h : key ∉ before.map Prod.fst) :
    Keyed.put (.whole key) v (wholeFields before) = wholeFields (before ++ [(key, v)]) := by
  have new : RawText.whole key ∉ (wholeFields before).map (·.1) := by
    simpa [wholeFields] using h
  rw [Keyed.put_of_not_mem v new]
  simp [wholeFields]

namespace ReadsBack

variable {v : Json} {depth : Nat} {rest : List Char}

theorem value_succ (less : ReadsBack style fuel) (fits : Fits depth v) (ends : Ends rest)
    (enough : 2 * (chars style v).length ≤ fuel + 1) :
    readValue (fuel + 1) depth (chars style v ++ rest) = .ok (v, rest) := by
  obtain ⟨plain, h⟩ := fits
  cases plain with
  | null => rfl
  | bool b => cases b <;> rfl
  | int n =>
    have hc : chars style (.int n) = (Text.integer n).toList := List.append_nil _
    rw [hc]
    exact readValue_integer (Fits.int ⟨.int n, h⟩) ends
  | text s =>
    have hc : chars style (.text s) = keyChars s := List.append_nil _
    rw [hc]
    exact readValue_text s
  | @list items plain =>
    obtain ⟨hd, fits⟩ := Fits.list ⟨.list plain, h⟩
    obtain ⟨depth, rfl⟩ := Nat.exists_eq_succ_of_ne_zero hd
    cases items with
    | nil => rfl
    | cons v vs =>
      rw [chars_list, List.length_cons] at enough
      obtain ⟨c, cs, hc, opens⟩ := (plain v (List.mem_cons_self ..)).exists_chars style
      have items : readItems fuel depth (chars style v ++ (itemChars style vs ++ rest)) =
          .ok (v :: vs, rest) := less.items fits (by omega)
      rw [chars_list, List.cons_append, List.append_assoc]
      rw [hc, List.cons_append] at items ⊢
      exact readValue_list opens items
  | @object fields distinct plain =>
    obtain ⟨hd, fits⟩ := fits_object plain h
    obtain ⟨depth, rfl⟩ := Nat.exists_eq_succ_of_ne_zero hd
    cases fields with
    | nil => rfl
    | cons f fs =>
      obtain ⟨key, v⟩ := f
      rw [chars_object, List.length_cons] at enough
      have fields : readFields fuel depth (wholeFields [])
          (keyChars key ++ (style.colon ++ (chars style v ++ (fieldChars style fs ++ rest)))) =
            .ok (wholeFields ((key, v) :: fs), rest) := by
        refine less.fields fits distinct ?_
        simp only [List.length_append] at enough ⊢
        omega
      rw [chars_object, List.cons_append]
      simp only [List.append_assoc]
      exact readValue_object fields

theorem items_succ (readable : style.Readable) (less : ReadsBack style fuel) {vs : List Json}
    (fits : ∀ w ∈ v :: vs, Fits depth w)
    (enough : 2 * (chars style v ++ itemChars style vs).length ≤ fuel + 1) :
    readItems (fuel + 1) depth (chars style v ++ (itemChars style vs ++ rest)) =
      .ok (v :: vs, rest) := by
  have fitsV := fits v (List.mem_cons_self ..)
  have pos := fitsV.plain.length_pos style
  have ends := ends_itemChars readable vs rest
  cases vs with
  | nil =>
    rw [itemChars_nil] at enough ends ⊢
    simp only [List.length_append, List.length_singleton] at enough
    exact readItems_last (less.value fitsV ends (by omega))
  | cons w ws =>
    obtain ⟨gap, comma, blank⟩ := readable.comma
    have others : ∀ u ∈ w :: ws, Fits depth u := fun u hu => fits u (List.mem_cons_of_mem v hu)
    have fitsW := others w (List.mem_cons_self ..)
    rw [itemChars_cons, comma] at enough ends ⊢
    simp only [List.length_append, List.length_cons] at enough
    simp only [List.cons_append, List.append_assoc] at ends ⊢
    refine readItems_cons (less.value fitsV ends (by omega)) ?_
    rw [skipGap_append blank, fitsW.plain.skipGap_chars]
    refine less.items others ?_
    rw [List.length_append]
    omega

theorem fields_succ (readable : style.Readable) (less : ReadsBack style fuel)
    {before fs : List (String × Json)} {key : String}
    (fits : ∀ f ∈ (key, v) :: fs, Fits depth f.2)
    (distinct : ((before ++ (key, v) :: fs).map Prod.fst).Nodup)
    (enough : 2 * (chars style v ++ fieldChars style fs).length ≤ fuel + 1) :
    readFields (fuel + 1) depth (wholeFields before)
      (keyChars key ++ (style.colon ++ (chars style v ++ (fieldChars style fs ++ rest)))) =
        .ok (wholeFields (before ++ (key, v) :: fs), rest) := by
  have fitsV : Fits depth v := fits (key, v) (List.mem_cons_self ..)
  have pos := fitsV.plain.length_pos style
  have ends := ends_fieldChars readable fs rest
  have new : key ∉ before.map Prod.fst := by
    rw [List.map_append, List.map_cons] at distinct
    exact fun h => (List.nodup_append.1 distinct).2.2 key h key (List.mem_cons_self ..) rfl
  obtain ⟨blanks, colon, blank⟩ := readable.colon
  have opened (more : List Char) :
      skipGap (blanks ++ (chars style v ++ more)) = chars style v ++ more := by
    rw [skipGap_append blank, fitsV.plain.skipGap_chars]
  rw [colon, List.cons_append]
  cases fs with
  | nil =>
    rw [fieldChars_nil] at enough ends ⊢
    simp only [List.length_append, List.length_singleton] at enough
    have value := less.value fitsV ends (by omega)
    rw [← put_wholeFields v new]
    refine readFields_last ?_
    rw [opened]
    exact value
  | cons f fs =>
    obtain ⟨key', w⟩ := f
    obtain ⟨gap, comma, blank'⟩ := readable.comma
    have others : ∀ f ∈ (key', w) :: fs, Fits depth f.2 :=
      fun f hf => fits f (List.mem_cons_of_mem _ hf)
    rw [fieldChars_cons, comma] at enough ends ⊢
    simp only [List.length_append, List.length_cons] at enough
    simp only [List.cons_append, List.append_assoc] at ends ⊢
    have value := less.value fitsV ends (by omega)
    rw [← opened] at value
    rw [readFields_cons value, put_wholeFields v new, skipGap_append blank', skipGap_keyChars]
    rw [List.append_cons before (key, v) ((key', w) :: fs)] at distinct ⊢
    refine less.fields others distinct ?_
    rw [List.length_append]
    omega

end ReadsBack

/-- Whatever the fuel, what it is enough for is read back. -/
theorem readsBack (readable : style.Readable) (fuel : Nat) : ReadsBack style fuel := by
  induction fuel with
  | zero =>
    constructor
    · intro v depth rest fits ends enough
      have pos := fits.plain.length_pos style
      omega
    · intro v vs depth rest fits enough
      have pos := (fits v (List.mem_cons_self ..)).plain.length_pos style
      rw [List.length_append] at enough
      omega
    · intro before key v fs depth rest fits distinct enough
      have pos := (fits (key, v) (List.mem_cons_self ..)).plain.length_pos style
      rw [List.length_append] at enough
      dsimp only at pos
      omega
  | succ fuel less =>
    exact ⟨less.value_succ, less.items_succ readable, less.fields_succ readable⟩

/-- A plain value that can be written is read as it was written. -/
theorem read_write (readable : style.Readable) {v : Json} (plain : v.Plain)
    (writable : v.writeFault? maxDepth = none) : read (.whole (write style v)) = .ok v := by
  have value : readValue (2 * (chars style v).length + 2) maxDepth (chars style v ++ []) =
      .ok (v, []) :=
    (readsBack readable _).value ⟨plain, writable⟩ ends_nil (by omega)
  have opened := plain.skipGap_chars style []
  rw [List.append_nil] at value opened
  obtain ⟨c, cs, hc, opens⟩ := plain.exists_chars style
  have whole : readAll (chars style v) = .ok v := by
    unfold readAll
    split
    · next h =>
      rw [hc] at h
      exact absurd (List.cons.inj h).1 opens.mark
    · rw [opened, value]
      rfl
  unfold read
  dsimp only
  rw [toList_write, whole]
  rfl

end BoardViews.Json
