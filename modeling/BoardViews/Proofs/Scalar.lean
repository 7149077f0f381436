import BoardViews.Json.Reader
import BoardViews.Json.Writer

/-
  Integers and texts that are read back. The decimal digits of an integer are read as that integer,
  unless there are too many of them; the characters between the quotes of a text are read as their
  code units, and those are the text again, since no character is half a pair.
-/

namespace BoardViews

/-! ## Digits -/

namespace Text

theorem digit?_digitChar {d : Nat} (h : d < 10) : digit? d.digitChar = some d := by
  have all : ∀ d < 10, digit? (Nat.digitChar d) = some d := by decide
  exact all d h

/-- Decimal digits are read up to the first character that is none. -/
theorem spanDigits_digits {ds : List Nat} {rest : List Char} (small : ∀ d ∈ ds, d < 10)
    (stop : ∀ c ∈ rest.head?, digit? c = none) :
    spanDigits digit? (ds.map Nat.digitChar ++ rest) = (ds, rest) := by
  induction ds with
  | nil =>
    cases rest with
    | nil => rfl
    | cons c cs =>
      have hc : digit? c = none := stop c rfl
      simp [spanDigits, hc]
  | cons d ds ih =>
    have hd : digit? d.digitChar = some d := digit?_digitChar (small d (List.mem_cons_self ..))
    have hds := ih fun e he => small e (List.mem_cons_of_mem d he)
    simp [spanDigits, hd, hds]

/-- The digits of a number in decimal: they have its value, and the first one is zero for zero
alone. -/
theorem exists_decimal (n : Nat) :
    ∃ d ds, decimal n = (d :: ds).map Nat.digitChar ∧ (∀ e ∈ d :: ds, e < 10) ∧
      digitsValue (d :: ds) = n ∧ (d = 0 → n = 0) := by
  induction n using Nat.strongRecOn with
  | ind n ih =>
    unfold decimal at ih ⊢
    rw [Nat.toDigits_eq_if (by decide)]
    split
    · next h =>
      exact ⟨n, [], rfl, by simpa using h, by simp [digitsValue], fun h => h⟩
    · next h =>
      obtain ⟨d, ds, hds, small, value, zero⟩ := ih (n / 10) (by omega)
      refine ⟨d, ds ++ [n % 10], ?_, ?_, ?_, ?_⟩
      · rw [hds, ← List.cons_append, List.map_append, List.map_singleton]
      · intro e he
        rw [← List.cons_append, List.mem_append, List.mem_singleton] at he
        rcases he with he | rfl
        · exact small e he
        · exact Nat.mod_lt n (by decide)
      · rw [← List.cons_append, digitsValue_append, value]
        omega
      · intro hd
        have hn := zero hd
        omega

/-- A number in decimal starts with a digit. -/
theorem exists_decimal_eq_cons (n : Nat) : ∃ d ds, d < 10 ∧ decimal n = Nat.digitChar d :: ds := by
  obtain ⟨d, ds, hds, small, -, -⟩ := exists_decimal n
  exact ⟨d, ds.map Nat.digitChar, small d (List.mem_cons_self ..), hds⟩

end Text

namespace Json

/-! ## Integers -/

section

variable {rest : List Char}

/-- What may stand behind a value in a text: nothing, or the mark that follows an item. -/
def Ends (rest : List Char) : Prop := ∀ c ∈ rest.head?, c = ',' ∨ c = ']' ∨ c = '\x7d'

theorem ends_nil : Ends [] := nofun

theorem ends_cons {c : Char} {cs : List Char} (h : c = ',' ∨ c = ']' ∨ c = '\x7d') :
    Ends (c :: cs) := by
  intro c' hc'
  rw [List.head?_cons, Option.mem_some_iff] at hc'
  rwa [← hc']

theorem Ends.not_digit (ends : Ends rest) : ∀ c ∈ rest.head?, Text.digit? c = none := by
  intro c hc
  rcases ends c hc with rfl | rfl | rfl <;> decide

theorem Ends.readFraction (ends : Ends rest) : readFraction rest = none := by
  cases rest with
  | nil => rfl
  | cons c cs => rcases ends c rfl with rfl | rfl | rfl <;> rfl

theorem Ends.readExponent (ends : Ends rest) : readExponent rest = none := by
  cases rest with
  | nil => rfl
  | cons c cs => rcases ends c rfl with rfl | rfl | rfl <;> rfl

/-- The digits of a number are read as its whole part. -/
theorem readWhole_decimal (n : Nat) (ends : Ends rest) :
    ∃ ds, readWhole (Text.decimal n ++ rest) = some (ds, rest) ∧ Text.digitsValue ds = n ∧
      ds.length = Text.digitCount n := by
  rcases Nat.eq_zero_or_pos n with rfl | pos
  · exact ⟨[0], rfl, rfl, rfl⟩
  · obtain ⟨d, ds, hds, small, value, zero⟩ := Text.exists_decimal n
    have span := Text.spanDigits_digits small ends.not_digit
    have count : (d :: ds).length = Text.digitCount n := by
      rw [Text.digitCount, hds, List.length_map]
    refine ⟨d :: ds, ?_, value, count⟩
    rw [hds]
    rw [List.map_cons, List.cons_append] at span ⊢
    unfold readWhole
    split
    · next h =>
      have first : Nat.digitChar d = '0' := (List.cons.inj h).1
      have hd : d = 0 := Nat.digitChar_eq_zero.1 first
      omega
    · rw [span]

/-- An integer is read back, unless it has too many digits. -/
theorem readNumber_integer {n : Int} (fits : Text.digitCount n.natAbs ≤ maxIntegerDigits)
    (ends : Ends rest) :
    readNumber ((Text.integer n).toList ++ rest) = .ok (.int n, rest) := by
  obtain ⟨ds, whole, value, count⟩ := readWhole_decimal n.natAbs ends
  have few : ¬maxIntegerDigits < ds.length := by omega
  by_cases hn : n < 0
  · have hcs : (Text.integer n).toList ++ rest = '-' :: (Text.decimal n.natAbs ++ rest) := by
      simp [Text.integer, hn]
    have hv : Text.signed true n.natAbs = n := by
      change -(n.natAbs : Int) = n
      omega
    rw [hcs]
    unfold readNumber
    simp only [whole, ends.readFraction, ends.readExponent, Option.map_none, Option.getD_none,
      Option.isNone_none, Bool.and_self, if_true, if_neg few, value, hv]
  · have hcs : (Text.integer n).toList ++ rest = Text.decimal n.natAbs ++ rest := by
      simp [Text.integer, hn]
    have hv : Text.signed false n.natAbs = n := by
      change (n.natAbs : Int) = n
      omega
    obtain ⟨d, cs, hd, hdecimal⟩ := Text.exists_decimal_eq_cons n.natAbs
    rw [hcs]
    rw [hdecimal, List.cons_append] at whole ⊢
    unfold readNumber
    split
    next negative body hbody =>
    split at hbody
    · next h =>
      have first : Nat.digitChar d = '-' := (List.cons.inj h).1
      exact absurd first (Nat.digitChar_ne '-' rfl)
    · cases hbody
      simp only [whole, ends.readFraction, ends.readExponent, Option.map_none, Option.getD_none,
        Option.isNone_none, Bool.and_self, if_true, if_neg few, value, hv]

/-- An integer starts with a minus sign or a digit. -/
theorem exists_integer (n : Int) :
    ∃ c cs, (Text.integer n).toList = c :: cs ∧ (c = '-' ∨ c.isDigit = true) := by
  obtain ⟨d, ds, hd, hds⟩ := Text.exists_decimal_eq_cons n.natAbs
  by_cases hn : n < 0
  · exact ⟨'-', Text.decimal n.natAbs, by simp [Text.integer, hn], .inl rfl⟩
  · exact ⟨d.digitChar, ds, by simp [Text.integer, hn, hds], .inr (by simpa using hd)⟩

/-- No word starts as an integer does. -/
theorem words_integer (n : Int) (rest : List Char) :
    (words.findSome? fun w =>
      (after? w.1 ((Text.integer n).toList ++ rest)).map fun rest => (w.2, rest)) = none := by
  obtain ⟨d, ds, hd, hds⟩ := Text.exists_decimal_eq_cons n.natAbs
  have hne {c : Char} (h : c.isDigit = false) : ¬c = d.digitChar := by
    rintro rfl
    rw [Nat.isDigit_digitChar] at h
    simp [hd] at h
  by_cases hn : n < 0
  · have hcs : (Text.integer n).toList = '-' :: d.digitChar :: ds := by
      simp [Text.integer, hn, hds]
    rw [hcs]
    simp [words, after?, hne]
  · have hcs : (Text.integer n).toList = d.digitChar :: ds := by
      simp [Text.integer, hn, hds]
    rw [hcs]
    simp [words, after?, hne]

end

end Json

/-! ## Code units -/

namespace Text

theorem hexValue?_hexDigit {d : Nat} (h : d < 16) : hexValue? (hexDigit d) = some d := by
  have all : ∀ d < 16, hexValue? (hexDigit d) = some d := by decide
  exact all d h

theorem units_of_lt {c : Char} (h : c.toNat < 0x10000) : units c = [c.toNat] := if_pos h

/-- A character is one unit, or a pair of halves. -/
theorem units_cases (c : Char) :
    (c.toNat < 0x10000 ∧ units c = [c.toNat]) ∨
      ∃ high low, units c = [high, low] ∧ isHighHalf high = true ∧ isLowHalf low = true ∧
        joined high low = c.toNat := by
  have valid := c.valid
  simp only [UInt32.isValidChar, Nat.isValidChar, Char.toNat_val] at valid
  by_cases h : c.toNat < 0x10000
  · exact .inl ⟨h, units_of_lt h⟩
  · unfold units
    dsimp only
    rw [if_neg h]
    refine .inr ⟨_, _, rfl, ?_, ?_, joined_units (by omega) (by omega)⟩
    · simp only [isHighHalf, Bool.and_eq_true, decide_eq_true_eq]
      omega
    · simp only [isLowHalf, Bool.and_eq_true, decide_eq_true_eq]
      omega

theorem lt_of_mem_units {c : Char} {u : Nat} (h : u ∈ units c) : u < 0x10000 := by
  rcases units_cases c with ⟨hc, hu⟩ | ⟨high, low, hu, hh, hl, -⟩
  · rw [hu, List.mem_singleton] at h
    omega
  · simp only [isHighHalf, isLowHalf, Bool.and_eq_true, decide_eq_true_eq] at hh hl
    rw [hu] at h
    simp only [List.mem_cons, List.not_mem_nil, or_false] at h
    omega

/-- The code units of characters stand for these characters. -/
theorem points_units (cs : List Char) : points (cs.flatMap units) = cs.map Char.toNat := by
  induction cs with
  | nil => rfl
  | cons c cs ih =>
    rw [List.flatMap_cons, List.map_cons, ← ih]
    rcases units_cases c with ⟨-, hu⟩ | ⟨high, low, hu, hh, hl, hj⟩
    · -- A character of one unit is no half, so it is not taken together with the next unit.
      have first : isHighHalf c.toNat = false := (Bool.or_eq_false_iff.1 (isHalf_toNat c)).1
      rw [hu]
      cases cs.flatMap units with
      | nil => rfl
      | cons u us => simp [points, first]
    · rw [hu]
      simp [points, hh, hl, hj]

end Text

/-! ## Texts -/

namespace Json

theorem unit?_hex {n : Nat} (h : n < 0x10000) : unit? (Text.hex 4 n) = some n := by
  have h0 := Text.hexValue?_hexDigit (d := n / 16 / 16 / 16 % 16) (by omega)
  have h1 := Text.hexValue?_hexDigit (d := n / 16 / 16 % 16) (by omega)
  have h2 := Text.hexValue?_hexDigit (d := n / 16 % 16) (by omega)
  have h3 := Text.hexValue?_hexDigit (d := n % 16) (by omega)
  simp [unit?, Text.hex, h0, h1, h2, h3]
  omega

variable {opening rest : List Char} {acc : List Nat}

theorem readUnits_unitEscape {n : Nat} (h : n < 0x10000) (hr : rest ≠ []) :
    readUnits opening acc (Text.unitEscape n ++ rest) = readUnits opening (n :: acc) rest := by
  have taken : (Text.hex 4 n ++ rest).take 4 = Text.hex 4 n := List.take_left' (Text.length_hex 4 n)
  have left : (Text.hex 4 n ++ rest).drop 4 = rest := List.drop_left' (Text.length_hex 4 n)
  have more : rest.isEmpty = false := List.isEmpty_eq_false_iff.2 hr
  rw [Text.unitEscape, List.cons_append, List.cons_append, readUnits]
  simp [taken, left, unit?_hex h, more]

theorem readUnits_unitEscapes {us : List Nat} (h : ∀ u ∈ us, u < 0x10000) (hr : rest ≠ []) :
    readUnits opening acc (us.flatMap Text.unitEscape ++ rest) =
      readUnits opening (us.reverse ++ acc) rest := by
  induction us generalizing acc with
  | nil => rfl
  | cons u us ih =>
    have more : us.flatMap Text.unitEscape ++ rest ≠ [] := by simp [hr]
    rw [List.flatMap_cons, List.append_assoc,
      readUnits_unitEscape (h u (List.mem_cons_self ..)) more,
      ih fun v hv => h v (List.mem_cons_of_mem u hv)]
    simp

theorem readUnits_shortEscape {e d : Char} (he : e ≠ 'u') (h : shortEscape? e = some d) :
    readUnits opening acc ('\\' :: e :: rest) = readUnits opening (d.toNat :: acc) rest := by
  rw [readUnits]
  simp [he, h]

theorem readUnits_plain {c : Char} (quote : c ≠ '"') (slash : c ≠ '\\') (h : ¬c.toNat < 0x20) :
    readUnits opening acc (c :: rest) = readUnits opening (c.toNat :: acc) rest := by
  rw [readUnits.eq_def]
  simp [quote, slash, h]

/-- An escape that every style has is read as its character. -/
theorem readUnits_escape {c : Char} {cs : List Char} (h : escape? c = some cs) (hr : rest ≠ []) :
    readUnits opening acc (cs ++ rest) =
      readUnits opening ((Text.units c).reverse ++ acc) rest := by
  have short {d e : Char} (hc : c = d) (hcs : some ['\\', e] = some cs) (he : e ≠ 'u')
      (hd : shortEscape? e = some d) (small : d.toNat < 0x10000) :
      readUnits opening acc (cs ++ rest) =
        readUnits opening ((Text.units c).reverse ++ acc) rest := by
    cases hcs
    rw [hc, Text.units_of_lt small]
    exact readUnits_shortEscape he hd
  unfold escape? at h
  -- The seven short escapes, and then that of another control character.
  iterate 7
    split at h
    · next hc => exact short hc h (by decide) rfl (by decide)
  split at h
  · next hc =>
    cases h
    have small : c.toNat < 0x10000 := by omega
    rw [Text.units_of_lt small]
    exact readUnits_unitEscape small hr
  · cases h

theorem escape?_eq_none {c : Char} (h : escape? c = none) :
    c ≠ '"' ∧ c ≠ '\\' ∧ ¬c.toNat < 0x20 := by
  refine ⟨?_, ?_, ?_⟩
  · rintro rfl
    cases h
  · rintro rfl
    cases h
  · intro hc
    unfold escape? at h
    rw [if_pos hc] at h
    repeat' split at h
    all_goals cases h

/-- A character is read as its units. -/
theorem readUnits_asciiChar (c : Char) (hr : rest ≠ []) :
    readUnits opening acc (asciiChar c ++ rest) =
      readUnits opening ((Text.units c).reverse ++ acc) rest := by
  unfold asciiChar
  cases hc : escape? c with
  | some cs => exact readUnits_escape hc hr
  | none =>
    obtain ⟨quote, slash, printable⟩ := escape?_eq_none hc
    rw [Option.getD_none]
    split
    · next h => exact readUnits_unitEscapes (fun u hu => Text.lt_of_mem_units hu) hr
    · next h =>
      rw [Text.units_of_lt (by omega)]
      exact readUnits_plain quote slash printable

/-- Characters up to a quote are read as their units. -/
theorem readUnits_quoted (cs : List Char) :
    readUnits opening acc (cs.flatMap asciiChar ++ '"' :: rest) =
      .ok ((cs.flatMap Text.units).reverse ++ acc, rest) := by
  induction cs generalizing acc with
  | nil =>
    rw [List.flatMap_nil, List.nil_append, readUnits.eq_def]
    rfl
  | cons c cs ih =>
    have more : cs.flatMap asciiChar ++ '"' :: rest ≠ [] := by simp
    rw [List.flatMap_cons, List.append_assoc, readUnits_asciiChar c more, ih]
    simp

/-- A text without halves is read back. -/
theorem readText_quoted (s : String) :
    readText opening (s.toList.flatMap asciiChar ++ '"' :: rest) = .ok (.whole s, rest) := by
  have hs : RawText.ofPoints (s.toList.map Char.toNat) = .whole s :=
    RawText.ofPoints_points_whole s
  unfold readText
  rw [readUnits_quoted]
  simp [bind, Except.bind, Text.points_units, hs]

end Json

end BoardViews
