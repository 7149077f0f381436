import BoardViews.Bytes.Base64

/-
  Symbols that are read back. Bytes that are written as symbols are read as they were, with as much
  padding as whole quads need. What carries the reader over a quad is that the bits that it has kept
  and the symbol that comes next put a byte together again.
-/

namespace BoardViews.Base64

/-! ## Symbols -/

theorem value?_symbol {n : Nat} (h : n < 64) : value? (symbol n) = some n := by
  have all : ∀ n < 64, value? (symbol n) = some n := by decide
  exact all n h

theorem symbol_ne_pad {n : Nat} (h : n < 64) : symbol n ≠ pad := by
  intro e
  have padding : value? pad = none := by decide
  rw [← e, value?_symbol h] at padding
  cases padding

/-- The values of the symbols of three bytes. -/
theorem quad_lt (a b c : UInt8) :
    a.toNat / 4 < 64 ∧ a.toNat % 4 * 16 + b.toNat / 16 < 64 ∧
      b.toNat % 16 * 4 + c.toNat / 64 < 64 ∧ c.toNat % 64 < 64 := by
  have ha := a.toNat_lt
  have hb := b.toNat_lt
  have hc := c.toNat_lt
  omega

/-- What is written are symbols of values below 64. -/
theorem mem_encode {s : UInt8} : ∀ {bs : List UInt8}, s ∈ encode bs → ∃ n < 64, s = symbol n
  | a :: b :: c :: rest, h => by
    obtain ⟨h₁, h₂, h₃, h₄⟩ := quad_lt a b c
    simp only [encode, List.mem_cons] at h
    rcases h with rfl | rfl | rfl | rfl | h
    · exact ⟨_, h₁, rfl⟩
    · exact ⟨_, h₂, rfl⟩
    · exact ⟨_, h₃, rfl⟩
    · exact ⟨_, h₄, rfl⟩
    · exact mem_encode h
  | [a, b], h => by
    obtain ⟨h₁, h₂, h₃, -⟩ := quad_lt a b 0
    simp only [encode, List.mem_cons, List.not_mem_nil, or_false] at h
    rcases h with rfl | rfl | rfl
    · exact ⟨_, h₁, rfl⟩
    · exact ⟨_, h₂, rfl⟩
    · exact ⟨_, h₃, rfl⟩
  | [a], h => by
    obtain ⟨h₁, h₂, -, -⟩ := quad_lt a 0 0
    simp only [encode, List.mem_cons, List.not_mem_nil, or_false] at h
    rcases h with rfl | rfl
    · exact ⟨_, h₁, rfl⟩
    · exact ⟨_, h₂, rfl⟩
  | [], h => by cases h

/-! ## Reading -/

theorem decodeFrom_symbol (q : Quad) {n : Nat} (h : n < 64) (bs : List UInt8) :
    decodeFrom q (symbol n :: bs) =
      match q.count with
      | 0 => decodeFrom ⟨1, n, 0⟩ bs
      | 1 => (decodeFrom ⟨2, n % 16, 0⟩ bs).map (UInt8.ofNat (q.bits * 4 + n / 16) :: ·)
      | 2 => (decodeFrom ⟨3, n % 4, 0⟩ bs).map (UInt8.ofNat (q.bits * 16 + n / 4) :: ·)
      | _ => (decodeFrom Quad.fresh bs).map (UInt8.ofNat (q.bits * 64 + n) :: ·) := by
  have read := value?_symbol h
  rw [decodeFrom, if_neg (symbol_ne_pad h)]
  generalize value? (symbol n) = v at read ⊢
  subst read
  rfl

theorem ofNat_eq {a : UInt8} {n : Nat} (h : n = a.toNat) : UInt8.ofNat n = a := by
  rw [h, UInt8.ofNat_toNat]

/-- The first two symbols give the first byte; the lower bits of the second one are kept. -/
theorem decodeFrom_first (a : UInt8) {n : Nat} (hn : n < 16) (bs : List UInt8) :
    decodeFrom Quad.fresh (symbol (a.toNat / 4) :: symbol (a.toNat % 4 * 16 + n) :: bs) =
      (decodeFrom ⟨2, n, 0⟩ bs).map (a :: ·) := by
  have ha := a.toNat_lt
  have byte : UInt8.ofNat (a.toNat / 4 * 4 + (a.toNat % 4 * 16 + n) / 16) = a :=
    ofNat_eq (by omega)
  have kept : (a.toNat % 4 * 16 + n) % 16 = n := by omega
  rw [decodeFrom_symbol _ (by omega)]
  change decodeFrom ⟨1, a.toNat / 4, 0⟩ _ = _
  rw [decodeFrom_symbol _ (by omega)]
  dsimp only
  rw [byte, kept]
  rfl

/-- The third symbol gives the second byte, with the bits that were kept. -/
theorem decodeFrom_second (b : UInt8) {n : Nat} (hn : n < 4) (bs : List UInt8) :
    decodeFrom ⟨2, b.toNat / 16, 0⟩ (symbol (b.toNat % 16 * 4 + n) :: bs) =
      (decodeFrom ⟨3, n, 0⟩ bs).map (b :: ·) := by
  have byte : UInt8.ofNat (b.toNat / 16 * 16 + (b.toNat % 16 * 4 + n) / 4) = b :=
    ofNat_eq (by omega)
  have kept : (b.toNat % 16 * 4 + n) % 4 = n := by omega
  rw [decodeFrom_symbol _ (by omega)]
  dsimp only
  rw [byte, kept]
  rfl

/-- The last symbol gives the third byte. -/
theorem decodeFrom_third (c : UInt8) (bs : List UInt8) :
    decodeFrom ⟨3, c.toNat / 64, 0⟩ (symbol (c.toNat % 64) :: bs) =
      (decodeFrom Quad.fresh bs).map (c :: ·) := by
  have byte : UInt8.ofNat (c.toNat / 64 * 64 + c.toNat % 64) = c := ofNat_eq (by omega)
  rw [decodeFrom_symbol _ (by omega)]
  dsimp only
  rw [byte]
  rfl

/-- The padding that makes whole quads of some symbols. -/
def padding (length : Nat) : List UInt8 :=
  if length % 4 = 0 then [] else List.replicate (4 - length % 4) pad

theorem decode_eq (bs : List UInt8) :
    decode bs = decodeFrom Quad.fresh (bs ++ padding bs.length) := by
  unfold decode padding
  dsimp only
  split
  · rw [List.append_nil]
  · rfl

/-- The padding depends on what is left over of whole quads. -/
theorem padding_add_four (n : Nat) : padding (n + 4) = padding n := by
  unfold padding
  rw [Nat.add_mod_right]

theorem decodeFrom_encode : ∀ bs : List UInt8,
    decodeFrom Quad.fresh (encode bs ++ padding (encode bs).length) = some bs
  | a :: b :: c :: rest => by
    have hb := b.toNat_lt
    have hc := c.toNat_lt
    have length : (encode (a :: b :: c :: rest)).length = (encode rest).length + 4 := rfl
    rw [length, padding_add_four]
    change decodeFrom Quad.fresh (symbol (a.toNat / 4) ::
      symbol (a.toNat % 4 * 16 + b.toNat / 16) :: symbol (b.toNat % 16 * 4 + c.toNat / 64) ::
        symbol (c.toNat % 64) :: (encode rest ++ padding (encode rest).length)) = _
    rw [decodeFrom_first a (by omega), decodeFrom_second b (by omega), decodeFrom_third,
      decodeFrom_encode rest]
    rfl
  | [a, b] => by
    have hb := b.toNat_lt
    change decodeFrom Quad.fresh (symbol (a.toNat / 4) ::
      symbol (a.toNat % 4 * 16 + b.toNat / 16) :: symbol (b.toNat % 16 * 4 + 0) :: [pad]) = _
    rw [decodeFrom_first a (by omega), decodeFrom_second b (by omega)]
    rfl
  | [a] => by
    change decodeFrom Quad.fresh (symbol (a.toNat / 4) ::
      symbol (a.toNat % 4 * 16 + 0) :: [pad, pad]) = _
    rw [decodeFrom_first a (by omega)]
    rfl
  | [] => rfl

/-- Bytes are read as they were written. -/
theorem decode_encode (bs : List UInt8) : decode (encode bs) = some bs := by
  rw [decode_eq, decodeFrom_encode]

end BoardViews.Base64
