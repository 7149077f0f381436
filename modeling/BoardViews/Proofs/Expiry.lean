import BoardViews.Proofs.RoundTrip
import BoardViews.Proofs.Symbols
import BoardViews.Token

/-
  Tokens that are read back: `decode_token_subject` after `create_access_token`, under one secret.
  A token that is made for a user names that user up to the second of its end, and nobody from the
  next second on, at every moment that has a date; the id of the user must not be empty. Its three
  parts are symbols, none of which is a point, so they are found again between the points; the
  signature is that of the first two; the claims are read as they were written.
-/

namespace BoardViews

/-! ## Dates -/

theorem spanFault?_eq_none {days : Int} (h : -999999999 ≤ days ∧ days ≤ 999999999) :
    spanFault? days = none := by
  unfold spanFault?
  rw [if_neg (by omega), if_neg (by omega)]

namespace Instant

theorem isDated_iff {t : Instant} :
    t.isDated = true ↔ -62135596800 ≤ t.seconds ∧ t.seconds ≤ 253402300799 := by
  unfold isDated firstSecond lastSecond
  rw [Bool.and_eq_true, decide_eq_true_eq, decide_eq_true_eq]

/-- A moment has a date in the years 1 to 9999 only. -/
theorem dateFault?_eq_none_iff {t : Instant} : t.dateFault? = none ↔ t.isDated = true := by
  unfold dateFault?
  constructor
  · intro h
    split at h
    · cases h
    · split at h
      · next dated => exact dated
      · cases h
  · intro dated
    obtain ⟨first, last⟩ := isDated_iff.1 dated
    rw [spanFault?_eq_none (by omega)]
    exact if_pos dated

end Instant

namespace Token

/-! ## Bytes -/

/-- A text of ASCII bytes has these bytes. -/
theorem bytes_latin {bs : List UInt8} (ascii : ∀ b ∈ bs, b.toNat < 128) :
    bytes (latin bs) = bs := by
  have code : ∀ n < 128, String.utf8EncodeChar (Char.ofNat n) = [UInt8.ofNat n] := by decide
  unfold bytes latin
  rw [String.toUTF8_eq_toByteArray, String.toByteArray_ofList, List.utf8Encode,
    List.toList_data_toByteArray, List.flatMap_map]
  induction bs with
  | nil => rfl
  | cons b bs ih =>
    rw [List.flatMap_cons, code _ (ascii b (List.mem_cons_self ..)), UInt8.ofNat_toNat,
      ih fun c hc => ascii c (List.mem_cons_of_mem b hc)]
    rfl

/-! ## Parts -/

/-- Symbols are ASCII, and none of them is a point. -/
theorem symbols_of_encode {bs : List UInt8} {b : UInt8} (h : b ∈ Base64.encode bs) :
    b.toNat < 128 ∧ b ≠ point := by
  obtain ⟨n, hn, rfl⟩ := Base64.mem_encode h
  have all : ∀ n < 64, (Base64.symbol n).toNat < 128 ∧ Base64.symbol n ≠ point := by decide
  exact all n hn

theorem point_not_mem_encode (bs : List UInt8) : point ∉ Base64.encode bs :=
  fun h => (symbols_of_encode h).2 rfl

theorem splitFirst?_append {bs : List UInt8} (h : point ∉ bs) (rest : List UInt8) :
    splitFirst? (bs ++ point :: rest) = some (bs, rest) := by
  induction bs with
  | nil => rfl
  | cons b bs ih =>
    rw [List.mem_cons, not_or] at h
    rw [List.cons_append, splitFirst?, if_neg fun e => h.1 e.symm, ih h.2]
    rfl

theorem splitLast?_append {bs : List UInt8} (h : point ∉ bs) (before : List UInt8) :
    splitLast? (before ++ point :: bs) = some (before, bs) := by
  have reversed : (before ++ point :: bs).reverse = bs.reverse ++ point :: before.reverse := by
    simp
  unfold splitLast?
  rw [reversed, splitFirst?_append (by simpa using h)]
  simp

/-- A part that was written from a value is read as that value. -/
theorem readPart_encode {v : Json} (plain : v.Plain)
    (writable : v.writeFault? Json.maxDepth = none) :
    readPart (Base64.encode (bytes (v.write Json.dense))) = .ok (some v) := by
  unfold readPart
  rw [Base64.decode_encode, Option.bind_some, text?_bytes]
  dsimp only
  rw [Json.read_write Json.readable_dense plain writable]

/-! ## Tokens -/

theorem plain_header : header.Plain := by
  refine .object (by decide) fun f hf => ?_
  simp only [List.mem_cons, List.not_mem_nil, or_false] at hf
  rcases hf with rfl | rfl
  · exact .text _
  · exact .text _

theorem plain_claims (user : String) (second : Int) : (claims user second).Plain := by
  have distinct : ["sub", "exp"].Nodup := by decide
  refine .object distinct fun f hf => ?_
  simp only [List.mem_cons, List.not_mem_nil, or_false] at hf
  rcases hf with rfl | rfl
  · exact .text _
  · exact .int _

/-- The second of a date has few digits, so the claims can be written. -/
theorem writeFault?_claims (user : String) {t : Instant} (dated : t.isDated = true) :
    (claims user t.seconds).writeFault? Json.maxDepth = none := by
  obtain ⟨first, last⟩ := Instant.isDated_iff.1 dated
  have few : Text.digitCount t.seconds.natAbs ≤ 12 :=
    (Nat.length_toDigits_le_iff (by decide) (by decide)).2 (by omega)
  have fits : ¬ Json.maxIntegerDigits < Text.digitCount t.seconds.natAbs := by
    unfold Json.maxIntegerDigits
    omega
  have fields : Json.fieldsFault? (Json.maxDepth - 1)
      (Json.wholeFields [("sub", .text user), ("exp", .int t.seconds)]) = none := by
    rw [Json.fieldsFault?_eq_none]
    intro f hf
    simp only [List.mem_cons, List.not_mem_nil, or_false] at hf
    rcases hf with rfl | rfl
    · rfl
    · exact if_neg fits
  change Json.writeFault? Json.maxDepth (.object (Json.wholeFields _)) = none
  rw [Json.writeFault?, if_neg (by decide), fields]

/-- All of a token is ASCII. -/
theorem ascii_of_mem {h c s : List UInt8} {b : UInt8}
    (hb : b ∈ (Base64.encode h ++ point :: Base64.encode c) ++ point :: Base64.encode s) :
    b.toNat < 128 := by
  simp only [List.mem_append, List.mem_cons] at hb
  rcases hb with (hb | rfl | hb) | rfl | hb
  · exact (symbols_of_encode hb).1
  · decide
  · exact (symbols_of_encode hb).1
  · decide
  · exact (symbols_of_encode hb).1

/-- The token of a user up to a second. -/
def minted (secret user : String) (second : Int) : String :=
  let signed := signedPart header (claims user second)
  latin (signed ++ point :: Base64.encode (signature secret signed))

/-- A token that was made is taken, and its claims are those that were written. -/
theorem verified?_minted (secret user : String) {second : Int}
    (writable : (claims user second).writeFault? Json.maxDepth = none) :
    verified? secret (minted secret user second) = .ok (some (claims user second)) := by
  have named : isHeader (some header) = true := by decide
  have ascii : ∀ b ∈ signedPart header (claims user second) ++
      point :: Base64.encode (signature secret (signedPart header (claims user second))),
      b.toNat < 128 := fun b hb => ascii_of_mem hb
  have parts : splitFirst? (signedPart header (claims user second)) =
      some (Base64.encode (bytes (header.write Json.dense)),
        Base64.encode (bytes ((claims user second).write Json.dense))) :=
    splitFirst?_append (point_not_mem_encode _) _
  unfold verified? minted
  dsimp only
  rw [bytes_latin ascii, splitLast?_append (point_not_mem_encode _)]
  dsimp only
  rw [parts]
  dsimp only
  rw [readPart_encode plain_header (by decide), readPart_encode (plain_claims user second) writable]
  exact if_pos ⟨named, Base64.decode_encode _⟩

/-- The claims of a token hold up to its last second. -/
theorem claimsHold_claims {now : Instant} (dated : now.isDated = true) (user : String)
    (second : Int) :
    claimsHold now (claims user second) = .ok (decide (now.seconds ≤ second)) := by
  have clock : now.dateFault? = none := Instant.dateFault?_eq_none_iff.2 dated
  have iat : (claims user second).field? "iat" = none := rfl
  have nbf : (claims user second).field? "nbf" = none := rfl
  have exp : (claims user second).field? "exp" = some (.int second) := rfl
  have sub : (claims user second).field? "sub" = some (.text user) := rfl
  have jti : (claims user second).field? "jti" = none := rfl
  have aud : (claims user second).field? "aud" = none := rfl
  have hash : (claims user second).field? "at_hash" = none := rfl
  simp only [claimsHold, numberPasses, textOrAbsent, iat, nbf, exp, sub, jti, aud, hash, clock,
    wholeNumber, andThen]
  by_cases h : now.seconds ≤ second
  · simp [h]
  · simp [h]

theorem named?_claims {user : String} (named : user ≠ "") (second : Int) :
    named? (claims user second) = some (.whole user) := by
  have sub : (claims user second).field? "sub" = some (.text user) := rfl
  have filled : (RawText.whole user).isEmpty = false := by
    simpa [RawText.isEmpty] using named
  unfold named?
  rw [sub]
  exact if_neg (by simp [filled])

/-! ## Making tokens -/

/-- The end of a token, if now and the end have dates. -/
theorem ending_eq_ok_iff {now t : Instant} {minutes : Int} :
    ending now minutes = .ok t ↔
      now.isDated = true ∧ t.isDated = true ∧ t = now.plusMinutes minutes := by
  unfold ending
  dsimp only
  constructor
  · intro h
    split at h
    · cases h
    · cases h
    · next clock span =>
      split at h
      · next dated =>
        cases h
        exact ⟨Instant.dateFault?_eq_none_iff.1 clock, dated, rfl⟩
      · cases h
  · rintro ⟨made, dated, rfl⟩
    have clock := Instant.dateFault?_eq_none_iff.2 made
    obtain ⟨first, last⟩ := Instant.isDated_iff.1 made
    obtain ⟨first', last'⟩ := Instant.isDated_iff.1 dated
    rw [Instant.seconds_plusMinutes] at first' last'
    rw [clock, spanFault?_eq_none (by omega)]
    exact if_pos dated

/-- A token is made if now and its end have dates. -/
theorem issue_eq_ok_iff {settings : Settings} {made : Instant} {user token : String}
    {minutes : Option Int} :
    issue settings made user minutes = .ok token ↔
      made.isDated = true ∧ (made.plusMinutes (lifetime settings minutes)).isDated = true ∧
        token = minted settings.secret user
          (made.plusMinutes (lifetime settings minutes)).seconds := by
  unfold issue
  cases h : ending made (lifetime settings minutes) with
  | error f =>
    constructor
    · intro e
      cases e
    · rintro ⟨dated, ends, -⟩
      rw [ending_eq_ok_iff.2 ⟨dated, ends, rfl⟩] at h
      cases h
  | ok t =>
    obtain ⟨dated, ends, rfl⟩ := ending_eq_ok_iff.1 h
    constructor
    · intro e
      exact ⟨dated, ends, (Except.ok.inj e).symm⟩
    · rintro ⟨-, -, e⟩
      exact congrArg Except.ok e.symm

/-! ## Lifetimes -/

/-- The subject of a token is its user up to the second of its end. -/
theorem subject_minted (settings : Settings) {user : String} (named : user ≠ "")
    {stop now : Instant} (ends : stop.isDated = true) (dated : now.isDated = true) :
    subject settings now (minted settings.secret user stop.seconds) =
      .ok (if now.seconds ≤ stop.seconds then some (.whole user) else none) := by
  have fields : claims user stop.seconds =
      .object (Json.wholeFields [("sub", .text user), ("exp", .int stop.seconds)]) := rfl
  have holds := claimsHold_claims dated user stop.seconds
  have sub := named?_claims named stop.seconds
  unfold subject
  rw [verified?_minted _ _ (writeFault?_claims user ends)]
  rw [fields] at holds sub ⊢
  dsimp only
  rw [holds]
  by_cases h : now.seconds ≤ stop.seconds
  · rw [decide_eq_true h, if_pos h]
    exact congrArg _ sub
  · rw [decide_eq_false h, if_neg h]

theorem lifetime_eq (settings : Settings) (minutes : Option Int) :
    lifetime settings minutes = (minutes.filter (· ≠ 0)).getD settings.tokenMinutes := by
  cases minutes with
  | none => rfl
  | some m =>
    by_cases h : m = 0
    · simp [lifetime, Option.filter, h]
    · simp [lifetime, Option.filter, h]

/-- A token is made if now and its end have dates. At any moment with a date it names its user, up
to the second of its end, and nobody after that. Zero minutes are as good as none: both stand for
the default, which is a week unless the settings say otherwise. -/
theorem token_names_user_until_its_end (settings : Settings) (made : Instant) (minutes : Option Int)
    {user : String} (named : user ≠ "") :
    let stop := made.plusMinutes ((minutes.filter (· ≠ 0)).getD settings.tokenMinutes)
    Settings.standard.tokenMinutes = 10080 ∧
    ((∃ token, issue settings made user minutes = .ok token) ↔
        made.isDated = true ∧ stop.isDated = true) ∧
      ∀ token, issue settings made user minutes = .ok token →
        ∀ now : Instant, now.isDated = true →
          subject settings now token =
            .ok (if now.seconds ≤ stop.seconds then some (.whole user) else none) := by
  intro stop
  have made_iff {token : String} : issue settings made user minutes = .ok token ↔
      made.isDated = true ∧ stop.isDated = true ∧
        token = minted settings.secret user stop.seconds := by
    rw [issue_eq_ok_iff, lifetime_eq]
  refine ⟨rfl, ⟨?_, ?_⟩, ?_⟩
  · rintro ⟨token, issued⟩
    obtain ⟨dated, ends, -⟩ := made_iff.1 issued
    exact ⟨dated, ends⟩
  · rintro ⟨dated, ends⟩
    exact ⟨_, made_iff.2 ⟨dated, ends, rfl⟩⟩
  · intro token issued now dated
    obtain ⟨-, ends, rfl⟩ := made_iff.1 issued
    exact subject_minted settings named ends dated

/-- A token for a minute, made half a second before 1970 for someone whose name is not ASCII: it
holds in the last microsecond of its last second, and not in the one after that. -/
theorem minute_token_holds_to_the_second :
    let made : Instant := ⟨-500000⟩
    ∃ token, issue .standard made "é\"😀" (some 1) = .ok token ∧
      subject .standard ⟨59999999⟩ token = .ok (some (.whole "é\"😀")) ∧
      subject .standard ⟨60000000⟩ token = .ok none := by
  intro made
  have named : "é\"😀" ≠ "" := by decide
  obtain ⟨-, exists_iff, holds⟩ := token_names_user_until_its_end .standard made (some 1) named
  obtain ⟨token, issued⟩ := exists_iff.2 ⟨by decide, by decide⟩
  exact ⟨token, issued, holds token issued ⟨59999999⟩ (by decide),
    holds token issued ⟨60000000⟩ (by decide)⟩

end Token

end BoardViews
