import BoardViews.Proofs.Expiry
import BoardViews.Proofs.Identity
import BoardViews.Proofs.Results

/-
  Tokens that cannot be looked at. Whatever text is sent as a token, `decode_token_subject` names
  a subject, or nobody, or there is a fault that it does not catch; `Token.Names` and
  `Token.IsIllegible` say when the first and the last happen. The header is read before anything
  else, the claims only under the right signature. Of the claims about time the first one that
  does not hold decides: nobody is named if it is a wrong number or a text that is none, and it is
  a fault if its value can be no number at all.
-/

namespace BoardViews

namespace Token

/-! ## Parts -/

section

variable {before after : List UInt8}

theorem splitFirst?_eq_some_iff {bs : List UInt8} :
    splitFirst? bs = some (before, after) ↔ bs = before ++ point :: after ∧ point ∉ before := by
  constructor
  · intro h
    induction bs generalizing before with
    | nil => cases h
    | cons b bs ih =>
      rw [splitFirst?] at h
      split at h
      · next here =>
        cases h
        exact ⟨by rw [here, List.nil_append], List.not_mem_nil⟩
      · next other =>
        obtain ⟨⟨before', after'⟩, split, e⟩ := Option.map_eq_some_iff.1 h
        cases e
        obtain ⟨rfl, none_before⟩ := ih split
        refine ⟨rfl, fun mem => ?_⟩
        rcases List.mem_cons.1 mem with here | later
        · exact other here.symm
        · exact none_before later
  · rintro ⟨rfl, h⟩
    exact splitFirst?_append h after

theorem splitLast?_eq_some_iff {bs : List UInt8} :
    splitLast? bs = some (before, after) ↔ bs = before ++ point :: after ∧ point ∉ after := by
  constructor
  · intro h
    obtain ⟨⟨after', before'⟩, split, e⟩ := Option.map_eq_some_iff.1 h
    cases e
    obtain ⟨reversed, none_after⟩ := splitFirst?_eq_some_iff.1 split
    have joined : bs = before'.reverse ++ point :: after'.reverse := by
      simpa using congrArg List.reverse reversed
    exact ⟨joined, fun mem => none_after (List.mem_reverse.1 mem)⟩
  · rintro ⟨rfl, h⟩
    exact splitLast?_append h before

end

/-- The three parts of a token. Only the second one may hold points. -/
structure HasParts (token : String) (headerPart claimsPart sealPart : List UInt8) : Prop where
  joined : bytes token = (headerPart ++ point :: claimsPart) ++ point :: sealPart
  noneInHeader : point ∉ headerPart
  noneInSeal : point ∉ sealPart

/-- A part that holds lists or objects too deep in each other. -/
inductive IsTooDeep (part : List UInt8) : ClaimFault → Prop
  | intro {s kind : String} {position : Nat}
      (decoded : (Base64.decode part).bind text? = some s)
      (deep : Json.read (.whole s) = .error ⟨.tooDeep kind, position⟩) :
      IsTooDeep part (.tooDeep kind)

/-- A part that holds anything else, or nothing at all, can be looked at. -/
theorem readPart_eq_error_iff {part : List UInt8} {why : ClaimFault} :
    readPart part = .error why ↔ IsTooDeep part why := by
  unfold readPart
  constructor
  · intro h
    split at h
    · cases h
    · next s decoded =>
      split at h
      · cases h
      · next deep =>
        cases h
        exact .intro decoded deep
      · cases h
  · rintro ⟨decoded, deep⟩
    rw [decoded]
    dsimp only
    rw [deep]

theorem isHeader_eq_true_iff {header : Option Json} :
    isHeader header = true ↔ header.bind (Json.field? "alg") = some (.text (.whole "HS256")) := by
  unfold isHeader
  constructor
  · intro h
    split at h
    · next e => exact e
    · cases h
  · intro e
    rw [e]
    rfl

/-- A token with the right header and the right signature, and the part of it that holds claims. -/
inductive IsSigned (secret token : String) (claimsPart : List UInt8) : Prop
  | intro {headerPart sealPart : List UInt8} {header : Option Json}
      (parts : HasParts token headerPart claimsPart sealPart)
      (read : readPart headerPart = .ok header)
      (algorithm : header.bind (Json.field? "alg") = some (.text (.whole "HS256")))
      (sealed : Base64.decode sealPart =
        some (signature secret (headerPart ++ point :: claimsPart)))

section

variable {secret token : String} {headerPart claimsPart sealPart : List UInt8} {why : ClaimFault}

theorem verified?_of_parts (secret : String)
    (parts : HasParts token headerPart claimsPart sealPart) :
    verified? secret token = (readPart headerPart).bind fun header =>
      if isHeader header ∧
          Base64.decode sealPart = some (signature secret (headerPart ++ point :: claimsPart)) then
        readPart claimsPart
      else .ok none := by
  have last := splitLast?_eq_some_iff.2 ⟨parts.joined, parts.noneInSeal⟩
  have first := splitFirst?_append parts.noneInHeader claimsPart
  unfold verified?
  rw [last]
  dsimp only
  rw [first]

theorem exists_parts_of_verified?_ne (h : verified? secret token ≠ .ok none) :
    ∃ headerPart claimsPart sealPart, HasParts token headerPart claimsPart sealPart := by
  unfold verified? at h
  split at h
  · exact absurd rfl h
  · next signed sealPart last =>
    split at h
    · exact absurd rfl h
    · next headerPart claimsPart first =>
      obtain ⟨joined, noneInSeal⟩ := splitLast?_eq_some_iff.1 last
      obtain ⟨rfl, noneInHeader⟩ := splitFirst?_eq_some_iff.1 first
      exact ⟨headerPart, claimsPart, sealPart, joined, noneInHeader, noneInSeal⟩

theorem IsSigned.verified?_eq (signed : IsSigned secret token claimsPart) :
    verified? secret token = readPart claimsPart := by
  obtain ⟨parts, read, algorithm, sealed⟩ := signed
  rw [verified?_of_parts secret parts, read]
  exact if_pos ⟨isHeader_eq_true_iff.2 algorithm, sealed⟩

/-- There is a fault in the header, or the token is signed, or nothing more is looked at. -/
theorem verified?_cases (secret token : String) :
    (∃ headerPart claimsPart sealPart why, HasParts token headerPart claimsPart sealPart ∧
        IsTooDeep headerPart why) ∨
      (∃ claimsPart, IsSigned secret token claimsPart) ∨ verified? secret token = .ok none := by
  by_cases h : verified? secret token = .ok none
  · exact .inr (.inr h)
  obtain ⟨headerPart, claimsPart, sealPart, parts⟩ := exists_parts_of_verified?_ne h
  have verified := verified?_of_parts secret parts
  cases read : readPart headerPart with
  | error why =>
    exact .inl ⟨headerPart, claimsPart, sealPart, why, parts, readPart_eq_error_iff.1 read⟩
  | ok header =>
    rw [read] at verified
    by_cases right : isHeader header ∧
        Base64.decode sealPart = some (signature secret (headerPart ++ point :: claimsPart))
    · exact .inr (.inl ⟨claimsPart, parts, read, isHeader_eq_true_iff.1 right.1, right.2⟩)
    · exact absurd (verified.trans (if_neg right)) h

end

/-! ## Claims about time -/

/-- A value that can be no number, not even a wrong one. -/
inductive IsNoNumber : Json → ClaimFault → Prop
  | null : IsNoNumber .null (.notNumber "NoneType")
  | list (items : List Json) : IsNoNumber (.list items) (.notNumber "list")
  | object (fields : List (RawText × Json)) : IsNoNumber (.object fields) (.notNumber "dict")
  | infinite (negative : Bool) : IsNoNumber (.real (.infinite negative)) .infinite

theorem wholeNumber_eq_error_iff {v : Json} {why : ClaimFault} :
    wholeNumber v = .error why ↔ IsNoNumber v why := by
  constructor
  · intro h
    cases v with
    | null =>
      cases h
      exact .null
    | bool b => cases h
    | int n => cases h
    | real x =>
      cases x with
      | infinite negative =>
        cases h
        exact .infinite negative
      | finite negative mantissa exponent => cases h
      | nan => cases h
    | text t => cases h
    | list items =>
      cases h
      exact .list items
    | object fields =>
      cases h
      exact .object fields
  · rintro (_ | _ | _ | _) <;> rfl

/-- A claim about time: its name, what keeps the clock from having a date to compare it with, and
whether a number is right. -/
structure TimeClaim where
  name : String
  clock : Option DateFault
  test : Int → Bool

/-- The claims about time, in the order in which they are looked at. -/
def timeClaims (now : Instant) : List TimeClaim :=
  [⟨"iat", none, fun _ => true⟩,
   ⟨"nbf", now.dateFault?, fun n => n ≤ now.seconds⟩,
   ⟨"exp", now.dateFault?, fun n => now.seconds ≤ n⟩]

namespace TimeClaim

variable {c : TimeClaim} {made : Json} {why : ClaimFault}

/-- A claim that is not made, or is a right number. -/
def Holds (c : TimeClaim) (made : Json) : Prop :=
  ∀ v, made.field? c.name = some v →
    ∃ n, wholeNumber v = .ok (some n) ∧ c.clock = none ∧ c.test n = true

/-- A claim that can be no number, or is one while the clock has no date. -/
inductive Faults (c : TimeClaim) (made : Json) : ClaimFault → Prop
  | notNumber {v : Json} {why : ClaimFault} (claimed : made.field? c.name = some v)
      (no_number : IsNoNumber v why) : Faults c made why
  | noDate {v : Json} {n : Int} {why : DateFault} (claimed : made.field? c.name = some v)
      (number : wholeNumber v = .ok (some n)) (clock : c.clock = some why) :
      Faults c made (.noDate why)

theorem holds_iff : c.Holds made ↔ numberPasses made c.name c.clock c.test = .ok true := by
  unfold Holds numberPasses
  cases made.field? c.name with
  | none => simp
  | some v =>
    simp only [Option.some.injEq, forall_eq']
    cases wholeNumber v with
    | error why => simp
    | ok number =>
      cases number with
      | none => simp
      | some n => cases c.clock <;> simp

theorem faults_iff : c.Faults made why ↔ numberPasses made c.name c.clock c.test = .error why := by
  unfold numberPasses
  constructor
  · rintro (⟨claimed, no_number⟩ | ⟨claimed, number, clock⟩)
    · rw [claimed]
      dsimp only
      rw [wholeNumber_eq_error_iff.2 no_number]
    · rw [claimed, clock]
      dsimp only
      rw [number]
  · intro h
    split at h
    · cases h
    · next v claimed =>
      split at h
      · next f no_number =>
        cases h
        exact .notNumber claimed (wholeNumber_eq_error_iff.1 no_number)
      · next n d number clock =>
        cases h
        exact .noDate claimed number clock
      · cases h

end TimeClaim

/-! ## All claims -/

section

variable {checks : List (Except ClaimFault Bool)} {last : Bool} {why : ClaimFault}

/-- A chain of checks ends at the first one that does not pass. -/
theorem foldr_andThen_eq_error_iff :
    checks.foldr andThen (.ok last) = .error why ↔ ∃ before after,
      checks = before ++ .error why :: after ∧ ∀ check ∈ before, check = .ok true := by
  induction checks with
  | nil => simp
  | cons check checks ih =>
    rw [List.foldr_cons]
    constructor
    · intro h
      match check, h with
      | .ok true, h =>
        obtain ⟨before, after, rfl, pass⟩ := ih.1 h
        exact ⟨.ok true :: before, after, rfl, List.forall_mem_cons.2 ⟨rfl, pass⟩⟩
      | .error _, rfl => exact ⟨[], checks, rfl, by simp⟩
    · rintro ⟨before, after, split, pass⟩
      cases before with
      | nil =>
        cases split
        rfl
      | cons check' before =>
        obtain ⟨rfl, rfl⟩ := List.cons.inj split
        obtain ⟨rfl, rest⟩ := List.forall_mem_cons.1 pass
        exact ih.2 ⟨before, after, rfl, rest⟩

theorem foldr_andThen_eq_true_iff :
    checks.foldr andThen (.ok last) = .ok true ↔
      (∀ check ∈ checks, check = .ok true) ∧ last = true := by
  induction checks with
  | nil => simp
  | cons check checks ih =>
    rw [List.foldr_cons, List.forall_mem_cons, and_assoc, ← ih]
    match check with
    | .ok true => simp [andThen]
    | .ok false => simp [andThen]
    | .error _ => simp [andThen]

end

/-- What is claimed besides time: no audience and no other token, and if there is a subject or an id
they are texts. -/
def OthersHold (made : Json) : Prop :=
  made.field? "aud" = none ∧ textOrAbsent made "sub" = true ∧ textOrAbsent made "jti" = true ∧
    made.field? "at_hash" = none

section

variable {now : Instant} {made : Json} {why : ClaimFault}

/-- The claims are looked at one after the other. -/
theorem claimsHold_eq_foldr (now : Instant) (made : Json) :
    claimsHold now made =
      ((timeClaims now).map fun c => numberPasses made c.name c.clock c.test).foldr andThen
        (.ok ((made.field? "aud").isNone && textOrAbsent made "sub" && textOrAbsent made "jti" &&
          (made.field? "at_hash").isNone)) := rfl

theorem claimsHold_eq_true_iff :
    claimsHold now made = .ok true ↔ (∀ c ∈ timeClaims now, c.Holds made) ∧ OthersHold made := by
  rw [claimsHold_eq_foldr, foldr_andThen_eq_true_iff, List.forall_mem_map]
  simp only [TimeClaim.holds_iff, OthersHold, Bool.and_eq_true, Option.isNone_iff_eq_none,
    and_assoc]

theorem claimsHold_eq_error_iff :
    claimsHold now made = .error why ↔ ∃ before c after, timeClaims now = before ++ c :: after ∧
      (∀ b ∈ before, b.Holds made) ∧ c.Faults made why := by
  rw [claimsHold_eq_foldr, foldr_andThen_eq_error_iff]
  constructor
  · rintro ⟨passed, rest, split, pass⟩
    obtain ⟨before, more, order, rfl, tail⟩ := List.map_eq_append_iff.1 split
    obtain ⟨c, after, rfl, fault, -⟩ := List.map_eq_cons_iff.1 tail
    refine ⟨before, c, after, order, fun b mem => ?_, TimeClaim.faults_iff.2 fault⟩
    exact TimeClaim.holds_iff.2 (pass _ (List.mem_map_of_mem mem))
  · rintro ⟨before, c, after, order, holds, fault⟩
    rw [order, List.map_append, List.map_cons, TimeClaim.faults_iff.1 fault]
    refine ⟨_, _, rfl, List.forall_mem_map.2 fun b mem => ?_⟩
    exact TimeClaim.holds_iff.1 (holds b mem)

end

/-! ## Subjects -/

/-- A token that holds now, and the subject that it names. -/
inductive Names (secret : String) (now : Instant) (token : String) (subject : RawText) : Prop
  | intro {claimsPart : List UInt8} {fields : List (RawText × Json)}
      (signed : IsSigned secret token claimsPart)
      (read : readPart claimsPart = .ok (some (.object fields)))
      (in_time : ∀ c ∈ timeClaims now, c.Holds (.object fields))
      (others : OthersHold (.object fields))
      (named : Json.field? "sub" (.object fields) = some (.text subject))
      (filled : subject.isEmpty = false)

/-- A token that cannot be looked at: its header is too deep, or it is signed and its claims are too
deep, or the first of the claims about time that does not hold is a fault. -/
inductive IsIllegible (secret : String) (now : Instant) (token : String) : ClaimFault → Prop
  | header {headerPart claimsPart sealPart : List UInt8} {why : ClaimFault}
      (parts : HasParts token headerPart claimsPart sealPart) (deep : IsTooDeep headerPart why) :
      IsIllegible secret now token why
  | claims {claimsPart : List UInt8} {why : ClaimFault} (signed : IsSigned secret token claimsPart)
      (deep : IsTooDeep claimsPart why) : IsIllegible secret now token why
  | time {claimsPart : List UInt8} {fields : List (RawText × Json)} {before after : List TimeClaim}
      {c : TimeClaim} {why : ClaimFault} (signed : IsSigned secret token claimsPart)
      (read : readPart claimsPart = .ok (some (.object fields)))
      (order : timeClaims now = before ++ c :: after)
      (hold : ∀ b ∈ before, b.Holds (.object fields)) (fault : c.Faults (.object fields) why) :
      IsIllegible secret now token why

section

variable {settings : Settings} {now : Instant} {token : String} {claimsPart : List UInt8}
  {fields : List (RawText × Json)} {t : RawText} {why : ClaimFault}

theorem named?_eq_some_iff {made : Json} :
    named? made = some t ↔ made.field? "sub" = some (.text t) ∧ t.isEmpty = false := by
  unfold named?
  constructor
  · intro h
    split at h
    · next t' sub =>
      split at h
      · cases h
      · next filled =>
        cases h
        exact ⟨sub, Bool.eq_false_iff.2 filled⟩
    · cases h
  · rintro ⟨sub, filled⟩
    rw [sub]
    exact if_neg (by simp [filled])

theorem subject_of_read (signed : IsSigned settings.secret token claimsPart)
    (read : readPart claimsPart = .ok (some (.object fields))) :
    subject settings now token = (claimsHold now (.object fields)).map fun holds =>
      if holds then named? (.object fields) else none := by
  unfold subject
  rw [signed.verified?_eq, read]
  dsimp only
  cases claimsHold now (.object fields) with
  | error why => rfl
  | ok holds => cases holds <;> rfl

theorem subject_of_verified?_eq_error (h : verified? settings.secret token = .error why) :
    subject settings now token = .error why := by
  unfold subject
  rw [h]

theorem IsIllegible.subject_eq (h : IsIllegible settings.secret now token why) :
    subject settings now token = .error why := by
  cases h with
  | header parts deep =>
    have verified := verified?_of_parts settings.secret parts
    rw [readPart_eq_error_iff.2 deep] at verified
    exact subject_of_verified?_eq_error verified
  | claims signed deep =>
    exact subject_of_verified?_eq_error (signed.verified?_eq.trans (readPart_eq_error_iff.2 deep))
  | time signed read order hold fault =>
    rw [subject_of_read signed read, claimsHold_eq_error_iff.2 ⟨_, _, _, order, hold, fault⟩]
    rfl

/-- Unless it cannot be looked at, a token that does anything else than name nobody is signed, and
its claims were read. -/
theorem subject_cases (settings : Settings) (now : Instant) (token : String) :
    subject settings now token = .ok none ∨
      (∃ why, IsIllegible settings.secret now token why) ∨
      ∃ claimsPart fields, IsSigned settings.secret token claimsPart ∧
        readPart claimsPart = .ok (some (.object fields)) := by
  rcases verified?_cases settings.secret token with
    ⟨_, _, _, why, parts, deep⟩ | ⟨claimsPart, signed⟩ | verified
  · exact .inr (.inl ⟨why, .header parts deep⟩)
  · cases read : readPart claimsPart with
    | error why => exact .inr (.inl ⟨why, .claims signed (readPart_eq_error_iff.1 read)⟩)
    | ok made =>
      by_cases object : ∃ fields, made = some (.object fields)
      · obtain ⟨fields, rfl⟩ := object
        exact .inr (.inr ⟨claimsPart, fields, signed, read⟩)
      · refine .inl ?_
        unfold subject
        rw [signed.verified?_eq, read]
        split
        · next e => cases e
        · next fields e => exact absurd ⟨fields, Except.ok.inj e⟩ object
        · rfl
  · refine .inl ?_
    unfold subject
    rw [verified]

theorem subject_eq_some_iff :
    subject settings now token = .ok (some t) ↔ Names settings.secret now token t := by
  constructor
  · intro h
    rcases subject_cases settings now token with nobody | ⟨why, illegible⟩ |
      ⟨claimsPart, fields, signed, read⟩
    · rw [nobody] at h
      cases h
    · rw [illegible.subject_eq] at h
      cases h
    · rw [subject_of_read signed read] at h
      obtain ⟨holds, checked, named⟩ := exists_of_map_eq_ok h
      cases holds with
      | false => cases named
      | true =>
        obtain ⟨in_time, others⟩ := claimsHold_eq_true_iff.1 checked
        obtain ⟨sub, filled⟩ := named?_eq_some_iff.1 named
        exact ⟨signed, read, in_time, others, sub, filled⟩
  · rintro ⟨signed, read, in_time, others, sub, filled⟩
    rw [subject_of_read signed read, claimsHold_eq_true_iff.2 ⟨in_time, others⟩]
    exact congrArg Except.ok (named?_eq_some_iff.2 ⟨sub, filled⟩)

theorem subject_eq_error_iff :
    subject settings now token = .error why ↔ IsIllegible settings.secret now token why := by
  refine ⟨fun h => ?_, IsIllegible.subject_eq⟩
  rcases subject_cases settings now token with nobody | ⟨why', illegible⟩ |
    ⟨claimsPart, fields, signed, read⟩
  · rw [nobody] at h
    cases h
  · rw [illegible.subject_eq] at h
    cases h
    exact illegible
  · rw [subject_of_read signed read] at h
    have checked : claimsHold now (.object fields) = .error why := by
      cases checked : claimsHold now (.object fields) with
      | error why' =>
        rw [checked] at h
        cases h
        rfl
      | ok holds =>
        rw [checked] at h
        cases h
    obtain ⟨before, c, after, order, hold, fault⟩ := claimsHold_eq_error_iff.1 checked
    exact .time signed read order hold fault

end

/-- A token for the user `u` that is signed, and whose time of issue is null. -/
def untimed : String :=
  "eyJhbGciOiJIUzI1NiIsInR5cCI6IkpXVCJ9.eyJzdWIiOiJ1IiwiaWF0IjpudWxsfQ." ++
    "ZAyDAEIrbBu9Y6vlpRRGJhlASoAnCOeCCbDufOsb1FA"

theorem subject_untimed :
    subject Env.sample.settings Env.sample.now untimed = .error (.notNumber "NoneType") := by
  decide +kernel

/-- Whatever is sent as a token, there is a fault just if the token cannot be looked at; otherwise
it names a subject that is not empty, or nobody. A request that bears it crashes in the first case,
and in the last one its sender has to say who he is. -/
theorem token_names_subject_or_nobody_unless_illegible (env : Env) (token : String) :
    (∀ why, subject env.settings env.now token = .error why ↔
        IsIllegible env.settings.secret env.now token why) ∧
      (∀ t, subject env.settings env.now token = .ok (some t) ↔
        Names env.settings.secret env.now token t) ∧
      (∀ t, subject env.settings env.now token = .ok (some t) → t.isEmpty = false) ∧
      ∀ (s : Store) (r : Http.Request), r.credentials? = some token →
        (∀ why, subject env.settings env.now token = .error why →
          r.sender env s = .error (.crash (.bearer (.claims why)))) ∧
        (subject env.settings env.now token = .ok none →
          ∃ why, r.sender env s = .error why ∧ why.response.status = 401) := by
  refine ⟨fun why => subject_eq_error_iff, fun t => subject_eq_some_iff, fun t named => ?_,
    fun s r bears => ⟨fun why fault => ?_, fun nobody => ?_⟩⟩
  · obtain ⟨-, -, -, -, -, filled⟩ := subject_eq_some_iff.1 named
    exact filled
  · unfold Http.Request.sender Store.bearer
    rw [bears]
    dsimp only
    rw [fault]
  · refine ⟨.badCredentials, ?_, rfl⟩
    unfold Http.Request.sender Store.bearer
    rw [bears]
    dsimp only
    rw [nobody]

/-- Whoever sends a text without points as a token has to say who he is; the signed token without a
time cannot be looked at, and a request that bears it crashes. -/
theorem untimed_token_crashes_where_broken_token_is_turned_away :
    let bearing (token : String) : Http.Request :=
      ⟨"GET", "/", [("Authorization", "Bearer " ++ token)], ""⟩
    (∃ why, (bearing "x").sender .sample .sample = .error why ∧ why.response.status = 401) ∧
      IsIllegible Env.sample.settings.secret Env.sample.now untimed (.notNumber "NoneType") ∧
      (bearing untimed).sender .sample .sample =
        .error (.crash (.bearer (.claims (.notNumber "NoneType")))) := by
  intro bearing
  have broken : subject Env.sample.settings Env.sample.now "x" = .ok none := by decide +kernel
  have bears_broken : (bearing "x").credentials? = some "x" := by decide +kernel
  have bears_untimed : (bearing untimed).credentials? = some untimed := by decide +kernel
  obtain ⟨-, -, -, answer⟩ := token_names_subject_or_nobody_unless_illegible .sample "x"
  obtain ⟨fault_iff, -, -, crash⟩ := token_names_subject_or_nobody_unless_illegible .sample untimed
  exact ⟨(answer .sample _ bears_broken).2 broken, (fault_iff _).1 subject_untimed,
    (crash .sample _ bears_untimed).1 _ subject_untimed⟩

/-- A token can be a fault instead of naming somebody or nobody. -/
theorem some_token_cannot_be_looked_at :
    ¬ ∀ (settings : Settings) (now : Instant) (token : String),
      ∃ outcome, subject settings now token = .ok outcome := by
  intro always
  obtain ⟨outcome, legible⟩ := always Env.sample.settings Env.sample.now untimed
  rw [subject_untimed] at legible
  cases legible

end Token

end BoardViews
