import BoardViews.Bytes.Base64
import BoardViews.Bytes.Sha256
import BoardViews.Json.Reader
import BoardViews.Json.Writer
import BoardViews.Settings
import BoardViews.Text.DecimalDigit
import BoardViews.Time

/-
  Bearer tokens: three parts joined by points, header, claims and signature, each in Base64.
  `issue` is `create_access_token` and `subject` is `decode_token_subject`, both with the
  algorithm `HS256` that is the default. The claims name a subject and the second at which the
  token ends. A token that does not hold gives no subject; only claims of a kind that cannot be a
  number at all are a fault, which `decode_token_subject` does not catch.
-/

namespace BoardViews.Token

/-- Why a token cannot be looked at: a claim cannot be a number, the clock has no date to compare
it with, or a part holds lists or objects too deep in each other. -/
inductive ClaimFault where
  | notNumber (kind : String)
  | infinite
  | noDate (why : DateFault)
  | tooDeep (part : String)
  deriving DecidableEq, Repr

/-- What people are told. -/
def ClaimFault.message : ClaimFault → String
  | .notNumber kind =>
    "int() argument must be a string, a bytes-like object or a real number, not '" ++ kind ++ "'"
  | .infinite => "cannot convert float infinity to integer"
  | .noDate why => why.message
  | .tooDeep part => Json.depthMessage part

/-- A text as bytes. -/
def bytes (s : String) : List UInt8 := s.toUTF8.data.toList

/-- Bytes as a text, if they are one. -/
def text? (bs : List UInt8) : Option String := String.fromUTF8? ⟨bs.toArray⟩

/-- The bytes of a text are that text. -/
theorem text?_bytes (s : String) : text? (bytes s) = some s := by
  unfold text? bytes
  rw [Array.toArray_toList, String.toUTF8_eq_toByteArray]
  simp only [String.fromUTF8?, dif_pos s.isValidUTF8]
  rfl

/-- Bytes as a text, one character each. -/
def latin (bs : List UInt8) : String := String.ofList (bs.map fun b => Char.ofNat b.toNat)

/-- The point between two parts. -/
def point : UInt8 := 46

/-! ## Making tokens -/

/-- The header of every token. -/
def header : Json := .record [("alg", .text "HS256"), ("typ", .text "JWT")]

/-- The claims of a token for a user, up to a second. -/
def claims (user : String) (second : Int) : Json :=
  .record [("sub", .text user), ("exp", .int second)]

/-- The bytes that are signed: header and claims, joined by a point. -/
def signedPart (header claims : Json) : List UInt8 :=
  Base64.encode (bytes (header.write Json.dense)) ++
    point :: Base64.encode (bytes (claims.write Json.dense))

/-- The signature of bytes under a secret. -/
def signature (secret : String) (signed : List UInt8) : List UInt8 :=
  Sha256.keyedDigest (bytes secret) signed

/-- The lifetime in minutes; zero stands for the default. -/
def lifetime (settings : Settings) (minutes : Option Int) : Int :=
  match minutes with
  | none => settings.tokenMinutes
  | some m => if m = 0 then settings.tokenMinutes else m

/-- The end of a token that is made now. -/
def ending (now : Instant) (minutes : Int) : Except DateFault Instant :=
  let t := now.plusMinutes minutes
  match now.dateFault?, spanFault? (minutes / 1440) with
  | some f, _ => .error f
  | none, some f => .error f
  | none, none => if t.isDated then .ok t else .error .outOfRange

/-- A token for a user (`create_access_token`). -/
def issue (settings : Settings) (now : Instant) (user : String) (minutes : Option Int) :
    Except DateFault String :=
  match ending now (lifetime settings minutes) with
  | .error f => .error f
  | .ok t =>
    let signed := signedPart header (claims user t.seconds)
    .ok (latin (signed ++ point :: Base64.encode (signature settings.secret signed)))

/-! ## Reading tokens -/

/-- Splits bytes at the first point. -/
def splitFirst? : List UInt8 → Option (List UInt8 × List UInt8)
  | [] => none
  | b :: bs => if b = point then some ([], bs) else (splitFirst? bs).map fun r => (b :: r.1, r.2)

/-- Splits bytes at the last point. -/
def splitLast? (bs : List UInt8) : Option (List UInt8 × List UInt8) :=
  (splitFirst? bs.reverse).map fun r => (r.2.reverse, r.1.reverse)

/-- A part that holds JSON; nothing if it does not. -/
def readPart (part : List UInt8) : Except ClaimFault (Option Json) :=
  match (Base64.decode part).bind text? with
  | none => .ok none
  | some s =>
    match Json.read (.whole s) with
    | .ok v => .ok (some v)
    | .error ⟨.tooDeep part, _⟩ => .error (.tooDeep part)
    | .error _ => .ok none

/-- Whether a header is that of a token with the right algorithm. -/
def isHeader (header : Option Json) : Bool :=
  (header.bind (Json.field? "alg")) matches some (.text (.whole "HS256"))

/-- The claims of a token whose header names the algorithm and whose signature is right. -/
def verified? (secret token : String) : Except ClaimFault (Option Json) :=
  match splitLast? (bytes token) with
  | none => .ok none
  | some (signed, sealPart) =>
    match splitFirst? signed with
    | none => .ok none
    | some (headerPart, claimsPart) =>
      (readPart headerPart).bind fun header =>
        if isHeader header ∧ Base64.decode sealPart = some (signature secret signed) then
          readPart claimsPart
        else .ok none

/-- A number in a text: blanks around it, a sign, digits of any script with single underscores
between them. -/
def readNumber? (s : String) : Option Int :=
  let (negative, body) := Text.spanSign (Text.trim Text.isSpace s.toList)
  match Text.spanGrouped? Text.scriptDigit? body with
  | some (ds, []) =>
    if ds.length ≤ Json.maxIntegerDigits then some (Text.signed negative (Text.digitsValue ds))
    else none
  | _ => none

/-- The whole number that a claim stands for; nothing if it is a text or a number without one. -/
def wholeNumber : Json → Except ClaimFault (Option Int)
  | .int n => .ok (some n)
  | .bool b => .ok (some (if b then 1 else 0))
  | .real (.infinite _) => .error .infinite
  | .real x => .ok x.truncate?
  | .text t => .ok (t.string?.bind readNumber?)
  | v => .error (.notNumber v.kindName)

/-- Whether a claim, if it is made, is a number that passes a test; for a test against the clock
there has to be a date. -/
def numberPasses (claims : Json) (name : String) (clock : Option DateFault) (test : Int → Bool) :
    Except ClaimFault Bool :=
  match claims.field? name with
  | none => .ok true
  | some v =>
    match wholeNumber v, clock with
    | .error f, _ => .error f
    | .ok (some _), some why => .error (.noDate why)
    | .ok n, _ => .ok (n.any test)

/-- Whether a claim, if it is made, is a text. -/
def textOrAbsent (claims : Json) (name : String) : Bool :=
  match claims.field? name with
  | none | some (.text _) => true
  | _ => false

/-- The second of two checks is made only if the first one passes. -/
def andThen (first second : Except ClaimFault Bool) : Except ClaimFault Bool :=
  match first with
  | .ok true => second
  | r => r

/-- Whether the claims hold now. The token must not name an audience or be tied to another one. -/
def claimsHold (now : Instant) (claims : Json) : Except ClaimFault Bool :=
  andThen (numberPasses claims "iat" none fun _ => true) <|
  andThen (numberPasses claims "nbf" now.dateFault? fun n => n ≤ now.seconds) <|
  andThen (numberPasses claims "exp" now.dateFault? fun n => now.seconds ≤ n) <|
  .ok ((claims.field? "aud").isNone && textOrAbsent claims "sub" && textOrAbsent claims "jti" &&
    (claims.field? "at_hash").isNone)

/-- The subject that claims name, if it is not empty. -/
def named? (claims : Json) : Option RawText :=
  match claims.field? "sub" with
  | some (.text t) => if t.isEmpty then none else some t
  | _ => none

/-- The subject that a token was made for; nothing if the token does not hold
(`decode_token_subject`). -/
def subject (settings : Settings) (now : Instant) (token : String) :
    Except ClaimFault (Option RawText) :=
  match verified? settings.secret token with
  | .error f => .error f
  | .ok (some (.object fields)) =>
    match claimsHold now (.object fields) with
    | .ok true => .ok (named? (.object fields))
    | .ok false => .ok none
    | .error f => .error f
  | .ok _ => .ok none

end BoardViews.Token
