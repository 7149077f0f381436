import BoardViews.Store.Basic
import BoardViews.Token

/-
  Whom a token speaks for (`resolve_user`): the stored user whose id is the token's subject.
-/

namespace BoardViews

/-- Why it cannot be said whom a token speaks for: its claims cannot be looked at, or its subject
has no bytes to be looked up by. -/
inductive BearerFault where
  | claims (why : Token.ClaimFault)
  | subject (why : LoneHalves)
  deriving DecidableEq, Repr

/-- What people are told. -/
def BearerFault.message : BearerFault → String
  | .claims why => why.message
  | .subject why => why.message

/-- The user whom a token speaks for; nothing if the token does not hold or names no user. -/
def Store.bearer (s : Store) (settings : Settings) (now : Instant) (token : String) :
    Except BearerFault (Option User) :=
  match Token.subject settings now token with
  | .error why => .error (.claims why)
  | .ok none => .ok none
  | .ok (some subject) =>
    match subject.loneHalves? with
    | some why => .error (.subject why)
    | none => .ok (subject.string?.bind s.users.find?)

end BoardViews
