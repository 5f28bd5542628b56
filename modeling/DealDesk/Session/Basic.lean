import DealDesk.Deal.Account
import DealDesk.Text.Layout

/-!
# Sessions

A login gives a session: two tokens that grant access until an instant, and the
account that is dealt on.  A session is made once and never changed; the next
login makes another one.

**Results.** A session is valid for a margin if the margin ends at an instant before the expiry.
-/

namespace DealDesk

open Json

/-- Credentials: two tokens that grant access until an instant. -/
structure Session where
  clientToken : String
  securityToken : String
  expiry : Instant
  account : Account

namespace Session

def fields :=
  Fields.cons (.required "cst_token" Codec.string) <|
  Fields.cons (.required "security_token" Codec.string) <|
  Fields.cons (.required "expiry" Codec.instant) <|
  Fields.cons (.required "account_info" Account.codec) <|
  Fields.nil

def codec : Codec Session :=
  (fields.codec "struct Credentials").imap
    (fun
      | (clientToken, securityToken, expiry, account, ()) =>
        { clientToken, securityToken, expiry, account })
    (fun r =>
      (r.clientToken, r.securityToken, r.expiry, r.account, ()))

/--
The session still grants access when the margin has passed.  None does at a
time that no instant stands for.
-/
def isValidAt (s : Session) (now : Instant) (margin : Span) : Bool :=
  match now.add? margin with
  | none => false
  | some deadline => deadline.before s.expiry

theorem isValidAt_iff_exists
    {s : Session} {now : Instant} {margin : Span} :
    s.isValidAt now margin = true
      ↔ ∃ deadline, now.add? margin = some deadline ∧ deadline.before s.expiry = true := by
  rw [isValidAt]
  cases now.add? margin with
  | none => simp
  | some deadline => simp

/-- The time until the session expires; below zero once it has. -/
def remaining (s : Session) (now : Instant) : Span :=
  s.expiry.since now

/-- Whole minutes until the session expires; zero once it has. -/
def minutesLeft (s : Session) (now : Instant) : Nat :=
  (s.remaining now).minutes.toNat

end Session

/-- How long an expiry is away, in hours and minutes, and when it is. -/
def Instant.countdown (expiry now : Instant) : String :=
  let left := expiry.since now
  if left.seconds ≤ 0 then "expired"
  else
    "expires in " ++ String.ofList (intText (left.minutes / 60)) ++ "h "
      ++ String.ofList (intText (left.minutes % 60)) ++ "m ("
      ++ expiry.hourAndMinute ++ " UTC)"

end DealDesk
