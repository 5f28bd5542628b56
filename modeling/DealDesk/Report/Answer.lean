import DealDesk.Gateway.Client
import DealDesk.Report.Holdings

/-!
# Reports on answers and on sessions

What is shown of an answer of the gateway, and of the session that a login gives.
-/

namespace DealDesk

namespace Gateway.Answer

/-- What is shown of an answer; an empty table is replaced by a sentence. -/
def report : Answer → String
  | .portfolio p => if p.positions.isEmpty then "No open positions" else p.table
  | .holding h => (Portfolio.mk [h]).table
  | .orderBook b => if b.orders.isEmpty then "No working orders" else b.table
  | .receipt r => r.dealReference
  | .confirmation c => c.report

end Gateway.Answer

namespace Session

/-- A title in front of what it is the title of. -/
def entry (title content : String) : String :=
  Text.padRight 10 (title ++ ":") ++ content

/-- What is shown of a session: the account, its owner, its balance and the time left. -/
def report (s : Session) (now : Instant) : List String :=
  let a := s.account
  [entry "Account" (a.currentAccountId ++ " (" ++ a.accountType ++ ")"),
    entry "Client" a.clientId,
    entry "Balance"
      (Layout.plain.text a.accountInfo.balance ++ " " ++ a.currencyIsoCode ++ " (available "
        ++ Layout.plain.text a.accountInfo.available ++ ")"),
    entry "Session" (s.expiry.countdown now)]

end Session
end DealDesk
