import DealDesk.Json.Record

/-!
# Accounts

What a login tells about the account that a session deals on.
-/

namespace DealDesk

open Json

/-- The account balance: what an account holds, in its currency. -/
structure Balance where
  balance : Float
  deposit : Float
  profitLoss : Float
  available : Float

namespace Balance

def fields :=
  Fields.cons (.required "balance" Codec.real) <|
  Fields.cons (.required "deposit" Codec.real) <|
  Fields.cons (.required "profitLoss" Codec.real) <|
  Fields.cons (.required "available" Codec.real) <|
  Fields.nil

def codec : Codec Balance :=
  (fields.codec "struct AccountBalance").imap
    (fun
      | (balance, deposit, profitLoss, available, ()) =>
        { balance, deposit, profitLoss, available })
    (fun r =>
      (r.balance, r.deposit, r.profitLoss, r.available, ()))

end Balance

/-- The account summary: one of the accounts of a client. -/
structure AccountEntry where
  accountId : String
  accountName : String
  preferred : Bool
  accountType : String
deriving DecidableEq

namespace AccountEntry

def fields :=
  Fields.cons (.required "accountId" Codec.string) <|
  Fields.cons (.required "accountName" Codec.string) <|
  Fields.cons (.withDefault "preferred" Codec.flag false) <|
  Fields.cons (.required "accountType" Codec.string) <|
  Fields.nil

def codec : Codec AccountEntry :=
  (fields.codec "struct AccountSummary").imap
    (fun
      | (accountId, accountName, preferred, accountType, ()) =>
        { accountId, accountName, preferred, accountType })
    (fun r =>
      (r.accountId, r.accountName, r.preferred, r.accountType, ()))

end AccountEntry

/-- The account info: what a login tells about the account it deals on. -/
structure Account where
  accountType : String
  accountInfo : Balance
  currencyIsoCode : String
  currencySymbol : Option String
  currentAccountId : String
  lightstreamerEndpoint : Option String
  accounts : List AccountEntry
  clientId : String
  timezoneOffset : Int32
  hasActiveDemoAccounts : Bool
  hasActiveLiveAccounts : Bool
  trailingStopsEnabled : Bool
  reroutingEnvironment : Option String
  dealingEnabled : Bool

namespace Account

def fields :=
  Fields.cons (.required "accountType" Codec.string) <|
  Fields.cons (.required "accountInfo" Balance.codec) <|
  Fields.cons (.required "currencyIsoCode" Codec.string) <|
  Fields.cons (.nullable "currencySymbol" Codec.string) <|
  Fields.cons (.required "currentAccountId" Codec.string) <|
  Fields.cons (.nullable "lightstreamerEndpoint" Codec.string) <|
  Fields.cons (.withDefault "accounts" (Codec.list AccountEntry.codec) []) <|
  Fields.cons (.required "clientId" Codec.string) <|
  Fields.cons (.withDefault "timezoneOffset" Codec.int32 0) <|
  Fields.cons (.withDefault "hasActiveDemoAccounts" Codec.flag false) <|
  Fields.cons (.withDefault "hasActiveLiveAccounts" Codec.flag false) <|
  Fields.cons (.withDefault "trailingStopsEnabled" Codec.flag false) <|
  Fields.cons (.nullable "reroutingEnvironment" Codec.string) <|
  Fields.cons (.withDefault "dealingEnabled" Codec.flag false) <|
  Fields.nil

def codec : Codec Account :=
  (fields.codec "struct AccountInfo").imap
    (fun
      | (accountType, accountInfo, currencyIsoCode, currencySymbol, currentAccountId,
        lightstreamerEndpoint, accounts, clientId, timezoneOffset, hasActiveDemoAccounts,
        hasActiveLiveAccounts, trailingStopsEnabled, reroutingEnvironment, dealingEnabled,
        ()) =>
        { accountType, accountInfo, currencyIsoCode, currencySymbol, currentAccountId,
          lightstreamerEndpoint, accounts, clientId, timezoneOffset, hasActiveDemoAccounts,
          hasActiveLiveAccounts, trailingStopsEnabled, reroutingEnvironment, dealingEnabled
          })
    (fun r =>
      (r.accountType, r.accountInfo, r.currencyIsoCode, r.currencySymbol,
       r.currentAccountId, r.lightstreamerEndpoint, r.accounts, r.clientId,
       r.timezoneOffset, r.hasActiveDemoAccounts, r.hasActiveLiveAccounts,
       r.trailingStopsEnabled, r.reroutingEnvironment, r.dealingEnabled, ()))

/-- The entry of the account that the session deals on. -/
def current? (a : Account) : Option AccountEntry :=
  a.accounts.find? fun e => e.accountId = a.currentAccountId

end Account

end DealDesk
