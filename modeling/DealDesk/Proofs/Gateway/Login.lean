import DealDesk.Gateway.Login

/-!
# The course of a login

A login sends one message and looks at the reply in a fixed order: the status, the
token of the client, the token of the account, the body, and at last the expiry.  What
can come of it is described by two relations that do not mention how it is computed:
one for each way to fail, and one for a session that is given.

**Results.** `Access.login_eq_error_iff` and `Access.login_eq_ok_iff`: the answer of a
login in terms of the relations.  `Access.network_login`: the message is sent exactly
once, and not at all if the key of the application cannot be a header.
-/

namespace DealDesk
namespace Gateway
namespace Access

/-- What a login sends, each header and each member with its value. -/
def loginMessage (a : Access) : Request where
  method := .post
  url := a.baseUrl ++ "/gateway/deal/session"
  headers :=
    [⟨"content-type", "application/json; charset=utf-8", false⟩,
      ⟨"accept", "application/json; charset=utf-8", false⟩,
      ⟨"version", "2", false⟩,
      ⟨"x-ig-api-key", a.apiKey, true⟩]
  body := some (.obj [(some "identifier", .str (some a.identifier)),
    (some "password", .str (some a.password))])

theorem loginRequest_of_isValue
    {a : Access} (h : Header.isValue a.apiKey = true) :
    a.loginRequest = .ok a.loginMessage := by
  have hheaders : standardHeaders a.apiKey 2 = .ok a.loginMessage.headers := if_pos h
  rw [loginRequest, hheaders]
  rfl

theorem loginRequest_of_not_isValue
    {a : Access} (h : Header.isValue a.apiKey = false) :
    a.loginRequest = .error (.invalidHeader Header.apiKeyName) := by
  have hheaders : standardHeaders a.apiKey 2 = .error (.invalidHeader Header.apiKeyName) := by
    rw [standardHeaders, h]
    rfl
  rw [loginRequest, hheaders]
  rfl

/-- The gateway answers the message of a login with a reply. -/
def Answered (a : Access) (n : Network) (reply : Reply) : Prop :=
  Header.isValue a.apiKey = true ∧ n.answer n.sent.length a.loginMessage = .ok reply

/-- The reply to a login is a success and names both tokens. -/
structure Admits (reply : Reply) (clientToken securityToken : String) : Prop where
  success : 200 ≤ reply.status ∧ reply.status < 300
  client : Header.find? reply.headers "cst" = some clientToken
  security : Header.find? reply.headers "x-security-token" = some securityToken

/-- A login at an instant over a network fails in one of seven ways. -/
inductive LoginFails (a : Access) (now : Instant) (n : Network) : LoginFailure → Prop
  | header
      (hkey : Header.isValue a.apiKey = false) :
      LoginFails a now n (.transport (.invalidHeader "x-ig-api-key"))
  | transport
      (fault : TransportFault)
      (hkey : Header.isValue a.apiKey = true)
      (hanswer : n.answer n.sent.length a.loginMessage = .error fault) :
      LoginFails a now n (.transport fault)
  | status
      (reply : Reply)
      (hreply : a.Answered n reply)
      (hstatus : ¬ (200 ≤ reply.status ∧ reply.status < 300)) :
      LoginFails a now n (.rejected reply.status (excerpt reply.body))
  | clientToken
      (reply : Reply)
      (hreply : a.Answered n reply)
      (hstatus : 200 ≤ reply.status ∧ reply.status < 300)
      (htoken : Header.find? reply.headers "cst" = none) :
      LoginFails a now n (.missingToken "CST")
  | securityToken
      (reply : Reply)
      (clientToken : String)
      (hreply : a.Answered n reply)
      (hstatus : 200 ≤ reply.status ∧ reply.status < 300)
      (hclient : Header.find? reply.headers "cst" = some clientToken)
      (htoken : Header.find? reply.headers "x-security-token" = none) :
      LoginFails a now n (.missingToken "X-SECURITY-TOKEN")
  | body
      (reply : Reply)
      (clientToken securityToken : String)
      (fault : Json.Fault)
      (hreply : a.Answered n reply)
      (hadmits : Admits reply clientToken securityToken)
      (hbody : Account.codec.ofText reply.body = .error fault) :
      LoginFails a now n (.invalidResponse fault)
  | expiry
      (reply : Reply)
      (clientToken securityToken : String)
      (account : Account)
      (hreply : a.Answered n reply)
      (hadmits : Admits reply clientToken securityToken)
      (hbody : Account.codec.ofText reply.body = .ok account)
      (hexpiry : now.add? a.lifetime = none) :
      LoginFails a now n (.endlessSession a.lifetime now)

/--
A login gives a session: the tokens are those of the headers of the reply, the account
is that of its body, and the session expires when its lifetime has passed.
-/
def LoginGives (a : Access) (now : Instant) (n : Network) (s : Session) : Prop :=
  ∃ reply, a.Answered n reply
    ∧ Admits reply s.clientToken s.securityToken
    ∧ Account.codec.ofText reply.body = .ok s.account
    ∧ now.add? a.lifetime = some s.expiry

section Answers

variable {a : Access} {now : Instant} {n : Network}

theorem isSuccess_iff (reply : Reply) :
    reply.isSuccess = true ↔ 200 ≤ reply.status ∧ reply.status < 300 := by
  simp [Reply.isSuccess]

/-- The message of a login is sent once, unless the key of the application is no header. -/
theorem network_login (a : Access) (now : Instant) (n : Network) :
    (a.login now n).2
      = if Header.isValue a.apiKey then { n with sent := n.sent ++ [a.loginMessage] } else n := by
  cases hkey : Header.isValue a.apiKey with
  | false => simp [login, loginRequest_of_not_isValue hkey]
  | true =>
      simp only [login, loginRequest_of_isValue hkey, Network.send]
      split <;> simp_all

theorem login_of_answered
    {reply : Reply} (h : a.Answered n reply) :
    (a.login now n).1 = a.sessionOfReply now reply := by
  simp only [login, loginRequest_of_isValue h.1, Network.send, h.2]

/-- What is left of a reply that is a success and names both tokens. -/
theorem sessionOfReply_of_admits
    {reply : Reply} {clientToken securityToken : String}
    (h : Admits reply clientToken securityToken) :
    a.sessionOfReply now reply
      = match Account.codec.ofText reply.body with
        | .error fault => .error (.invalidResponse fault)
        | .ok account =>
            match now.add? a.lifetime with
            | none => .error (.endlessSession a.lifetime now)
            | some expiry => .ok { clientToken, securityToken, expiry, account } := by
  have hsuccess := (isSuccess_iff reply).2 h.success
  have hclient : Header.find? reply.headers Header.clientTokenName = some clientToken := h.client
  have hsecurity :
      Header.find? reply.headers Header.securityTokenName = some securityToken := h.security
  simp only [sessionOfReply, hsuccess, hclient, hsecurity]
  rfl

theorem login_of_fails
    {e : LoginFailure} (h : a.LoginFails now n e) :
    (a.login now n).1 = .error e := by
  cases h with
  | header hkey => simp only [login, loginRequest_of_not_isValue hkey, Header.apiKeyName]
  | transport fault hkey hanswer =>
      simp only [login, loginRequest_of_isValue hkey, Network.send, hanswer]
  | status reply hreply hstatus =>
      rw [← isSuccess_iff, Bool.not_eq_true] at hstatus
      rw [login_of_answered hreply]
      simp [sessionOfReply, hstatus]
  | clientToken reply hreply hstatus htoken =>
      rw [← isSuccess_iff] at hstatus
      rw [login_of_answered hreply]
      simp [sessionOfReply, hstatus, htoken, Header.clientTokenName]
  | securityToken reply clientToken hreply hstatus hclient htoken =>
      rw [← isSuccess_iff] at hstatus
      rw [login_of_answered hreply]
      simp [sessionOfReply, hstatus, hclient, htoken, Header.clientTokenName,
        Header.securityTokenName]
  | body reply clientToken securityToken fault hreply hadmits hbody =>
      rw [login_of_answered hreply, sessionOfReply_of_admits hadmits, hbody]
  | expiry reply clientToken securityToken account hreply hadmits hbody hexpiry =>
      rw [login_of_answered hreply, sessionOfReply_of_admits hadmits, hbody, hexpiry]

theorem login_of_gives
    {s : Session} (h : a.LoginGives now n s) :
    (a.login now n).1 = .ok s := by
  obtain ⟨reply, hreply, hadmits, hbody, hexpiry⟩ := h
  rw [login_of_answered hreply, sessionOfReply_of_admits hadmits, hbody, hexpiry]

/-- A login fails in one of the seven ways or gives a session. -/
theorem loginFails_or_loginGives (a : Access) (now : Instant) (n : Network) :
    (∃ e, a.LoginFails now n e) ∨ ∃ s, a.LoginGives now n s := by
  cases hkey : Header.isValue a.apiKey with
  | false => exact .inl ⟨_, .header hkey⟩
  | true =>
      cases hanswer : n.answer n.sent.length a.loginMessage with
      | error fault => exact .inl ⟨_, .transport fault hkey hanswer⟩
      | ok reply =>
          have hreply : a.Answered n reply := ⟨hkey, hanswer⟩
          by_cases hstatus : 200 ≤ reply.status ∧ reply.status < 300
          · cases hclient : Header.find? reply.headers "cst" with
            | none => exact .inl ⟨_, .clientToken reply hreply hstatus hclient⟩
            | some clientToken =>
                cases hsecurity : Header.find? reply.headers "x-security-token" with
                | none =>
                    exact .inl ⟨_, .securityToken reply clientToken hreply hstatus hclient
                      hsecurity⟩
                | some securityToken =>
                    have hadmits : Admits reply clientToken securityToken :=
                      ⟨hstatus, hclient, hsecurity⟩
                    cases hbody : Account.codec.ofText reply.body with
                    | error fault =>
                        exact .inl ⟨_, .body reply _ _ fault hreply hadmits hbody⟩
                    | ok account =>
                        cases hexpiry : now.add? a.lifetime with
                        | none =>
                            exact .inl ⟨_, .expiry reply _ _ account hreply hadmits hbody hexpiry⟩
                        | some expiry =>
                            exact .inr ⟨⟨clientToken, securityToken, expiry, account⟩, reply,
                              hreply, hadmits, hbody, hexpiry⟩
          · exact .inl ⟨_, .status reply hreply hstatus⟩

theorem login_eq_error_iff (e : LoginFailure) :
    (a.login now n).1 = .error e ↔ a.LoginFails now n e := by
  constructor
  · intro h
    rcases a.loginFails_or_loginGives now n with ⟨e', hfails⟩ | ⟨s, hgives⟩
    · rw [login_of_fails hfails] at h
      cases h
      exact hfails
    · rw [login_of_gives hgives] at h
      cases h
  · exact login_of_fails

theorem login_eq_ok_iff (s : Session) :
    (a.login now n).1 = .ok s ↔ a.LoginGives now n s := by
  constructor
  · intro h
    rcases a.loginFails_or_loginGives now n with ⟨e, hfails⟩ | ⟨s', hgives⟩
    · rw [login_of_fails hfails] at h
      cases h
    · rw [login_of_gives hgives] at h
      cases h
      exact hgives
  · exact login_of_gives

end Answers

end Access
end Gateway
end DealDesk
