import DealDesk.Proofs.Gateway.Client
import DealDesk.Proofs.Gateway.Desk

/-!
# Tokens from a reply into a message

A login takes its tokens from the headers of a reply, where only readable values count, and
every later message carries them in its own headers, where every value counts that holds no
control.  What is readable is such a value, and no vault changes a token, so no message is
ever held back for the tokens of a login.

**Results.** `Header.find?_eq_some_iff`: what is read of the headers of a reply.
`Header.carries_of_applyTokens`: what tokens do to any headers.
`Vault.tokens_of_load_save`: tokens outlast a vault.  `Desk.tokens_fit`: the tokens of a login
are put into any headers as they stood in the reply, and with them and its key no operation
fails for a header.
-/

namespace DealDesk
namespace Gateway

/-! ### Headers that are set -/

namespace Header

/-- What can be read as text can be the value of a header. -/
theorem isValue_of_isReadable
    {s : String} (h : isReadable s = true) :
    isValue s = true := by
  rw [isReadable, List.all_eq_true] at h
  rw [isValue, List.all_eq_true]
  intro c hc
  have hread := h c hc
  simp only [Bool.or_eq_true, decide_eq_true_eq, Bool.and_eq_true] at hread ⊢
  rcases hread with htab | ⟨hlow, hhigh⟩
  · exact .inl htab
  · exact .inr ⟨hlow, by omega⟩

/-- The header is of the name, in any case. -/
def isNamed (name : String) (h : Header) : Bool :=
  h.name.toLower = name

/-- What is found under a name is the value of the first header that has it, if it is readable. -/
theorem find?_eq_some_iff
    {headers : List Header} {name value : String} :
    find? headers name = some value
      ↔ (headers.filter (isNamed name)).head?.map Header.value = some value
        ∧ isReadable value = true := by
  have hfirst : (headers.find? fun h => h.name.toLower = name) = headers.find? (isNamed name) := rfl
  rw [List.head?_filter, find?, hfirst]
  cases headers.find? (isNamed name) with
  | none => simp
  | some found =>
      simp only [Option.map_some, Option.some.injEq]
      constructor
      · intro h
        split at h
        · rename_i hread
          cases h
          exact ⟨rfl, hread⟩
        · cases h
      · rintro ⟨rfl, hread⟩
        rw [if_pos hread]

section Set

variable {name : String} {h : Header} (hname : h.name.toLower = name)

include hname in
/-- Under the name of a header that was set there is nothing else. -/
theorem filter_set_self (headers : List Header) :
    (set headers h).filter (isNamed name) = [h] := by
  have hnone : (headers.filter fun x => x.name.toLower ≠ h.name.toLower).filter (isNamed name)
      = [] := by
    rw [List.filter_filter, List.filter_eq_nil_iff]
    intro x _
    simp [isNamed, hname]
  rw [set, List.filter_append, hnone]
  simp [isNamed, hname]

include hname in
/-- Whatever is not of its name is left as it is by a header that is set. -/
theorem filter_set_of_not_named
    {p : Header → Bool} (hp : ∀ x, isNamed name x = true → p x = false)
    (headers : List Header) :
    (set headers h).filter p = headers.filter p := by
  have hself : p h = false := hp h (by simp [isNamed, hname])
  have hrest : (headers.filter fun x => x.name.toLower ≠ h.name.toLower).filter p
      = headers.filter p := by
    rw [List.filter_filter]
    refine List.filter_congr fun x _ => ?_
    by_cases hx : x.name.toLower = name
    · simp [hname, hx, hp x (by simp [isNamed, hx])]
    · simp [hname, hx]
  rw [set, List.filter_append, hrest, List.filter_cons, hself]
  simp

end Set

end Header

/-! ### Tokens among headers -/

/-- Each of the tokens stands alone under its name; the other headers are the same. -/
structure Header.Carries (headers headers' : List Header) (clientToken securityToken : String) :
    Prop where
  client : headers'.filter (isNamed "cst") = [⟨"cst", clientToken, true⟩]
  security : headers'.filter (isNamed "x-security-token")
    = [⟨"x-security-token", securityToken, true⟩]
  others : headers'.filter (fun h => !isNamed "cst" h && !isNamed "x-security-token" h)
    = headers.filter fun h => !isNamed "cst" h && !isNamed "x-security-token" h

theorem tokenHeaders_of_isValue
    {s : Session} (hclient : Header.isValue s.clientToken = true)
    (hsecurity : Header.isValue s.securityToken = true) :
    tokenHeaders s
      = .ok [⟨"cst", s.clientToken, true⟩, ⟨"x-security-token", s.securityToken, true⟩] := by
  rw [tokenHeaders, hclient, hsecurity]
  rfl

theorem Header.carries_of_applyTokens
    {s : Session} (hclient : isValue s.clientToken = true)
    (hsecurity : isValue s.securityToken = true) (headers : List Header) :
    ∃ headers', applyTokens s headers = .ok headers'
      ∧ Carries headers headers' s.clientToken s.securityToken := by
  rw [applyTokens, tokenHeaders_of_isValue hclient hsecurity]
  refine ⟨_, rfl, ?_⟩
  rw [List.foldl_cons, List.foldl_cons, List.foldl_nil]
  -- Neither name is the other, so the second token leaves the first where it is.
  have hapart : ∀ x, isNamed "x-security-token" x = true → isNamed "cst" x = false := by
    intro x hx
    simp only [isNamed, decide_eq_true_eq] at hx
    simp [isNamed, hx]
  constructor
  · rw [filter_set_of_not_named toLower_xst hapart, filter_set_self toLower_cst]
  · rw [filter_set_self toLower_xst]
  · rw [filter_set_of_not_named toLower_xst (by simp +contextual),
      filter_set_of_not_named toLower_cst (by simp +contextual)]

/-! ### Operations that fail on the way -/

theorem RequestFailure.outcome_of_content
    {α : Type} {c : Json.Codec α} {outcome : Outcome} {fault : TransportFault}
    (h : content c outcome = .error (.transport fault)) :
    outcome = .error fault := by
  cases outcome with
  | error fault' =>
      cases h
      rfl
  | ok reply =>
      rw [content, body] at h
      cases hsuccess : reply.isSuccess with
      | true =>
          simp only [hsuccess, if_true] at h
          cases htext : c.ofText reply.body with
          | error e =>
              rw [htext] at h
              cases h
          | ok v =>
              rw [htext] at h
              cases h
      | false =>
          -- The failure of a status has that status, and a fault on the way has none.
          have hstatus := status_ofStatus reply.status reply.body
          simp only [hsuccess, Bool.false_eq_true, if_false, Except.error.injEq] at h
          rw [h] at hstatus
          cases hstatus

theorem Answer.outcome_of_transport
    {op : Operation} {outcome : Outcome} {fault : TransportFault}
    (h : ofOutcome op outcome = .error (.transport fault)) :
    outcome = .error fault := by
  have hmap {α : Type} {c : Json.Codec α} {f : α → Answer}
      (h : (RequestFailure.content c outcome).map f = .error (.transport fault)) :
      outcome = .error fault := by
    refine RequestFailure.outcome_of_content (c := c) ?_
    cases hcontent : RequestFailure.content c outcome with
    | error e =>
        rw [hcontent] at h
        cases h
        rfl
    | ok v =>
        rw [hcontent] at h
        cases h
  cases op <;> exact hmap h

/-- A client whose key and tokens are fit for headers fails on the way only if the network does. -/
theorem Client.answer_of_transport
    {c : Client} {op : Operation} {n : Network} {fault : TransportFault}
    (hfit : ∀ name, ¬ c.Unfit name)
    (h : (c.perform op n).1 = .error (.request (.transport fault))) :
    ∃ r, c.Hands op r ∧ n.answer n.sent.length r = .error fault := by
  have hperforms := c.performs op n
  have hsound : ∀ e, ¬ op.Breaks e := by
    intro e he
    rw [(hperforms.invalid e he).1] at h
    cases h
  obtain ⟨r, hhands, -, hanswer⟩ := hperforms.hands hsound hfit
  rw [hanswer] at h
  have houtcome : Answer.ofOutcome op (n.answer n.sent.length r) = .error (.transport fault) := by
    cases houtcome : Answer.ofOutcome op (n.answer n.sent.length r) with
    | error e =>
        rw [houtcome] at h
        cases h
        rfl
    | ok answer =>
        rw [houtcome] at h
        cases h
  exact ⟨r, hhands, Answer.outcome_of_transport houtcome⟩

theorem Client.not_unfit
    {c : Client} (hkey : Header.isValue c.apiKey = true)
    (hclient : Header.isValue c.session.clientToken = true)
    (hsecurity : Header.isValue c.session.securityToken = true) (name : String) :
    ¬ c.Unfit name := by
  rintro (hunfit | ⟨-, hunfit⟩ | ⟨-, -, hunfit⟩)
  · rw [hkey] at hunfit
    cases hunfit
  · rw [hclient] at hunfit
    cases hunfit
  · rw [hsecurity] at hunfit
    cases hunfit

end Gateway

/-! ### Tokens of a login -/

/-- No vault changes a token. -/
theorem Vault.tokens_of_load_save
    {v : Vault} {s t : Session} (hsave : (v.save s).1 = .ok ())
    (hload : (v.save s).2.load = .ok (some t)) :
    t.clientToken = s.clientToken ∧ t.securityToken = s.securityToken := by
  have hstores := stores_save hsave
  rw [Stores] at hstores
  rw [load] at hload
  cases hs : (v.save s).2.store with
  | memory slot =>
      simp only [hs] at hstores hload
      cases hstores
      cases hload
      exact ⟨rfl, rfl⟩
  | file safe =>
      simp only [hs] at hstores hload
      obtain ⟨nonce, hread⟩ := hstores
      obtain ⟨hreread, -⟩ := (Safe.load_encoding_iff hread t).1 hload
      rw [hreread]
      exact ⟨rfl, rfl⟩

/-- A session whose amounts read back is loaded, as it is or as its timestamp tells it. -/
theorem Vault.load_save_of_faithful
    {v : Vault} {s : Session} (hfaithful : s.Faithful) (hsave : (v.save s).1 = .ok ()) :
    (v.save s).2.load = .ok (some s)
      ∨ (v.save s).2.load = .ok (some (s.expiringAt s.expiry.told)) := by
  have hstores := stores_save hsave
  rw [Stores] at hstores
  rw [load]
  cases hs : (v.save s).2.store with
  | memory slot =>
      simp only [hs] at hstores ⊢
      exact .inl (congrArg Except.ok hstores)
  | file safe =>
      simp only [hs] at hstores ⊢
      obtain ⟨nonce, hread⟩ := hstores
      exact .inr ((Safe.load_encoding_iff hread _).2 (Session.reread_of_faithful hfaithful))

/-- The session itself, or what a vault gives back after the session was saved there. -/
inductive Session.Returns (s : Session) : Session → Prop
  | direct : Returns s s
  | saved (v : Vault) (t : Session) (hsave : (v.save s).1 = .ok ())
      (hload : (v.save s).2.load = .ok (some t)) : Returns s t

theorem Session.Returns.tokens
    {s t : Session} (h : s.Returns t) :
    t.clientToken = s.clientToken ∧ t.securityToken = s.securityToken := by
  cases h with
  | direct => exact ⟨rfl, rfl⟩
  | saved v t hsave hload => exact Vault.tokens_of_load_save hsave hload

/-- What the tokens of a session are good for, with the key of an application. -/
structure Session.Serves (t : Session) (apiKey clientToken securityToken : String) : Prop where
  /-- They go into any headers, as the texts that they are to be. -/
  applies : ∀ headers, ∃ headers', Gateway.applyTokens t headers = .ok headers'
    ∧ Gateway.Header.Carries headers headers' clientToken securityToken
  /-- No operation fails for a header of its own message. -/
  operates : ∀ (url : String) (op : Gateway.Operation) (n : Gateway.Network) (name : String),
    ((Gateway.Client.ofUrl url apiKey t).perform op n).1
        = .error (.request (.transport (.invalidHeader name))) →
      ∃ r, (Gateway.Client.ofUrl url apiKey t).Hands op r
        ∧ n.answer n.sent.length r = .error (.invalidHeader name)

theorem Session.serves_of_isValue
    {t : Session} {apiKey : String} (hkey : Gateway.Header.isValue apiKey = true)
    (hclient : Gateway.Header.isValue t.clientToken = true)
    (hsecurity : Gateway.Header.isValue t.securityToken = true) :
    t.Serves apiKey t.clientToken t.securityToken where
  applies headers := Gateway.Header.carries_of_applyTokens hclient hsecurity headers
  operates _ _ _ _ h :=
    Gateway.Client.answer_of_transport (Gateway.Client.not_unfit hkey hclient hsecurity) h

namespace Gateway

/--
The tokens of a login are those of the headers of the reply.  Whether the session is used at
once or saved and loaded before, they can be put into any headers and stand there as in the
reply, and with them and the key of the login no operation fails for a header.  A session
whose amounts are read from their printed numbers is loaded from every vault that saved it, as
it is or with the expiry that its timestamp tells.
-/
theorem Desk.tokens_fit
    {d : Desk} {now : Instant} {s : Session} (h : (d.login now).1 = .ok s) :
    ∃ reply clientToken securityToken,
      d.network.answer d.network.sent.length d.access.loginMessage = .ok reply
        ∧ (reply.headers.filter (Header.isNamed "cst")).head?.map Header.value = some clientToken
        ∧ (reply.headers.filter (Header.isNamed "x-security-token")).head?.map Header.value
          = some securityToken
        ∧ (∀ t, s.Returns t → t.Serves d.access.apiKey clientToken securityToken)
        ∧ (s.Faithful → ∀ v : Vault, (v.save s).1 = .ok () →
          (v.save s).2.load = .ok (some s)
            ∨ (v.save s).2.load = .ok (some (s.expiringAt s.expiry.told))) := by
  obtain ⟨reply, ⟨hkey, hanswer⟩, hadmits, -⟩ := (Access.login_eq_ok_iff s).1 h
  obtain ⟨hcst, hclient⟩ := Header.find?_eq_some_iff.1 hadmits.client
  obtain ⟨hxst, hsecurity⟩ := Header.find?_eq_some_iff.1 hadmits.security
  replace hclient := Header.isValue_of_isReadable hclient
  replace hsecurity := Header.isValue_of_isReadable hsecurity
  refine ⟨reply, s.clientToken, s.securityToken, hanswer, hcst, hxst, ?_,
    fun hfaithful v hsave => Vault.load_save_of_faithful hfaithful hsave⟩
  intro t ht
  obtain ⟨htclient, htsecurity⟩ := ht.tokens
  rw [← htclient] at hclient ⊢
  rw [← htsecurity] at hsecurity ⊢
  exact Session.serves_of_isValue hkey hclient hsecurity

/-- A desk logs in with a session whose tokens serve. -/
theorem Desk.tokens_fit_specimen :
    ∃ s, (Scene.specimen.desk.login Scene.specimen.now).1 = .ok s
      ∧ ∃ clientToken securityToken,
        ∀ t, s.Returns t → t.Serves "key" clientToken securityToken := by
  obtain ⟨s, hgives, -⟩ := Scene.loginGives_specimen
  have hlogin : (Scene.specimen.desk.login Scene.specimen.now).1 = .ok s :=
    Access.login_of_gives hgives
  obtain ⟨-, clientToken, securityToken, -, -, -, hserves, -⟩ := Desk.tokens_fit hlogin
  exact ⟨s, hlogin, clientToken, securityToken, hserves⟩

end Gateway
end DealDesk
