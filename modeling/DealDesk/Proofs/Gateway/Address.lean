import DealDesk.Proofs.Gateway.Client
import DealDesk.Proofs.Gateway.Url
import DealDesk.Proofs.Session.Record

/-!
# What the message of an operation addresses

Five operations name a deal by a text that whoever asks for them chooses.  The text goes into
the path as it is, behind the fixed names of the endpoint.

**Results.** `Url.plain_of_isDealReference`: a reference of the right form is plain unless it is
points.  `Client.addresses_iff_plain`: the message of such an operation addresses what the text
names exactly if the text is plain.  `Client.call_goes_astray`: a text that is not plain makes
another endpoint of the call.
-/

namespace DealDesk
namespace Gateway

/-- The operation names a deal by a text, behind the fixed names of its endpoint. -/
inductive Operation.Names : Operation → List String → String → Prop
  | openPosition (dealId : String) :
      Names (.openPosition dealId) ["gateway", "deal", "positions"] dealId
  | updatePosition (dealId : String) (r : Amendment) :
      Names (.updatePosition dealId r) ["gateway", "deal", "positions", "otc"] dealId
  | updateWorkingOrder (dealId : String) (r : Revision) :
      Names (.updateWorkingOrder dealId r) ["gateway", "deal", "workingorders", "otc"] dealId
  | deleteWorkingOrder (dealId : String) :
      Names (.deleteWorkingOrder dealId) ["gateway", "deal", "workingorders", "otc"] dealId
  | dealConfirmation (dealReference : String) :
      Names (.dealConfirmation dealReference) ["gateway", "deal", "confirms"] dealReference

namespace Operation.Names

variable {op : Operation} {fixed : List String} {id : String}

theorem path_eq
    (h : op.Names fixed id) :
    op.path = "/" ++ Url.pathTo fixed id := by
  rw [Url.pathTo_append, ← String.append_assoc]
  cases h with
  | openPosition =>
      exact congrArg (· ++ _) (show "/gateway/deal/positions/" = _ by decide +kernel)
  | updatePosition =>
      exact congrArg (· ++ _) (show "/gateway/deal/positions/otc/" = _ by decide +kernel)
  | updateWorkingOrder =>
      exact congrArg (· ++ _) (show "/gateway/deal/workingorders/otc/" = _ by decide +kernel)
  | deleteWorkingOrder =>
      exact congrArg (· ++ _) (show "/gateway/deal/workingorders/otc/" = _ by decide +kernel)
  | dealConfirmation =>
      exact congrArg (· ++ _) (show "/gateway/deal/confirms/" = _ by decide +kernel)

theorem isFixed
    (h : op.Names fixed id) :
    ∀ s ∈ fixed, Url.isFixed s.toList = true := by
  cases h <;> decide +kernel

/-- The message of the operation, whatever is to be sent, addresses by the text alone. -/
theorem addresses_iff
    (h : op.Names fixed id) {base : String} {root : Url.Parts}
    (hbase : Url.parts? (base ++ "/") = some root) (hroot : root.IsRoot) :
    Url.Addresses root fixed id (base ++ op.path) ↔ Url.Plain id.toList := by
  rw [h.path_eq, ← String.append_assoc]
  exact Url.addresses_iff hbase hroot h.isFixed id

end Operation.Names

theorem Operation.url_of_request
    {op : Operation} {c : Client} {r : Request} (h : op.request c = .ok r) :
    r.url = c.baseUrl ++ op.path := by
  rw [request] at h
  cases hcheck : op.check with
  | error e =>
      rw [hcheck] at h
      cases h
  | ok u =>
      cases hheaders : sessionHeaders c.apiKey op.version c.session with
      | error fault =>
          rw [hcheck, hheaders] at h
          cases h
      | ok headers =>
          rw [hcheck, hheaders] at h
          cases h
          rfl

/-- A reference of the right form is plain unless it is points. -/
theorem Url.plain_of_isDealReference
    {s : String} (h : Format.isDealReference s = true) (hone : s ≠ ".") (htwo : s ≠ "..") :
    Plain s.toList := by
  have hkind : ∀ c ∈ s.toList,
      (Format.isAlphanumeric c || c == '.' || c == '_' || c == '-') = true := by
    rw [Format.isDealReference, Format.isRow, Bool.and_eq_true] at h
    exact List.all_eq_true.1 h.2
  have hother {c d : Char} (hc : c ∈ s.toList)
      (hd : (Format.isAlphanumeric d || d == '.' || d == '_' || d == '-') = false) : c ≠ d := by
    rintro rfl
    rw [hkind c hc] at hd
    cases hd
  constructor
  · intro c hc
    exact ⟨hother hc (by decide), hother hc (by decide), hother hc (by decide),
      hother hc (by decide)⟩
  · intro c hc
    exact ⟨hother hc (by decide), hother hc (by decide), hother hc (by decide)⟩
  · intro c hc
    have hc' := hkind c (List.mem_of_getLast? hc)
    simp only [Format.isAlphanumeric, Format.isLetter, Format.isDigit, Bool.or_eq_true,
      Bool.and_eq_true, decide_eq_true_eq, beq_iff_eq] at hc'
    rcases hc' with (((((⟨hlow, -⟩ | ⟨hlow, -⟩) | ⟨hlow, -⟩) | rfl) | rfl) | rfl)
    · exact Nat.lt_of_lt_of_le (by decide : 32 < 'A'.toNat) hlow
    · exact Nat.lt_of_lt_of_le (by decide : 32 < 'a'.toNat) hlow
    · exact Nat.lt_of_lt_of_le (by decide : 32 < '0'.toNat) hlow
    · decide
    · decide
    · decide
  · exact ⟨fun hs => hone (String.toList_inj.1 hs), fun hs => htwo (String.toList_inj.1 hs)⟩
  · rintro ds hds ⟨x, y, r, rfl, -, -⟩
    exact hother (hds.mem List.mem_cons_self) (by decide) rfl

/-- A client of a gateway whose URL is a root, with tokens that are fit for headers. -/
def Client.specimen : Client :=
  Client.ofUrl "https://api.example.com/" "key"
    { Session.specimen with clientToken := "client", securityToken := "account" }

/-- The parts of the URL of the specimen. -/
def Url.Parts.specimen : Url.Parts where
  scheme := "https:".toList
  host := "api.example.com".toList
  segments := [[]]
  query := []
  fragment := []

theorem Url.parts?_specimen :
    Url.parts? (Client.specimen.baseUrl ++ "/") = some .specimen := by
  decide +kernel

theorem Url.isRoot_specimen : Url.Parts.specimen.IsRoot :=
  ⟨by decide, rfl, rfl⟩

/--
Whatever text an operation names a deal by, its message addresses what the text names under
the URL of the client exactly if the text is plain.
-/
theorem Client.addresses_iff_plain
    {c : Client} {root : Url.Parts} (hbase : Url.parts? (c.baseUrl ++ "/") = some root)
    (hroot : root.IsRoot) {op : Operation} {fixed : List String} {id : String}
    (hop : op.Names fixed id) (n : Network) :
    ∃ rs, (c.perform op n).2.sent = n.sent ++ rs ∧ rs.length ≤ 1
      ∧ ∀ r ∈ rs, Url.Addresses root fixed id r.url ↔ Url.Plain id.toList := by
  cases hrequest : op.request c with
  | error e =>
      rw [perform_of_error hrequest]
      exact ⟨[], (List.append_nil _).symm, Nat.zero_le 1, by simp⟩
  | ok r =>
      refine ⟨[r], sent_perform hrequest n, Nat.le_refl 1, fun r' hr' => ?_⟩
      rw [List.mem_singleton.1 hr', Operation.url_of_request hrequest]
      exact hop.addresses_iff hbase hroot

/-- A deal that is asked for by its reference is addressed. -/
theorem Client.addresses_iff_plain_specimen :
    ∃ r, (Client.specimen.perform (.dealConfirmation "DIAAA.1") .unreachable).2.sent = [r]
      ∧ Url.Addresses .specimen ["gateway", "deal", "confirms"] "DIAAA.1" r.url := by
  obtain ⟨r, hrequest⟩ : ∃ r, Operation.request (.dealConfirmation "DIAAA.1") Client.specimen
      = .ok r := ⟨_, rfl⟩
  obtain ⟨rs, hsent, -, hplain⟩ := Client.addresses_iff_plain Url.parts?_specimen
    Url.isRoot_specimen (.dealConfirmation "DIAAA.1") .unreachable
  have hone : rs = [r] := hsent.symm.trans (sent_perform hrequest .unreachable)
  refine ⟨r, hsent.trans hone, (hplain r (by simp [hone])).2 ?_⟩
  exact Url.plain_of_isDealReference (by decide +kernel) (by decide) (by decide)

/--
A deal that is asked for by a path to the working orders is not addressed: the message is
the one that asks for all working orders.
-/
theorem Client.call_goes_astray :
    ∃ r w, (Client.specimen.perform (.openPosition "../workingorders") .unreachable).2.sent = [r]
      ∧ ¬ Url.Addresses .specimen ["gateway", "deal", "positions"] "../workingorders" r.url
      ∧ (Client.specimen.perform .workingOrders .unreachable).2.sent = [w]
      ∧ r = { w with url := r.url } ∧ Url.settled? r.url = Url.settled? w.url := by
  obtain ⟨r, hr⟩ : ∃ r, Operation.request (.openPosition "../workingorders") Client.specimen
      = .ok r := ⟨_, rfl⟩
  obtain ⟨w, hw⟩ : ∃ w, Operation.request .workingOrders Client.specimen = .ok w := ⟨_, rfl⟩
  refine ⟨r, w, sent_perform hr .unreachable, ?_, sent_perform hw .unreachable, ?_, ?_⟩
  · rw [Operation.url_of_request hr,
      (Operation.Names.openPosition _).addresses_iff Url.parts?_specimen Url.isRoot_specimen]
    intro hplain
    exact (hplain.whole '/' (by decide)).1 rfl
  · cases hr
    cases hw
    rfl
  · rw [Operation.url_of_request hr, Operation.url_of_request hw]
    decide +kernel

end Gateway
end DealDesk
