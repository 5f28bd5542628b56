import DealDesk.Proofs.Json.Form
import DealDesk.Rules.Ticket

/-!
# Tickets by their members

The form of each kind of request says which members it knows, which of them it cannot do
without, and what each may hold.  A ticket is read from an object exactly when the form
accepts its members, and what is read is settled by the members that the form knows:
neither their order nor the members beside them make a difference, and what may be left
out may also be said.

**Results.** `Ticket.ofText_follows_form`: the texts that hold a ticket, and those that hold
the same one.
-/

namespace DealDesk

open Json

namespace RuleSet

/-! ### Forms -/

/-- Which way a deal goes. -/
def sideWords : Want := .word ["BUY", "SELL"]

/-- How the price of a deal is found. -/
def pricingWords : Want := .word ["LIMIT", "MARKET", "QUOTE"]

/-- What becomes of a deal that is not filled at once. -/
def fillingWords : Want := .word ["EXECUTE_AND_ELIMINATE", "FILL_OR_KILL"]

/-- How long a working order waits. -/
def durationWords : Want := .word ["GOOD_TILL_CANCELLED", "GOOD_TILL_DATE"]

/-- Which side of the market a working order waits on. -/
def triggerWords : Want := .word ["LIMIT", "STOP"]

/-- The members of a request of each kind. -/
def form : RuleSet → List Entry
  | .createPosition => [
      ⟨"currencyCode", .text, .required⟩,
      ⟨"direction", sideWords, .required⟩,
      ⟨"epic", .text, .required⟩,
      ⟨"expiry", .text, .required⟩,
      ⟨"forceOpen", .flag, .required⟩,
      ⟨"guaranteedStop", .flag, .required⟩,
      ⟨"orderType", pricingWords, .required⟩,
      ⟨"timeInForce", fillingWords, .required⟩,
      ⟨"trailingStop", .flag, .required⟩,
      ⟨"size", .amount, .required⟩,
      ⟨"dealReference", .text, .optional⟩,
      ⟨"level", .amount, .optional⟩,
      ⟨"limitDistance", .amount, .optional⟩,
      ⟨"limitLevel", .amount, .optional⟩,
      ⟨"quoteId", .text, .optional⟩,
      ⟨"stopDistance", .amount, .optional⟩,
      ⟨"stopLevel", .amount, .optional⟩,
      ⟨"trailingStopIncrement", .amount, .optional⟩]
  | .closePosition => [
      ⟨"direction", sideWords, .required⟩,
      ⟨"orderType", pricingWords, .required⟩,
      ⟨"size", .amount, .required⟩,
      ⟨"timeInForce", fillingWords, .required⟩,
      ⟨"dealId", .text, .optional⟩,
      ⟨"epic", .text, .optional⟩,
      ⟨"expiry", .text, .optional⟩,
      ⟨"level", .amount, .optional⟩,
      ⟨"quoteId", .text, .optional⟩]
  | .updatePosition => [
      ⟨"guaranteedStop", .flag, .defaulted⟩,
      ⟨"trailingStop", .flag, .defaulted⟩,
      ⟨"limitLevel", .amount, .optional⟩,
      ⟨"stopLevel", .amount, .optional⟩,
      ⟨"trailingStopDistance", .amount, .optional⟩,
      ⟨"trailingStopIncrement", .amount, .optional⟩]
  | .createWorkingOrder => [
      ⟨"currencyCode", .text, .required⟩,
      ⟨"direction", sideWords, .required⟩,
      ⟨"epic", .text, .required⟩,
      ⟨"expiry", .text, .required⟩,
      ⟨"forceOpen", .flag, .defaulted⟩,
      ⟨"guaranteedStop", .flag, .required⟩,
      ⟨"level", .amount, .required⟩,
      ⟨"size", .amount, .required⟩,
      ⟨"timeInForce", durationWords, .required⟩,
      ⟨"type", triggerWords, .required⟩,
      ⟨"dealReference", .text, .optional⟩,
      ⟨"goodTillDate", .text, .optional⟩,
      ⟨"limitDistance", .amount, .optional⟩,
      ⟨"limitLevel", .amount, .optional⟩,
      ⟨"stopDistance", .amount, .optional⟩,
      ⟨"stopLevel", .amount, .optional⟩]
  | .updateWorkingOrder => [
      ⟨"guaranteedStop", .flag, .defaulted⟩,
      ⟨"level", .amount, .required⟩,
      ⟨"timeInForce", durationWords, .required⟩,
      ⟨"type", triggerWords, .required⟩,
      ⟨"goodTillDate", .text, .optional⟩,
      ⟨"limitDistance", .amount, .optional⟩,
      ⟨"limitLevel", .amount, .optional⟩,
      ⟨"stopDistance", .amount, .optional⟩,
      ⟨"stopLevel", .amount, .optional⟩]

theorem distinct_form (kind : RuleSet) : (kind.form.map Entry.key).Nodup := by
  cases kind <;> decide

end RuleSet

/-! ### Codecs of requests -/

theorem Side.codec_wants : Side.codec.Wants RuleSet.sideWords :=
  Codec.named_wants (n := Side.names) rfl

theorem Pricing.codec_wants : Pricing.codec.Wants RuleSet.pricingWords :=
  Codec.named_wants (n := Pricing.names) rfl

theorem Filling.codec_wants : Filling.codec.Wants RuleSet.fillingWords :=
  Codec.named_wants (n := Filling.names) rfl

theorem Duration.codec_wants : Duration.codec.Wants RuleSet.durationWords :=
  Codec.named_wants (n := Duration.names) rfl

theorem Trigger.codec_wants : Trigger.codec.Wants RuleSet.triggerWords :=
  Codec.named_wants (n := Trigger.names) rfl

section

open Entry.Describes Codec

theorem Opening.follows_form :
    Opening.codec.Follows RuleSet.createPosition.form := by
  refine Follows.imap (fun _ => rfl) (fun _ => rfl) ?_
  refine fields.follows ?_ (RuleSet.distinct_form .createPosition) _
  exact .cons (required string_wants _) <| .cons (required Side.codec_wants _) <|
    .cons (required string_wants _) <| .cons (required string_wants _) <|
    .cons (required flag_wants _) <| .cons (required flag_wants _) <|
    .cons (required Pricing.codec_wants _) <| .cons (required Filling.codec_wants _) <|
    .cons (required flag_wants _) <| .cons (required decimal_wants _) <|
    .cons (elided string_wants _) <| .cons (elided decimal_wants _) <|
    .cons (elided decimal_wants _) <| .cons (elided decimal_wants _) <|
    .cons (elided string_wants _) <| .cons (elided decimal_wants _) <|
    .cons (elided decimal_wants _) <| .cons (elided decimal_wants _) .nil

theorem Closing.follows_form :
    Closing.codec.Follows RuleSet.closePosition.form := by
  refine Follows.imap (fun _ => rfl) (fun _ => rfl) ?_
  refine fields.follows ?_ (RuleSet.distinct_form .closePosition) _
  exact .cons (required Side.codec_wants _) <| .cons (required Pricing.codec_wants _) <|
    .cons (required decimal_wants _) <| .cons (required Filling.codec_wants _) <|
    .cons (elided string_wants _) <| .cons (elided string_wants _) <|
    .cons (elided string_wants _) <| .cons (elided decimal_wants _) <|
    .cons (elided string_wants _) .nil

theorem Amendment.follows_form :
    Amendment.codec.Follows RuleSet.updatePosition.form := by
  refine Follows.imap (fun _ => rfl) (fun _ => rfl) ?_
  refine fields.follows ?_ (RuleSet.distinct_form .updatePosition) _
  exact .cons (withDefault _) <| .cons (withDefault _) <|
    .cons (elided decimal_wants _) <| .cons (elided decimal_wants _) <|
    .cons (elided decimal_wants _) <| .cons (elided decimal_wants _) .nil

theorem Placement.follows_form :
    Placement.codec.Follows RuleSet.createWorkingOrder.form := by
  refine Follows.imap (fun _ => rfl) (fun _ => rfl) ?_
  refine fields.follows ?_ (RuleSet.distinct_form .createWorkingOrder) _
  exact .cons (required string_wants _) <| .cons (required Side.codec_wants _) <|
    .cons (required string_wants _) <| .cons (required string_wants _) <|
    .cons (withDefault _) <| .cons (required flag_wants _) <|
    .cons (required decimal_wants _) <| .cons (required decimal_wants _) <|
    .cons (required Duration.codec_wants _) <| .cons (required Trigger.codec_wants _) <|
    .cons (elided string_wants _) <| .cons (elided string_wants _) <|
    .cons (elided decimal_wants _) <| .cons (elided decimal_wants _) <|
    .cons (elided decimal_wants _) <| .cons (elided decimal_wants _) .nil

theorem Revision.follows_form :
    Revision.codec.Follows RuleSet.updateWorkingOrder.form := by
  refine Follows.imap (fun _ => rfl) (fun _ => rfl) ?_
  refine fields.follows ?_ (RuleSet.distinct_form .updateWorkingOrder) _
  exact .cons (withDefault _) <| .cons (required decimal_wants _) <|
    .cons (required Duration.codec_wants _) <| .cons (required Trigger.codec_wants _) <|
    .cons (elided string_wants _) <| .cons (elided decimal_wants _) <|
    .cons (elided decimal_wants _) <| .cons (elided decimal_wants _) <|
    .cons (elided decimal_wants _) .nil

end

namespace Ticket

/-! ### Texts of tickets -/

/-- A text holds the request that another one holds, and so one that breaks the same rules. -/
structure SameIn (kind : RuleSet) (s s' : String) : Prop where
  request : ∀ t, ofText kind s' = .ok t ↔ ofText kind s = .ok t
  violations : ∀ {t t'}, ofText kind s = .ok t → ofText kind s' = .ok t' →
    t'.violations = t.violations

/-- What is read for a kind is the request of one codec, and that follows the form. -/
theorem exists_codec (kind : RuleSet) :
    ∃ (α : Type) (c : Codec α) (f : α → Ticket), c.Follows kind.form
      ∧ ∀ s, ofText kind s = (c.ofText s).map f := by
  cases kind with
  | createPosition => exact ⟨_, _, opening, Opening.follows_form, fun _ => rfl⟩
  | closePosition => exact ⟨_, _, closing, Closing.follows_form, fun _ => rfl⟩
  | updatePosition => exact ⟨_, _, amendment, Amendment.follows_form, fun _ => rfl⟩
  | createWorkingOrder => exact ⟨_, _, placement, Placement.follows_form, fun _ => rfl⟩
  | updateWorkingOrder => exact ⟨_, _, revision, Revision.follows_form, fun _ => rfl⟩

theorem exists_ofText_iff
    (kind : RuleSet) {s : String} {ms : List (String × Doc)} (hs : Spells s ms) :
    (∃ t, ofText kind s = .ok t) ↔ Accepts kind.form ms := by
  obtain ⟨α, c, f, hc, hread⟩ := exists_codec kind
  rw [hread, Codec.exists_map_eq_ok_iff, hc.exists_ofText_iff hs]

theorem sameIn_of_agree
    (kind : RuleSet) {s s' : String} {ms ms' : List (String × Doc)} (hs : Spells s ms)
    (hs' : Spells s' ms') (hagree : Agree kind.form ms ms') :
    SameIn kind s s' := by
  obtain ⟨α, c, f, hc, hread⟩ := exists_codec kind
  have hrequest : ∀ t, ofText kind s' = .ok t ↔ ofText kind s = .ok t := by
    intro t
    simp only [hread, Codec.map_eq_ok_iff_exists, hc.ofText_iff_of_agree hs hs' hagree]
  refine ⟨hrequest, fun ht ht' => ?_⟩
  rw [hrequest, ht, Except.ok.injEq] at ht'
  rw [ht']

/--
For every kind of request and every text of an object with distinct names: a ticket is
read exactly when the required members are there and the known ones fit, where nothing
fits the optional ones alone.  Texts whose known members tell the same hold the same
ticket; so do those that differ in the order of the members, in members that the kind
does not know, and in members that say what their absence says.
-/
theorem ofText_follows_form
    (kind : RuleSet) {s : String} {ms : List (String × Doc)} (hs : Spells s ms) :
    ((∃ t, ofText kind s = .ok t) ↔ Accepts kind.form ms)
      ∧ (∀ e ∈ kind.form, e.Admits .null ↔ e.need = .optional)
      ∧ ∀ {s' : String} {ms' : List (String × Doc)}, Spells s' ms' →
          Agree kind.form ms ms' ∨ Rewords kind.form ms ms' → SameIn kind s s' := by
  refine ⟨exists_ofText_iff kind hs, fun e _ => e.admits_null_iff, ?_⟩
  rintro s' ms' hs' (hagree | hrewords)
  · exact sameIn_of_agree kind hs hs' hagree
  · exact sameIn_of_agree kind hs hs' (hrewords.agree kind.distinct_form)

/-- Members of an amendment that moves the stop and bears a note. -/
def specimenMembers : List (String × Doc) :=
  [("stopLevel", .num ⟨false, [9, 8], [5], none⟩), ("note", .arr [.null, .str (some "é")]),
    ("guaranteedStop", .bool true)]

/-- The same in another order, without the note, with a no and with nothing for a limit. -/
def rewordedMembers : List (String × Doc) :=
  [("limitLevel", .null), ("trailingStop", .bool false), ("guaranteedStop", .bool true),
    ("stopLevel", .num ⟨false, [9, 8], [5], none⟩)]

def specimenText : String :=
  "\x7b\"stopLevel\":98.5,\"note\":[null,\"é\"],\"guaranteedStop\":true\x7d"

def rewordedText : String :=
  "\x7b\"limitLevel\":null,\"trailingStop\":false,\"guaranteedStop\":true,"
    ++ "\"stopLevel\":98.5\x7d"

theorem spells_specimenText : Spells specimenText specimenMembers := by
  have htext : specimenText = (Doc.obj (spelled specimenMembers)).compact := by decide +kernel
  rw [htext]
  exact Spells.of_compact (fun n h => of_decide_eq_true h) 2 (by decide) (by decide)

theorem spells_rewordedText : Spells rewordedText rewordedMembers := by
  have htext : rewordedText = (Doc.obj (spelled rewordedMembers)).compact := by decide +kernel
  rw [htext]
  exact Spells.of_compact (fun n h => of_decide_eq_true h) 2 (by decide) (by decide)

theorem rewords_specimenMembers :
    Rewords RuleSet.updatePosition.form specimenMembers rewordedMembers := by
  have hnote : Rewords RuleSet.updatePosition.form specimenMembers
      (specimenMembers.eraseIdx 1) :=
    .twice (.reordered (List.Perm.swap _ _ _)) (.back (.unknown (by decide) _ _))
  have horder : Rewords RuleSet.updatePosition.form (specimenMembers.eraseIdx 1)
      (rewordedMembers.drop 2) :=
    .reordered (List.Perm.swap _ _ _)
  have hno : Rewords RuleSet.updatePosition.form (rewordedMembers.drop 2)
      (rewordedMembers.drop 1) :=
    .tacit (e := ⟨"trailingStop", .flag, .defaulted⟩) (by simp [RuleSet.form]) (.no rfl) _
  have hnothing : Rewords RuleSet.updatePosition.form (rewordedMembers.drop 1) rewordedMembers :=
    .tacit (e := ⟨"limitLevel", .amount, .optional⟩) (by simp [RuleSet.form]) (.nothing rfl) _
  exact ((hnote.twice horder).twice hno).twice hnothing

theorem ofText_follows_form_specimen :
    Spells specimenText specimenMembers ∧ Spells rewordedText rewordedMembers
      ∧ Rewords RuleSet.updatePosition.form specimenMembers rewordedMembers
      ∧ Accepts RuleSet.updatePosition.form specimenMembers
      ∧ SameIn .updatePosition specimenText rewordedText := by
  have hall := ofText_follows_form .updatePosition spells_specimenText
  have hread : (ofText .updatePosition specimenText).toOption.isSome = true := by decide +kernel
  have haccepts : Accepts RuleSet.updatePosition.form specimenMembers := by
    refine hall.1.1 ?_
    cases h : ofText .updatePosition specimenText with
    | error e =>
        rw [h] at hread
        cases hread
    | ok t => exact ⟨t, rfl⟩
  exact ⟨spells_specimenText, spells_rewordedText, rewords_specimenMembers, haccepts,
    hall.2.2 spells_rewordedText (.inr rewords_specimenMembers)⟩

end Ticket

end DealDesk
