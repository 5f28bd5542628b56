import DealDesk.Proofs.Json.Rereading

/-!
# Accounts in documents

An account reads back from its document up to its amounts, which are doubles.  What it has
no value for is written as nothing.

**Results.** `Account.gives_withAmounts_iff`: an account is read with other amounts exactly
when each of its amounts is read so.  `Account.nulls_absent`: what stands for an absent
member.
-/

namespace DealDesk

open Json

namespace Account

theorem distinct_keys : fields.keys.Nodup := by decide

def amounts (a : Account) : List Float :=
  a.accountInfo.amounts

def withAmounts (g : Float → Float) (a : Account) : Account :=
  { a with
    accountInfo :=
      { balance := g a.accountInfo.balance
        deposit := g a.accountInfo.deposit
        profitLoss := g a.accountInfo.profitLoss
        available := g a.accountInfo.available } }

/-- The members that may be absent, each with whether it is. -/
def optionals (a : Account) : List (String × Bool) :=
  [("currencySymbol", a.currencySymbol.isNone),
    ("lightstreamerEndpoint", a.lightstreamerEndpoint.isNone),
    ("reroutingEnvironment", a.reroutingEnvironment.isNone)]

@[simp] theorem withAmounts_id (a : Account) : a.withAmounts id = a := rfl

@[simp] theorem withAmounts_withAmounts (g g' : Float → Float) (a : Account) :
    (a.withAmounts g).withAmounts g' = a.withAmounts (g' ∘ g) := rfl

@[simp] theorem optionals_withAmounts (g : Float → Float) (a : Account) :
    (a.withAmounts g).optionals = a.optionals := rfl

theorem gives_withAmounts_iff (g : Float → Float) (a : Account) :
    codec.Gives a (a.withAmounts g) ↔ ∀ f ∈ a.amounts, Codec.real.Gives f (g f) := by
  refine (gives_iff _ _).trans ((and_iff_right rfl).trans ?_)
  rw [Balance.gives_iff]
  simp [withAmounts, amounts, Balance.amounts]

theorem codec_legible (depth : Nat) : codec.Legible (depth + 3) :=
  fun _ => legible_write (fun f _ => Codec.legible_real f (depth + 1))
    (decide_eq_true (Numeral.wellFormed_ofInt _))

theorem nulls_absent (a : Account) :
    ∀ o ∈ a.optionals, o.2 = true → (codec.write a).into? (.member o.1) = some .null := by
  intro o ho hnone
  rw [codec, Fields.into?_write distinct_keys]
  simp only [optionals, List.mem_cons, List.not_mem_nil, or_false] at ho
  rcases ho with rfl | rfl | rfl <;>
    simp [fields, Fields.shown?, Field.required, Field.withDefault, Field.nullable,
      Codec.optional, Option.isNone_iff_eq_none.1 hnone]

end Account

end DealDesk
