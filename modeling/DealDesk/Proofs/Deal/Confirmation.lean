import DealDesk.Deal.Confirmation
import DealDesk.Proofs.Deal.Kind

/-!
# Receipts and confirmations in documents

A confirmation reads back from its document up to its amounts, with the deals that it
affected in their order.  What it has no value for is written as nothing.

**Results.** `Receipt.readsBack`, `Confirmation.gives_withAmounts_iff`: what is read for a
receipt and for a confirmation.  `Confirmation.nulls_absent`: what stands for an absent
member.
-/

namespace DealDesk

open Json

namespace Receipt

theorem readsBack (r : Receipt) :
    codec.ReadsBack r := rfl

theorem codec_legible (depth : Nat) : codec.Legible (depth + 1) := by
  refine Codec.Legible.imap (Fields.legible ?_ _) _ _
  simp [fields, Fields.AllLegible, Field.required]

end Receipt

namespace AffectedDeal

theorem readsBack (a : AffectedDeal) :
    codec.ReadsBack a := by
  change codec.Gives a a
  rw [codec, Codec.gives_imap_iff (fun _ => rfl) (fun _ => rfl), Fields.gives_iff (by decide)]
  simp [fields]

theorem codec_legible (depth : Nat) : codec.Legible (depth + 1) := by
  refine Codec.Legible.imap (Fields.legible ?_ _) _ _
  simp [fields, Fields.AllLegible, Field.required]

end AffectedDeal

namespace Confirmation

theorem distinct_keys : fields.keys.Nodup := by decide

def amounts (c : Confirmation) : List Decimal :=
  c.level.toList ++ c.limitDistance.toList ++ c.limitLevel.toList ++ c.profit.toList
    ++ c.size.toList ++ c.stopDistance.toList ++ c.stopLevel.toList

def withAmounts (g : Decimal → Decimal) (c : Confirmation) : Confirmation :=
  { c with
    level := c.level.map g
    limitDistance := c.limitDistance.map g
    limitLevel := c.limitLevel.map g
    profit := c.profit.map g
    size := c.size.map g
    stopDistance := c.stopDistance.map g
    stopLevel := c.stopLevel.map g }

/-- The members that may be absent, each with whether it is. -/
def optionals (c : Confirmation) : List (String × Bool) :=
  [("dealId", c.dealId.isNone), ("direction", c.direction.isNone), ("epic", c.epic.isNone),
    ("expiry", c.expiry.isNone), ("level", c.level.isNone),
    ("limitDistance", c.limitDistance.isNone), ("limitLevel", c.limitLevel.isNone),
    ("profit", c.profit.isNone), ("profitCurrency", c.profitCurrency.isNone),
    ("reason", c.reason.isNone), ("size", c.size.isNone), ("status", c.status.isNone),
    ("stopDistance", c.stopDistance.isNone), ("stopLevel", c.stopLevel.isNone)]

@[simp] theorem withAmounts_id (c : Confirmation) : c.withAmounts id = c := by
  simp [withAmounts]

@[simp] theorem withAmounts_withAmounts (g g' : Decimal → Decimal) (c : Confirmation) :
    (c.withAmounts g).withAmounts g' = c.withAmounts (g' ∘ g) := by
  simp [withAmounts]

@[simp] theorem optionals_withAmounts (g : Decimal → Decimal) (c : Confirmation) :
    (c.withAmounts g).optionals = c.optionals := by
  simp [optionals, withAmounts]

theorem gives_withAmounts_iff (g : Decimal → Decimal) (c : Confirmation) :
    codec.Gives c (c.withAmounts g) ↔ ∀ d ∈ c.amounts, Codec.decimal.Gives d (g d) := by
  have hdeals : (Codec.list AffectedDeal.codec).ReadsBack c.affectedDeals :=
    Codec.readsBack_list fun a _ => a.readsBack
  rw [codec, Codec.gives_imap_iff (fun _ => rfl) (fun _ => rfl), Fields.gives_iff distinct_keys]
  simp [fields, amounts, withAmounts, hdeals.gives_iff, or_imp, forall_and]

theorem codec_legible (depth : Nat) : codec.Legible (depth + 3) := by
  have hdeals := (AffectedDeal.codec_legible depth).list
  refine Codec.Legible.imap (Fields.legible ?_ _) _ _
  simp [fields, Fields.AllLegible, Field.required, Field.withDefault, Field.nullable, hdeals]

theorem nulls_absent (c : Confirmation) :
    ∀ o ∈ c.optionals, o.2 = true → (codec.write c).into? (.member o.1) = some .null := by
  intro o ho hnone
  rw [codec, Fields.into?_write distinct_keys]
  simp only [optionals, List.mem_cons, List.not_mem_nil, or_false] at ho
  rcases ho with rfl | rfl | rfl | rfl | rfl | rfl | rfl | rfl | rfl | rfl | rfl | rfl | rfl
    | rfl <;>
    simp [fields, Fields.shown?, Field.required, Field.withDefault, Field.nullable,
      Codec.optional, Option.isNone_iff_eq_none.1 hnone]

end Confirmation

end DealDesk
