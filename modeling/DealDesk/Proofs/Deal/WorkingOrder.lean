import DealDesk.Deal.WorkingOrder
import DealDesk.Proofs.Deal.Kind

/-!
# Working orders in documents

What `DealDesk.Proofs.Deal.Position` says of positions, for the requests that place and
revise working orders and for the orders that the broker reports.

**Results.** `gives_withAmounts_iff`, for each record: it is read with other amounts exactly
when each of its amounts is read so.  `Placement.omits_absent`, `Revision.omits_absent` and
`OrderTerms.nulls_absent`: what stands for an absent member.
-/

namespace DealDesk

open Json

namespace Placement

theorem distinct_keys : fields.keys.Nodup := by decide

def amounts (r : Placement) : List Decimal :=
  r.level :: r.size :: (r.limitDistance.toList ++ r.limitLevel.toList ++ r.stopDistance.toList
    ++ r.stopLevel.toList)

def withAmounts (g : Decimal → Decimal) (r : Placement) : Placement :=
  { r with
    level := g r.level
    size := g r.size
    limitDistance := r.limitDistance.map g
    limitLevel := r.limitLevel.map g
    stopDistance := r.stopDistance.map g
    stopLevel := r.stopLevel.map g }

/-- The members that may be absent, each with whether it is. -/
def optionals (r : Placement) : List (String × Bool) :=
  [("dealReference", r.dealReference.isNone), ("goodTillDate", r.goodTillDate.isNone),
    ("limitDistance", r.limitDistance.isNone), ("limitLevel", r.limitLevel.isNone),
    ("stopDistance", r.stopDistance.isNone), ("stopLevel", r.stopLevel.isNone)]

@[simp] theorem withAmounts_id (r : Placement) : r.withAmounts id = r := by
  simp [withAmounts]

@[simp] theorem withAmounts_withAmounts (g g' : Decimal → Decimal) (r : Placement) :
    (r.withAmounts g).withAmounts g' = r.withAmounts (g' ∘ g) := by
  simp [withAmounts]

@[simp] theorem optionals_withAmounts (g : Decimal → Decimal) (r : Placement) :
    (r.withAmounts g).optionals = r.optionals := by
  simp [optionals, withAmounts]

theorem gives_withAmounts_iff (g : Decimal → Decimal) (r : Placement) :
    codec.Gives r (r.withAmounts g) ↔ ∀ d ∈ r.amounts, Codec.decimal.Gives d (g d) := by
  rw [codec, Codec.gives_imap_iff (fun _ => rfl) (fun _ => rfl), Fields.gives_iff distinct_keys]
  simp [fields, amounts, withAmounts, or_imp, forall_and]

theorem codec_legible (depth : Nat) : codec.Legible (depth + 1) := by
  refine Codec.Legible.imap (Fields.legible ?_ _) _ _
  simp [fields, Fields.AllLegible, Field.required, Field.withDefault, Field.elided]

theorem omits_absent (r : Placement) :
    ∀ o ∈ r.optionals, o.2 = true → (codec.write r).into? (.member o.1) = none := by
  intro o ho hnone
  rw [codec, Fields.into?_write distinct_keys]
  simp only [optionals, List.mem_cons, List.not_mem_nil, or_false] at ho
  rcases ho with rfl | rfl | rfl | rfl | rfl | rfl <;>
    simp [fields, Fields.shown?, Field.required, Field.withDefault, Field.elided,
      Option.isNone_iff_eq_none.1 hnone]

end Placement

namespace Revision

theorem distinct_keys : fields.keys.Nodup := by decide

def amounts (r : Revision) : List Decimal :=
  r.level :: (r.limitDistance.toList ++ r.limitLevel.toList ++ r.stopDistance.toList
    ++ r.stopLevel.toList)

def withAmounts (g : Decimal → Decimal) (r : Revision) : Revision :=
  { r with
    level := g r.level
    limitDistance := r.limitDistance.map g
    limitLevel := r.limitLevel.map g
    stopDistance := r.stopDistance.map g
    stopLevel := r.stopLevel.map g }

def optionals (r : Revision) : List (String × Bool) :=
  [("goodTillDate", r.goodTillDate.isNone), ("limitDistance", r.limitDistance.isNone),
    ("limitLevel", r.limitLevel.isNone), ("stopDistance", r.stopDistance.isNone),
    ("stopLevel", r.stopLevel.isNone)]

@[simp] theorem withAmounts_id (r : Revision) : r.withAmounts id = r := by
  simp [withAmounts]

@[simp] theorem withAmounts_withAmounts (g g' : Decimal → Decimal) (r : Revision) :
    (r.withAmounts g).withAmounts g' = r.withAmounts (g' ∘ g) := by
  simp [withAmounts]

@[simp] theorem optionals_withAmounts (g : Decimal → Decimal) (r : Revision) :
    (r.withAmounts g).optionals = r.optionals := by
  simp [optionals, withAmounts]

theorem gives_withAmounts_iff (g : Decimal → Decimal) (r : Revision) :
    codec.Gives r (r.withAmounts g) ↔ ∀ d ∈ r.amounts, Codec.decimal.Gives d (g d) := by
  rw [codec, Codec.gives_imap_iff (fun _ => rfl) (fun _ => rfl), Fields.gives_iff distinct_keys]
  simp [fields, amounts, withAmounts, or_imp, forall_and]

theorem codec_legible (depth : Nat) : codec.Legible (depth + 1) := by
  refine Codec.Legible.imap (Fields.legible ?_ _) _ _
  simp [fields, Fields.AllLegible, Field.required, Field.withDefault, Field.elided]

theorem omits_absent (r : Revision) :
    ∀ o ∈ r.optionals, o.2 = true → (codec.write r).into? (.member o.1) = none := by
  intro o ho hnone
  rw [codec, Fields.into?_write distinct_keys]
  simp only [optionals, List.mem_cons, List.not_mem_nil, or_false] at ho
  rcases ho with rfl | rfl | rfl | rfl | rfl <;>
    simp [fields, Fields.shown?, Field.required, Field.withDefault, Field.elided,
      Option.isNone_iff_eq_none.1 hnone]

end Revision

namespace OrderTerms

theorem distinct_keys : fields.keys.Nodup := by decide

def amounts (t : OrderTerms) : List Decimal :=
  t.orderSize :: t.orderLevel :: (t.stopDistance.toList ++ t.limitDistance.toList
    ++ t.limitedRiskPremium.toList)

def withAmounts (g : Decimal → Decimal) (t : OrderTerms) : OrderTerms :=
  { t with
    orderSize := g t.orderSize
    orderLevel := g t.orderLevel
    stopDistance := t.stopDistance.map g
    limitDistance := t.limitDistance.map g
    limitedRiskPremium := t.limitedRiskPremium.map g }

def optionals (t : OrderTerms) : List (String × Bool) :=
  [("goodTillDate", t.goodTillDate.isNone), ("goodTillDateISO", t.goodTillDateIso.isNone),
    ("stopDistance", t.stopDistance.isNone), ("limitDistance", t.limitDistance.isNone),
    ("limitedRiskPremium", t.limitedRiskPremium.isNone)]

@[simp] theorem withAmounts_id (t : OrderTerms) : t.withAmounts id = t := by
  simp [withAmounts]

@[simp] theorem withAmounts_withAmounts (g g' : Decimal → Decimal) (t : OrderTerms) :
    (t.withAmounts g).withAmounts g' = t.withAmounts (g' ∘ g) := by
  simp [withAmounts]

@[simp] theorem optionals_withAmounts (g : Decimal → Decimal) (t : OrderTerms) :
    (t.withAmounts g).optionals = t.optionals := by
  simp [optionals, withAmounts]

theorem gives_withAmounts_iff (g : Decimal → Decimal) (t : OrderTerms) :
    codec.Gives t (t.withAmounts g) ↔ ∀ d ∈ t.amounts, Codec.decimal.Gives d (g d) := by
  rw [codec, Codec.gives_imap_iff (fun _ => rfl) (fun _ => rfl), Fields.gives_iff distinct_keys]
  simp [fields, amounts, withAmounts, or_imp, forall_and]

theorem codec_legible (depth : Nat) : codec.Legible (depth + 1) := by
  refine Codec.Legible.imap (Fields.legible ?_ _) _ _
  simp [fields, Fields.AllLegible, Field.required, Field.nullable]

theorem nulls_absent (t : OrderTerms) :
    ∀ o ∈ t.optionals, o.2 = true → (codec.write t).into? (.member o.1) = some .null := by
  intro o ho hnone
  rw [codec, Fields.into?_write distinct_keys]
  simp only [optionals, List.mem_cons, List.not_mem_nil, or_false] at ho
  rcases ho with rfl | rfl | rfl | rfl | rfl <;>
    simp [fields, Fields.shown?, Field.required, Field.nullable, Codec.optional,
      Option.isNone_iff_eq_none.1 hnone]

end OrderTerms

namespace OrderMarket

def amounts (m : OrderMarket) : List Decimal :=
  [m.lotSize, m.high, m.low, m.percentageChange, m.netChange, m.bid, m.offer]

def withAmounts (g : Decimal → Decimal) (m : OrderMarket) : OrderMarket :=
  { m with
    lotSize := g m.lotSize
    high := g m.high
    low := g m.low
    percentageChange := g m.percentageChange
    netChange := g m.netChange
    bid := g m.bid
    offer := g m.offer }

@[simp] theorem withAmounts_id (m : OrderMarket) : m.withAmounts id = m := by
  simp [withAmounts]

@[simp] theorem withAmounts_withAmounts (g g' : Decimal → Decimal) (m : OrderMarket) :
    (m.withAmounts g).withAmounts g' = m.withAmounts (g' ∘ g) := by
  simp [withAmounts]

theorem gives_withAmounts_iff (g : Decimal → Decimal) (m : OrderMarket) :
    codec.Gives m (m.withAmounts g) ↔ ∀ d ∈ m.amounts, Codec.decimal.Gives d (g d) := by
  rw [codec, Codec.gives_imap_iff (fun _ => rfl) (fun _ => rfl), Fields.gives_iff (by decide)]
  simp [fields, amounts, withAmounts]

theorem codec_legible (depth : Nat) : codec.Legible (depth + 1) := by
  refine Codec.Legible.imap (Fields.legible ?_ _) _ _
  simp [fields, Fields.AllLegible, Field.required]

end OrderMarket

namespace PendingOrder

def amounts (o : PendingOrder) : List Decimal :=
  o.terms.amounts ++ o.market.amounts

def withAmounts (g : Decimal → Decimal) (o : PendingOrder) : PendingOrder :=
  { terms := o.terms.withAmounts g, market := o.market.withAmounts g }

@[simp] theorem withAmounts_id (o : PendingOrder) : o.withAmounts id = o := by
  simp [withAmounts]

@[simp] theorem withAmounts_withAmounts (g g' : Decimal → Decimal) (o : PendingOrder) :
    (o.withAmounts g).withAmounts g' = o.withAmounts (g' ∘ g) := by
  simp [withAmounts]

theorem gives_withAmounts_iff (g : Decimal → Decimal) (o : PendingOrder) :
    codec.Gives o (o.withAmounts g) ↔ ∀ d ∈ o.amounts, Codec.decimal.Gives d (g d) := by
  rw [codec, Codec.gives_imap_iff (fun _ => rfl) (fun _ => rfl), Fields.gives_iff (by decide),
    amounts, List.forall_mem_append, ← OrderTerms.gives_withAmounts_iff,
    ← OrderMarket.gives_withAmounts_iff]
  simp [fields, withAmounts]

theorem codec_legible (depth : Nat) : codec.Legible (depth + 2) := by
  refine Codec.Legible.imap (Fields.legible ?_ _) _ _
  exact ⟨OrderTerms.codec_legible depth, OrderMarket.codec_legible depth, trivial⟩

end PendingOrder

namespace OrderBook

def amounts (b : OrderBook) : List Decimal :=
  b.orders.flatMap PendingOrder.amounts

def withAmounts (g : Decimal → Decimal) (b : OrderBook) : OrderBook :=
  { orders := b.orders.map fun o => o.withAmounts g }

/-- The places of the absent members of all orders. -/
def absent (b : OrderBook) : List (List Step) :=
  b.orders.zipIdx.flatMap fun (o, i) =>
    Doc.absentAt [.member "workingOrders", .item i, .member "workingOrderData"] o.terms.optionals

@[simp] theorem withAmounts_id (b : OrderBook) : b.withAmounts id = b := by
  simp [withAmounts]

@[simp] theorem withAmounts_withAmounts (g g' : Decimal → Decimal) (b : OrderBook) :
    (b.withAmounts g).withAmounts g' = b.withAmounts (g' ∘ g) := by
  simp [withAmounts]

theorem absent_withAmounts (g : Decimal → Decimal) (b : OrderBook) :
    (b.withAmounts g).absent = b.absent := by
  simp [absent, withAmounts, PendingOrder.withAmounts, List.zipIdx_map, List.flatMap_map]

theorem gives_withAmounts_iff (g : Decimal → Decimal) (b : OrderBook) :
    codec.Gives b (b.withAmounts g) ↔ ∀ d ∈ b.amounts, Codec.decimal.Gives d (g d) := by
  rw [codec, Codec.gives_imap_iff (fun _ => rfl) (fun _ => rfl), Fields.gives_iff (by decide),
    amounts, List.forall_mem_flatMap]
  simp [fields, withAmounts, Codec.gives_list_map_iff, PendingOrder.gives_withAmounts_iff]

theorem codec_legible (depth : Nat) : codec.Legible (depth + 4) := by
  refine Codec.Legible.imap (Fields.legible ?_ _) _ _
  exact ⟨(PendingOrder.codec_legible depth).list, trivial⟩

theorem nulls_absent (b : OrderBook) :
    ∀ place ∈ b.absent, (codec.write b).at? place = some .null := by
  intro place hplace
  obtain ⟨⟨o, i⟩, hmem, hplace⟩ := List.mem_flatMap.1 hplace
  have hget : b.orders[i]? = some o := List.mem_zipIdx_iff_getElem?.1 hmem
  exact Doc.at?_of_mem_absentAt (Doc.at?_listed rfl hget rfl) o.terms.nulls_absent hplace

end OrderBook

end DealDesk
