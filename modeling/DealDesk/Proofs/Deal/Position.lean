import DealDesk.Deal.Position
import DealDesk.Proofs.Deal.Kind

/-!
# Positions in documents

A request or a position reads back from its document up to its amounts.  An amount is
written as a double, and may be read as another decimal; `withAmounts` is the record with
what is read for each.  Absent members of a request are not written, those of a position
are written as nothing.

**Results.** `gives_withAmounts_iff`, for each record: it is read with other amounts exactly
when each of its amounts is read so.  `Opening.omits_absent`, `Closing.omits_absent`,
`Amendment.omits_absent` and `Position.nulls_absent`: what stands for an absent member.
-/

namespace DealDesk

open Json

namespace Opening

theorem distinct_keys : fields.keys.Nodup := by decide

def amounts (r : Opening) : List Decimal :=
  r.size :: (r.level.toList ++ r.limitDistance.toList ++ r.limitLevel.toList
    ++ r.stopDistance.toList ++ r.stopLevel.toList ++ r.trailingStopIncrement.toList)

def withAmounts (g : Decimal → Decimal) (r : Opening) : Opening :=
  { r with
    size := g r.size
    level := r.level.map g
    limitDistance := r.limitDistance.map g
    limitLevel := r.limitLevel.map g
    stopDistance := r.stopDistance.map g
    stopLevel := r.stopLevel.map g
    trailingStopIncrement := r.trailingStopIncrement.map g }

/-- The members that may be absent, each with whether it is. -/
def optionals (r : Opening) : List (String × Bool) :=
  [("dealReference", r.dealReference.isNone), ("level", r.level.isNone),
    ("limitDistance", r.limitDistance.isNone), ("limitLevel", r.limitLevel.isNone),
    ("quoteId", r.quoteId.isNone), ("stopDistance", r.stopDistance.isNone),
    ("stopLevel", r.stopLevel.isNone),
    ("trailingStopIncrement", r.trailingStopIncrement.isNone)]

@[simp] theorem withAmounts_id (r : Opening) : r.withAmounts id = r := by
  simp [withAmounts]

@[simp] theorem withAmounts_withAmounts (g g' : Decimal → Decimal) (r : Opening) :
    (r.withAmounts g).withAmounts g' = r.withAmounts (g' ∘ g) := by
  simp [withAmounts]

@[simp] theorem optionals_withAmounts (g : Decimal → Decimal) (r : Opening) :
    (r.withAmounts g).optionals = r.optionals := by
  simp [optionals, withAmounts]

theorem gives_withAmounts_iff (g : Decimal → Decimal) (r : Opening) :
    codec.Gives r (r.withAmounts g) ↔ ∀ d ∈ r.amounts, Codec.decimal.Gives d (g d) := by
  rw [codec, Codec.gives_imap_iff (fun _ => rfl) (fun _ => rfl), Fields.gives_iff distinct_keys]
  simp [fields, amounts, withAmounts, or_imp, forall_and]

theorem codec_legible (depth : Nat) : codec.Legible (depth + 1) := by
  refine Codec.Legible.imap (Fields.legible ?_ _) _ _
  simp [fields, Fields.AllLegible, Field.required, Field.elided]

theorem omits_absent (r : Opening) :
    ∀ o ∈ r.optionals, o.2 = true → (codec.write r).into? (.member o.1) = none := by
  intro o ho hnone
  rw [codec, Fields.into?_write distinct_keys]
  simp only [optionals, List.mem_cons, List.not_mem_nil, or_false] at ho
  rcases ho with rfl | rfl | rfl | rfl | rfl | rfl | rfl | rfl <;>
    simp [fields, Fields.shown?, Field.required, Field.elided, Option.isNone_iff_eq_none.1 hnone]

end Opening

namespace Closing

theorem distinct_keys : fields.keys.Nodup := by decide

def amounts (r : Closing) : List Decimal :=
  r.size :: r.level.toList

def withAmounts (g : Decimal → Decimal) (r : Closing) : Closing :=
  { r with size := g r.size, level := r.level.map g }

def optionals (r : Closing) : List (String × Bool) :=
  [("dealId", r.dealId.isNone), ("epic", r.epic.isNone), ("expiry", r.expiry.isNone),
    ("level", r.level.isNone), ("quoteId", r.quoteId.isNone)]

@[simp] theorem withAmounts_id (r : Closing) : r.withAmounts id = r := by
  simp [withAmounts]

@[simp] theorem withAmounts_withAmounts (g g' : Decimal → Decimal) (r : Closing) :
    (r.withAmounts g).withAmounts g' = r.withAmounts (g' ∘ g) := by
  simp [withAmounts]

@[simp] theorem optionals_withAmounts (g : Decimal → Decimal) (r : Closing) :
    (r.withAmounts g).optionals = r.optionals := by
  simp [optionals, withAmounts]

theorem gives_withAmounts_iff (g : Decimal → Decimal) (r : Closing) :
    codec.Gives r (r.withAmounts g) ↔ ∀ d ∈ r.amounts, Codec.decimal.Gives d (g d) := by
  rw [codec, Codec.gives_imap_iff (fun _ => rfl) (fun _ => rfl), Fields.gives_iff distinct_keys]
  simp [fields, amounts, withAmounts]

theorem codec_legible (depth : Nat) : codec.Legible (depth + 1) := by
  refine Codec.Legible.imap (Fields.legible ?_ _) _ _
  simp [fields, Fields.AllLegible, Field.required, Field.elided]

theorem omits_absent (r : Closing) :
    ∀ o ∈ r.optionals, o.2 = true → (codec.write r).into? (.member o.1) = none := by
  intro o ho hnone
  rw [codec, Fields.into?_write distinct_keys]
  simp only [optionals, List.mem_cons, List.not_mem_nil, or_false] at ho
  rcases ho with rfl | rfl | rfl | rfl | rfl <;>
    simp [fields, Fields.shown?, Field.required, Field.elided, Option.isNone_iff_eq_none.1 hnone]

end Closing

namespace Amendment

theorem distinct_keys : fields.keys.Nodup := by decide

def amounts (r : Amendment) : List Decimal :=
  r.limitLevel.toList ++ r.stopLevel.toList ++ r.trailingStopDistance.toList
    ++ r.trailingStopIncrement.toList

def withAmounts (g : Decimal → Decimal) (r : Amendment) : Amendment :=
  { r with
    limitLevel := r.limitLevel.map g
    stopLevel := r.stopLevel.map g
    trailingStopDistance := r.trailingStopDistance.map g
    trailingStopIncrement := r.trailingStopIncrement.map g }

def optionals (r : Amendment) : List (String × Bool) :=
  [("limitLevel", r.limitLevel.isNone), ("stopLevel", r.stopLevel.isNone),
    ("trailingStopDistance", r.trailingStopDistance.isNone),
    ("trailingStopIncrement", r.trailingStopIncrement.isNone)]

@[simp] theorem withAmounts_id (r : Amendment) : r.withAmounts id = r := by
  simp [withAmounts]

@[simp] theorem withAmounts_withAmounts (g g' : Decimal → Decimal) (r : Amendment) :
    (r.withAmounts g).withAmounts g' = r.withAmounts (g' ∘ g) := by
  simp [withAmounts]

@[simp] theorem optionals_withAmounts (g : Decimal → Decimal) (r : Amendment) :
    (r.withAmounts g).optionals = r.optionals := by
  simp [optionals, withAmounts]

theorem gives_withAmounts_iff (g : Decimal → Decimal) (r : Amendment) :
    codec.Gives r (r.withAmounts g) ↔ ∀ d ∈ r.amounts, Codec.decimal.Gives d (g d) := by
  rw [codec, Codec.gives_imap_iff (fun _ => rfl) (fun _ => rfl), Fields.gives_iff distinct_keys]
  simp [fields, amounts, withAmounts, or_imp, forall_and]

theorem codec_legible (depth : Nat) : codec.Legible (depth + 1) := by
  refine Codec.Legible.imap (Fields.legible ?_ _) _ _
  simp [fields, Fields.AllLegible, Field.withDefault, Field.elided]

theorem omits_absent (r : Amendment) :
    ∀ o ∈ r.optionals, o.2 = true → (codec.write r).into? (.member o.1) = none := by
  intro o ho hnone
  rw [codec, Fields.into?_write distinct_keys]
  simp only [optionals, List.mem_cons, List.not_mem_nil, or_false] at ho
  rcases ho with rfl | rfl | rfl | rfl <;>
    simp [fields, Fields.shown?, Field.withDefault, Field.elided,
      Option.isNone_iff_eq_none.1 hnone]

end Amendment

namespace Market

def amounts (m : Market) : List Decimal :=
  [m.lotSize, m.high, m.low, m.percentageChange, m.netChange, m.bid, m.offer]

def withAmounts (g : Decimal → Decimal) (m : Market) : Market :=
  { m with
    lotSize := g m.lotSize
    high := g m.high
    low := g m.low
    percentageChange := g m.percentageChange
    netChange := g m.netChange
    bid := g m.bid
    offer := g m.offer }

@[simp] theorem withAmounts_id (m : Market) : m.withAmounts id = m := by
  simp [withAmounts]

@[simp] theorem withAmounts_withAmounts (g g' : Decimal → Decimal) (m : Market) :
    (m.withAmounts g).withAmounts g' = m.withAmounts (g' ∘ g) := by
  simp [withAmounts]

theorem gives_withAmounts_iff (g : Decimal → Decimal) (m : Market) :
    codec.Gives m (m.withAmounts g) ↔ ∀ d ∈ m.amounts, Codec.decimal.Gives d (g d) := by
  rw [codec, Codec.gives_imap_iff (fun _ => rfl) (fun _ => rfl), Fields.gives_iff (by decide)]
  simp [fields, amounts, withAmounts]

theorem codec_legible (depth : Nat) : codec.Legible (depth + 1) := by
  refine Codec.Legible.imap (Fields.legible ?_ _) _ _
  simp [fields, Fields.AllLegible, Field.required]

end Market

namespace Position

theorem distinct_keys : fields.keys.Nodup := by decide

def amounts (p : Position) : List Decimal :=
  p.contractSize :: p.level :: p.size :: (p.limitLevel.toList ++ p.limitedRiskPremium.toList
    ++ p.stopLevel.toList ++ p.trailingStep.toList ++ p.trailingStopDistance.toList)

def withAmounts (g : Decimal → Decimal) (p : Position) : Position :=
  { p with
    contractSize := g p.contractSize
    level := g p.level
    size := g p.size
    limitLevel := p.limitLevel.map g
    limitedRiskPremium := p.limitedRiskPremium.map g
    stopLevel := p.stopLevel.map g
    trailingStep := p.trailingStep.map g
    trailingStopDistance := p.trailingStopDistance.map g }

def optionals (p : Position) : List (String × Bool) :=
  [("limitLevel", p.limitLevel.isNone), ("limitedRiskPremium", p.limitedRiskPremium.isNone),
    ("stopLevel", p.stopLevel.isNone), ("trailingStep", p.trailingStep.isNone),
    ("trailingStopDistance", p.trailingStopDistance.isNone)]

@[simp] theorem withAmounts_id (p : Position) : p.withAmounts id = p := by
  simp [withAmounts]

@[simp] theorem withAmounts_withAmounts (g g' : Decimal → Decimal) (p : Position) :
    (p.withAmounts g).withAmounts g' = p.withAmounts (g' ∘ g) := by
  simp [withAmounts]

@[simp] theorem optionals_withAmounts (g : Decimal → Decimal) (p : Position) :
    (p.withAmounts g).optionals = p.optionals := by
  simp [optionals, withAmounts]

theorem gives_withAmounts_iff (g : Decimal → Decimal) (p : Position) :
    codec.Gives p (p.withAmounts g) ↔ ∀ d ∈ p.amounts, Codec.decimal.Gives d (g d) := by
  rw [codec, Codec.gives_imap_iff (fun _ => rfl) (fun _ => rfl), Fields.gives_iff distinct_keys]
  simp [fields, amounts, withAmounts, or_imp, forall_and]

theorem codec_legible (depth : Nat) : codec.Legible (depth + 1) := by
  refine Codec.Legible.imap (Fields.legible ?_ _) _ _
  simp [fields, Fields.AllLegible, Field.required, Field.nullable]

theorem nulls_absent (p : Position) :
    ∀ o ∈ p.optionals, o.2 = true → (codec.write p).into? (.member o.1) = some .null := by
  intro o ho hnone
  rw [codec, Fields.into?_write distinct_keys]
  simp only [optionals, List.mem_cons, List.not_mem_nil, or_false] at ho
  rcases ho with rfl | rfl | rfl | rfl | rfl <;>
    simp [fields, Fields.shown?, Field.required, Field.nullable, Codec.optional,
      Option.isNone_iff_eq_none.1 hnone]

end Position

namespace Holding

def amounts (h : Holding) : List Decimal :=
  h.position.amounts ++ h.market.amounts

def withAmounts (g : Decimal → Decimal) (h : Holding) : Holding :=
  { position := h.position.withAmounts g, market := h.market.withAmounts g }

@[simp] theorem withAmounts_id (h : Holding) : h.withAmounts id = h := by
  simp [withAmounts]

@[simp] theorem withAmounts_withAmounts (g g' : Decimal → Decimal) (h : Holding) :
    (h.withAmounts g).withAmounts g' = h.withAmounts (g' ∘ g) := by
  simp [withAmounts]

theorem gives_withAmounts_iff (g : Decimal → Decimal) (h : Holding) :
    codec.Gives h (h.withAmounts g) ↔ ∀ d ∈ h.amounts, Codec.decimal.Gives d (g d) := by
  rw [codec, Codec.gives_imap_iff (fun _ => rfl) (fun _ => rfl), Fields.gives_iff (by decide),
    amounts, List.forall_mem_append, ← Position.gives_withAmounts_iff,
    ← Market.gives_withAmounts_iff]
  simp [fields, withAmounts]

theorem codec_legible (depth : Nat) : codec.Legible (depth + 2) := by
  refine Codec.Legible.imap (Fields.legible ?_ _) _ _
  exact ⟨Position.codec_legible depth, Market.codec_legible depth, trivial⟩

end Holding

namespace Portfolio

def amounts (p : Portfolio) : List Decimal :=
  p.positions.flatMap Holding.amounts

def withAmounts (g : Decimal → Decimal) (p : Portfolio) : Portfolio :=
  { positions := p.positions.map fun h => h.withAmounts g }

/-- The places of the absent members of all positions. -/
def absent (p : Portfolio) : List (List Step) :=
  p.positions.zipIdx.flatMap fun (h, i) =>
    Doc.absentAt [.member "positions", .item i, .member "position"] h.position.optionals

@[simp] theorem withAmounts_id (p : Portfolio) : p.withAmounts id = p := by
  simp [withAmounts]

@[simp] theorem withAmounts_withAmounts (g g' : Decimal → Decimal) (p : Portfolio) :
    (p.withAmounts g).withAmounts g' = p.withAmounts (g' ∘ g) := by
  simp [withAmounts]

theorem absent_withAmounts (g : Decimal → Decimal) (p : Portfolio) :
    (p.withAmounts g).absent = p.absent := by
  simp [absent, withAmounts, Holding.withAmounts, List.zipIdx_map, List.flatMap_map]

theorem gives_withAmounts_iff (g : Decimal → Decimal) (p : Portfolio) :
    codec.Gives p (p.withAmounts g) ↔ ∀ d ∈ p.amounts, Codec.decimal.Gives d (g d) := by
  rw [codec, Codec.gives_imap_iff (fun _ => rfl) (fun _ => rfl), Fields.gives_iff (by decide),
    amounts, List.forall_mem_flatMap]
  simp [fields, withAmounts, Codec.gives_list_map_iff, Holding.gives_withAmounts_iff]

theorem codec_legible (depth : Nat) : codec.Legible (depth + 4) := by
  refine Codec.Legible.imap (Fields.legible ?_ _) _ _
  exact ⟨(Holding.codec_legible depth).list, trivial⟩

theorem nulls_absent (p : Portfolio) :
    ∀ place ∈ p.absent, (codec.write p).at? place = some .null := by
  intro place hplace
  obtain ⟨⟨h, i⟩, hmem, hplace⟩ := List.mem_flatMap.1 hplace
  have hget : p.positions[i]? = some h := List.mem_zipIdx_iff_getElem?.1 hmem
  exact Doc.at?_of_mem_absentAt (Doc.at?_listed rfl hget rfl) h.position.nulls_absent hplace

end Portfolio

end DealDesk
