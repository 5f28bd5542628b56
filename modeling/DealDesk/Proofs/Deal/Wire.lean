import DealDesk.Proofs.Deal.Account
import DealDesk.Proofs.Deal.Confirmation
import DealDesk.Proofs.Deal.Position
import DealDesk.Proofs.Deal.WorkingOrder

/-!
# What goes over the wire

The records that a desk and a broker send each other are read back from their texts up to
their numbers: what is read for a decimal or for a double is what that reads back as from
the number that is printed for it.  All else comes back as it was, texts of any characters,
lists of any length and absent values included.

**Results.** `Wire.gives_withNumbers_iff` and `Wire.at?_absent`: what is read for a record, and
what stands for its absent members, kind by kind.  `Wire.reads_back_up_to_numbers`: what is
read from the text of a record.
-/

namespace DealDesk

open Json

/-- The records of the wire, by what they are. -/
inductive Wire where
  | opening
  | closing
  | amendment
  | placement
  | revision
  | portfolio
  | orderBook
  | confirmation
  | receipt
  | account

namespace Wire

/-- The records of a kind. -/
def Value : Wire → Type
  | .opening => Opening
  | .closing => Closing
  | .amendment => Amendment
  | .placement => Placement
  | .revision => Revision
  | .portfolio => Portfolio
  | .orderBook => OrderBook
  | .confirmation => Confirmation
  | .receipt => Receipt
  | .account => Account

def codec : (k : Wire) → Codec k.Value
  | .opening => Opening.codec
  | .closing => Closing.codec
  | .amendment => Amendment.codec
  | .placement => Placement.codec
  | .revision => Revision.codec
  | .portfolio => Portfolio.codec
  | .orderBook => OrderBook.codec
  | .confirmation => Confirmation.codec
  | .receipt => Receipt.codec
  | .account => Account.codec

/-- The decimals of a record. -/
def decimals : (k : Wire) → k.Value → List Decimal
  | .opening => Opening.amounts
  | .closing => Closing.amounts
  | .amendment => Amendment.amounts
  | .placement => Placement.amounts
  | .revision => Revision.amounts
  | .portfolio => Portfolio.amounts
  | .orderBook => OrderBook.amounts
  | .confirmation => Confirmation.amounts
  | .receipt => fun _ => []
  | .account => fun _ => []

/-- The doubles of a record. -/
def doubles : (k : Wire) → k.Value → List Float
  | .account => Account.amounts
  | _ => fun _ => []

/-- The record with other numbers. -/
def withNumbers (g : Decimal → Decimal) (h : Float → Float) : (k : Wire) → k.Value → k.Value
  | .opening => Opening.withAmounts g
  | .closing => Closing.withAmounts g
  | .amendment => Amendment.withAmounts g
  | .placement => Placement.withAmounts g
  | .revision => Revision.withAmounts g
  | .portfolio => Portfolio.withAmounts g
  | .orderBook => OrderBook.withAmounts g
  | .confirmation => Confirmation.withAmounts g
  | .receipt => id
  | .account => Account.withAmounts h

/-- The places of the members that may be absent and are. -/
def absent : (k : Wire) → k.Value → List (List Step)
  | .opening => fun r => Doc.absentAt [] r.optionals
  | .closing => fun r => Doc.absentAt [] r.optionals
  | .amendment => fun r => Doc.absentAt [] r.optionals
  | .placement => fun r => Doc.absentAt [] r.optionals
  | .revision => fun r => Doc.absentAt [] r.optionals
  | .portfolio => Portfolio.absent
  | .orderBook => OrderBook.absent
  | .confirmation => fun c => Doc.absentAt [] c.optionals
  | .receipt => fun _ => []
  | .account => fun a => Doc.absentAt [] a.optionals

/-- What stands for an absent member: no member in a request, nothing in an answer. -/
def absence : Wire → Option Doc
  | .opening | .closing | .amendment | .placement | .revision => none
  | .portfolio | .orderBook | .confirmation | .receipt | .account => some .null

/-- Each number of the record is read from what is printed for it as `g` or `h` says. -/
structure Rereads (k : Wire) (v : k.Value) (g : Decimal → Decimal) (h : Float → Float) : Prop where
  decimals : ∀ d ∈ k.decimals v, Codec.decimal.ofText (Codec.decimal.text d) = .ok (g d)
  doubles : ∀ f ∈ k.doubles v, Codec.real.ofText (Codec.real.text f) = .ok (h f)

theorem withNumbers_id (k : Wire) (v : k.Value) : k.withNumbers id id v = v := by
  cases k with
  | opening => exact Opening.withAmounts_id v
  | closing => exact Closing.withAmounts_id v
  | amendment => exact Amendment.withAmounts_id v
  | placement => exact Placement.withAmounts_id v
  | revision => exact Revision.withAmounts_id v
  | portfolio => exact Portfolio.withAmounts_id v
  | orderBook => exact OrderBook.withAmounts_id v
  | confirmation => exact Confirmation.withAmounts_id v
  | receipt => rfl
  | account => rfl

theorem withNumbers_withNumbers
    (k : Wire) (v : k.Value) (g g' : Decimal → Decimal) (h h' : Float → Float) :
    k.withNumbers g' h' (k.withNumbers g h v) = k.withNumbers (g' ∘ g) (h' ∘ h) v := by
  cases k with
  | opening => exact Opening.withAmounts_withAmounts g g' v
  | closing => exact Closing.withAmounts_withAmounts g g' v
  | amendment => exact Amendment.withAmounts_withAmounts g g' v
  | placement => exact Placement.withAmounts_withAmounts g g' v
  | revision => exact Revision.withAmounts_withAmounts g g' v
  | portfolio => exact Portfolio.withAmounts_withAmounts g g' v
  | orderBook => exact OrderBook.withAmounts_withAmounts g g' v
  | confirmation => exact Confirmation.withAmounts_withAmounts g g' v
  | receipt => rfl
  | account => rfl

theorem codec_legible (k : Wire) : k.codec.Legible 4 := by
  cases k with
  | opening => exact Opening.codec_legible 3
  | closing => exact Closing.codec_legible 3
  | amendment => exact Amendment.codec_legible 3
  | placement => exact Placement.codec_legible 3
  | revision => exact Revision.codec_legible 3
  | portfolio => exact Portfolio.codec_legible 0
  | orderBook => exact OrderBook.codec_legible 0
  | confirmation => exact Confirmation.codec_legible 1
  | receipt => exact Receipt.codec_legible 3
  | account => exact Account.codec_legible 1

theorem rereads_iff (k : Wire) (v : k.Value) (g : Decimal → Decimal) (h : Float → Float) :
    k.Rereads v g h
      ↔ (∀ d ∈ k.decimals v, Codec.decimal.Gives d (g d))
        ∧ ∀ f ∈ k.doubles v, Codec.real.Gives f (h f) := by
  simp only [← Codec.ofText_text_decimal_iff, ← Codec.ofText_text_real_iff]
  exact ⟨fun hr => ⟨hr.decimals, hr.doubles⟩, fun hr => ⟨hr.1, hr.2⟩⟩

theorem gives_withNumbers_iff
    (k : Wire) (v : k.Value) (g : Decimal → Decimal) (h : Float → Float) :
    k.codec.Gives v (k.withNumbers g h v) ↔ k.Rereads v g h := by
  rw [rereads_iff]
  have hnone : ∀ f ∈ ([] : List Float), Codec.real.Gives f (h f) := by simp
  cases k with
  | opening => exact (Opening.gives_withAmounts_iff g v).trans (and_iff_left hnone).symm
  | closing => exact (Closing.gives_withAmounts_iff g v).trans (and_iff_left hnone).symm
  | amendment => exact (Amendment.gives_withAmounts_iff g v).trans (and_iff_left hnone).symm
  | placement => exact (Placement.gives_withAmounts_iff g v).trans (and_iff_left hnone).symm
  | revision => exact (Revision.gives_withAmounts_iff g v).trans (and_iff_left hnone).symm
  | portfolio => exact (Portfolio.gives_withAmounts_iff g v).trans (and_iff_left hnone).symm
  | orderBook => exact (OrderBook.gives_withAmounts_iff g v).trans (and_iff_left hnone).symm
  | confirmation => exact (Confirmation.gives_withAmounts_iff g v).trans (and_iff_left hnone).symm
  | receipt => exact iff_of_true (Receipt.readsBack v) ⟨by simp [decimals], hnone⟩
  | account =>
      refine (Account.gives_withAmounts_iff h v).trans (and_iff_right ?_).symm
      simp [decimals]

theorem at?_absent (k : Wire) (v : k.Value) :
    ∀ place ∈ k.absent v, (k.codec.write v).at? place = k.absence := by
  intro place hplace
  cases k with
  | opening => exact Doc.at?_of_mem_absentAt rfl (Opening.omits_absent v) hplace
  | closing => exact Doc.at?_of_mem_absentAt rfl (Closing.omits_absent v) hplace
  | amendment => exact Doc.at?_of_mem_absentAt rfl (Amendment.omits_absent v) hplace
  | placement => exact Doc.at?_of_mem_absentAt rfl (Placement.omits_absent v) hplace
  | revision => exact Doc.at?_of_mem_absentAt rfl (Revision.omits_absent v) hplace
  | portfolio => exact Portfolio.nulls_absent v place hplace
  | orderBook => exact OrderBook.nulls_absent v place hplace
  | confirmation => exact Doc.at?_of_mem_absentAt rfl (Confirmation.nulls_absent v) hplace
  | receipt => exact absurd hplace List.not_mem_nil
  | account => exact Doc.at?_of_mem_absentAt rfl (Account.nulls_absent v) hplace

theorem absent_withNumbers
    (k : Wire) (v : k.Value) (g : Decimal → Decimal) (h : Float → Float) :
    k.absent (k.withNumbers g h v) = k.absent v := by
  cases k with
  | opening => exact congrArg (Doc.absentAt []) (Opening.optionals_withAmounts g v)
  | closing => exact congrArg (Doc.absentAt []) (Closing.optionals_withAmounts g v)
  | amendment => exact congrArg (Doc.absentAt []) (Amendment.optionals_withAmounts g v)
  | placement => exact congrArg (Doc.absentAt []) (Placement.optionals_withAmounts g v)
  | revision => exact congrArg (Doc.absentAt []) (Revision.optionals_withAmounts g v)
  | portfolio => exact Portfolio.absent_withAmounts g v
  | orderBook => exact OrderBook.absent_withAmounts g v
  | confirmation => exact congrArg (Doc.absentAt []) (Confirmation.optionals_withAmounts g v)
  | receipt => rfl
  | account => rfl

theorem ofText_text_withNumbers_iff
    (k : Wire) (v : k.Value) (g : Decimal → Decimal) (h : Float → Float) :
    k.codec.ofText (k.codec.text v) = .ok (k.withNumbers g h v) ↔ k.Rereads v g h := by
  rw [Codec.ofText_text_iff Numeral.wellFormed_of_isProper (k.codec_legible v),
    gives_withNumbers_iff]

/-- The records are the same but for zeros at the end of decimals. -/
def SameUpToZeros (k : Wire) (v w : k.Value) : Prop :=
  k.withNumbers Decimal.normalized id v = k.withNumbers Decimal.normalized id w

/-- What is read for a decimal, if that is the same number, and else the decimal itself. -/
def reread (d : Decimal) : Decimal :=
  match Codec.decimal.ofText (Codec.decimal.text d) with
  | .ok e => if e.normalized = d.normalized then e else d
  | .error _ => d

theorem normalized_comp_reread : Decimal.normalized ∘ reread = Decimal.normalized := by
  funext d
  rw [Function.comp_apply, reread]
  split
  · split
    · assumption
    · rfl
  · rfl

theorem exists_ofText_sameUpToZeros
    {k : Wire} {v : k.Value}
    (hdecimals : ∀ d ∈ k.decimals v, ∃ e,
      Codec.decimal.ofText (Codec.decimal.text d) = .ok e ∧ e.normalized = d.normalized)
    (hdoubles : ∀ f ∈ k.doubles v, Codec.real.ofText (Codec.real.text f) = .ok f) :
    ∃ w, k.codec.ofText (k.codec.text v) = .ok w ∧ k.SameUpToZeros w v := by
  have hreads : k.Rereads v reread id := by
    refine ⟨fun d hd => ?_, hdoubles⟩
    obtain ⟨e, he, hsame⟩ := hdecimals d hd
    rw [reread, he]
    simp only [if_pos hsame]
  refine ⟨k.withNumbers reread id v, (k.ofText_text_withNumbers_iff v reread id).2 hreads, ?_⟩
  rw [SameUpToZeros, withNumbers_withNumbers, normalized_comp_reread, Function.id_comp]

/--
For every record of every kind: it is read from its text exactly if each of its numbers is
read from the number that is printed for it, and otherwise with the numbers that are read
instead; it comes back the same up to zeros at the end of decimals if each decimal does.
At the place of an absent member stands nothing, in a request no member and in an answer a
null, and the same members are absent from what is read.
-/
theorem reads_back_up_to_numbers
    (k : Wire) (v : k.Value) :
    (k.codec.ofText (k.codec.text v) = .ok v ↔ k.Rereads v id id)
      ∧ (∀ g h, k.codec.ofText (k.codec.text v) = .ok (k.withNumbers g h v) ↔ k.Rereads v g h)
      ∧ ((∀ d ∈ k.decimals v, ∃ e,
            Codec.decimal.ofText (Codec.decimal.text d) = .ok e ∧ e.normalized = d.normalized) →
          (∀ f ∈ k.doubles v, Codec.real.ofText (Codec.real.text f) = .ok f) →
          ∃ w, k.codec.ofText (k.codec.text v) = .ok w ∧ k.SameUpToZeros w v)
      ∧ (∀ place ∈ k.absent v, (readText (k.codec.text v)).doc.at? place = k.absence)
      ∧ ∀ g h, k.absent (k.withNumbers g h v) = k.absent v := by
  have hreading : readText (k.codec.text v) = ⟨k.codec.write v, false⟩ :=
    readText_compact Numeral.wellFormed_of_isProper (k.codec_legible v)
  refine ⟨?_, k.ofText_text_withNumbers_iff v, exists_ofText_sameUpToZeros, ?_,
    k.absent_withNumbers v⟩
  · rw [← ofText_text_withNumbers_iff, withNumbers_id]
  · rw [hreading]
    exact k.at?_absent v

/-- A closing request with a zero at the end of its size, named by what it deals in. -/
def specimen : Closing where
  direction := .sell
  orderType := .limit
  size := ⟨false, 150, 1, by decide, by decide⟩
  timeInForce := .fillOrKill
  dealId := none
  epic := some "IX.D.\"é\"\n"
  expiry := some ""
  level := some ⟨true, 7250, 0, by decide, by decide⟩
  quoteId := none

theorem rereads_specimen :
    ∀ d ∈ decimals .closing specimen, ∃ e,
      Codec.decimal.ofText (Codec.decimal.text d) = .ok e ∧ e.normalized = d.normalized := by
  have hread : ∀ d ∈ decimals .closing specimen,
      (Codec.decimal.ofText (Codec.decimal.text d)).toOption.map Decimal.normalized
        = some d.normalized := by
    decide +kernel
  intro d hd
  have hsame := hread d hd
  cases hr : Codec.decimal.ofText (Codec.decimal.text d) with
  | error e =>
      rw [hr] at hsame
      cases hsame
  | ok e =>
      rw [hr] at hsame
      exact ⟨e, rfl, Option.some.inj hsame⟩

theorem reads_back_up_to_numbers_specimen :
    (∀ d ∈ decimals .closing specimen, ∃ e,
        Codec.decimal.ofText (Codec.decimal.text d) = .ok e ∧ e.normalized = d.normalized)
      ∧ (∀ f ∈ doubles .closing specimen, Codec.real.ofText (Codec.real.text f) = .ok f)
      ∧ (∃ w, Closing.codec.ofText (Closing.codec.text specimen) = .ok w
        ∧ SameUpToZeros .closing w specimen)
      ∧ [.member "quoteId"] ∈ absent .closing specimen
      ∧ (readText (Closing.codec.text specimen)).doc.at? [.member "quoteId"] = none := by
  have hall := reads_back_up_to_numbers .closing specimen
  have hdoubles : ∀ f ∈ doubles .closing specimen, Codec.real.ofText (Codec.real.text f) = .ok f :=
    fun f hf => absurd hf List.not_mem_nil
  have hplace : [.member "quoteId"] ∈ absent .closing specimen :=
    List.mem_cons_of_mem _ List.mem_cons_self
  exact ⟨rereads_specimen, hdoubles, hall.2.2.1 rereads_specimen hdoubles, hplace,
    hall.2.2.2.1 _ hplace⟩

end Wire

end DealDesk
