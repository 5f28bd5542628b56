import DealDesk.Deal.Kind
import DealDesk.Proofs.Json.Rereading

/-!
# The kinds of deals in documents

**Results.** Every word in which the broker speaks of deals reads back from its spelling,
also one that stands for all words that are not listed.
-/

namespace DealDesk

open Json

@[simp] theorem Side.plain : Side.codec.Plain :=
  Codec.plain_named Side.find?_name

@[simp] theorem Pricing.plain : Pricing.codec.Plain :=
  Codec.plain_named Pricing.find?_name

@[simp] theorem Filling.plain : Filling.codec.Plain :=
  Codec.plain_named Filling.find?_name

@[simp] theorem Instrument.plain : Instrument.codec.Plain :=
  Codec.plain_named Instrument.find?_name

@[simp] theorem MarketState.plain : MarketState.codec.Plain :=
  Codec.plain_named MarketState.find?_name

@[simp] theorem Trigger.plain : Trigger.codec.Plain :=
  Codec.plain_named Trigger.find?_name

@[simp] theorem Duration.plain : Duration.codec.Plain :=
  Codec.plain_named Duration.find?_name

@[simp] theorem Verdict.plain : Verdict.codec.Plain :=
  Codec.plain_named Verdict.find?_name

@[simp] theorem PositionState.plain : PositionState.codec.Plain :=
  Codec.plain_named PositionState.find?_name

@[simp] theorem Effect.plain : Effect.codec.Plain :=
  Codec.plain_named Effect.find?_name

end DealDesk
