import Forecast.Billing.Schema

/-!
# The pricing engine

Provider costs and customer prices are columns per million tokens (images per
unit). The charge of a request is a sum of products of token counts and rates.
-/

namespace Forecast

/-- The six rates of one side of an `ai_model_pricing` row. -/
structure TokenRates where
  input : Numeric
  output : Numeric
  cachedInput : Numeric
  reasoning : Numeric
  embedding : Numeric
  image : Numeric
deriving DecidableEq

inductive AiPricingScope where
  | global
  | plan
  | tenant
deriving DecidableEq

structure AiModelPricing where
  id : Id
  scope : AiPricingScope
  currency : String
  provider : TokenRates
  customer : TokenRates
deriving DecidableEq

structure TokenUsageInput where
  promptTokens : Option Decimal := none
  completionTokens : Option Decimal := none
  cachedTokens : Option Decimal := none
  reasoningTokens : Option Decimal := none
  embeddingTokens : Option Decimal := none
  images : Option Decimal := none

structure CostBreakdown where
  providerCost : Decimal
  customerCharge : Decimal
  margin : Decimal
  marginPct : Option Decimal
  pricingId : Id
  scope : AiPricingScope
  currency : String
deriving DecidableEq

def perMillion (tokens : Option Decimal) (rate : Numeric) : Decimal :=
  Decimal.dividedBy (Decimal.times (tokens.getD 0) rate.toDecimal) 1000000

def perUnit (units : Option Decimal) (rate : Numeric) : Decimal :=
  Decimal.times (units.getD 0) rate.toDecimal

/-- The six products, added from left to right. -/
def costAt (rates : TokenRates) (usage : TokenUsageInput) : Decimal :=
  [perMillion usage.completionTokens rates.output,
    perMillion usage.cachedTokens rates.cachedInput,
    perMillion usage.reasoningTokens rates.reasoning,
    perMillion usage.embeddingTokens rates.embedding,
    perUnit usage.images rates.image].foldl Decimal.plus
      (perMillion usage.promptTokens rates.input)

def computeCost (pricing : AiModelPricing) (usage : TokenUsageInput) : CostBreakdown :=
  let providerCost := costAt pricing.provider usage
  let customerCharge := costAt pricing.customer usage
  let margin := Decimal.minus customerCharge providerCost
  { providerCost := providerCost
    customerCharge := customerCharge
    margin := margin
    marginPct := if customerCharge = 0 then none else
      some (GridRounding.roundTo (1 / 100)
        (Decimal.times (Decimal.dividedBy margin customerCharge) 100))
    pricingId := pricing.id
    scope := pricing.scope
    currency := pricing.currency }

/-- The worst-case charge that is reserved ahead of a request. -/
def estimateCharge (pricing : AiModelPricing) (promptTokens maxCompletionTokens : Decimal) :
    Decimal :=
  (computeCost pricing
    { promptTokens := some promptTokens
      completionTokens := some maxCompletionTokens }).customerCharge

end Forecast
