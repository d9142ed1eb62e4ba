import Forecast.Billing.Pricing
import Forecast.Lib.SignificantDigits

/-!
# The estimate and the charge

`estimateCharge` prices the prompt and the completion budget. The charge of what
was used adds the cached and the reasoning tokens on top of them, so it stays
within the estimate for every usage exactly when those parts can add nothing.
-/

open GridRounding

namespace Forecast

/-- The token counts that a provider reports: non-negative integers. -/
structure ReportedUsage where
  promptTokens : ℕ
  completionTokens : ℕ
  cachedTokens : ℕ
  reasoningTokens : ℕ
deriving DecidableEq

/-- The counts as `settle` passes them on. -/
def ReportedUsage.tokens (usage : ReportedUsage) : TokenUsageInput where
  promptTokens := some usage.promptTokens
  completionTokens := some usage.completionTokens
  cachedTokens := some usage.cachedTokens
  reasoningTokens := some usage.reasoningTokens

/-- The usage keeps to the prompt and the completion budget of the estimate. -/
structure ReportedUsage.Within (usage : ReportedUsage) (promptTokens maxCompletionTokens : ℕ) :
    Prop where
  prompt : usage.promptTokens ≤ promptTokens
  completion : usage.completionTokens ≤ maxCompletionTokens
  cached : usage.cachedTokens ≤ usage.promptTokens
  reasoning : usage.reasoningTokens ≤ usage.completionTokens

/-- No rate is negative. -/
structure TokenRates.Nonneg (rates : TokenRates) : Prop where
  input : 0 ≤ rates.input.micros
  output : 0 ≤ rates.output.micros
  cachedInput : 0 ≤ rates.cachedInput.micros
  reasoning : 0 ≤ rates.reasoning.micros
  embedding : 0 ≤ rates.embedding.micros
  image : 0 ≤ rates.image.micros

/-- What is reserved covers whatever is used within the estimate. -/
def EstimateCovers (pricing : AiModelPricing) (promptTokens maxCompletionTokens : ℕ) : Prop :=
  ∀ usage : ReportedUsage, usage.Within promptTokens maxCompletionTokens →
    (computeCost pricing usage.tokens).customerCharge ≤
      estimateCharge pricing promptTokens maxCompletionTokens

/-- A part that is nothing, or is lost below the twentieth digit of what it is added to. -/
def Decimal.Negligible (total part : Decimal) : Prop :=
  part = 0 ∨ (0 < total ∧ 2 * part < significantUnit Decimal.precision total)

/-- Neither cached nor reasoning tokens can add to the price of the prompt and the completion. -/
def AddsNothing (rates : TokenRates) (promptTokens maxCompletionTokens : ℕ) : Prop :=
  let total := Decimal.plus (perMillion (some (promptTokens : Decimal)) rates.input)
    (perMillion (some (maxCompletionTokens : Decimal)) rates.output)
  Decimal.Negligible total (perMillion (some (promptTokens : Decimal)) rates.cachedInput) ∧
    Decimal.Negligible total (perMillion (some (maxCompletionTokens : Decimal)) rates.reasoning)

namespace Decimal

theorem toSignificant_plus (x y : Decimal) : toSignificant precision (plus x y) = plus x y :=
  toSignificant_toSignificant (by decide) _

theorem plus_zero {x : Decimal} (hx : toSignificant precision x = x) : plus x 0 = x := by
  rw [plus, add_zero, hx]

theorem plus_le_plus {x x' y y' : Decimal} (hx : x ≤ x') (hy : y ≤ y') : plus x y ≤ plus x' y' :=
  toSignificant_mono (by decide) (add_le_add hx hy)

theorem plus_nonneg {x y : Decimal} (hx : 0 ≤ x) (hy : 0 ≤ y) : 0 ≤ plus x y :=
  toSignificant_nonneg (add_nonneg hx hy)

theorem le_plus {x y : Decimal} (hx : toSignificant precision x = x) (hy : 0 ≤ y) :
    x ≤ plus x y := by
  calc x = plus x 0 := (plus_zero hx).symm
    _ ≤ plus x y := plus_le_plus le_rfl hy

theorem plus_eq_self_iff {total part : Decimal} (htotal : toSignificant precision total = total)
    (hnonneg : 0 ≤ total) (hpart : 0 ≤ part) :
    plus total part = total ↔ Negligible total part := by
  unfold plus Negligible
  rcases hnonneg.eq_or_lt with rfl | hpos
  · rw [zero_add, or_iff_left (fun h => lt_irrefl _ h.1)]
    constructor
    · intro h
      by_contra hne
      have hround := toSignificant_pos (p := precision) (by decide) (hpart.lt_of_ne' hne)
      exact hround.ne' h
    · rintro rfl
      exact toSignificant_zero _
  · rw [toSignificant_add_eq_self_iff htotal hpos hpart (by decide)]
    constructor
    · intro h
      exact Or.inr ⟨hpos, h⟩
    · rintro (rfl | ⟨-, h⟩)
      · rw [mul_zero]
        exact significantUnit_pos _ _
      · exact h

end Decimal

section PerMillion

variable {rate : Numeric} {m n : ℕ}

theorem toDecimal_nonneg (hrate : 0 ≤ rate.micros) : 0 ≤ rate.toDecimal :=
  div_nonneg (Int.cast_nonneg hrate) (by norm_num [microsPerUnit])

theorem perMillion_none : perMillion none rate = 0 := by
  simp [perMillion, Decimal.times, Decimal.dividedBy]

theorem perUnit_none : perUnit none rate = 0 := by
  simp [perUnit, Decimal.times]

theorem perMillion_zero : perMillion (some ((0 : ℕ) : Decimal)) rate = 0 := by
  simp [perMillion, Decimal.times, Decimal.dividedBy]

theorem perMillion_mono (hrate : 0 ≤ rate.micros) (h : m ≤ n) :
    perMillion (some (m : Decimal)) rate ≤ perMillion (some (n : Decimal)) rate := by
  have htokens : (m : Decimal) ≤ n := by exact_mod_cast h
  have htimes : Decimal.times m rate.toDecimal ≤ Decimal.times n rate.toDecimal :=
    toSignificant_mono (by decide) (mul_le_mul_of_nonneg_right htokens (toDecimal_nonneg hrate))
  exact toSignificant_mono (by decide) (div_le_div_of_nonneg_right htimes (by norm_num))

theorem perMillion_nonneg (hrate : 0 ≤ rate.micros) : 0 ≤ perMillion (some (n : Decimal)) rate := by
  calc (0 : Decimal) = perMillion (some ((0 : ℕ) : Decimal)) rate := perMillion_zero.symm
    _ ≤ perMillion (some (n : Decimal)) rate := perMillion_mono hrate (Nat.zero_le n)

end PerMillion

section Charge

variable (pricing : AiModelPricing)

theorem estimateCharge_eq (promptTokens maxCompletionTokens : ℕ) :
    estimateCharge pricing promptTokens maxCompletionTokens =
      Decimal.plus (perMillion (some (promptTokens : Decimal)) pricing.customer.input)
        (perMillion (some (maxCompletionTokens : Decimal)) pricing.customer.output) := by
  change [_, perMillion none _, perMillion none _, perMillion none _, perUnit none _].foldl
    Decimal.plus _ = _
  simp only [List.foldl_cons, List.foldl_nil, perMillion_none, perUnit_none]
  have hdigits := Decimal.toSignificant_plus
    (perMillion (some (promptTokens : Decimal)) pricing.customer.input)
    (perMillion (some (maxCompletionTokens : Decimal)) pricing.customer.output)
  rw [Decimal.plus_zero hdigits, Decimal.plus_zero hdigits, Decimal.plus_zero hdigits,
    Decimal.plus_zero hdigits]

theorem customerCharge_tokens (usage : ReportedUsage) :
    (computeCost pricing usage.tokens).customerCharge =
      Decimal.plus (Decimal.plus (Decimal.plus
        (perMillion (some (usage.promptTokens : Decimal)) pricing.customer.input)
        (perMillion (some (usage.completionTokens : Decimal)) pricing.customer.output))
        (perMillion (some (usage.cachedTokens : Decimal)) pricing.customer.cachedInput))
        (perMillion (some (usage.reasoningTokens : Decimal)) pricing.customer.reasoning) := by
  change [_, _, _, perMillion none _, perUnit none _].foldl Decimal.plus _ = _
  simp only [List.foldl_cons, List.foldl_nil, perMillion_none, perUnit_none]
  rw [Decimal.plus_zero (Decimal.toSignificant_plus _ _),
    Decimal.plus_zero (Decimal.toSignificant_plus _ _)]
  rfl

end Charge

/-- For rates that are not negative, the estimate covers every usage within it when and only
when cached and reasoning tokens cannot add anything to it. -/
theorem estimateCovers_iff_addsNothing (pricing : AiModelPricing)
    (promptTokens maxCompletionTokens : ℕ) (hrates : pricing.customer.Nonneg) :
    EstimateCovers pricing promptTokens maxCompletionTokens ↔
      AddsNothing pricing.customer promptTokens maxCompletionTokens := by
  set prompt := perMillion (some (promptTokens : Decimal)) pricing.customer.input with hprompt
  set completion := perMillion (some (maxCompletionTokens : Decimal)) pricing.customer.output
    with hcompletion
  set cached := perMillion (some (promptTokens : Decimal)) pricing.customer.cachedInput
    with hcached
  set reasoning := perMillion (some (maxCompletionTokens : Decimal)) pricing.customer.reasoning
    with hreasoning
  have hdigits := Decimal.toSignificant_plus prompt completion
  have htotal : 0 ≤ Decimal.plus prompt completion :=
    Decimal.plus_nonneg (perMillion_nonneg hrates.input) (perMillion_nonneg hrates.output)
  have hcached0 : 0 ≤ cached := perMillion_nonneg hrates.cachedInput
  have hreasoning0 : 0 ≤ reasoning := perMillion_nonneg hrates.reasoning
  have hcondition : AddsNothing pricing.customer promptTokens maxCompletionTokens ↔
      Decimal.plus (Decimal.plus prompt completion) cached = Decimal.plus prompt completion ∧
        Decimal.plus (Decimal.plus prompt completion) reasoning =
          Decimal.plus prompt completion := by
    rw [Decimal.plus_eq_self_iff hdigits htotal hcached0,
      Decimal.plus_eq_self_iff hdigits htotal hreasoning0]
    rfl
  rw [hcondition]
  constructor
  · intro hcovers
    have hfull : ∀ usage : ReportedUsage, usage.promptTokens = promptTokens →
        usage.completionTokens = maxCompletionTokens →
        usage.Within promptTokens maxCompletionTokens →
        Decimal.plus (Decimal.plus (Decimal.plus prompt completion)
          (perMillion (some (usage.cachedTokens : Decimal)) pricing.customer.cachedInput))
          (perMillion (some (usage.reasoningTokens : Decimal)) pricing.customer.reasoning) ≤
            Decimal.plus prompt completion := by
      intro usage hp hc hwithin
      have hle := hcovers usage hwithin
      rw [customerCharge_tokens, estimateCharge_eq, hp, hc] at hle
      exact hle
    constructor
    · -- a prompt read from the cache from end to end
      have hle := hfull ⟨promptTokens, maxCompletionTokens, promptTokens, 0⟩ rfl rfl
        ⟨le_rfl, le_rfl, le_rfl, Nat.zero_le _⟩
      rw [perMillion_zero, Decimal.plus_zero (Decimal.toSignificant_plus _ _)] at hle
      exact le_antisymm hle (Decimal.le_plus hdigits hcached0)
    · -- a completion of nothing but reasoning
      have hle := hfull ⟨promptTokens, maxCompletionTokens, 0, maxCompletionTokens⟩ rfl rfl
        ⟨le_rfl, le_rfl, Nat.zero_le _, le_rfl⟩
      rw [perMillion_zero, Decimal.plus_zero hdigits] at hle
      exact le_antisymm hle (Decimal.le_plus hdigits hreasoning0)
  · rintro ⟨hnocached, hnoreasoning⟩ usage hwithin
    rw [customerCharge_tokens, estimateCharge_eq]
    calc _ ≤ Decimal.plus (Decimal.plus (Decimal.plus prompt completion) cached) reasoning :=
          Decimal.plus_le_plus
            (Decimal.plus_le_plus
              (Decimal.plus_le_plus (perMillion_mono hrates.input hwithin.prompt)
                (perMillion_mono hrates.output hwithin.completion))
              (perMillion_mono hrates.cachedInput (hwithin.cached.trans hwithin.prompt)))
            (perMillion_mono hrates.reasoning (hwithin.reasoning.trans hwithin.completion))
      _ = Decimal.plus prompt completion := by rw [hnocached, hnoreasoning]

/-! ### A price row with a rate for cached input -/

theorem unit_bound : |(1000000 : ℤ)| < 10 ^ 18 := by norm_num

theorem half_bound : |(500000 : ℤ)| < 10 ^ 18 := by norm_num

/-- One unit for a million prompt tokens, and half of it more for those read from the cache. -/
def cachedPricing : AiModelPricing where
  id := 1
  scope := .global
  currency := "USD"
  provider := ⟨.zero, .zero, .zero, .zero, .zero, .zero⟩
  customer := ⟨⟨1000000, unit_bound⟩, .zero, ⟨500000, half_bound⟩, .zero, .zero, .zero⟩

theorem estimateCovers_iff_addsNothing_cachedPricing :
    EstimateCovers cachedPricing 1000 100 ↔ AddsNothing cachedPricing.customer 1000 100 :=
  estimateCovers_iff_addsNothing cachedPricing 1000 100
    ⟨by decide, by decide, by decide, by decide, by decide, by decide⟩

/-- A prompt of 1000 tokens, all of them cached, is charged half more than was reserved. -/
theorem not_estimateCovers_cachedPrompt : ¬ EstimateCovers cachedPricing 1000 100 := by
  intro hcovers
  have hle := hcovers ⟨1000, 0, 1000, 0⟩ ⟨by decide, by decide, by decide, by decide⟩
  have hlt : ¬ (computeCost cachedPricing (ReportedUsage.tokens ⟨1000, 0, 1000, 0⟩)).customerCharge ≤
      estimateCharge cachedPricing (1000 : ℕ) (100 : ℕ) := by decide +kernel
  exact hlt hle

end Forecast
