import EaQuant.Library.Dict
import EaQuant.Strategy.Rules

/-!
# Strategies and their parameters

`strategy/registry.py` and the logic of `strategy/rules.py`: the declared parameters of a strategy,
the normalization of a mapping against them, and the machines that a configuration starts.
`EntryLogic` waits for a number of bars or for two averages to cross, and `PriceRuleLogic` for a
condition on a buffer of closes. `onEvent` is one step of either: the answer to an event, and the
machine behind it.
-/

namespace EaQuant

open Checked PriceRules

/-! ### Parameters -/

inductive ParameterValue
  | integer (number : ℤ)
  | text (text : String)
  deriving DecidableEq

/-- The value that a mapping of documents holds for a parameter. -/
def ParameterValue.document : ParameterValue → Json
  | .integer number => .int number
  | .text written => .text written

/-- `str(value)`. -/
def ParameterValue.str : ParameterValue → String
  | .integer number => toString number
  | .text written => written

/-- `Decimal(value)` of a normalized number. -/
def ParameterValue.decimal : ParameterValue → Except RuleError ℚ
  | .integer number => .ok number
  | .text written => ((CanonicalDecimal.ofText written).map CanonicalDecimal.toRat).mapError .raised

inductive ParameterType
  | integer
  | decimal
  | priceRuleV1
  deriving DecidableEq

/-- `ParameterV1`. -/
structure Parameter where
  name : String
  type : ParameterType
  required : Bool
  default : ParameterValue
  staticMinimum : Option ParameterValue
  staticMaximum : Option ParameterValue
  deriving DecidableEq

/-- `decode_rule` of a value of any type. -/
def decodeRuleValue (value : Json) : Except RuleError PriceRule := do
  let text ← demand (Json.textOf (some value))
    (.valueError "rule must be a JSON string of at most 4096 bytes")
  decodeRule text

namespace Parameter

/-- `_typed`. -/
def typed (parameter : Parameter) (value : Json) : Except RuleError ParameterValue :=
  match parameter.type with
  | .priceRuleV1 => do
    let rule ← decodeRuleValue value
    pure (.text rule.canonical)
  | .integer => do
    let number ← demand (Json.intOf (some value))
      (.valueError (parameter.name ++ " must be an integer"))
    pure (.integer number)
  | .decimal => do
    let text ← demand (Json.textOf (some value))
      (.valueError (parameter.name ++ " must be an ea-decimal-v1 string"))
    let decimal ← (CanonicalDecimal.ofText text).mapError .raised
    pure (.text decimal.text)

def requireMinimum (parameter : Parameter) (normalized : ParameterValue) : Except RuleError Unit :=
  match parameter.staticMinimum with
  | none => pure ()
  | some minimum => do
    let value ← normalized.decimal
    let bound ← minimum.decimal
    require (¬value < bound) (.valueError (parameter.name ++ " is below minimum"))

def requireMaximum (parameter : Parameter) (normalized : ParameterValue) : Except RuleError Unit :=
  match parameter.staticMaximum with
  | none => pure ()
  | some maximum => do
    let value ← normalized.decimal
    let bound ← maximum.decimal
    require (¬bound < value) (.valueError (parameter.name ++ " is above maximum"))

def normalize (parameter : Parameter) (value : Json) : Except RuleError ParameterValue := do
  let normalized ← parameter.typed value
  parameter.requireMinimum normalized
  parameter.requireMaximum normalized
  pure normalized

end Parameter

/-- The normalized parameters of a strategy. -/
abbrev Parameters := Dict String ParameterValue

/-- `parameters[name]`. -/
def Parameters.get (parameters : Parameters) (name : String) : Except RuleError ParameterValue :=
  demand (parameters.lookup name) (.keyError name)

/-- `int(parameters[name])` of a declared integer. A text is no normalized integer. -/
def Parameters.integer (parameters : Parameters) (name : String) : Except RuleError ℤ := do
  match ← Parameters.get parameters name with
  | .integer number => pure number
  | .text _ => .error (.typeError name)

/-- `CanonicalDecimal(str(parameters[name]))`. -/
def Parameters.decimal (parameters : Parameters) (name : String) :
    Except RuleError CanonicalDecimal := do
  let value ← Parameters.get parameters name
  (CanonicalDecimal.ofText value.str).mapError .raised

/-- `_positive_quantity`. -/
def positiveQuantity (parameters : Parameters) : Except RuleError Unit := do
  let quantity ← Parameters.decimal parameters "target_quantity"
  (requirePositive quantity "target_quantity").mapError .raised

/-- `_moving_average`. -/
def movingAverage (parameters : Parameters) : Except RuleError Unit := do
  positiveQuantity parameters
  let fast ← Parameters.integer parameters "fast_window"
  let slow ← Parameters.integer parameters "slow_window"
  require (fast < slow) (.valueError "fast_window must be less than slow_window")

/-- `StrategyEntryV1`, with the parameters of its descriptor. -/
structure StrategyEntry where
  parameters : List Parameter
  validate : Parameters → Except RuleError Unit

/-- One parameter of `normalize`. -/
def normalizeParameter (given : Dict String Json) (result : Parameters) (parameter : Parameter) :
    Except RuleError Parameters := do
  require (given.lookup parameter.name ≠ none ∨ parameter.required = false)
    (.valueError ("missing strategy parameter " ++ parameter.name))
  let value ← parameter.normalize
    ((given.lookup parameter.name).getD parameter.default.document)
  pure (AList.insert parameter.name value result)

/-- `normalize` of a mapping. -/
def StrategyEntry.normalize (entry : StrategyEntry) (given : Dict String Json) :
    Except RuleError Parameters := do
  require (∀ name ∈ given.keys, name ∈ entry.parameters.map Parameter.name)
    (.valueError "unknown strategy parameter")
  let declared := entry.parameters.insertionSort fun first second ↦ first.name ≤ second.name
  let result ← declared.foldlM (normalizeParameter given) ∅
  entry.validate result
  pure result

/-- `DEFAULT_RULE`. -/
def DEFAULT_RULE : String :=
  "\x7b\"version\":1,\"when\":\x7b\"op\":\"gt\",\"left\":\x7b\"kind\":\"price\",\"field\":\"close\"\x7d" ++
    ",\"right\":\x7b\"kind\":\"sma\",\"window\":2\x7d\x7d,\"action\":\"ENTER_LONG\"\x7d"

/-- `_QUANTITY`. -/
def QUANTITY : Parameter := ⟨"target_quantity", .decimal, true, .text "1", some (.text "0"), none⟩

/-- The entry of `moving-average-entry-v1`. -/
def movingAverageEntry : StrategyEntry where
  parameters := [⟨"fast_window", .integer, true, .integer 5, some (.integer 1), none⟩,
    ⟨"slow_window", .integer, true, .integer 20, some (.integer 2), none⟩, QUANTITY]
  validate := movingAverage

/-- The entry of `price-rule-entry-v1`. -/
def priceRuleEntry : StrategyEntry where
  parameters := [⟨"rule", .priceRuleV1, true, .text DEFAULT_RULE, none, none⟩, QUANTITY]
  validate := positiveQuantity

/-! ### Machines -/

inductive EntryMode
  | flat
  | delay
  | average
  deriving DecidableEq

structure EntryLogic where
  parameters : Parameters
  mode : EntryMode
  count : ℕ
  closes : List ℚ
  entered : Bool

namespace EntryLogic

/-- The machine of a strategy that has seen nothing. -/
def create (parameters : Parameters) (mode : EntryMode) : EntryLogic :=
  ⟨parameters, mode, 0, [], false⟩

/-- Whether a counted market triggers, with the closes that are kept. -/
def trigger (logic : EntryLogic) (close : Binary64) : Except RuleError (Bool × EntryLogic) := do
  if logic.mode = .delay then
    let delay ← Parameters.integer logic.parameters "entry_delay_bars"
    pure (decide (delay < logic.count), logic)
  else
    let slow ← Parameters.integer logic.parameters "slow_window"
    let fast ← Parameters.integer logic.parameters "fast_window"
    let closes := lastOf slow (logic.closes ++ [close.asFraction])
    pure (decide ((closes.length : ℤ) = slow ∧
      closes.sum * fast < (lastOf fast closes).sum * slow), { logic with closes := closes })

/-- `on_market`. -/
def onMarket (logic : EntryLogic) (close : Binary64) :
    Except RuleError (Option CanonicalDecimal × EntryLogic) := do
  if logic.entered ∨ logic.mode = .flat then
    pure (none, logic)
  else
    let (triggered, logic) ← { logic with count := logic.count + 1 }.trigger close
    if triggered then
      let quantity ← Parameters.decimal logic.parameters "target_quantity"
      pure (some quantity, { logic with entered := true })
    else pure (none, logic)

/-- `on_event`. -/
def onEvent (logic : EntryLogic) (event : MarketDataEnvelope) :
    Except RuleError (Option CanonicalDecimal × EntryLogic) :=
  if logic.mode = .average ∧ (event.revision ≠ 0 ∨ event.payload.adjustment ≠ .raw) then
    pure (none, logic)
  else logic.onMarket event.payload.close

end EntryLogic

/-- `PriceRuleLogic`. -/
structure PriceRuleLogic where
  rule : PriceRule
  quantity : CanonicalDecimal
  closes : List ℚ
  entered : Bool

namespace PriceRuleLogic

/-- `__init__`. -/
def create (parameters : Parameters) : Except RuleError PriceRuleLogic := do
  let value ← Parameters.get parameters "rule"
  let rule ← decodeRuleValue value.document
  let quantity ← Parameters.decimal parameters "target_quantity"
  pure ⟨rule, quantity, [], false⟩

/-- `condition(self.rule.document["when"])`. -/
def holds (logic : PriceRuleLogic) (prices : Bar) : Except RuleError Bool := do
  let members ← asNode logic.rule.document
  condition prices logic.closes 6 (← getItem members "when")

/-- `on_prices`. -/
def onPrices (logic : PriceRuleLogic) (prices : Bar) :
    Except RuleError (Option CanonicalDecimal × PriceRuleLogic) := do
  if logic.entered then
    pure (none, logic)
  else
    let logic := { logic with
      closes := lastOf logic.rule.history (logic.closes ++ [prices.close.asFraction]) }
    if logic.closes.length < logic.rule.history then
      pure (none, logic)
    else if ← logic.holds prices then
      pure (some logic.quantity, { logic with entered := true })
    else pure (none, logic)

/-- `on_event`. -/
def onEvent (logic : PriceRuleLogic) (event : MarketDataEnvelope) :
    Except RuleError (Option CanonicalDecimal × PriceRuleLogic) :=
  if logic.entered ∨ event.revision ≠ 0 ∨ event.payload.adjustment ≠ .raw then
    pure (none, logic)
  else logic.onPrices event.payload

end PriceRuleLogic

end EaQuant
