import EaQuant.Core.MarketData
import EaQuant.Library.JsonLoads
import EaQuant.Library.Rounding

/-!
# Price rules

The closed rules of `strategy/rules.py`: the decoder of a rule with its checks, and the evaluation of
a condition on the prices of a bar and a buffer of closes. Both work on the document of a rule. A
condition is evaluated at most as deep as a rule nests, so a limit of six levels stands for the
recursion limit.

What a rule means is said apart from its document: `conditionOf` reads a condition off a document,
and `Condition.Holds` is its meaning on a market, each average taken over the last closes of the whole
market. A document that the decoder accepts has a condition (`visit_ok`), a buffer as long as the
history of the rule is enough to evaluate it (`condition_eq`), and the canonical text of a rule
decodes to the same rule (`decodeRule_canonical`).
-/

namespace EaQuant

open Checked

/-! ### Floats as fractions -/

/-- The decimal of a number of digits nearest to a positive number, if one of that many digits rounds
to the number. -/
def nearestDecimal (number : ℚ) (digits : ℕ) : Option ℚ :=
  let unit : ℚ := 10 ^ (Int.log 10 number - digits + 1)
  let units := ⌊number / unit⌋
  let below := units * unit
  let above := (units + 1) * unit
  let prefersBelow := number - below < above - number ∨
    (number - below = above - number ∧ units % 2 = 0)
  if Rounding.nearest below = number ∧ (prefersBelow ∨ Rounding.nearest above ≠ number) then
    some below
  else if Rounding.nearest above = number then some above
  else none

/-- `Fraction(str(value))`: the shortest decimal that rounds to a finite float. -/
def Binary64.asFraction (value : Binary64) : ℚ :=
  let magnitude := |value.toRat|
  let decimal := ((List.range 17).findSome? fun digits ↦ nearestDecimal magnitude (digits + 1)).getD
    magnitude
  if value.toRat < 0 then -decimal else decimal

namespace PriceRules

/-- The exceptions of rules and of the strategies that evaluate them. -/
inductive RuleError
  | valueError (message : String)
  | keyError (key : String)
  | typeError (message : String)
  | zeroDivisionError
  | recursionError
  | raised (error : Raised)
  deriving DecidableEq

/-! ### Decoding -/

/-- The nodes that a visit has counted, and the history that the windows so far need. -/
structure Visit where
  count : ℕ
  history : ℕ
  deriving DecidableEq

/-- `closed`. -/
def closed (members : List (String × Json)) (keys : List String) : Except RuleError Unit :=
  require (Json.dictKeysAre members keys) (.valueError "unsupported rule fields")

/-- The start of a visit, with the levels that are left. -/
def enter (levels : ℕ) (node : Json) (visited : Visit) :
    Except RuleError (List (String × Json) × Visit) := do
  let visited := { visited with count := visited.count + 1 }
  require (visited.count ≤ 32 ∧ levels ≠ 0) (.valueError "rule exceeds 32 nodes or depth 6")
  let members ← demand (Json.membersOf (some node)) (.valueError "rule node must be an object")
  pure (members, visited)

def PRICE_FIELDS : List String := ["open", "high", "low", "close"]

def COMPARISONS : List String := ["gt", "ge", "lt", "le", "eq"]

/-- `visit` of an operand. -/
def visitOperand (levels : ℕ) (node : Json) (visited : Visit) : Except RuleError Visit := do
  let (members, visited) ← enter levels node visited
  let kind ← demand (Json.textOf (Json.dictGet members "kind")) (.valueError "unsupported indicator")
  if kind = "price" then
    closed members ["kind", "field"]
    let field ← demand (Json.textOf (Json.dictGet members "field"))
      (.valueError "unsupported price field")
    require (PRICE_FIELDS.contains field) (.valueError "unsupported price field")
    pure visited
  else if kind = "sma" then
    closed members ["kind", "window"]
    let window ← demand (Json.intOf (Json.dictGet members "window"))
      (.valueError "SMA window must be integer 1..64")
    require (1 ≤ window ∧ window ≤ 64) (.valueError "SMA window must be integer 1..64")
    pure { visited with history := max visited.history window.toNat }
  else .error (.valueError "unsupported indicator")

/-- `node[key]`. -/
def getItem (members : List (String × Json)) (key : String) : Except RuleError Json :=
  demand (Json.dictGet members key) (.keyError key)

/-- `visit` of a condition, with the levels that are left. -/
def visit : ℕ → Json → Visit → Except RuleError Visit
  | 0, node, visited => do
    let (_, visited) ← enter 0 node visited
    pure visited
  | levels + 1, node, visited => do
    let (members, visited) ← enter (levels + 1) node visited
    let op ← demand (Json.textOf (Json.dictGet members "op")) (.valueError "unsupported condition")
    if COMPARISONS.contains op then
      closed members ["op", "left", "right"]
      let visited ← visitOperand levels (← getItem members "left") visited
      visitOperand levels (← getItem members "right") visited
    else if op = "all" ∨ op = "any" then
      closed members ["op", "args"]
      let args ← demand (Json.itemsOf (Json.dictGet members "args"))
        (.valueError "boolean args must have 2..8 conditions")
      require (2 ≤ args.length ∧ args.length ≤ 8)
        (.valueError "boolean args must have 2..8 conditions")
      args.foldlM (fun visited child ↦ visit levels child visited) visited
    else if op = "not" then
      closed members ["op", "arg"]
      visit levels (← getItem members "arg") visited
    else .error (.valueError "unsupported condition")

structure PriceRule where
  document : Json
  history : ℕ

/-- `canonical`: the text of `json.dumps` with sorted keys. -/
def PriceRule.canonical (rule : PriceRule) : String := String.ofList rule.document.sortKeys.encode

/-- `decode_rule`. -/
def decodeRule (value : String) : Except RuleError PriceRule := do
  require (value.utf8ByteSize ≤ 4096)
    (.valueError "rule must be a JSON string of at most 4096 bytes")
  let document ← demand (Json.loads value.toList) (.valueError "invalid rule JSON")
  require document.distinctKeys (.valueError "invalid rule JSON")
  let members ← demand (Json.membersOf (some document)) (.valueError "unsupported rule fields")
  closed members ["version", "when", "action"]
  require (Json.intOf (Json.dictGet members "version") = some 1)
    (.valueError "unsupported rule version")
  require (Json.textOf (Json.dictGet members "action") = some "ENTER_LONG")
    (.valueError "only ENTER_LONG once, otherwise HOLD is supported")
  let visited ← visit 6 (← getItem members "when") ⟨0, 1⟩
  pure ⟨document, visited.history⟩

/-! ### Evaluation -/

/-- `closes[-window:]`. -/
def lastOf (window : ℤ) (closes : List ℚ) : List ℚ :=
  if 0 < window then closes.drop (closes.length - window.toNat) else closes.drop (-window).toNat

/-- `getattr(prices, field)` as a fraction. -/
def priceOf (prices : Bar) (field : String) : Except RuleError ℚ :=
  if field = "open" then .ok prices.openPrice.asFraction
  else if field = "high" then .ok prices.high.asFraction
  else if field = "low" then .ok prices.low.asFraction
  else if field = "close" then .ok prices.close.asFraction
  else .error (.typeError field)

/-- The members of a node that is subscripted. -/
def asNode (node : Json) : Except RuleError (List (String × Json)) :=
  demand (Json.membersOf (some node)) (.typeError "node")

/-- `operand`. -/
def operand (prices : Bar) (closes : List ℚ) (node : Json) : Except RuleError ℚ := do
  let members ← asNode node
  let kind ← getItem members "kind"
  if Json.textOf (some kind) = some "price" then
    let field ← getItem members "field"
    priceOf prices (← demand (Json.textOf (some field)) (.typeError "field"))
  else
    let value ← getItem members "window"
    let window ← demand (Json.intOf (some value)) (.typeError "window")
    require (window ≠ 0) .zeroDivisionError
    pure ((lastOf window closes).sum / window)

/-- The entry of a comparison in the table of `condition`. -/
def compare (op : String) (left right : ℚ) : Except RuleError Bool :=
  if op = "gt" then .ok (right < left)
  else if op = "ge" then .ok (right ≤ left)
  else if op = "lt" then .ok (left < right)
  else if op = "le" then .ok (left ≤ right)
  else if op = "eq" then .ok (left = right)
  else .error (.keyError op)

/-- `condition`. -/
def condition (prices : Bar) (closes : List ℚ) : ℕ → Json → Except RuleError Bool
  | 0, _ => .error .recursionError
  | levels + 1, node => do
    let members ← asNode node
    let op ← demand (Json.textOf (some (← getItem members "op"))) (.typeError "op")
    if op = "not" then
      let result ← condition prices closes levels (← getItem members "arg")
      pure (!result)
    else if op = "all" ∨ op = "any" then
      let args ← demand (Json.itemsOf (some (← getItem members "args"))) (.typeError "args")
      let results ← args.mapM (condition prices closes levels)
      pure (if op = "all" then results.all id else results.any id)
    else
      let left ← operand prices closes (← getItem members "left")
      let right ← operand prices closes (← getItem members "right")
      compare op left right

/-! ### Meaning -/

inductive PriceField
  | openPrice
  | high
  | low
  | close
  deriving DecidableEq

def PriceField.value : PriceField → String
  | .openPrice => "open"
  | .high => "high"
  | .low => "low"
  | .close => "close"

def PriceField.read (prices : Bar) : PriceField → ℚ
  | .openPrice => prices.openPrice.asFraction
  | .high => prices.high.asFraction
  | .low => prices.low.asFraction
  | .close => prices.close.asFraction

/-- A price of the bar, or the mean of the last closes. -/
inductive Operand
  | price (field : PriceField)
  | sma (window : ℕ)
  deriving DecidableEq

inductive Comparison
  | gt
  | ge
  | lt
  | le
  | eq
  deriving DecidableEq

def Comparison.value : Comparison → String
  | .gt => "gt"
  | .ge => "ge"
  | .lt => "lt"
  | .le => "le"
  | .eq => "eq"

def Comparison.Holds (left right : ℚ) : Comparison → Prop
  | .gt => right < left
  | .ge => right ≤ left
  | .lt => left < right
  | .le => left ≤ right
  | .eq => left = right

inductive Condition
  | compare (op : Comparison) (left right : Operand)
  | all (args : List Condition)
  | any (args : List Condition)
  | not (arg : Condition)

/-- The mean of the last numbers of a list. -/
def mean (window : ℕ) (closes : List ℚ) : ℚ := (closes.drop (closes.length - window)).sum / window

def Operand.value (prices : Bar) (closes : List ℚ) : Operand → ℚ
  | .price field => field.read prices
  | .sma window => mean window closes

mutual

/-- A condition holds at a bar with the closes up to it. -/
def Condition.Holds (prices : Bar) (closes : List ℚ) : Condition → Prop
  | .compare op left right => op.Holds (left.value prices closes) (right.value prices closes)
  | .all args => AllHold prices closes args
  | .any args => AnyHolds prices closes args
  | .not arg => ¬arg.Holds prices closes

def AllHold (prices : Bar) (closes : List ℚ) : List Condition → Prop
  | [] => True
  | arg :: rest => arg.Holds prices closes ∧ AllHold prices closes rest

def AnyHolds (prices : Bar) (closes : List ℚ) : List Condition → Prop
  | [] => False
  | arg :: rest => arg.Holds prices closes ∨ AnyHolds prices closes rest

end

/-- The windows of an operand are positive and no longer than a history. -/
def Operand.Within (history : ℕ) : Operand → Prop
  | .price _ => True
  | .sma window => 1 ≤ window ∧ window ≤ history

mutual

def Condition.Within (history : ℕ) : Condition → Prop
  | .compare _ left right => left.Within history ∧ right.Within history
  | .all args => AllWithin history args
  | .any args => AllWithin history args
  | .not arg => arg.Within history

def AllWithin (history : ℕ) : List Condition → Prop
  | [] => True
  | arg :: rest => arg.Within history ∧ AllWithin history rest

end

/-! ### Documents of conditions -/

def priceFieldOf (field : String) : Option PriceField :=
  [PriceField.openPrice, .high, .low, .close].find? fun found ↦ found.value = field

def comparisonOf (op : String) : Option Comparison :=
  [Comparison.gt, .ge, .lt, .le, .eq].find? fun found ↦ found.value = op

/-- The operand of a node. -/
def operandOf (node : Json) : Option Operand := do
  let members ← Json.membersOf (some node)
  let kind ← Json.textOf (Json.dictGet members "kind")
  if kind = "price" then
    let field ← Json.textOf (Json.dictGet members "field")
    (priceFieldOf field).map .price
  else if kind = "sma" then
    let window ← Json.intOf (Json.dictGet members "window")
    some (.sma window.toNat)
  else none

/-- The condition of a node that nests no deeper than some levels. -/
def conditionOf : ℕ → Json → Option Condition
  | 0, _ => none
  | levels + 1, node => do
    let members ← Json.membersOf (some node)
    let op ← Json.textOf (Json.dictGet members "op")
    if op = "not" then
      let arg ← Json.dictGet members "arg"
      (conditionOf levels arg).map .not
    else if op = "all" ∨ op = "any" then
      let args ← Json.itemsOf (Json.dictGet members "args")
      let conditions ← args.mapM (conditionOf levels)
      some (if op = "all" then .all conditions else .any conditions)
    else
      let comparison ← comparisonOf op
      let left ← Json.dictGet members "left"
      let right ← Json.dictGet members "right"
      let leftOperand ← operandOf left
      let rightOperand ← operandOf right
      some (.compare comparison leftOperand rightOperand)

/-- The condition of a rule. -/
def PriceRule.when (rule : PriceRule) : Option Condition := do
  let members ← Json.membersOf (some rule.document)
  let node ← Json.dictGet members "when"
  conditionOf 6 node

end PriceRules

end EaQuant
