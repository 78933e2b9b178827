import Abrade.Basic
import Abrade.Library.Fallible

/-!
# Ranges

The four kinds of `Range` behind the brace forms of a pattern, each with its
counter state, its carry and its reset, as `generator.cpp` defines them.  The
floating-point cardinality `log_size` is in `Generator.Logarithm`.
-/

namespace Abrade

/-- One row of `domain_definitions`. -/
structure DomainDefinition where
  symbol : Char
  values : Text

/-- The values each domain symbol stands for. -/
def domainDefinitions : List DomainDefinition :=
  [{ symbol := 'o', values := "01234567".toList },
    { symbol := 'd', values := "0123456789".toList },
    { symbol := 'h', values := "0123456789abcdef".toList },
    { symbol := 'H', values := "0123456789ABCDEF".toList },
    { symbol := 'a', values := "abcdefghijklmnopqrstuvwxyz".toList },
    { symbol := 'A', values := "ABCDEFGHIJKLMNOPQRSTUVWXYZ".toList },
    { symbol := 'n', values := "0123456789abcdefghijklmnopqrstuvwxyz".toList },
    { symbol := 'N', values := "0123456789ABCDEFGHIJKLMNOPQRSTUVWXYZ".toList },
    { symbol := 'b',
      values := "0123456789ABCDEFGHIJKLMNOPQRSTUVWXYZabcdefghijklmnopqrstuvwxyz".toList }]

/-- The message of both cardinality overflows. -/
def overflowMessage : String :=
  "Range size too large for size_t. Use logarithm."

def checkedAdd (left right : SizeT) : Except Exception SizeT :=
  if SizeT.max - left < right then .error (.overflowError overflowMessage)
  else .ok (left + right)

def checkedMultiply (left right : SizeT) : Except Exception SizeT :=
  if right ≠ 0 ∧ SizeT.max / right < left then .error (.overflowError overflowMessage)
  else .ok (left * right)

def getDomain (element : Char) : Except Exception Text :=
  match domainDefinitions.find? fun definition => definition.symbol == element with
  | none => .error (.runtimeError ("Unknown implicit range element: " ++ element.toString))
  | some definition => .ok definition.values

/-- A digit vector over character domains. -/
structure ImplicitRange where
  domains : List Text
  digits : List ℕ
  leadingZeros : Bool
  deriving DecidableEq

namespace ImplicitRange

/-- The constructor: one domain and one zero digit for each symbol of the pattern. -/
def new (pattern : Text) (preserveLeadingZeros : Bool) : Except Exception ImplicitRange := do
  let domains ← pattern.mapM getDomain
  return { domains, digits := domains.map fun _ => 0, leadingZeros := preserveLeadingZeros }

/-- `ImplicitRange::reset` does nothing: a carry has already zeroed every digit. -/
def reset (range : ImplicitRange) : ImplicitRange :=
  range

def size (range : ImplicitRange) : Except Exception SizeT :=
  range.domains.foldlM (fun size domain => checkedMultiply size (.ofNat domain.length)) 1

/-- `increment_return_carry(pivot)`: moves one digit. -/
def incrementAt (range : ImplicitRange) (pivot : ℕ) : Except Exception (Bool × ImplicitRange) := do
  let digit ← checkedAt range.digits pivot
  let domain ← checkedAt range.domains pivot
  if digit + 1 < domain.length then
    return (false, { range with digits := range.digits.set pivot (digit + 1) })
  else
    return (true, { range with digits := range.digits.set pivot 0 })

/-- The loop of `increment_return_carry()`, from the digit at `pivot` to the left. -/
def incrementFrom (range : ImplicitRange) : ℕ → Except Exception (Bool × ImplicitRange)
  | 0 => range.incrementAt 0
  | pivot + 1 => do
      let (carry, range) ← range.incrementAt (pivot + 1)
      if carry then range.incrementFrom pivot else return (false, range)

def incrementReturnCarry (range : ImplicitRange) : Except Exception (Bool × ImplicitRange) :=
  range.incrementFrom (sizeMinusOne range.digits.length)

/-- The loop of `get_current` from digit `i` on, with its sticky `is_leading_zero` flag. -/
def getCurrentFrom (range : ImplicitRange) : ℕ → Bool → List ℕ → Except Exception Text
  | _, _, [] => .ok []
  | i, isLeadingZero, digit :: digits => do
      let isLeadingZero :=
        isLeadingZero && (!range.leadingZeros && digit == 0 && i != range.digits.length - 1)
      if isLeadingZero then range.getCurrentFrom (i + 1) isLeadingZero digits
      else
        let domain ← checkedAt range.domains i
        let element ← checkedAt domain digit
        let result ← range.getCurrentFrom (i + 1) isLeadingZero digits
        return element :: result

def getCurrent (range : ImplicitRange) : Except Exception Text :=
  range.getCurrentFrom 0 true range.digits

end ImplicitRange

/-- A counter from `start` to `stop`, both included. -/
structure ExplicitRange where
  start : SizeT
  stop : SizeT
  current : SizeT
  deriving DecidableEq

namespace ExplicitRange

def new (rangeStart rangeEnd : SizeT) : Except Exception ExplicitRange :=
  if rangeEnd < rangeStart then
    .error (.runtimeError "End of pattern cannot be less than start.")
  else
    .ok { start := rangeStart, stop := rangeEnd, current := rangeStart }

def reset (range : ExplicitRange) : ExplicitRange :=
  { range with current := range.start }

def size (range : ExplicitRange) : Except Exception SizeT :=
  checkedAdd (range.stop - range.start) 1

/-- `current++ == end`: the counter steps past its end, and wraps when the end is the maximum. -/
def incrementReturnCarry (range : ExplicitRange) : Bool × ExplicitRange :=
  (range.current == range.stop, { range with current := range.current + 1 })

def getCurrent (range : ExplicitRange) : Text :=
  range.current.toString

end ExplicitRange

/-- The suffixes of an implicit pattern, shortest first, one after another. -/
structure TelescopingRange where
  ranges : List ImplicitRange
  index : ℕ
  deriving DecidableEq

namespace TelescopingRange

def new (patternTemplate : Text) (leadZero : Bool) : Except Exception TelescopingRange := do
  let ranges ← (List.range patternTemplate.length).mapM fun offset => do
    let start := patternTemplate.length - offset - 1
    let length := offset + 1
    ImplicitRange.new (← substr patternTemplate start (some length)) leadZero
  return { ranges, index := 0 }

def incrementReturnCarry (range : TelescopingRange) :
    Except Exception (Bool × TelescopingRange) := do
  let (carry, inner) ← (← checkedAt range.ranges range.index).incrementReturnCarry
  let range := { range with ranges := range.ranges.set range.index inner }
  if carry then
    let range := { range with index := range.index + 1 }
    return (range.ranges.length == range.index, range)
  else
    return (false, range)

def getCurrent (range : TelescopingRange) : Except Exception Text := do
  (← checkedAt range.ranges range.index).getCurrent

def size (range : TelescopingRange) : Except Exception SizeT :=
  range.ranges.foldlM (fun size inner => do checkedAdd size (← inner.size)) 0

def reset (range : TelescopingRange) : TelescopingRange :=
  { ranges := range.ranges.map ImplicitRange.reset, index := 0 }

/-- The suffix ranges are reset too, to no effect. -/
theorem reset_eq (range : TelescopingRange) : range.reset = { range with index := 0 } := by
  have unchanged : ImplicitRange.reset = id := rfl
  rw [reset, unchanged, List.map_id]

end TelescopingRange

/-- A reference to another range of the generator, as its position in `ranges`. -/
structure ContinuationRange where
  target : ℕ
  deriving DecidableEq

/-- The concrete ranges behind a `unique_ptr<Range>`. -/
inductive Range where
  | explicit (range : ExplicitRange)
  | implicit (range : ImplicitRange)
  | telescoping (range : TelescopingRange)
  | continuation (range : ContinuationRange)
  deriving DecidableEq

namespace Range

def incrementReturnCarry : Range → Except Exception (Bool × Range)
  | explicit range => .ok (range.incrementReturnCarry.map id explicit)
  | implicit range => range.incrementReturnCarry.map (Prod.map id implicit)
  | telescoping range => range.incrementReturnCarry.map (Prod.map id telescoping)
  | continuation range => .ok (true, continuation range)

def reset : Range → Range
  | explicit range => explicit range.reset
  | implicit range => implicit range.reset
  | telescoping range => telescoping range.reset
  | continuation range => continuation range

def size : Range → Except Exception SizeT
  | explicit range => range.size
  | implicit range => range.size
  | telescoping range => range.size
  | continuation _ => .ok 1

/--
`get_current`; `ranges` are the generator's ranges a continuation refers to,
and `hops` bounds the references followed in a row.
-/
def getCurrent (ranges : List Range) : ℕ → Range → Except Exception Text
  | _, explicit range => .ok range.getCurrent
  | _, implicit range => range.getCurrent
  | _, telescoping range => range.getCurrent
  | 0, continuation _ => .error .outOfFuel
  | hops + 1, continuation range => do
      getCurrent ranges hops (← checkedAt ranges range.target)

end Range

end Abrade
