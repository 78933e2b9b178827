import Abrade.Generator.Range
import Abrade.Library.Search

/-!
# The URI generator

Splitting a pattern into literals and brace forms, building the ranges, and
producing one URI per call of `next`, as `generator.cpp` does.

`boost::lexical_cast<size_t>` is a parameter of the constructor: `none` stands
for `bad_lexical_cast`.  `lexicalCastSize` is what its documentation describes.
-/

namespace Abrade

/-- `Pattern::Type`. -/
inductive PatternType where
  | implicit
  | explicit
  | continuation
  deriving DecidableEq

/-- A parsed brace form: its offsets in the input, both braces included, and its tokens. -/
structure Pattern where
  start : ℕ
  stop : ℕ
  type : PatternType
  tokens : Text × Text
  deriving DecidableEq

namespace Pattern

/-- The body of the token loop: a colon switches to the second token and is dropped. -/
def pushElement (parsed : PatternType × Text × Text) (element : Char) :
    PatternType × Text × Text :=
  let (type, first, second) := parsed
  if element == ':' then (.explicit, first, second)
  else if type = .implicit then (type, first ++ [element], second)
  else (type, first, second ++ [element])

/-- The token loop over the text between the braces. -/
def readTokens (body : Text) : PatternType × Text × Text :=
  body.foldl pushElement (.implicit, [], [])

end Pattern

def parseNextPattern (input : Text) (start : ℕ) : Except Exception (Option Pattern) :=
  match Search.findFrom (· == '{') start input with
  | none =>
      match Search.findFrom (· == '}') start input with
      | some _ => .error (.runtimeError "Unmatched closing brace found (\x7d).")
      | none => .ok none
  | some patternStart =>
      match Search.findFrom (· == '}') (patternStart + 1) input with
      | none => .error (.runtimeError ("Unmatched open brace at " ++ patternStart.repr))
      | some patternEnd =>
          if patternEnd = patternStart + 1 then
            .ok (some { start := patternStart, stop := patternEnd, type := .continuation,
                        tokens := ([], []) })
          else
            let body := (input.drop (patternStart + 1)).take (patternEnd - (patternStart + 1))
            let (type, tokens) := Pattern.readTokens body
            .ok (some { start := patternStart, stop := patternEnd, type, tokens })

/-- A nonempty run of decimal digits whose value fits a `size_t`. -/
def decimalSize (digits : Text) : Option SizeT :=
  let value := digits.foldl (fun value digit => 10 * value + (digit.toNat - '0'.toNat)) 0
  if digits ≠ [] ∧ digits.all Char.isDigit ∧ value < 2 ^ 64 then some (.ofNat value) else none

/-- `boost::lexical_cast<size_t>`: an optional sign and digits, negated on a minus sign. -/
def lexicalCastSize : Text → Option SizeT
  | '-' :: digits => (decimalSize digits).map fun value => 0 - value
  | '+' :: digits => decimalSize digits
  | digits => decimalSize digits

/-- Generates URIs from a pattern; `ranges` are the heap objects a continuation refers to. -/
structure UriGenerator where
  literalTokens : List Text
  ranges : List Range
  isComplete : Bool
  deriving DecidableEq

namespace UriGenerator

section Constructor

variable (lexicalCast : Text → Option SizeT) (leadZero isTelescoping : Bool)

/-- One endpoint of an explicit form. -/
def parseEndpoint (token : Text) : Except Exception SizeT :=
  match lexicalCast token with
  | none => .error (.runtimeError ("Unable to parse pattern " ++ String.ofList token))
  | some value => .ok value

/-- The `switch` of the constructor: the range a pattern adds behind `ranges`. -/
def makeRange (ranges : List Range) (pattern : Pattern) : Except Exception Range :=
  match pattern.type with
  | .explicit => do
      let start ← parseEndpoint lexicalCast pattern.tokens.1
      let stop ← parseEndpoint lexicalCast pattern.tokens.2
      return .explicit (← ExplicitRange.new start stop)
  | .implicit =>
      if isTelescoping then
        .telescoping <$> TelescopingRange.new pattern.tokens.1 leadZero
      else
        .implicit <$> ImplicitRange.new pattern.tokens.1 leadZero
  | .continuation =>
      if ranges.isEmpty then
        .error (.runtimeError "Cannot start with a continuation pattern \x7b\x7d.")
      else
        .ok (.continuation { target := ranges.length - 1 })

/-- The loop of the constructor, from `index` on. -/
def newFrom (input : Text) : ℕ → ℕ → List Text → List Range → Except Exception UriGenerator
  | 0, _, _, _ => .error .outOfFuel
  | fuel + 1, index, literalTokens, ranges => do
      match ← parseNextPattern input index with
      | none =>
          let literal ← substr input index none
          return { literalTokens := literalTokens ++ [literal], ranges, isComplete := false }
      | some pattern =>
          let literal ← substr input index (some (pattern.start - index))
          let range ← makeRange lexicalCast leadZero isTelescoping ranges pattern
          newFrom input fuel (pattern.stop + 1) (literalTokens ++ [literal]) (ranges ++ [range])

/-- The constructor.  Each turn of its loop consumes a form, so the fuel is never used up. -/
def new (input : Text) : Except Exception UriGenerator :=
  newFrom lexicalCast leadZero isTelescoping input (input.length + 1) 0 [] []

end Constructor

/-- The condition of the loop of `increment_ranges`, with the `reset` of a range that carries. -/
def incrementRangeAt (generator : UriGenerator) (pivot : ℕ) :
    Except Exception (Bool × UriGenerator) := do
  let (carry, range) ← (← checkedAt generator.ranges pivot).incrementReturnCarry
  let range := if carry then range.reset else range
  return (carry, { generator with ranges := generator.ranges.set pivot range })

/-- The loop of `increment_ranges`, from the range at `pivot` to the left. -/
def incrementRangesFrom (generator : UriGenerator) : ℕ → Except Exception UriGenerator
  | 0 => do
      let (carry, generator) ← generator.incrementRangeAt 0
      if carry then return { generator with isComplete := true } else return generator
  | pivot + 1 => do
      let (carry, generator) ← generator.incrementRangeAt (pivot + 1)
      if carry then generator.incrementRangesFrom pivot else return generator

def incrementRanges (generator : UriGenerator) : Except Exception UriGenerator :=
  if generator.ranges.isEmpty then .ok { generator with isComplete := true }
  else generator.incrementRangesFrom (generator.ranges.length - 1)

/-- `ranges.at(i)->get_current()`. -/
def currentAt (ranges : List Range) (i : ℕ) : Except Exception Text := do
  Range.getCurrent ranges ranges.length (← checkedAt ranges i)

/-- The text of the current URI. -/
def current (generator : UriGenerator) : Except Exception Text := do
  let result ← (List.range generator.ranges.length).foldlM (fun (result : Text) i => do
    let literal ← checkedAt generator.literalTokens i
    let value ← currentAt generator.ranges i
    return result ++ literal ++ value) []
  let last ← checkedAt generator.literalTokens (generator.literalTokens.length - 1)
  return result ++ last

def next (generator : UriGenerator) : Except Exception (Option Text × UriGenerator) :=
  if generator.isComplete then .ok (none, generator)
  else do
    let result ← generator.current
    return (some result, ← generator.incrementRanges)

def getRangeSize (generator : UriGenerator) : Except Exception SizeT :=
  generator.ranges.foldlM (fun size range => do checkedMultiply size (← range.size)) 1

end UriGenerator

end Abrade
