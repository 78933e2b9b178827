import Abrade.Generator.UriGenerator
import Abrade.Library.Odometer

/-!
# What a pattern means

The abstract side of the generator: how a pattern splits into literals and
bodies, what each body asks for, and the URIs the whole pattern stands for.
Nothing here counts; the counters of `Abrade.Generator.Range` are shown to
agree with it in `Abrade.Generator.Enumeration`.
-/

namespace Abrade

/-- What a brace form asks for. -/
inductive Form where
  /-- Every number from `first` to `last`. -/
  | explicit (first last : SizeT)
  /-- Every digit vector over the domains of the symbols. -/
  | implicit (symbols : Text)
  /-- Whatever the form before it shows. -/
  | continuation
  deriving DecidableEq

/--
`Splits input pieces tail`: the input is the literals and bodies of `pieces`,
each body between a pair of braces, followed by the literal `tail`.
-/
inductive Splits : Text → List (Text × Text) → Text → Prop where
  | tail {text : Text} (noOpening : '{' ∉ text) (noClosing : '}' ∉ text) : Splits text [] text
  | form {literal body rest tail : Text} {pieces : List (Text × Text)}
      (noOpening : '{' ∉ literal) (noClosing : '}' ∉ body) (split : Splits rest pieces tail) :
      Splits (literal ++ '{' :: (body ++ '}' :: rest)) ((literal, body) :: pieces) tail

namespace Form

/--
The form a body is read as.  The text before the first colon and the rest of
the text with every colon left out are the endpoints of an explicit form.
-/
inductive Reads (lexicalCast : Text → Option SizeT) : Text → Form → Prop where
  | continuation : Reads lexicalCast [] continuation
  | explicit {before after : Text} {first last : SizeT} (noColon : ':' ∉ before)
      (start : lexicalCast before = some first)
      (stop : lexicalCast (after.filter (· != ':')) = some last) (ordered : first ≤ last) :
      Reads lexicalCast (before ++ ':' :: after) (explicit first last)
  | implicit {symbols : Text} (nonempty : symbols ≠ []) (noColon : ':' ∉ symbols)
      (known : ∀ symbol ∈ symbols, ∃ domain, getDomain symbol = .ok domain) :
      Reads lexicalCast symbols (implicit symbols)

/-- The values of a symbol; none for an unknown one. -/
def domain (symbol : Char) : Text :=
  match getDomain symbol with
  | .error _ => []
  | .ok values => values

/-- One character for each digit. -/
def fullWidth (domains : List Text) (digits : List ℕ) : Text :=
  List.zipWith (fun domain digit => domain.getD digit '0') domains digits

/-- How many zero digits stand before the first other digit or the last position. -/
def leadingZeroCount (digits : List ℕ) : ℕ :=
  (digits.dropLast.takeWhile (· == 0)).length

/-- The text of a digit vector. -/
def render (leadZero : Bool) (domains : List Text) (digits : List ℕ) : Text :=
  if leadZero then fullWidth domains digits
  else (fullWidth domains digits).drop (leadingZeroCount digits)

/-- Every digit vector over the domains, in lexicographic order. -/
def digitVectors (domains : List Text) : List (List ℕ) :=
  Odometer.cartesian (domains.map fun domain => List.range domain.length)

/-- The texts of all digit vectors over the domains of the symbols. -/
def implicitValues (leadZero : Bool) (symbols : Text) : List Text :=
  (digitVectors (symbols.map domain)).map (render leadZero (symbols.map domain))

/-- The last `length` symbols. -/
def suffix (symbols : Text) (length : ℕ) : Text :=
  symbols.drop (symbols.length - length)

/-- The values a form runs through; a continuation has none of its own. -/
def values (leadZero telescoping : Bool) : Form → Option (List Text)
  | explicit first last =>
      some ((List.range' first.toNat (last.toNat + 1 - first.toNat)).map (Nat.toDigits 10))
  | implicit symbols =>
      some (if telescoping then
        (List.range' 1 symbols.length).flatMap fun length =>
          implicitValues leadZero (suffix symbols length)
      else implicitValues leadZero symbols)
  | continuation => none

/-- The texts the forms show for the chosen values, each continuation repeating its predecessor. -/
def shown : List Form → List Text → Text → List Text
  | [], _, _ => []
  | continuation :: forms, chosen, previous => previous :: shown forms chosen previous
  | _ :: forms, value :: chosen, _ => value :: shown forms chosen value
  | _ :: _, [], _ => []

end Form

/-- Literals and values in turn, a literal first and last. -/
def interleave : List Text → List Text → Text
  | [], _ => []
  | literal :: _, [] => literal
  | literal :: literals, value :: values => literal ++ value ++ interleave literals values

/-- The URIs of a pattern: one for each choice of a value from every form that has any. -/
def uris (leadZero telescoping : Bool) (literals : List Text) (forms : List Form) : List Text :=
  (Odometer.cartesian (forms.filterMap (Form.values leadZero telescoping))).map fun chosen =>
    interleave literals (Form.shown forms chosen [])

example : uris false false ["/a".toList, "-".toList, []]
    [.explicit 9 10, .continuation] = ["/a9-9".toList, "/a10-10".toList] := by decide

end Abrade
