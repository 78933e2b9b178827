import Mathlib.Algebra.Order.Ring.Nat
import Mathlib.Data.List.Basic

/-!
# Values shared by the whole model

Strings are lists of characters, `size_t` is a 64-bit word, and a function that
may throw returns an `Except`.  Element access through `.at` and `substr` throws
`out_of_range`, exactly where the standard library does.
-/

namespace Abrade

universe u

/-- A `std::string` or `std::string_view`. -/
abbrev Text := List Char

/-- `std::size_t` of the 64-bit targets. -/
abbrev SizeT := UInt64

/-- `std::numeric_limits<size_t>::max()`. -/
def SizeT.max : SizeT := 18446744073709551615

/-- The exceptions the modelled functions throw. -/
inductive Exception where
  | runtimeError (what : String)
  | overflowError (what : String)
  | outOfRange
  /-- A loop of the model used up its fuel; no function of the source throws this. -/
  | outOfFuel
  deriving DecidableEq, Repr

/-- `container.at(index)`. -/
def checkedAt {α : Type u} (container : List α) (index : ℕ) : Except Exception α :=
  match container[index]? with
  | none => .error .outOfRange
  | some element => .ok element

/-- `text.substr(start, length)`; `none` for `length` takes everything from `start` on. -/
def substr (text : Text) (start : ℕ) (length : Option ℕ) : Except Exception Text :=
  if text.length < start then .error .outOfRange
  else
    match length with
    | none => .ok (text.drop start)
    | some length => .ok ((text.drop start).take length)

/-- `size - 1` on an unsigned container size, which wraps for an empty container. -/
def sizeMinusOne : ℕ → ℕ
  | 0 => 2 ^ 64 - 1
  | size + 1 => size

/-- `std::to_string` of an unsigned value. -/
def SizeT.toString (value : SizeT) : Text :=
  Nat.toDigits 10 value.toNat

section Access

variable {α : Type u}

@[simp]
theorem checkedAt_append_length (before after : List α) (element : α) :
    checkedAt (before ++ element :: after) before.length = .ok element := by
  simp [checkedAt]

theorem checkedAt_eq_ok_iff {container : List α} {index : ℕ} {element : α} :
    checkedAt container index = .ok element ↔ container[index]? = some element := by
  unfold checkedAt
  cases container[index]? <;> simp

@[simp]
theorem sizeMinusOne_of_pos {size : ℕ} (positive : 0 < size) :
    sizeMinusOne size = size - 1 := by
  cases size with
  | zero => omega
  | succ size => rfl

theorem substr_append (before text after : Text) :
    substr (before ++ (text ++ after)) before.length (some text.length) = .ok text := by
  simp [substr]

theorem substr_append_none (before text : Text) :
    substr (before ++ text) before.length none = .ok text := by
  simp [substr]

end Access

/-- Below another value there is room to count on. -/
theorem SizeT.toNat_add_one {value bound : SizeT} (below : value.toNat < bound.toNat) :
    (value + 1).toNat = value.toNat + 1 := by
  have small := bound.toNat_lt
  rw [UInt64.toNat_add, UInt64.toNat_one, Nat.mod_eq_of_lt (by omega)]

end Abrade
