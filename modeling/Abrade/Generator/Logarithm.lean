import Abrade.Generator.Cardinality
import Abrade.Library.LogSum

/-!
# Logarithmic cardinality

`log_size` and `get_log_range_size`, which `main` falls back to when the
cardinality is no `size_t`.  The arithmetic of `double` and `long double` is a
parameter; over the real numbers the result is the logarithm of the number of
URIs.
-/

namespace Abrade

/-- The arithmetic of `double` and `long double` that `log_size` uses. -/
class Logarithmic (F : Type) where
  ofSize : ℕ → F
  zero : F
  add : F → F → F
  sub : F → F → F
  log : F → F
  exp : F → F
  less : F → F → Bool
  /-- `long double`. -/
  Wide : Type
  wideOfSize : ℕ → Wide
  wideOne : Wide
  wideAdd : Wide → Wide → Wide
  wideSub : Wide → Wide → Wide
  wideLog : Wide → Wide
  /-- `static_cast<double>`. -/
  narrow : Wide → F

open Classical in
noncomputable instance : Logarithmic ℝ where
  ofSize size := size
  zero := 0
  add := (· + ·)
  sub := (· - ·)
  log := Real.log
  exp := Real.exp
  less left right := decide (left < right)
  Wide := ℝ
  wideOfSize size := size
  wideOne := 1
  wideAdd := (· + ·)
  wideSub := (· - ·)
  wideLog := Real.log
  narrow := id

open Logarithmic

section Definitions

variable {F : Type} [Logarithmic F]

namespace ImplicitRange

def logSize (range : ImplicitRange) : F :=
  range.domains.foldl (fun sum domain => add sum (log (ofSize domain.length))) zero

end ImplicitRange

namespace ExplicitRange

def logSize (range : ExplicitRange) : F :=
  let cardinality : Wide F :=
    wideAdd (wideSub (wideOfSize range.stop.toNat) (wideOfSize range.start.toNat)) wideOne
  narrow (wideLog cardinality)

end ExplicitRange

namespace TelescopingRange

/-- The sum of the exponentials of the logarithms, each less `maxLog`. -/
def scaledSum (range : TelescopingRange) (maxLog : F) : F :=
  range.ranges.foldl (fun sum inner => add sum (exp (sub inner.logSize maxLog))) zero

/-- `std::ranges::max_element` by the logarithm. -/
def largest (F : Type) [Logarithmic F] (range : TelescopingRange) : Option ImplicitRange :=
  LogSum.maxElement (fun left right => less (left.logSize : F) right.logSize) range.ranges

def logSize (range : TelescopingRange) : F :=
  match range.largest F with
  | none => zero
  | some largest => add largest.logSize (log (range.scaledSum largest.logSize))

end TelescopingRange

namespace Range

def logSize : Range → F
  | explicit range => range.logSize
  | implicit range => range.logSize
  | telescoping range => range.logSize
  | continuation _ => zero

end Range

namespace UriGenerator

def getLogRangeSize (generator : UriGenerator) : F :=
  generator.ranges.foldl (fun sum range => add sum range.logSize) zero

/-- What `main` prints about a pattern. -/
inductive Announcement (F : Type) where
  | cardinality (cardinality : SizeT)
  | logCardinality (logCardinality : F)

/-- `main` catches an `overflow_error` of `get_range_size`, and nothing else. -/
def announcement (generator : UriGenerator) : Except Exception (Announcement F) :=
  match generator.getRangeSize with
  | .ok cardinality => .ok (.cardinality cardinality)
  | .error (.overflowError _) => .ok (.logCardinality generator.getLogRangeSize)
  | .error failure => .error failure

end UriGenerator

end Definitions

/-! Over the real numbers. -/

theorem foldl_log {α : Type} {weight : α → ℝ} {entries : List α} :
    entries.foldl (fun sum entry => add sum (weight entry)) (zero : ℝ) =
      (entries.map weight).sum := by
  have folded := LogSum.foldl_add weight 0 entries
  rwa [zero_add] at folded

namespace ImplicitRange

theorem logSize_eq {range : ImplicitRange} (positive : ∀ domain ∈ range.domains, domain ≠ []) :
    (range.logSize : ℝ) = Real.log ((range.domains.map List.length).prod : ℕ) := by
  have counted := @LogSum.sum_log _ List.length range.domains fun domain domainMem =>
    List.length_pos_iff.mpr (positive domain domainMem)
  rw [← counted]
  exact foldl_log

end ImplicitRange

namespace TelescopingRange

theorem scaledSum_eq (range : TelescopingRange) (maxLog : ℝ) :
    range.scaledSum maxLog = LogSum.shiftedSum ImplicitRange.logSize maxLog range.ranges :=
  foldl_log

theorem logSize_eq {range : TelescopingRange} (nonempty : range.ranges ≠ []) :
    (range.logSize : ℝ) =
      Real.log (range.ranges.map fun inner => Real.exp inner.logSize).sum := by
  unfold logSize
  rcases found : range.largest ℝ with _ | largest
  · exact absurd (LogSum.maxElement_eq_none_iff.mp found) nonempty
  · simp only [scaledSum_eq]
    exact LogSum.add_log_shiftedSum nonempty

end TelescopingRange

namespace Form

theorem logSize_implicitRange {symbols : Text}
    (known : ∀ symbol ∈ symbols, ∃ domain, getDomain symbol = .ok domain) (leadZero : Bool) :
    ((implicitRange leadZero symbols).logSize : ℝ) =
      Real.log (implicitValues leadZero symbols).length := by
  rw [length_implicitValues]
  exact ImplicitRange.logSize_eq (domains_ne_nil known)

theorem logSize_range {lexicalCast : Text → Option SizeT} {body : Text} {form : Form}
    (reads : Reads lexicalCast body form) (leadZero telescoping : Bool) (position : ℕ) :
    ((form.range leadZero telescoping position).logSize : ℝ) =
      Real.log (form.count leadZero telescoping) := by
  cases reads with
  | continuation => simp [range, Range.logSize, count, values, Logarithmic.zero]
  | @explicit _ _ first last _ _ _ ordered =>
      have below := UInt64.le_iff_toNat_le.mp ordered
      have width : count leadZero telescoping (.explicit first last) =
          last.toNat - first.toNat + 1 := by
        simp [count, values]
        omega
      rw [width, Nat.cast_add, Nat.cast_sub below, Nat.cast_one]
      rfl
  | implicit nonempty _ known =>
      cases telescoping with
      | false => exact logSize_implicitRange known leadZero
      | true =>
          have manySuffixes : suffixRanges leadZero body ≠ [] := by
            simpa [suffixRanges] using nonempty
          have exponentials : (suffixRanges leadZero body).map
              (fun inner => Real.exp inner.logSize) =
                (List.range' 1 body.length).map fun length =>
                  ((implicitValues leadZero (suffix body length)).length : ℝ) := by
            unfold suffixRanges
            rw [List.map_map]
            apply List.map_congr_left
            intro length _
            have positive := implicitValues_ne_nil (known_suffix known length) leadZero
            rw [Function.comp_apply, logSize_implicitRange (known_suffix known length),
              Real.exp_log (by exact_mod_cast positive)]
          have total : (((implicit body).count leadZero true : ℕ) : ℝ) =
              ((List.range' 1 body.length).map fun length =>
                ((implicitValues leadZero (suffix body length)).length : ℝ)).sum := by
            simp [count, values, List.length_flatMap, Function.comp_def]
          rw [total, ← exponentials]
          exact TelescopingRange.logSize_eq manySuffixes

theorem sum_logSize_ranges {lexicalCast : Text → Option SizeT} {bodies : List Text}
    {forms : List Form} (leadZero telescoping : Bool)
    (read : List.Forall₂ (Reads lexicalCast) bodies forms) (position : ℕ) :
    ((ranges leadZero telescoping position forms).map (Range.logSize (F := ℝ))).sum =
      Real.log ((forms.map (count leadZero telescoping)).prod : ℕ) := by
  have logs : (ranges leadZero telescoping position forms).map (Range.logSize (F := ℝ)) =
      forms.map fun form => Real.log (form.count leadZero telescoping) := by
    induction read generalizing position with
    | nil => rfl
    | cons reads _ ih =>
        rw [ranges, List.map_cons, List.map_cons, ih, logSize_range reads]
  rw [logs, LogSum.sum_log]
  intro form formMem
  clear logs
  induction read with
  | nil => cases formMem
  | cons reads _ ih =>
      rcases List.mem_cons.mp formMem with rfl | formMem
      · exact count_pos reads leadZero telescoping
      · exact ih formMem

end Form

namespace UriGenerator

theorem getLogRangeSize_ranges {lexicalCast : Text → Option SizeT} {leadZero telescoping : Bool}
    {literals bodies : List Text} {forms : List Form}
    (read : List.Forall₂ (Form.Reads lexicalCast) bodies forms) :
    (getLogRangeSize
      { literalTokens := literals, ranges := Form.ranges leadZero telescoping 0 forms
        isComplete := false } : ℝ) =
      Real.log (uris leadZero telescoping literals forms).length := by
  rw [Form.length_uris, ← Form.sum_logSize_ranges leadZero telescoping read 0]
  exact foldl_log

theorem announcement_ranges {lexicalCast : Text → Option SizeT} {leadZero telescoping : Bool}
    {literals bodies : List Text} {forms : List Form}
    (read : List.Forall₂ (Form.Reads lexicalCast) bodies forms) :
    announcement
      { literalTokens := literals, ranges := Form.ranges leadZero telescoping 0 forms
        isComplete := false } =
      .ok (if (uris leadZero telescoping literals forms).length < 2 ^ 64 then
          .cardinality (.ofNat (uris leadZero telescoping literals forms).length)
        else .logCardinality (Real.log (uris leadZero telescoping literals forms).length)) := by
  have counted := @getRangeSize_afterCalls lexicalCast leadZero telescoping literals _ forms read 0
    _ rfl
  rw [announcement, counted, getLogRangeSize_ranges read, checkedSize]
  by_cases small : (uris leadZero telescoping literals forms).length < 2 ^ 64
  · rw [if_pos small, if_pos small]
  · rw [if_neg small, if_neg small]

/--
What `main` prints about a pattern is the number of URIs the generator emits, or
the logarithm of that number when it is no `size_t`.
-/
theorem announcement_of_new {lexicalCast : Text → Option SizeT} {leadZero telescoping : Bool}
    {input : Text} {generator : UriGenerator}
    (accepted : new lexicalCast leadZero telescoping input = .ok generator) :
    ∃ emitted, Generator.Emits generator emitted ∧
      (generator.getLogRangeSize : ℝ) = Real.log emitted.length ∧
      generator.announcement = .ok
        (if emitted.length < 2 ^ 64 then .cardinality (.ofNat emitted.length)
          else .logCardinality (Real.log emitted.length)) := by
  rcases exists_forms_of_new accepted with ⟨pieces, tail, forms, -, bodies, -, rfl, emits⟩
  exact ⟨_, emits, getLogRangeSize_ranges bodies, announcement_ranges bodies⟩

/-- A pattern with twenty digits has too many URIs for a `size_t`. -/
theorem announcement_of_new_of_example :
    ∃ emitted, Generator.Emits
        ({ literalTokens := ["/".toList, []]
           ranges := [.implicit { domains := List.replicate 20 "0123456789".toList
                                  digits := List.replicate 20 0, leadingZeros := true }]
           isComplete := false } : UriGenerator) emitted ∧
      (getLogRangeSize
        ({ literalTokens := ["/".toList, []]
           ranges := [.implicit { domains := List.replicate 20 "0123456789".toList
                                  digits := List.replicate 20 0, leadingZeros := true }]
           isComplete := false } : UriGenerator) : ℝ) = Real.log emitted.length :=
  match @announcement_of_new lexicalCastSize true false "/\x7bdddddddddddddddddddd\x7d".toList _
    (by decide) with
  | ⟨emitted, emits, logarithm, _⟩ => ⟨emitted, emits, logarithm⟩

end UriGenerator

end Abrade
