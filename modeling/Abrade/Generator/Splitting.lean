import Abrade.Generator.Braces

/-!
# Splitting a pattern

What the constructor loop does with its input: every index it reaches and every
pattern it finds lies inside the input, and the literals and the slices of an
accepted input are the whole of it.
-/

namespace Abrade

/-- A body between its braces. -/
def braced (body : Text) : Text :=
  '{' :: (body ++ ['}'])

/-- The input from the opening to the closing brace of a pattern. -/
def Pattern.slice (input : Text) (pattern : Pattern) : Text :=
  (input.drop pattern.start).take (pattern.stop + 1 - pattern.start)

/-- The patterns that the constructor loop finds from `index` on. -/
def patternsFrom (input : Text) : ℕ → ℕ → Except Exception (List Pattern)
  | 0, _ => .error .outOfFuel
  | fuel + 1, index => do
      match ← parseNextPattern input index with
      | none => return []
      | some pattern =>
          let patterns ← patternsFrom input fuel (pattern.stop + 1)
          return pattern :: patterns

def patterns (input : Text) : Except Exception (List Pattern) :=
  patternsFrom input (input.length + 1) 0

/-- The values of `index` in the constructor loop, as long as no form is rejected. -/
inductive ReachesIndex (input : Text) : ℕ → Prop where
  | start : ReachesIndex input 0
  | behind {index : ℕ} {pattern : Pattern} (reaches : ReachesIndex input index)
      (found : parseNextPattern input index = .ok (some pattern)) :
      ReachesIndex input (pattern.stop + 1)

/-- The indices of a turn of the loop, all of them positions in the input. -/
structure Pattern.Inside (input : Text) (index : ℕ) (pattern : Pattern) : Prop where
  start : index ≤ pattern.start
  stop : pattern.start < pattern.stop
  length : pattern.stop < input.length

section Positions

variable {input : Text} {index : ℕ}

theorem inside_of_parseNextPattern (reached : index ≤ input.length) {pattern : Pattern}
    (found : parseNextPattern input index = .ok (some pattern)) : pattern.Inside input index := by
  have split : input = input.take index ++ input.drop index := (List.take_append_drop _ _).symm
  have position : index = (input.take index).length := by
    rw [List.length_take, Nat.min_eq_left reached]
  generalize input.take index = before at split position
  generalize input.drop index = rest at split
  subst split position
  cases UriGenerator.ahead rest with
  | clean noOpening noClosing =>
      rw [UriGenerator.parseNextPattern_tail noOpening noClosing] at found
      cases found
  | stray noOpening closing =>
      rw [UriGenerator.parseNextPattern_stray noOpening closing] at found
      cases found
  | unclosed noOpening noClosing =>
      rw [UriGenerator.parseNextPattern_unclosed noOpening noClosing] at found
      cases found
  | form noOpening noClosing =>
      rw [UriGenerator.parseNextPattern_form noOpening noClosing] at found
      cases found
      constructor
      · rw [UriGenerator.patternAt_start]
        omega
      · rw [UriGenerator.patternAt_start, UriGenerator.patternAt_stop]
        omega
      · simp only [UriGenerator.patternAt_stop, List.length_append, List.length_cons]
        omega

theorem ReachesIndex.le_length (reaches : ReachesIndex input index) : index ≤ input.length := by
  induction reaches with
  | start => exact Nat.zero_le _
  | behind reaches found ih => exact (inside_of_parseNextPattern ih found).length

end Positions

namespace Splits

variable {input rest tail : Text} {pieces : List (Text × Text)}

/-- A split loses nothing: the literals and the braced bodies in turn are the input. -/
theorem interleave_eq (split : Splits input pieces tail) :
    interleave (pieces.map Prod.fst ++ [tail]) (pieces.map fun piece => braced piece.2) =
      input := by
  induction split with
  | tail => rfl
  | form noOpening noClosing split ih =>
      rw [List.map_cons, List.map_cons, List.cons_append, interleave, ih]
      simp [braced]

theorem slice_patternAt (before literal body rest : Text) :
    (UriGenerator.patternAt (before.length + literal.length) body).slice
      (before ++ (literal ++ '{' :: (body ++ '}' :: rest))) = braced body := by
  have width : before.length + literal.length + body.length + 1 + 1 -
      (before.length + literal.length) = (braced body).length := by
    simp [braced]
    omega
  have ahead : before ++ (literal ++ '{' :: (body ++ '}' :: rest)) =
      (before ++ literal) ++ (braced body ++ rest) := by
    simp [braced]
  rw [Pattern.slice, UriGenerator.patternAt_start, UriGenerator.patternAt_stop, width, ahead,
    ← List.length_append, List.drop_left, List.take_left]

/-- The patterns of the loop are the pieces of the split. -/
theorem patternsFrom_eq (split : Splits rest pieces tail) {fuel : ℕ}
    (enough : rest.length < fuel) (before : Text) :
    ∃ found, patternsFrom (before ++ rest) fuel before.length = .ok found ∧
      found.map (Pattern.slice (before ++ rest)) = pieces.map fun piece => braced piece.2 := by
  induction split generalizing before fuel with
  | tail noOpening noClosing =>
      cases fuel with
      | zero => omega
      | succ fuel =>
          refine ⟨[], ?_, rfl⟩
          rw [patternsFrom, UriGenerator.parseNextPattern_tail noOpening noClosing]
          rfl
  | @form literal body rest tail pieces noOpening noClosing split ih =>
      cases fuel with
      | zero => omega
      | succ fuel =>
          have shorter : rest.length < fuel := by
            simp only [List.length_append, List.length_cons] at enough
            omega
          rcases ih shorter (before ++ (literal ++ braced body)) with ⟨found, patterns, slices⟩
          have same : before ++ (literal ++ braced body) ++ rest =
              before ++ (literal ++ '{' :: (body ++ '}' :: rest)) := by
            simp [braced]
          have behind : (before ++ (literal ++ braced body)).length =
              before.length + literal.length + body.length + 1 + 1 := by
            simp [braced]
            omega
          rw [same, behind] at patterns
          rw [same] at slices
          refine ⟨UriGenerator.patternAt (before.length + literal.length) body :: found, ?_, ?_⟩
          · simp only [patternsFrom, UriGenerator.parseNextPattern_form noOpening noClosing,
              Except.ok_bind, UriGenerator.patternAt_stop, patterns]
            rfl
          · rw [List.map_cons, List.map_cons, slices, slice_patternAt]

end Splits

namespace UriGenerator

section Splitting

variable {lexicalCast : Text → Option SizeT} {leadZero telescoping : Bool} {input : Text}

/-- The literals and the slices of the found patterns, one for each range, are the input. -/
structure LosesNothing (input : Text) (found : List Pattern) (generator : UriGenerator) :
    Prop where
  ranges : generator.ranges.length = found.length
  literals : generator.literalTokens.length = found.length + 1
  whole : interleave generator.literalTokens (found.map (Pattern.slice input)) = input
  slices : ∀ pattern ∈ found, ∃ body, pattern.slice input = braced body ∧ '{' ∉ body ∧ '}' ∉ body

theorem clean_of_reads
    (numeral : ∀ token value, lexicalCast token = some value →
      ∀ element ∈ token, element = '+' ∨ element = '-' ∨ element.isDigit)
    {pieces : List (Text × Text)} {tail : Text} {forms : List Form}
    (split : Splits input pieces tail)
    (read : List.Forall₂ (fun piece form => Form.Reads lexicalCast piece.2 form) pieces forms) :
    ∀ piece ∈ pieces, '{' ∉ piece.2 ∧ '}' ∉ piece.2 := by
  induction split generalizing forms with
  | tail => simp
  | form _ noClosing _ ih =>
      cases read with
      | cons reads read =>
          rw [List.forall_mem_cons]
          exact ⟨⟨reads.noOpening numeral, noClosing⟩, ih read⟩

theorem losesNothing_of_new
    (numeral : ∀ token value, lexicalCast token = some value →
      ∀ element ∈ token, element = '+' ∨ element = '-' ∨ element.isDigit)
    {generator : UriGenerator}
    (accepted : new lexicalCast leadZero telescoping input = .ok generator) :
    ∃ found, patterns input = .ok found ∧ LosesNothing input found generator := by
  rcases new_eq_ok_iff.mp accepted with ⟨pieces, tail, forms, split, read, -, rfl⟩
  rcases split.patternsFrom_eq (Nat.lt_succ_self _) [] with ⟨found, loop, slices⟩
  rw [List.nil_append] at loop slices
  have count : found.length = pieces.length := by
    simpa using congrArg List.length slices
  refine ⟨found, loop, ?_, ?_, ?_, ?_⟩
  · rw [Form.length_ranges, count, read.length_eq]
  · simp [count]
  · rw [slices]
    exact split.interleave_eq
  · intro pattern patternMem
    have sliceMem := @List.mem_map_of_mem _ _ _ _ (Pattern.slice input) patternMem
    rw [slices] at sliceMem
    rcases List.mem_map.mp sliceMem with ⟨piece, pieceMem, same⟩
    exact ⟨piece.2, same.symm, clean_of_reads numeral split read piece pieceMem⟩

/--
For every input the constructor loop ends, and stays inside the input while it
runs.  An accepted input is the literals and the slices from brace to brace in
turn, and between its braces a slice holds no other.
-/
theorem new_losesNothing
    (numeral : ∀ token value, lexicalCast token = some value →
      ∀ element ∈ token, element = '+' ∨ element = '-' ∨ element.isDigit) (input : Text) :
    (new lexicalCast leadZero telescoping input ≠ .error .outOfFuel ∧
        new lexicalCast leadZero telescoping input ≠ .error .outOfRange) ∧
      (∀ index, ReachesIndex input index → index ≤ input.length ∧
        ∀ pattern, parseNextPattern input index = .ok (some pattern) →
          pattern.Inside input index) ∧
      ∀ generator, new lexicalCast leadZero telescoping input = .ok generator →
        ∃ found, patterns input = .ok found ∧ LosesNothing input found generator := by
  refine ⟨⟨?_, ?_⟩, ?_, ?_⟩
  · intro failed
    rcases new_eq_error failed with ⟨what, ⟨⟩⟩
  · intro failed
    rcases new_eq_error failed with ⟨what, ⟨⟩⟩
  · intro index reaches
    exact ⟨reaches.le_length, fun pattern => inside_of_parseNextPattern reaches.le_length⟩
  · exact fun generator => losesNothing_of_new numeral

/-- Two adjacent forms at the end of the input. -/
theorem new_losesNothing_of_example :
    (new lexicalCastSize false false "/{9:10}{}".toList ≠ .error .outOfFuel ∧
        new lexicalCastSize false false "/{9:10}{}".toList ≠ .error .outOfRange) ∧
      (∀ index, ReachesIndex "/{9:10}{}".toList index →
        index ≤ "/{9:10}{}".toList.length ∧
        ∀ pattern, parseNextPattern "/{9:10}{}".toList index = .ok (some pattern) →
          pattern.Inside "/{9:10}{}".toList index) ∧
      ∀ generator, new lexicalCastSize false false "/{9:10}{}".toList = .ok generator →
        ∃ found, patterns "/{9:10}{}".toList = .ok found ∧
          LosesNothing "/{9:10}{}".toList found generator :=
  new_losesNothing (fun _ _ cast => lexicalCastSize_numeral cast) _

end Splitting

end UriGenerator

end Abrade
