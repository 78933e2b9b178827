import Abrade.Generator.Basic
import Mathlib.Data.List.TakeWhile

/-!
# Standard input

Which candidates `StdinGenerator` makes of a text.  Every line is one, the last
one also when no newline ends it, and empty lines count.
-/

namespace Abrade

/-- The text of some lines, each ended by a newline. -/
def unlines (lines : List Text) : Text :=
  lines.flatMap (· ++ ['\n'])

/-- A text and the lines it consists of. -/
inductive Lines : Text → List Text → Prop where
  | nil : Lines [] []
  /-- The last line may lack its newline. -/
  | last {line : Text} (nonempty : line ≠ []) (oneLine : '\n' ∉ line) : Lines line [line]
  | cons {line stdin : Text} {lines : List Text} (oneLine : '\n' ∉ line)
      (rest : Lines stdin lines) : Lines (line ++ '\n' :: stdin) (line :: lines)

namespace Lines

variable {stdin : Text} {lines : List Text}

theorem exists_lines (stdin : Text) : ∃ lines, Lines stdin lines := by
  induction lengthEq : stdin.length using Nat.strongRecOn generalizing stdin with
  | ind length ih =>
      by_cases newline : '\n' ∈ stdin
      · rcases List.eq_append_cons_of_mem newline with ⟨line, rest, rfl, oneLine⟩
        have shorter : rest.length < length := by
          rw [← lengthEq, List.length_append, List.length_cons]
          omega
        rcases ih rest.length shorter rest rfl with ⟨lines, reads⟩
        exact ⟨line :: lines, .cons oneLine reads⟩
      · by_cases empty : stdin = []
        · exact ⟨[], empty ▸ .nil⟩
        · exact ⟨[stdin], .last empty newline⟩

theorem ne_newline {line : Text} (oneLine : '\n' ∉ line) :
    ∀ element ∈ line, (element != '\n') = true := by
  intro element elementMem
  rw [bne_iff_ne]
  rintro rfl
  exact oneLine elementMem

theorem getline_append {line rest : Text} (oneLine : '\n' ∉ line) :
    StdinGenerator.getline (line ++ '\n' :: rest) = some (line, rest) := by
  simp [StdinGenerator.getline, List.takeWhile_append_of_pos (ne_newline oneLine),
    List.dropWhile_append_of_pos (ne_newline oneLine)]

theorem getline_last {line : Text} (nonempty : line ≠ []) (oneLine : '\n' ∉ line) :
    StdinGenerator.getline line = some (line, []) := by
  rw [StdinGenerator.getline, if_neg nonempty,
    List.takeWhile_eq_self_iff.mpr (ne_newline oneLine),
    List.dropWhile_eq_nil_iff.mpr (ne_newline oneLine), List.drop_nil]

theorem next_of_getline {line rest : Text}
    (read : StdinGenerator.getline stdin = some (line, rest)) :
    Generator.next ({ stdin } : StdinGenerator) = .ok (some line, { stdin := rest }) := by
  simp [Generator.next, StdinGenerator.next, read]

theorem emits (reads : Lines stdin lines) :
    Generator.Emits ({ stdin } : StdinGenerator) lines := by
  induction reads with
  | nil => exact Generator.emits_of_none rfl (StdinGenerator.emits_of_isComplete [])
  | last nonempty oneLine =>
      exact Generator.emits_cons (next_of_getline (getline_last nonempty oneLine))
        (Generator.emits_of_none rfl (StdinGenerator.emits_of_isComplete []))
  | cons oneLine _ ih =>
      exact Generator.emits_cons (next_of_getline (getline_append oneLine)) ih

/-- The text is what the lines say, but for the last newline. -/
def Spells (stdin : Text) (lines : List Text) : Prop :=
  unlines lines = stdin ∨
    stdin ≠ [] ∧ stdin.getLast? ≠ some '\n' ∧ unlines lines = stdin ++ ['\n']

theorem spells (reads : Lines stdin lines) :
    (∀ line ∈ lines, '\n' ∉ line) ∧ Spells stdin lines := by
  induction reads with
  | nil => exact ⟨by simp, .inl rfl⟩
  | @last line nonempty oneLine =>
      refine ⟨by simpa using oneLine, .inr ⟨nonempty, ?_, by simp [unlines]⟩⟩
      intro ends
      exact oneLine (List.mem_of_getLast? ends)
  | @cons line stdin lines oneLine _ ih =>
      refine ⟨List.forall_mem_cons.mpr ⟨oneLine, ih.1⟩, ?_⟩
      rcases ih.2 with same | ⟨nonempty, unended, same⟩
      · left
        simpa [unlines] using same
      · right
        refine ⟨by simp, ?_, by simpa [unlines] using same⟩
        rwa [List.getLast?_append_of_ne_nil _ (List.cons_ne_nil _ _),
          List.getLast?_cons_of_ne_nil nonempty]

theorem exists_unlines (nonempty : lines ≠ []) : ∃ text, unlines lines = text ++ ['\n'] := by
  rcases lines.eq_nil_or_concat with rfl | ⟨before, line, rfl⟩
  · exact absurd rfl nonempty
  · exact ⟨unlines before ++ line, by simp [unlines]⟩

theorem of_spells (oneLine : ∀ line ∈ lines, '\n' ∉ line) (spells : Spells stdin lines) :
    Lines stdin lines := by
  induction lines generalizing stdin with
  | nil =>
      rcases spells with rfl | ⟨-, -, same⟩
      · exact .nil
      · simp [unlines] at same
  | cons line lines ih =>
      rw [List.forall_mem_cons] at oneLine
      have text : unlines (line :: lines) = line ++ '\n' :: unlines lines := by simp [unlines]
      rw [Spells, text] at spells
      rcases spells with rfl | ⟨nonempty, unended, same⟩
      · exact .cons oneLine.1 (ih oneLine.2 (.inl rfl))
      · by_cases more : lines = []
        · subst more
          have whole : line = stdin := List.append_cancel_right same
          exact whole ▸ .last (whole ▸ nonempty) oneLine.1
        · rcases exists_unlines more with ⟨rest, ends⟩
          have split : stdin = line ++ '\n' :: rest := by
            rw [ends, ← List.cons_append, ← List.append_assoc] at same
            exact (List.append_cancel_right same).symm
          subst split
          rw [List.getLast?_append_of_ne_nil _ (List.cons_ne_nil _ _)] at unended
          have restNonempty : rest ≠ [] := by
            rintro rfl
            exact unended rfl
          rw [List.getLast?_cons_of_ne_nil restNonempty] at unended
          exact .cons oneLine.1 (ih oneLine.2 (.inr ⟨restNonempty, unended, ends⟩))

end Lines

/-- Lines that all end with a newline are read as they are. -/
theorem StdinGenerator.emits_unlines {lines : List Text} (oneLine : ∀ line ∈ lines, '\n' ∉ line) :
    Generator.Emits ({ stdin := unlines lines } : StdinGenerator) lines :=
  (Lines.of_spells oneLine (.inl rfl)).emits

/--
The candidates read from a text are the lines that spell it, and nothing else:
none has a newline, and with a newline behind each they are the text, whose own
last newline may be missing.
-/
theorem StdinGenerator.emits_iff_spells {stdin : Text} {uris : List Text} :
    Generator.Emits ({ stdin } : StdinGenerator) uris ↔
      (∀ uri ∈ uris, '\n' ∉ uri) ∧ Lines.Spells stdin uris := by
  constructor
  · intro emits
    rcases Lines.exists_lines stdin with ⟨lines, reads⟩
    rw [emits.unique reads.emits]
    exact reads.spells
  · rintro ⟨oneLine, spells⟩
    exact (Lines.of_spells oneLine spells).emits

end Abrade
