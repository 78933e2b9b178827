import Mathlib.Data.List.Basic

/-!
# Reading a sequence back

When a concatenation, or an image of a list, determines what it was made from.
Elements are sorted by a test: a block of elements that pass is found again
when what follows it fails, and a map that changes only elements that fail is
undone by knowing these elements in their order.
-/

namespace Decoding

universe u

variable {α : Type u} {test : α → Bool}

/-- A block of elements that pass ends where the first other element stands. -/
theorem takeWhile_append {block rest : List α} (passes : ∀ element ∈ block, test element = true)
    (stops : ∀ element, rest.head? = some element → test element = false) :
    (block ++ rest).takeWhile test = block := by
  rw [List.takeWhile_append_of_pos passes]
  cases rest with
  | nil => simp
  | cons element rest => simp [stops element rfl]

theorem dropWhile_append {block rest : List α} (passes : ∀ element ∈ block, test element = true)
    (stops : ∀ element, rest.head? = some element → test element = false) :
    (block ++ rest).dropWhile test = rest := by
  rw [List.dropWhile_append_of_pos passes]
  cases rest with
  | nil => rfl
  | cons element rest => simp [stops element rfl]

/-- What a block of passing elements stops at, the rest behind it does not change. -/
theorem takeWhile_append_of_stops {text rest : List α}
    (stops : ∀ element, rest.head? = some element → test element = false) :
    (text ++ rest).takeWhile test = text.takeWhile test := by
  induction text with
  | nil => exact takeWhile_append (by simp) stops
  | cons element text ih =>
      rw [List.cons_append, List.takeWhile_cons, List.takeWhile_cons, ih]

theorem block_unique {block block' rest rest' : List α}
    (passes : ∀ element ∈ block, test element = true)
    (passes' : ∀ element ∈ block', test element = true)
    (stops : ∀ element, rest.head? = some element → test element = false)
    (stops' : ∀ element, rest'.head? = some element → test element = false)
    (same : block ++ rest = block' ++ rest') : block = block' ∧ rest = rest' := by
  have blocks : block = block' := by
    rw [← takeWhile_append passes stops, same, takeWhile_append passes' stops']
  subst block'
  exact ⟨rfl, List.append_cancel_left same⟩

/--
A map that fixes the elements that pass, and sends the others to others, is
injective on lists with the same elements that fail, in the same order.
-/
theorem eq_of_map_eq {f : α → α} (fixes : ∀ element, test element = true → f element = element)
    (stays : ∀ element, test element = false → test (f element) = false) {text text' : List α}
    (images : text.map f = text'.map f)
    (skeletons : text.filter (!test ·) = text'.filter (!test ·)) : text = text' := by
  induction text generalizing text' with
  | nil => exact (List.map_eq_nil_iff.mp images.symm).symm
  | cons element text ih =>
      cases text' with
      | nil => cases images
      | cons element' text' =>
          rw [List.map_cons, List.map_cons, List.cons.injEq] at images
          rcases images with ⟨headImages, tailImages⟩
          cases passes : test element with
          | true =>
              -- An element that passes cannot be the image of one that fails.
              have passes' : test element' = true := by
                by_contra fails
                rw [Bool.not_eq_true] at fails
                have failsImage := stays element' fails
                rw [← headImages, fixes element passes, passes] at failsImage
                cases failsImage
              rw [fixes element passes, fixes element' passes'] at headImages
              simp only [List.filter_cons, passes, passes', Bool.not_true, Bool.false_eq_true,
                if_false] at skeletons
              rw [headImages, ih tailImages skeletons]
          | false =>
              have fails' : test element' = false := by
                by_contra passes'
                rw [Bool.not_eq_false] at passes'
                have failsImage := stays element passes
                rw [headImages, fixes element' passes', passes'] at failsImage
                cases failsImage
              simp only [List.filter_cons, passes, fails', Bool.not_false, if_true,
                List.cons.injEq] at skeletons
              rw [skeletons.1, ih tailImages skeletons.2]

end Decoding
