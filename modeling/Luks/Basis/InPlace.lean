import Mathlib.Data.Fintype.Vector

/-!
# Transformations in place

A transformation that keeps the length of a buffer goes from finitely many buffers to as many.
So where it can be undone, it reaches all of them, and what undoes it is undone by it
(`Basis.apply_of_undoes`).
-/

namespace Basis

variable {α : Type} {n : ℕ} {f g : List α → List α}

/-- A transformation that keeps the length `n`, on the buffers of that length. -/
def onLength (f : List α → List α) (hf : ∀ l, l.length = n → (f l).length = n)
    (v : List.Vector α n) : List.Vector α n :=
  ⟨f v.toList, hf v.toList v.toList_length⟩

/-- What can be undone takes no two buffers to one. -/
theorem injective_onLength (hf : ∀ l, l.length = n → (f l).length = n)
    (hg : ∀ l, l.length = n → g (f l) = l) : Function.Injective (onLength f hf) := by
  intro v w h
  have hvw : g (f v.toList) = g (f w.toList) := congrArg (fun u => g u.toList) h
  rw [hg _ v.toList_length, hg _ w.toList_length] at hvw
  exact List.Vector.toList_injective hvw

/-- **What undoes a transformation in place is undone by it.** -/
theorem apply_of_undoes [Finite α] (hf : ∀ l, l.length = n → (f l).length = n)
    (hg : ∀ l, l.length = n → g (f l) = l) {l : List α} (hl : l.length = n) : f (g l) = l := by
  -- there is no buffer that is not reached
  obtain ⟨v, hv⟩ := Finite.surjective_of_injective (injective_onLength hf hg) ⟨l, hl⟩
  have hfv : f v.toList = l := congrArg List.Vector.toList hv
  rw [← hfv, hg _ v.toList_length]

end Basis
