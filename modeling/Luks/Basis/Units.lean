import Mathlib.Algebra.Order.Ring.Nat
import Mathlib.Data.List.Range

/-!
# The units of a range

Positions are grouped into units of one size, and a range of positions takes every unit that
it has a position in (`Basis.unitsOf`). A range that is taken in pieces, one after the other,
takes the units of each (`Basis.pieceUnits`): the same ones in the same order, but one again
for each piece that starts inside it (`Basis.length_pieceUnits_le`), and none where the pieces
are of whole units (`Basis.pieceUnits_of_dvd`).
-/

namespace Basis

variable {u start n m k : ℕ}

/-- The units that the `n` positions from `start` on are in. -/
def unitsOf (u start n : ℕ) : List ℕ :=
  if n = 0 then [] else List.range' (start / u) ((start + n - 1) / u + 1 - start / u)

@[simp] theorem unitsOf_zero (u start : ℕ) : unitsOf u start 0 = [] := if_pos rfl

theorem unitsOf_of_pos (hn : 0 < n) :
    unitsOf u start n = List.range' (start / u) ((start + n - 1) / u + 1 - start / u) :=
  if_neg (by omega)

theorem mem_unitsOf (hu : 0 < u) :
    k ∈ unitsOf u start n ↔ ∃ x, start ≤ x ∧ x < start + n ∧ x / u = k := by
  rcases Nat.eq_zero_or_pos n with rfl | hn
  · rw [unitsOf_zero]
    simp only [List.not_mem_nil, false_iff]
    rintro ⟨x, hle, hlt, -⟩
    omega
  have hle : start / u ≤ (start + n - 1) / u := Nat.div_le_div_right (by omega)
  rw [unitsOf_of_pos hn, List.mem_range'_1]
  constructor
  · rintro ⟨hfirst, hlast⟩
    have hlast' : k * u ≤ start + n - 1 := (Nat.le_div_iff_mul_le hu).mp (by omega)
    rcases Nat.le_total start (k * u) with hk | hk
    · exact ⟨k * u, hk, by omega, Nat.mul_div_cancel k hu⟩
    · exact ⟨start, le_refl start, by omega,
        le_antisymm hfirst ((Nat.le_div_iff_mul_le hu).mpr hk)⟩
  · rintro ⟨x, hx, hlt, rfl⟩
    have hfirst : start / u ≤ x / u := Nat.div_le_div_right hx
    have hlast : x / u ≤ (start + n - 1) / u := Nat.div_le_div_right (by omega)
    omega

/-- No unit is taken twice. -/
theorem pairwise_unitsOf (u start n : ℕ) : (unitsOf u start n).Pairwise (· < ·) := by
  rw [unitsOf]
  split_ifs
  · exact List.Pairwise.nil
  · exact List.pairwise_lt_range'

/-- A range inside of one unit. -/
theorem unitsOf_single (hn : 0 < n) (h : start % u + n ≤ u) : unitsOf u start n = [start / u] := by
  have hdiv := Nat.div_add_mod' start u
  have hlast : (start + n - 1) / u = start / u :=
    (Nat.div_eq_iff (by omega)).mpr ⟨by omega, by omega⟩
  rw [unitsOf_of_pos hn, hlast, Nat.add_sub_cancel_left]
  rfl

theorem range'_append_of_le {a b c : ℕ} (h : a ≤ b) (h' : b ≤ c) :
    List.range' a (b - a) ++ List.range' b (c - b) = List.range' a (c - a) := by
  obtain ⟨d, rfl⟩ := Nat.exists_eq_add_of_le h
  rw [Nat.add_sub_cancel_left, List.range'_append_1]
  congr 1
  omega

/-- **A range that ends where a unit does**, and what follows it. -/
theorem unitsOf_append (hu : 0 < u) (h : u ∣ start + n) (m : ℕ) :
    unitsOf u start n ++ unitsOf u (start + n) m = unitsOf u start (n + m) := by
  rcases Nat.eq_zero_or_pos n with rfl | hn
  · simp
  rcases Nat.eq_zero_or_pos m with rfl | hm
  · simp
  have hlast : (start + n - 1) / u + 1 = (start + n) / u := by
    obtain ⟨q, hq⟩ := h
    have hpos : 0 < q := Nat.pos_of_ne_zero fun h0 => by
      rw [h0, Nat.mul_zero] at hq
      omega
    rw [hq, Nat.mul_sub_div 0 u q (by omega), Nat.zero_div, Nat.mul_div_cancel_left q hu]
    omega
  have hle : start / u ≤ (start + n) / u := Nat.div_le_div_right (by omega)
  have hle' : (start + n) / u ≤ (start + (n + m) - 1) / u := Nat.div_le_div_right (by omega)
  rw [unitsOf_of_pos hn, unitsOf_of_pos hm, unitsOf_of_pos (by omega), hlast,
    Nat.add_assoc start n m, range'_append_of_le hle (by omega)]

/-- **A range takes the unit that it starts in**, and then what is left of it does. -/
theorem unitsOf_eq_cons (hu : 0 < u) (hn : 0 < n) : unitsOf u start n = start / u ::
    unitsOf u (start + min (u - start % u) n) (n - min (u - start % u) n) := by
  have hmod := Nat.mod_lt start hu
  have hfirst : unitsOf u start (min (u - start % u) n) = [start / u] :=
    unitsOf_single (by omega) (by omega)
  rcases Nat.le_total (u - start % u) n with hle | hle
  · rw [Nat.min_eq_left hle] at hfirst ⊢
    have hend : u ∣ start + (u - start % u) := by
      refine ⟨start / u + 1, ?_⟩
      have hdiv := Nat.div_add_mod start u
      rw [Nat.mul_succ]
      omega
    have happend := unitsOf_append hu hend (n - (u - start % u))
    rw [hfirst, Nat.add_sub_cancel' hle] at happend
    exact happend.symm
  · rw [Nat.min_eq_right hle] at hfirst ⊢
    rw [hfirst, Nat.sub_self, unitsOf_zero]

/-- **Where a range is cut**, one unit at most is on both sides. -/
theorem length_unitsOf_add_le (u start n m : ℕ) :
    (unitsOf u start n).length + (unitsOf u (start + n) m).length ≤
      (unitsOf u start (n + m)).length + 1 := by
  rcases Nat.eq_zero_or_pos n with rfl | hn
  · simp
  rcases Nat.eq_zero_or_pos m with rfl | hm
  · simp
  have hle : start / u ≤ (start + n - 1) / u := Nat.div_le_div_right (by omega)
  have hcut : (start + n - 1) / u ≤ (start + n) / u := Nat.div_le_div_right (by omega)
  have hle' : (start + n) / u ≤ (start + (n + m) - 1) / u := Nat.div_le_div_right (by omega)
  rw [unitsOf_of_pos hn, unitsOf_of_pos hm, unitsOf_of_pos (by omega), List.length_range',
    List.length_range', List.length_range', Nat.add_assoc start n m]
  omega

/-! ### Ranges in pieces -/

section Pieces

variable {stop : ℕ} {sizes : List ℕ}

/-- The units that pieces of some sizes take, one after the other from `start` on and no
further than `stop`. -/
def pieceUnits (u stop : ℕ) : ℕ → List ℕ → List ℕ
  | _, [] => []
  | start, n :: sizes =>
      unitsOf u start (min n (stop - start)) ++
        pieceUnits u stop (start + min n (stop - start)) sizes

/-- How many positions the pieces have. -/
def pieceTotal (stop start : ℕ) (sizes : List ℕ) : ℕ := min sizes.sum (stop - start)

theorem pieceTotal_cons (stop start n : ℕ) (sizes : List ℕ) :
    pieceTotal stop start (n :: sizes) =
      min n (stop - start) + pieceTotal stop (start + min n (stop - start)) sizes := by
  rw [pieceTotal, pieceTotal, List.sum_cons]
  omega

/-- Nothing is left for pieces from the end on. -/
theorem pieceUnits_of_le (h : stop ≤ start) : pieceUnits u stop start sizes = [] := by
  induction sizes with
  | nil => rfl
  | cons n sizes ih => rw [pieceUnits, Nat.sub_eq_zero_of_le h, Nat.min_zero, unitsOf_zero,
      Nat.add_zero, ih, List.append_nil]

/-- **Pieces of whole units** take each unit once. -/
theorem pieceUnits_of_dvd (hu : 0 < u) (hstart : u ∣ start) (hsizes : ∀ n ∈ sizes, u ∣ n) :
    pieceUnits u stop start sizes = unitsOf u start (pieceTotal stop start sizes) := by
  induction sizes generalizing start with
  | nil => rw [pieceUnits, pieceTotal, List.sum_nil, Nat.zero_min, unitsOf_zero]
  | cons n sizes ih =>
    rw [pieceUnits, pieceTotal_cons]
    rcases Nat.le_total n (stop - start) with hle | hle
    · rw [Nat.min_eq_left hle]
      have hnext : u ∣ start + n := Nat.dvd_add hstart (hsizes n (by simp))
      rw [ih hnext fun n hn => hsizes n (by simp [hn]), unitsOf_append hu hnext]
    · -- the last of them, that is cut
      rw [Nat.min_eq_right hle, pieceUnits_of_le (by omega), pieceTotal,
        show stop - (start + (stop - start)) = 0 by omega, Nat.min_zero, Nat.add_zero,
        List.append_nil]

/-- **Pieces take one unit again at most for each of them.** -/
theorem length_pieceUnits_le (u stop start : ℕ) (sizes : List ℕ) :
    (pieceUnits u stop start sizes).length ≤
      (unitsOf u start (pieceTotal stop start sizes)).length + sizes.length := by
  induction sizes generalizing start with
  | nil => exact Nat.zero_le _
  | cons n sizes ih =>
    have hrest := ih (start + min n (stop - start))
    have hcut := length_unitsOf_add_le u start (min n (stop - start))
      (pieceTotal stop (start + min n (stop - start)) sizes)
    rw [pieceUnits, pieceTotal_cons, List.length_append, List.length_cons]
    omega

/-- Pieces take the units of the whole range. -/
theorem mem_pieceUnits (hu : 0 < u) :
    k ∈ pieceUnits u stop start sizes ↔ k ∈ unitsOf u start (pieceTotal stop start sizes) := by
  induction sizes generalizing start with
  | nil => rw [pieceUnits, pieceTotal, List.sum_nil, Nat.zero_min, unitsOf_zero]
  | cons n sizes ih =>
    rw [pieceUnits, pieceTotal_cons, List.mem_append, ih, mem_unitsOf hu, mem_unitsOf hu,
      mem_unitsOf hu]
    constructor
    · rintro (⟨x, hle, hlt, hx⟩ | ⟨x, hle, hlt, hx⟩)
      · exact ⟨x, hle, by omega, hx⟩
      · exact ⟨x, by omega, by omega, hx⟩
    · rintro ⟨x, hle, hlt, hx⟩
      rcases Nat.lt_or_ge x (start + min n (stop - start)) with hcut | hcut
      · exact Or.inl ⟨x, hle, hcut, hx⟩
      · exact Or.inr ⟨x, hcut, by omega, hx⟩

/-- **Pieces do not go back.** -/
theorem pairwise_pieceUnits (hu : 0 < u) (stop start : ℕ) (sizes : List ℕ) :
    (pieceUnits u stop start sizes).Pairwise (· ≤ ·) := by
  induction sizes generalizing start with
  | nil => exact List.Pairwise.nil
  | cons n sizes ih =>
    rw [pieceUnits, List.pairwise_append]
    refine ⟨(pairwise_unitsOf _ _ _).imp Nat.le_of_lt, ih _, fun a ha b hb => ?_⟩
    obtain ⟨x, -, hx, rfl⟩ := (mem_unitsOf hu).mp ha
    obtain ⟨y, hy, -, rfl⟩ := (mem_unitsOf hu).mp ((mem_pieceUnits hu).mp hb)
    exact Nat.div_le_div_right (by omega)

end Pieces

end Basis
