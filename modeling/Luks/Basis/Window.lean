import Mathlib.Data.List.Basic
import Mathlib.Tactic.Ring

/-!
# Windows of a buffer

A buffer is a list, and everything that reads or writes a part of one goes
through four operations: `Basis.window` (the part of given length at an offset,
shorter where the buffer ends), `Basis.slice?` (the same by its two ends, refused
unless it lies in the buffer), `Basis.overwrite` (a buffer with a part replaced)
and `Basis.chunks` (a buffer cut in units of one length, the last one possibly
shorter).

The two facts the developments above rest on are
`Basis.window_overwrite_of_disjoint` – writing somewhere is invisible elsewhere –
and `Basis.window_flatten` – a window that stays inside one unit of a
concatenation is a window of that unit.
-/

namespace Basis

variable {α β : Type}

/-! ### Windows -/

/-- The part of `l` of length `n` at offset `off`, cut short where `l` ends. -/
def window (l : List α) (off n : ℕ) : List α := (l.drop off).take n

@[simp] theorem length_window (l : List α) (off n : ℕ) :
    (window l off n).length = min n (l.length - off) := by
  simp [window]

theorem length_window_of_le {l : List α} {off n : ℕ} (h : off + n ≤ l.length) :
    (window l off n).length = n := by
  rw [length_window]
  omega

@[simp] theorem window_zero_right (l : List α) (off : ℕ) : window l off 0 = [] := by
  simp [window]

theorem window_full (l : List α) : window l 0 l.length = l := by
  simp [window]

theorem window_of_length {l : List α} {n : ℕ} (h : l.length = n) : window l 0 n = l := by
  rw [← h, window_full]

/-- A window does not go past the end. -/
theorem window_min (l : List α) (off n : ℕ) :
    window l off (min n (l.length - off)) = window l off n := by
  rw [window, window, List.take_eq_take_iff, List.length_drop, min_assoc, min_self]

theorem window_of_length_le {l : List α} {off : ℕ} (n : ℕ) (h : l.length ≤ off) :
    window l off n = [] := by
  rw [window, List.drop_eq_nil_of_le h, List.take_nil]

theorem getElem?_window (l : List α) (off n i : ℕ) :
    (window l off n)[i]? = if i < n then l[off + i]? else none := by
  by_cases h : i < n
  · rw [if_pos h, window, List.getElem?_take_of_lt h, List.getElem?_drop]
  · rw [if_neg h, List.getElem?_eq_none]
    simp
    omega

/-- A window of a window is a window. -/
theorem window_window (l : List α) {off n o k : ℕ} (h : o + k ≤ n) :
    window (window l off n) o k = window l (off + o) k := by
  refine List.ext_getElem? fun i => ?_
  rw [getElem?_window, getElem?_window, getElem?_window]
  by_cases hi : i < k
  · rw [if_pos hi, if_pos hi, if_pos (by omega), Nat.add_assoc]
  · rw [if_neg hi, if_neg hi]

/-- A window inside the front of a list is one of the list. -/
theorem window_take {l : List α} {t off n : ℕ} (h : off + n ≤ t) :
    window (l.take t) off n = window l off n := by
  refine List.ext_getElem? fun i => ?_
  rw [getElem?_window, getElem?_window]
  by_cases hi : i < n
  · rw [if_pos hi, if_pos hi, List.getElem?_take_of_lt (by omega)]
  · rw [if_neg hi, if_neg hi]

/-- Two adjacent windows make one. -/
theorem window_append (l : List α) (off n k : ℕ) :
    window l off n ++ window l (off + n) k = window l off (n + k) := by
  rw [window, window, window, ← List.drop_drop, ← List.take_add]

theorem window_append_left {l l' : List α} {off n : ℕ} (h : off + n ≤ l.length) :
    window (l ++ l') off n = window l off n := by
  refine List.ext_getElem? fun i => ?_
  rw [getElem?_window, getElem?_window]
  by_cases hi : i < n
  · rw [if_pos hi, if_pos hi, List.getElem?_append_left (by omega)]
  · rw [if_neg hi, if_neg hi]

theorem window_append_right {l l' : List α} {off n : ℕ} (h : l.length ≤ off) :
    window (l ++ l') off n = window l' (off - l.length) n := by
  refine List.ext_getElem? fun i => ?_
  rw [getElem?_window, getElem?_window]
  by_cases hi : i < n
  · rw [if_pos hi, if_pos hi, List.getElem?_append_right (by omega)]
    congr 1
    omega
  · rw [if_neg hi, if_neg hi]

/-- The part of `l` from `a` up to `b`, if there is such a part. -/
def slice? (l : List α) (a b : ℕ) : Option (List α) :=
  if a ≤ b ∧ b ≤ l.length then some (window l a (b - a)) else none

theorem slice?_of_le {l : List α} {a b : ℕ} (h : a ≤ b) (h' : b ≤ l.length) :
    slice? l a b = some (window l a (b - a)) := if_pos ⟨h, h'⟩

theorem length_of_slice?_eq_some {l p : List α} {a b : ℕ} (h : slice? l a b = some p) :
    p.length = b - a := by
  rw [slice?] at h
  split_ifs at h with hab
  obtain rfl : window l a (b - a) = p := by simpa using h
  exact length_window_of_le (by omega)

/-! ### Overwriting a part of a buffer -/

/-- `l` with the part at `off` replaced by `data`. -/
def overwrite (l : List α) (off : ℕ) (data : List α) : List α :=
  l.take off ++ data ++ l.drop (off + data.length)

theorem length_overwrite {l data : List α} {off : ℕ} (h : off + data.length ≤ l.length) :
    (overwrite l off data).length = l.length := by
  simp only [overwrite, List.length_append, List.length_take, List.length_drop]
  omega

theorem getElem?_overwrite {l data : List α} {off : ℕ} (h : off + data.length ≤ l.length)
    (i : ℕ) : (overwrite l off data)[i]? =
      if off ≤ i ∧ i < off + data.length then data[i - off]? else l[i]? := by
  have hlen : (l.take off).length = off := by
    rw [List.length_take]
    omega
  rw [overwrite, List.append_assoc]
  by_cases hlt : i < off
  · rw [if_neg (by omega), List.getElem?_append_left (by omega), List.getElem?_take_of_lt hlt]
  · rw [List.getElem?_append_right (by omega), hlen]
    by_cases hin : i < off + data.length
    · rw [if_pos ⟨by omega, hin⟩, List.getElem?_append_left (by omega)]
    · rw [if_neg (by omega), List.getElem?_append_right (by omega), List.getElem?_drop]
      congr 1
      omega

/-- What was written is read back. -/
theorem window_overwrite_self {l data : List α} {off : ℕ} (h : off + data.length ≤ l.length) :
    window (overwrite l off data) off data.length = data := by
  refine List.ext_getElem? fun i => ?_
  rw [getElem?_window]
  by_cases hi : i < data.length
  · rw [if_pos hi, getElem?_overwrite h, if_pos (by omega)]
    congr 1
    omega
  · rw [if_neg hi, List.getElem?_eq_none (by omega)]

/-- **Writing somewhere is invisible elsewhere.** -/
theorem window_overwrite_of_disjoint {l data : List α} {off o n : ℕ}
    (h : off + data.length ≤ l.length) (hd : o + n ≤ off ∨ off + data.length ≤ o) :
    window (overwrite l off data) o n = window l o n := by
  refine List.ext_getElem? fun i => ?_
  rw [getElem?_window, getElem?_window]
  by_cases hi : i < n
  · rw [if_pos hi, if_pos hi, getElem?_overwrite h, if_neg (by omega)]
  · rw [if_neg hi, if_neg hi]

@[simp] theorem overwrite_nil (l : List α) (off : ℕ) : overwrite l off [] = l := by
  rw [overwrite, List.append_nil, List.length_nil, Nat.add_zero, List.take_append_drop]

/-- Writing what is there changes nothing. -/
theorem overwrite_window {l : List α} {off n : ℕ} (h : off + n ≤ l.length) :
    overwrite l off (window l off n) = l := by
  rw [overwrite, length_window_of_le h, window, ← List.drop_drop, List.append_assoc,
    List.take_append_drop, List.take_append_drop]

/-! ### Cutting a buffer in units -/

/-- A place that is still in the unit of another. -/
theorem add_div_mod_of_lt {n a i : ℕ} (h : a % n + i < n) :
    (a + i) / n = a / n ∧ (a + i) % n = a % n + i := by
  have hdiv := Nat.div_add_mod' a n
  have hsame : (a + i) / n = a / n := by
    refine Nat.div_eq_of_lt_le (by omega) ?_
    rw [Nat.succ_mul]
    omega
  have hnext := Nat.div_add_mod' (a + i) n
  rw [hsame] at hnext
  exact ⟨hsame, by omega⟩

/-- The units of length `n` of `l`; the last one is shorter if `n` does not divide
the length. -/
def chunks (n : ℕ) (l : List α) : List (List α) :=
  (List.range ((l.length + n - 1) / n)).map fun i => window l (i * n) n

theorem length_chunks (n : ℕ) (l : List α) :
    (chunks n l).length = (l.length + n - 1) / n := by
  simp [chunks]

theorem length_chunks_of_dvd {n k : ℕ} {l : List α} (hn : 0 < n) (h : l.length = k * n) :
    (chunks n l).length = k := by
  rw [length_chunks, h]
  rw [show k * n + n - 1 = (n - 1) + k * n by omega, Nat.add_mul_div_right _ _ hn,
    Nat.div_eq_of_lt (by omega), Nat.zero_add]

theorem getElem?_chunks_of_lt {n i : ℕ} {l : List α} (h : i < (chunks n l).length) :
    (chunks n l)[i]? = some (window l (i * n) n) := by
  rw [length_chunks] at h
  simp [chunks, h]

/-- Units of one length, put back together, are a prefix of the buffer. -/
theorem flatten_map_window (n : ℕ) (l : List α) (k : ℕ) :
    ((List.range k).map fun i => window l (i * n) n).flatten = window l 0 (k * n) := by
  induction k with
  | zero => simp
  | succ k ih =>
    rw [List.range_succ, List.map_append, List.flatten_append, ih]
    have h := window_append l 0 (k * n) n
    rw [Nat.zero_add] at h
    simpa [Nat.succ_mul] using h

/-- **Nothing is lost in cutting.** -/
theorem flatten_chunks {n : ℕ} (hn : 0 < n) (l : List α) : (chunks n l).flatten = l := by
  rw [chunks, flatten_map_window, window, List.drop_zero, List.take_of_length_le]
  have h := Nat.div_add_mod (l.length + n - 1) n
  have hlt := Nat.mod_lt (l.length + n - 1) hn
  rw [Nat.mul_comm] at h
  omega

theorem length_of_mem_chunks {n k : ℕ} {l u : List α} (hn : 0 < n) (h : l.length = k * n)
    (hu : u ∈ chunks n l) : u.length = n := by
  obtain ⟨i, hi, rfl⟩ := List.mem_iff_getElem.mp hu
  rw [length_chunks_of_dvd hn h] at hi
  have hle : (i + 1) * n ≤ k * n := Nat.mul_le_mul_right n hi
  have hw := getElem?_chunks_of_lt (n := n) (l := l) (i := i)
    (by rw [length_chunks_of_dvd hn h]; exact hi)
  rw [List.getElem?_eq_getElem (by rw [length_chunks_of_dvd hn h]; exact hi)] at hw
  rw [Option.some.inj hw]
  refine length_window_of_le ?_
  rw [h]
  rw [Nat.succ_mul] at hle
  exact hle

/-! ### Concatenations of units of one length -/

theorem length_flatten_of_length {n : ℕ} {ls : List (List α)} (h : ∀ u ∈ ls, u.length = n) :
    ls.flatten.length = ls.length * n := by
  induction ls with
  | nil => simp
  | cons u ls ih =>
    rw [List.flatten_cons, List.length_append, h u (by simp), ih fun v hv => h v (by simp [hv]),
      List.length_cons, Nat.succ_mul, Nat.add_comm]

/-- **A window inside one unit** of a concatenation of units of length `n`. -/
theorem window_flatten {n u w k : ℕ} {ls : List (List α)} (h : ∀ v ∈ ls, v.length = n)
    (hu : u < ls.length) (hw : w + k ≤ n) :
    window ls.flatten (u * n + w) k = window ls[u] w k := by
  induction ls generalizing u with
  | nil => simp at hu
  | cons v ls ih =>
    have hv : v.length = n := h v (by simp)
    rw [List.flatten_cons]
    cases u with
    | zero =>
      rw [Nat.zero_mul, Nat.zero_add, window_append_left (by omega)]
      rfl
    | succ u =>
      rw [window_append_right (by rw [hv, Nat.succ_mul]; omega), hv,
        show (u + 1) * n + w - n = u * n + w by rw [Nat.succ_mul]; omega,
        ih (fun v hv => h v (by simp [hv])) (by simpa using hu)]
      rfl

/-- Cutting a concatenation of units of length `n` gives the units back. -/
theorem chunks_flatten {n : ℕ} (hn : 0 < n) {ls : List (List α)} (h : ∀ u ∈ ls, u.length = n) :
    chunks n ls.flatten = ls := by
  have hlen := length_chunks_of_dvd hn (length_flatten_of_length h)
  refine List.ext_getElem? fun i => ?_
  by_cases hi : i < ls.length
  · rw [getElem?_chunks_of_lt (by omega), List.getElem?_eq_getElem hi]
    have hw := window_flatten (w := 0) (k := n) h hi (by omega)
    rw [Nat.add_zero] at hw
    rw [hw]
    have hui := h ls[i] (List.getElem_mem hi)
    rw [← hui, window_full]
  · rw [List.getElem?_eq_none (by omega), List.getElem?_eq_none (by omega)]

/-- What is one unit long is cut into itself. -/
theorem chunks_of_length {n : ℕ} {l : List α} (hn : 0 < n) (h : l.length = n) :
    chunks n l = [l] := by
  have hone : chunks n [l].flatten = [l] := chunks_flatten hn (by simp [h])
  rwa [List.flatten_singleton] at hone

/-! ### Transforming a buffer unit by unit -/

/-- `l` with `f` applied to each of its units of length `n`, and to its number. -/
def mapUnits (f : ℕ → List α → List β) (n : ℕ) (l : List α) : List β :=
  ((chunks n l).zipIdx.map fun p => f p.2 p.1).flatten

section MapUnits

variable {f : ℕ → List α → List β} {n k : ℕ} {l : List α}

theorem length_of_mem_mapUnits (hn : 0 < n) (hl : l.length = k * n)
    (hf : ∀ u c, c.length = n → (f u c).length = n) :
    ∀ v ∈ (chunks n l).zipIdx.map fun p => f p.2 p.1, v.length = n := by
  intro v hv
  obtain ⟨⟨c, u⟩, hp, rfl⟩ := List.mem_map.mp hv
  exact hf u c (length_of_mem_chunks hn hl (List.fst_mem_of_mem_zipIdx hp))

theorem length_mapUnits (hn : 0 < n) (hl : l.length = k * n)
    (hf : ∀ u c, c.length = n → (f u c).length = n) : (mapUnits f n l).length = k * n := by
  rw [mapUnits, length_flatten_of_length (length_of_mem_mapUnits hn hl hf), List.length_map,
    List.length_zipIdx, length_chunks_of_dvd hn hl]

/-- **A window inside one unit** comes from that unit alone. -/
theorem window_mapUnits {u w m : ℕ} (hn : 0 < n) (hl : l.length = k * n)
    (hf : ∀ u c, c.length = n → (f u c).length = n) (hu : u < k) (hw : w + m ≤ n) :
    window (mapUnits f n l) (u * n + w) m = window (f u (window l (u * n) n)) w m := by
  have hlen : u < (chunks n l).length := by rwa [length_chunks_of_dvd hn hl]
  have hget : (chunks n l)[u] = window l (u * n) n := by
    have h := getElem?_chunks_of_lt hlen
    rw [List.getElem?_eq_getElem hlen] at h
    exact Option.some.inj h
  rw [mapUnits, window_flatten (length_of_mem_mapUnits hn hl hf) (by simpa using hlen) hw]
  simp [hget]

/-- A buffer of one unit is transformed as unit 0. -/
theorem mapUnits_of_length (hn : 0 < n) (hl : l.length = n) : mapUnits f n l = f 0 l := by
  have hchunks : chunks n [l].flatten = [l] := chunks_flatten hn (by simp [hl])
  rw [List.flatten_singleton] at hchunks
  simp [mapUnits, hchunks]

/-- **Undoing a transformation unit by unit.** -/
theorem mapUnits_mapUnits {g : ℕ → List β → List α} (hn : 0 < n) (hl : l.length = k * n)
    (hf : ∀ u c, c.length = n → (f u c).length = n)
    (hg : ∀ u < k, ∀ c, c.length = n → g u (f u c) = c) :
    mapUnits g n (mapUnits f n l) = l := by
  have hchunks : chunks n (mapUnits f n l) = (chunks n l).zipIdx.map fun p => f p.2 p.1 :=
    chunks_flatten hn (length_of_mem_mapUnits hn hl hf)
  have hunits : ((chunks n (mapUnits f n l)).zipIdx.map fun p => g p.2 p.1) = chunks n l := by
    refine List.ext_getElem (by simp [hchunks]) fun i h₁ h₂ => ?_
    have hi : i < k := by rwa [length_chunks_of_dvd hn hl] at h₂
    simpa [hchunks] using
      hg i hi _ (length_of_mem_chunks hn hl (List.getElem_mem h₂))
  rw [mapUnits, hunits, flatten_chunks hn]

/-- **A buffer is transformed part by part**, where the first one is a number of whole units. -/
theorem mapUnits_append {c : List α} {a : ℕ} (hn : 0 < n) (hc : c.length = a * n)
    (hl : l.length = k * n) :
    mapUnits f n (c ++ l) = mapUnits f n c ++ mapUnits (fun u => f (a + u)) n l := by
  have hchunks : chunks n (c ++ l) = chunks n c ++ chunks n l := by
    have hunits : ∀ u ∈ chunks n c ++ chunks n l, u.length = n := by
      intro u hu
      rcases List.mem_append.mp hu with hu | hu
      · exact length_of_mem_chunks hn hc hu
      · exact length_of_mem_chunks hn hl hu
    have hcut := chunks_flatten hn hunits
    rwa [List.flatten_append, flatten_chunks hn, flatten_chunks hn] at hcut
  rw [mapUnits, hchunks, List.zipIdx_append, length_chunks_of_dvd hn hc, Nat.zero_add,
    List.map_append, List.flatten_append, List.zipIdx_eq_map_add (i := a), List.map_map]
  rfl

end MapUnits

end Basis
