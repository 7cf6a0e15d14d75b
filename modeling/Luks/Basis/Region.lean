import Luks.Basis.Window
import Mathlib.Data.List.Pairwise

/-!
# Laying out regions in a buffer

A `Basis.Region` is a piece of data with a place for it. Writing a list of regions
into a buffer (`Basis.writeAll`) puts each of them at its place, and if no two of
them overlap then each is found there afterwards (`Basis.window_writeAll`),
whatever the buffer held before and in whatever order they were written.

A record laid out as fields one after the other is the same in one piece:
`Basis.window_fields` finds a field after the ones before it.
-/

namespace Basis

variable {α : Type}

/-- A part of a buffer. -/
structure Extent where
  /-- Where it starts. -/
  offset : ℕ
  /-- How long it is. -/
  len : ℕ
  deriving DecidableEq

namespace Extent

/-- The end of an extent. -/
def stop (e : Extent) : ℕ := e.offset + e.len

/-- Two extents do not overlap. -/
def Apart (e f : Extent) : Prop := e.stop ≤ f.offset ∨ f.stop ≤ e.offset

instance : DecidableRel Apart := fun e f =>
  inferInstanceAs (Decidable (e.stop ≤ f.offset ∨ f.stop ≤ e.offset))

end Extent

/-- Data, and where it goes. -/
structure Region (α : Type) where
  /-- Where it goes. -/
  offset : ℕ
  /-- The data. -/
  data : List α

/-- The part of the buffer a region takes. -/
def Region.extent (r : Region α) : Extent := ⟨r.offset, r.data.length⟩

/-- `l` with each of the regions written into it. -/
def writeAll (l : List α) (rs : List (Region α)) : List α :=
  rs.foldl (fun l r => overwrite l r.offset r.data) l

variable {l : List α} {rs : List (Region α)}

theorem length_writeAll (h : ∀ r ∈ rs, r.extent.stop ≤ l.length) :
    (writeAll l rs).length = l.length := by
  induction rs generalizing l with
  | nil => rfl
  | cons r rs ih =>
    have hlen : (overwrite l r.offset r.data).length = l.length :=
      length_overwrite (h r (by simp))
    rw [writeAll, List.foldl_cons, ← writeAll, ih, hlen]
    intro s hs
    rw [hlen]
    exact h s (by simp [hs])

/-- What is apart from every region is not touched. -/
theorem window_writeAll_of_disjoint {o n : ℕ} (h : ∀ r ∈ rs, r.extent.stop ≤ l.length)
    (hd : ∀ r ∈ rs, Extent.Apart ⟨o, n⟩ r.extent) :
    window (writeAll l rs) o n = window l o n := by
  induction rs generalizing l with
  | nil => rfl
  | cons r rs ih =>
    have hfit : r.extent.stop ≤ l.length := h r (by simp)
    have hlen : (overwrite l r.offset r.data).length = l.length := length_overwrite hfit
    have hrest : ∀ s ∈ rs, s.extent.stop ≤ (overwrite l r.offset r.data).length := fun s hs => by
      rw [hlen]
      exact h s (by simp [hs])
    rw [writeAll, List.foldl_cons, ← writeAll, ih hrest fun s hs => hd s (by simp [hs])]
    exact window_overwrite_of_disjoint hfit (hd r (by simp))

/-- **Each region is found where it was written**, if no two overlap. -/
theorem window_writeAll (h : ∀ r ∈ rs, r.extent.stop ≤ l.length)
    (hd : rs.Pairwise fun r s => r.extent.Apart s.extent) {r : Region α} (hr : r ∈ rs) :
    window (writeAll l rs) r.offset r.data.length = r.data := by
  induction rs generalizing l with
  | nil => simp at hr
  | cons s rs ih =>
    obtain ⟨hs, hrs⟩ := List.pairwise_cons.mp hd
    have hfit : s.extent.stop ≤ l.length := h s (by simp)
    have hlen : (overwrite l s.offset s.data).length = l.length := length_overwrite hfit
    have hrest : ∀ t ∈ rs, t.extent.stop ≤ (overwrite l s.offset s.data).length := fun t ht => by
      rw [hlen]
      exact h t (by simp [ht])
    rw [writeAll, List.foldl_cons, ← writeAll]
    rcases List.mem_cons.mp hr with rfl | hr
    · rw [window_writeAll_of_disjoint hrest fun t ht => hs t ht]
      exact window_overwrite_self hfit
    · exact ih hrest hrs hr

/-- Regions that a buffer has room for, no two of which overlap. -/
structure LaidOut (l : List α) (rs : List (Region α)) : Prop where
  /-- There is room for each. -/
  fits : ∀ r ∈ rs, r.extent.stop ≤ l.length
  /-- No two overlap. -/
  apart : rs.Pairwise fun r s => r.extent.Apart s.extent

namespace LaidOut

/-- Whether regions can be laid out depends on their extents alone. -/
theorem of_extents {es : List Extent} (h : rs.map Region.extent = es)
    (hfits : ∀ e ∈ es, e.stop ≤ l.length) (hapart : es.Pairwise Extent.Apart) : LaidOut l rs := by
  subst h
  exact ⟨fun r hr => hfits _ (List.mem_map_of_mem hr), List.pairwise_map.mp hapart⟩

theorem length_writeAll (h : LaidOut l rs) : (writeAll l rs).length = l.length :=
  Basis.length_writeAll h.fits

/-- Each region is found where it was written. -/
theorem window_writeAll (h : LaidOut l rs) {off n : ℕ} {data : List α}
    (hr : ⟨off, data⟩ ∈ rs) (hn : data.length = n) : window (writeAll l rs) off n = data :=
  hn ▸ Basis.window_writeAll h.fits h.apart hr

end LaidOut

/-! ### Records -/

/-- **A field of a record** is found after the fields before it. -/
theorem window_fields {fs : List (List α)} {i off n : ℕ} {field : List α}
    (hi : fs[i]? = some field) (hoff : ((fs.map List.length).take i).sum = off)
    (hn : field.length = n) : window fs.flatten off n = field := by
  obtain ⟨hlt, rfl⟩ := List.getElem?_eq_some_iff.mp hi
  have hsplit : fs = fs.take i ++ fs[i] :: fs.drop (i + 1) := by
    rw [← List.drop_eq_getElem_cons hlt, List.take_append_drop]
  have hpre : (fs.take i).flatten.length = off := by
    rw [List.length_flatten, List.map_take, hoff]
  have hflat : fs.flatten = (fs.take i).flatten ++ (fs[i] ++ (fs.drop (i + 1)).flatten) := by
    rw [← List.flatten_cons, ← List.flatten_append, ← hsplit]
  rw [hflat, window_append_right (by omega), hpre, Nat.sub_self, window_append_left (by omega),
    window_of_length hn]

end Basis
