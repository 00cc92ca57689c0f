import Mathlib.Algebra.Order.Group.Defs
import Mathlib.Algebra.Order.Sub.Defs
import Mathlib.Algebra.Order.Group.Unbundled.Basic
import Mathlib.Data.List.Basic
import Mathlib.Tactic.Common

/-!
# Sliding windows of time-stamped entries

A rate limiter keeps the entries of the last while, drops the older ones each
time a new one arrives, and counts what is left.  It never sees the whole
history, so its count is the right one only because an entry that it dropped
has left every later window too.

The entries are of any type with a stamp in an ordered group.
-/

namespace SurfaceCameras
namespace RateLimit

variable {β τ : Type*} [AddCommGroup τ] [LinearOrder τ] (stamp : β → τ)
  (window : τ)

/-- The entries less than a window before `now`. -/
def recent (now : τ) (entries : List β) : List β :=
  entries.filter fun r => now - stamp r < window

/-- For every later window, the entries kept are as good as all of them. -/
def Suffices (kept entries : List β) : Prop :=
  ∀ now, (∀ r ∈ entries, stamp r ≤ now) →
    recent stamp window now kept = recent stamp window now entries

variable {stamp window}

theorem recent_append (now : τ) (l l' : List β) :
    recent stamp window now (l ++ l') =
      recent stamp window now l ++ recent stamp window now l' :=
  List.filter_append l l'

/-- A new entry is in its own window. -/
theorem recent_self (hwindow : 0 < window) (x : β) :
    recent stamp window (stamp x) [x] = [x] := by
  simp [recent, hwindow]

theorem suffices_nil : Suffices stamp window [] [] := fun _ _ => rfl

/-- The count that a limiter sees is the one over the whole history. -/
theorem Suffices.admitted {kept entries : List β}
    (h : Suffices stamp window kept entries) (hwindow : 0 < window) {x : β}
    (hx : ∀ r ∈ entries, stamp r ≤ stamp x) :
    recent stamp window (stamp x) kept ++ [x] =
      recent stamp window (stamp x) (entries ++ [x]) := by
  rw [recent_append, recent_self hwindow, h (stamp x) hx]

section Ordered

variable [IsOrderedAddMonoid τ]

/-- What has left a window has left the later ones. -/
theorem recent_recent {t now : τ} (h : t ≤ now) (entries : List β) :
    recent stamp window now (recent stamp window t entries) =
      recent stamp window now entries := by
  rw [recent, recent, List.filter_filter]
  apply List.filter_congr
  intro r _
  have hlater : now - stamp r < window → t - stamp r < window :=
    fun hr => lt_of_le_of_lt (sub_le_sub_right h _) hr
  simpa using hlater

/-- Dropping what has left the window of a new entry, and adding the entry. -/
theorem Suffices.admit {kept entries : List β}
    (h : Suffices stamp window kept entries) {x : β}
    (hx : ∀ r ∈ entries, stamp r ≤ stamp x) :
    Suffices stamp window (recent stamp window (stamp x) kept ++ [x])
      (entries ++ [x]) := by
  intro now hnow
  have hlast : stamp x ≤ now := hnow x (by simp)
  have hall : ∀ r ∈ entries, stamp r ≤ now := fun r hr => (hx r hr).trans hlast
  rw [recent_append, recent_append, recent_recent hlast, h now hall]

/-! ## Counting -/

/-- In order of time, the entries of a window are the last ones: there are
more than `k` of them exactly if the `k`-th before the end is one. -/
theorem lt_length_recent_iff {now : τ} {k : ℕ} {entries : List β}
    (hsorted : entries.Pairwise (stamp · ≤ stamp ·)) :
    k < (recent stamp window now entries).length ↔
      ∃ r ∈ entries.reverse[k]?, now - stamp r < window := by
  induction entries with
  | nil => simp [recent]
  | cons x entries ih =>
      obtain ⟨hx, hrest⟩ := List.pairwise_cons.mp hsorted
      by_cases hin : now - stamp x < window
      · -- then everything after it is in the window too
        have hin' : ∀ r ∈ x :: entries, now - stamp r < window := by
          intro r hr
          rcases List.mem_cons.mp hr with rfl | hr
          · exact hin
          · exact lt_of_le_of_lt (sub_le_sub_left (hx r hr) now) hin
        have hall : recent stamp window now (x :: entries) = x :: entries :=
          List.filter_eq_self.mpr fun r hr => decide_eq_true (hin' r hr)
        rw [hall, ← List.length_reverse]
        constructor
        · intro hk
          refine ⟨_, List.getElem?_eq_getElem hk, hin' _ ?_⟩
          exact List.mem_reverse.mp (List.getElem_mem hk)
        · rintro ⟨r, hr, -⟩
          exact (List.getElem?_eq_some_iff.mp hr).1
      · have hskip : recent stamp window now (x :: entries) =
            recent stamp window now entries :=
          List.filter_cons_of_neg (by simpa using hin)
        rw [hskip, ih hrest, List.reverse_cons]
        constructor
        · rintro ⟨r, hr, hnow⟩
          have hk := (List.getElem?_eq_some_iff.mp hr).1
          refine ⟨r, ?_, hnow⟩
          rwa [List.getElem?_append_left hk]
        · rintro ⟨r, hr, hnow⟩
          by_cases hk : k < entries.reverse.length
          · rw [List.getElem?_append_left hk] at hr
            exact ⟨r, hr, hnow⟩
          · rw [List.getElem?_append_right (Nat.le_of_not_lt hk)] at hr
            have hr : r = x := List.mem_singleton.mp (List.mem_of_getElem? hr)
            rw [hr] at hnow
            exact absurd hnow hin

end Ordered

end RateLimit
end SurfaceCameras
