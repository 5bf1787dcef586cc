import LinkTrials.Proofs.Binary64.Arithmetic
import LinkTrials.Proofs.Binary64.Nearest
import LinkTrials.Settings.Basic

/-!
The numbers of settings as amounts.

A bound is exactly an amount, a finite number that is not below zero, and a share is one of those.
-/
namespace LinkTrials

open Binary64

theorem isAmount_of_isBound {x : Binary64} (h : x.isBound = true) : IsAmount x := by
  rw [isBound, Bool.and_eq_true, Bool.not_eq_true'] at h
  obtain ⟨finite, natural⟩ := h
  obtain ⟨a, ha⟩ := rank_of_ne_nan (ne_nan_of_isFinite finite)
  have zero := rank_ofNat_zero
  rw [ofNat_literal, lt_of_rank ha zero, decide_eq_false_iff_not] at natural
  have bound := natAbs_rank_lt ha finite
  refine ⟨a.natAbs, bound, a.natAbs, ?_, Nat.le_refl _⟩
  rw [ha, Int.natAbs_of_nonneg (by omega)]

theorem isBound_of_isAmount {x : Binary64} (h : IsAmount x) : x.isBound = true := by
  obtain ⟨u, hu, -⟩ := h.rank
  rw [isBound, h.isFinite, Bool.true_and, ofNat_literal, lt_of_rank hu rank_ofNat_zero]
  simp

theorem isBound_iff_isAmount {x : Binary64} : x.isBound = true ↔ IsAmount x :=
  ⟨isAmount_of_isBound, isBound_of_isAmount⟩

theorem isShare_iff_upTo {x : Binary64} : x.isShare = true ↔ UpTo oneUnits x := by
  have whole := rank_ofNat (n := 1) (by decide)
  rw [Nat.one_mul] at whole
  simp only [isShare, Bool.and_eq_true, le_iff, ofNat_literal, rank_ofNat_zero, whole]
  constructor
  · rintro ⟨⟨zero, a, hzero, ha, least⟩, b, one, hb, hone, most⟩
    cases hzero
    cases hone
    cases ha.symm.trans hb
    have natural : (a.toNat : Int) = a := Int.toNat_of_nonneg least
    rw [← natural] at ha most
    exact ⟨a.toNat, ha, Int.ofNat_le.1 most⟩
  · rintro ⟨a, ha, most⟩
    exact ⟨⟨0, a, rfl, ha, Int.natCast_nonneg a⟩, a, oneUnits, ha, rfl, Int.ofNat_le.2 most⟩

theorem isAmount_of_isShare {x : Binary64} (h : x.isShare = true) : IsAmount x :=
  (isShare_iff_upTo.1 h).isAmount oneUnits_lt_overflowUnits

end LinkTrials
