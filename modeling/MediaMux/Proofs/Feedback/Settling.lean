import Mathlib.Order.Nat
import Mathlib.Tactic.NormNum
import Mathlib.Tactic.Ring
import MediaMux.Proofs.Feedback.Smoothing

/-!
# A steady path

Once all samples are the same, the smoothed value comes to rest: from above at the value itself,
from below up to seven short of it, for an eighth of seven is nothing. What is left of the way
(`Smoothing.excess`) shrinks by an eighth with every sample, and from then on what the variation
has above seven shrinks by a quarter (`Smoothing.excess_next`, `Smoothing.overshoot_next`). On 32
bits both are gone after a fixed number of samples, whatever came before
(`RoundTripEstimate.estimates_settle`).
-/

namespace MediaMux.Feedback

/-- What shrinks by the factor `p / q` at every step is gone after `steps` of them, if `q ^ steps`
outgrows it, and stays so. -/
theorem eq_zero_of_decay {f : Nat → Nat} {p q bound steps : Nat} (hq : 0 < q)
    (hdecay : ∀ n, q * f (n + 1) ≤ p * f n) (hstart : f 0 ≤ bound)
    (hsteps : p ^ steps * bound < q ^ steps) {n : Nat} (hn : steps ≤ n) : f n = 0 := by
  have hpower : ∀ n, q ^ n * f n ≤ p ^ n * f 0 := by
    intro n
    induction n with
    | zero => simp
    | succ n ih =>
      calc q ^ (n + 1) * f (n + 1) = q ^ n * (q * f (n + 1)) := by ring
        _ ≤ q ^ n * (p * f n) := Nat.mul_le_mul_left _ (hdecay n)
        _ = p * (q ^ n * f n) := by ring
        _ ≤ p * (p ^ n * f 0) := Nat.mul_le_mul_left _ ih
        _ = p ^ (n + 1) * f 0 := by ring
  induction n, hn using Nat.le_induction with
  | base =>
    have hlt : q ^ steps * f steps < q ^ steps * 1 :=
      calc q ^ steps * f steps ≤ p ^ steps * f 0 := hpower steps
        _ ≤ p ^ steps * bound := Nat.mul_le_mul_left _ hstart
        _ < q ^ steps * 1 := by rwa [Nat.mul_one]
    exact Nat.lt_one_iff.mp (Nat.lt_of_mul_lt_mul_left hlt)
  | succ n hn ih =>
    have hnext := hdecay n
    rw [ih, Nat.mul_zero, Nat.le_zero, Nat.mul_eq_zero] at hnext
    exact hnext.resolve_left (Nat.ne_of_gt hq)

namespace Smoothing

/-- The estimate after the value `x` has come `n` times more. -/
def hold (s : Smoothing) (x : Nat) : Nat → Smoothing
  | 0 => s
  | n + 1 => (s.hold x n).next x

/-- How far the smoothed value is from `x`. -/
def gap (s : Smoothing) (x : Nat) : Nat := ((s.smoothed : Int) - x).natAbs

/-- What is left of the way to `x`: from above all of it, from below what is more than seven. -/
def excess (s : Smoothing) (x : Nat) : Nat := (s.smoothed - x) + (x - s.smoothed - 7)

variable {s : Smoothing} {x bound n : Nat}

theorem hold_add (s : Smoothing) (x m n : Nat) : s.hold x (m + n) = (s.hold x m).hold x n := by
  induction n with
  | zero => rfl
  | succ n ih =>
    show (s.hold x (m + n)).next x = ((s.hold x m).hold x n).next x
    rw [ih]

/-! ### One value more -/

theorem gap_next_le (s : Smoothing) (x : Nat) : (s.next x).gap x ≤ s.gap x := by
  simp only [gap, next]
  omega

theorem excess_next (s : Smoothing) (x : Nat) : 8 * (s.next x).excess x ≤ 7 * s.excess x := by
  simp only [excess, next]
  omega

theorem excess_eq_zero : s.excess x = 0 ↔ s.smoothed ≤ x ∧ x ≤ s.smoothed + 7 := by
  simp only [excess]
  omega

theorem smoothed_next_of_excess (h : s.excess x = 0) : (s.next x).smoothed = s.smoothed := by
  rw [excess_eq_zero] at h
  simp only [next]
  omega

theorem overshoot_next (h : s.excess x = 0) :
    4 * ((s.next x).variation - 7) ≤ 3 * (s.variation - 7) := by
  rw [excess_eq_zero] at h
  simp only [next]
  omega

theorem variation_next_le (hvariation : s.variation ≤ bound) (hgap : s.gap x ≤ bound) :
    (s.next x).variation ≤ bound := by
  simp only [gap] at hgap
  simp only [next]
  omega

/-! ### Many values more -/

theorem gap_hold_le (s : Smoothing) (x n : Nat) : (s.hold x n).gap x ≤ s.gap x := by
  induction n with
  | zero => exact Nat.le_refl _
  | succ n ih => exact Nat.le_trans (gap_next_le _ x) ih

theorem variation_hold_le (hvariation : s.variation ≤ bound) (hgap : s.gap x ≤ bound) (n : Nat) :
    (s.hold x n).variation ≤ bound := by
  induction n with
  | zero => exact hvariation
  | succ n ih => exact variation_next_le ih (Nat.le_trans (gap_hold_le s x n) hgap)

theorem le_smoothed_hold (h : x ≤ s.smoothed) (n : Nat) : x ≤ (s.hold x n).smoothed := by
  induction n with
  | zero => exact h
  | succ n ih => exact le_next ih (Nat.le_refl x)

/-- Of a way below `2 ^ 32` nothing is left after 167 values. -/
theorem excess_hold (h : s.gap x < 4294967296) (hn : 167 ≤ n) : (s.hold x n).excess x = 0 := by
  have hstart : s.excess x ≤ 4294967295 := by
    simp only [excess, gap] at h ⊢
    omega
  exact eq_zero_of_decay (f := fun n => (s.hold x n).excess x) (by decide)
    (fun n => excess_next _ x) hstart (by norm_num) hn

theorem smoothed_hold_of_excess (h : s.excess x = 0) (n : Nat) :
    (s.hold x n).smoothed = s.smoothed ∧ (s.hold x n).excess x = 0 := by
  induction n with
  | zero => exact ⟨rfl, h⟩
  | succ n ih =>
    obtain ⟨hsmoothed, hexcess⟩ := ih
    have hsame := smoothed_next_of_excess hexcess
    have hnext : (s.hold x (n + 1)).smoothed = s.smoothed := hsame.trans hsmoothed
    refine ⟨hnext, ?_⟩
    rw [excess_eq_zero] at h ⊢
    rwa [hnext]

/-- Of a variation below `2 ^ 32` at most seven are left after 78 values at rest. -/
theorem variation_hold (h : s.excess x = 0) (hvariation : s.variation < 4294967296)
    (hn : 78 ≤ n) : (s.hold x n).variation ≤ 7 := by
  have hstart : s.variation - 7 ≤ 4294967295 := by omega
  have hnone : (s.hold x n).variation - 7 = 0 :=
    eq_zero_of_decay (f := fun n => (s.hold x n).variation - 7) (by decide)
      (fun n => overshoot_next (smoothed_hold_of_excess h n).2) hstart (by norm_num) hn
  exact Nat.sub_eq_zero_iff_le.mp hnone

/-- After 245 values the smoothed value has come to rest, and the variation is small. -/
theorem settled_hold (hgap : s.gap x < 4294967296) (hvariation : s.variation < 4294967296)
    (hn : 245 ≤ n) :
    (s.hold x n).smoothed = (s.hold x 167).smoothed ∧ (s.hold x n).variation ≤ 7 := by
  obtain ⟨m, rfl⟩ := Nat.exists_eq_add_of_le hn
  have hrest : (s.hold x 167).excess x = 0 := excess_hold hgap (Nat.le_refl _)
  have hbound : (s.hold x 167).variation ≤ 4294967295 :=
    variation_hold_le (Nat.le_of_lt_succ hvariation) (Nat.le_of_lt_succ hgap) 167
  have hsplit : 245 + m = 167 + (78 + m) := by omega
  rw [hsplit, hold_add]
  exact ⟨(smoothed_hold_of_excess hrest (78 + m)).1,
    variation_hold hrest (Nat.lt_succ_of_le hbound) (Nat.le_add_right 78 m)⟩

end Smoothing

namespace RoundTripEstimate

/-- The samples all count as `x` microseconds. -/
def Steady (x : UInt32) (samples : List Nat) : Prop := ∀ sample ∈ samples, micros sample = x

variable {e : RoundTripEstimate} {s : Smoothing} {x : UInt32} {sample : Nat} {history : List Nat}

theorem Follows.gap_lt (h : Follows e s) (x : UInt32) : s.gap x.toNat < 4294967296 := by
  have hsmoothed := e.smoothed.toNat_lt
  have hx := x.toNat_lt
  rw [h.smoothed] at hsmoothed
  simp only [Smoothing.gap]
  omega

theorem Follows.variation_lt (h : Follows e s) : s.variation < 4294967296 :=
  h.variation ▸ e.variation.toNat_lt

theorem Follows.hold (h : Follows e s) {steady : List Nat} (hsteady : Steady x steady) :
    Follows (steady.foldl RoundTripEstimate.observe e) (s.hold x.toNat steady.length) := by
  induction steady using List.reverseRecOn with
  | nil => exact h
  | append_singleton steady sample ih =>
    have hbefore := ih fun y hy => hsteady y (List.mem_append_left _ hy)
    have hsample := hsteady sample (List.mem_append_right _ (List.mem_singleton_self sample))
    have hmicros : clampedMicros sample = x.toNat := by rw [← toNat_micros, hsample]
    rw [List.foldl_append, List.length_append, List.length_singleton, Smoothing.hold, ← hmicros]
    rw [← hmicros] at hbefore
    exact hbefore.observe sample

/-- The smoothed time does not move away from a sample. The first sample sets it. -/
theorem absDiff_observe_le (e : RoundTripEstimate) (h : micros sample = x) :
    absDiff (e.observe sample).smoothed x ≤ absDiff e.smoothed x := by
  rw [UInt32.le_iff_toNat_le, toNat_absDiff, toNat_absDiff]
  by_cases hnone : e.count = 0
  · have hset : (e.observe sample).smoothed = x := by simp [observe, hnone, h]
    rw [hset, Int.sub_self]
    exact Nat.zero_le _
  · have hfollows : Follows e ⟨e.smoothed.toNat, e.variation.toNat⟩ := ⟨hnone, rfl, rfl⟩
    have hnext := (hfollows.observe sample).smoothed
    rw [← toNat_micros, h] at hnext
    rw [hnext]
    exact Smoothing.gap_next_le ⟨e.smoothed.toNat, e.variation.toNat⟩ x.toNat

/-- Where a steady path starts: at the estimate from the samples before it, or else at its own first
sample, which then sets both values. -/
theorem exists_start (history : List Nat) (x : UInt32) :
    ∃ (s : Smoothing) (skipped : Nat), skipped ≤ 1 ∧
      s.gap x.toNat < 4294967296 ∧ s.variation < 4294967296 ∧
      (history = [] ∨ x ≤ (ofSamples history).smoothed → x.toNat ≤ s.smoothed) ∧
      ∀ steady, Steady x steady → skipped ≤ steady.length →
        Follows (ofSamples (history ++ steady)) (s.hold x.toNat (steady.length - skipped)) := by
  cases hs : Smoothing.ofValues? (history.map clampedMicros) with
  | some s =>
    have hfollows := follows_ofSamples hs
    refine ⟨s, 0, Nat.zero_le _, hfollows.gap_lt x, hfollows.variation_lt, ?_, ?_⟩
    · rintro (rfl | hle)
      · cases hs
      · rw [← hfollows.smoothed]
        exact UInt32.le_iff_toNat_le.mp hle
    · intro steady hsteady _
      rw [ofSamples, List.foldl_append]
      exact hfollows.hold hsteady
  | none =>
    obtain rfl : history = [] := by simpa [Smoothing.ofValues?_eq_none] using hs
    have hx := x.toNat_lt
    refine ⟨.first x.toNat, 1, Nat.le_refl _, ?_, ?_, fun _ => Nat.le_refl _, ?_⟩
    · simp [Smoothing.gap, Smoothing.first]
    · simp only [Smoothing.first]
      omega
    · intro steady hsteady hlength
      cases steady with
      | nil => cases hlength
      | cons sample rest =>
        have hmicros : clampedMicros sample = x.toNat := by
          rw [← toNat_micros, hsteady sample List.mem_cons_self]
        have hfirst := follows_first sample
        rw [hmicros] at hfirst
        exact hfirst.hold fun y hy => hsteady y (List.mem_cons_of_mem _ hy)

/-- Whatever the samples before, as long as all samples count as `x` from then on, the smoothed time
never moves away from `x`. After 246 of them it stays the same, at `x` if it was not below before or
there was no sample, else at most seven microseconds below, and the variation is at most seven
microseconds. -/
theorem estimates_settle (history : List Nat) (x : UInt32) :
    (∀ steady sample, Steady x (steady ++ [sample]) →
      absDiff (ofSamples (history ++ steady ++ [sample])).smoothed x ≤
        absDiff (ofSamples (history ++ steady)).smoothed x) ∧
    ∃ settled, settled ≤ x.toNat ∧ x.toNat ≤ settled + 7 ∧
      (history = [] ∨ x ≤ (ofSamples history).smoothed → settled = x.toNat) ∧
      ∀ steady, Steady x steady → 246 ≤ steady.length →
        (ofSamples (history ++ steady)).smoothedTime? = some (settled * 1000) ∧
        (ofSamples (history ++ steady)).variationTime ≤ 7 * 1000 := by
  refine ⟨?_, ?_⟩
  · intro steady sample hsteady
    rw [ofSamples_concat]
    exact absDiff_observe_le _
      (hsteady sample (List.mem_append_right _ (List.mem_singleton_self sample)))
  · obtain ⟨s, skipped, hskipped, hgap, hvariation, habove, hfollows⟩ := exists_start history x
    have hrest := Smoothing.excess_hold hgap (Nat.le_refl 167)
    obtain ⟨hle, hge⟩ := Smoothing.excess_eq_zero.mp hrest
    refine ⟨(s.hold x.toNat 167).smoothed, hle, hge, ?_, ?_⟩
    · intro hstart
      exact Nat.le_antisymm hle (Smoothing.le_smoothed_hold (habove hstart) 167)
    · intro steady hsteady hlength
      have hestimate := hfollows steady hsteady (by omega)
      obtain ⟨hsmoothed, hsmall⟩ := Smoothing.settled_hold hgap hvariation
        (n := steady.length - skipped) (by omega)
      rw [hestimate.smoothedTime?, hsmoothed, variationTime, hestimate.variation]
      exact ⟨rfl, Nat.mul_le_mul_right 1000 hsmall⟩

/-- After a sample of 80 milliseconds, samples of seven microseconds bring the smoothed time down to
seven microseconds. -/
theorem estimates_settle_from_above :
    (ofSamples ([80000000] ++ List.replicate 246 7999)).smoothedTime? = some 7000 ∧
      (ofSamples ([80000000] ++ List.replicate 246 7999)).variationTime ≤ 7000 := by
  obtain ⟨-, settled, -, -, hexact, hsettled⟩ := estimates_settle [80000000] 7
  obtain rfl : settled = 7 := hexact (Or.inr (by decide))
  refine hsettled _ ?_ (Nat.le_of_eq List.length_replicate.symm)
  intro sample hsample
  rw [List.eq_of_mem_replicate hsample]
  rfl

/-- From below, seven microseconds are not made up for. -/
example : (ofSamples ([0] ++ List.replicate 8 7999)).smoothedTime? = some 0 := by decide

end RoundTripEstimate

end MediaMux.Feedback
