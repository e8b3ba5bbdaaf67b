import Mathlib.Data.List.Induction
import MediaMux.Feedback.RoundTrip

/-!
# Smoothing without bounds

`Smoothing` is the recurrence of the round-trip estimates over numbers of any size. Neither value
leaves the range of the samples (`Smoothing.next_le`, `Smoothing.le_next`), so that 32 bits hold
every result and 64 bits all that is in between: estimates on words follow the recurrence step by
step (`RoundTripEstimate.Follows.observe`), and the count of samples, which stops at its largest
number, never makes a later sample the first one (`RoundTripEstimate.count_observe_ne_zero`).
-/

namespace MediaMux.Feedback

/-- A smoothed value and the mean variation around it. -/
structure Smoothing where
  smoothed : Nat
  variation : Nat
deriving DecidableEq

namespace Smoothing

/-- The start from a first value. -/
def first (x : Nat) : Smoothing := ⟨x, x / 2⟩

/-- One value later: the variation moves by a quarter, then the smoothed value by an eighth. -/
def next (s : Smoothing) (x : Nat) : Smoothing where
  smoothed := (7 * s.smoothed + x) / 8
  variation := (3 * s.variation + ((s.smoothed : Int) - x).natAbs) / 4

/-- What a list of values leads to, if there is any. -/
def ofValues? : List Nat → Option Smoothing
  | [] => none
  | x :: rest => some (rest.foldl next (first x))

theorem ofValues?_concat (values : List Nat) (x : Nat) :
    ofValues? (values ++ [x]) = some (((ofValues? values).map (·.next x)).getD (first x)) := by
  cases values with
  | nil => rfl
  | cons y rest => simp [ofValues?]

theorem ofValues?_eq_none {values : List Nat} : ofValues? values = none ↔ values = [] := by
  cases values <;> simp [ofValues?]

variable {s : Smoothing} {x least greatest : Nat}

theorem le_next (hs : least ≤ s.smoothed) (hx : least ≤ x) : least ≤ (s.next x).smoothed := by
  simp only [next]
  omega

theorem next_le (hs : s.smoothed ≤ greatest) (hx : x ≤ greatest) :
    (s.next x).smoothed ≤ greatest := by
  simp only [next]
  omega

/-- The smoothed value lies between any bounds of the values. -/
theorem bounds_of_ofValues? {values : List Nat} (h : ofValues? values = some s)
    (hvalues : ∀ x ∈ values, least ≤ x ∧ x ≤ greatest) :
    least ≤ s.smoothed ∧ s.smoothed ≤ greatest := by
  induction values using List.reverseRecOn generalizing s with
  | nil => cases h
  | append_singleton values x ih =>
    obtain ⟨hleast, hgreatest⟩ :=
      hvalues x (List.mem_append_right _ (List.mem_singleton_self x))
    rw [ofValues?_concat] at h
    cases hbefore : ofValues? values with
    | none =>
      rw [hbefore] at h
      cases h
      exact ⟨hleast, hgreatest⟩
    | some t =>
      rw [hbefore] at h
      cases h
      obtain ⟨hle, hge⟩ := ih hbefore fun y hy => hvalues y (List.mem_append_left _ hy)
      exact ⟨le_next hle hleast, next_le hge hgreatest⟩

end Smoothing

namespace RoundTripEstimate

/-- The whole microseconds of a sample in nanoseconds, at most as many as 32 bits hold. -/
def clampedMicros (sample : Nat) : Nat := min (sample / 1000) 4294967295

/-- The estimate from a list of samples. -/
def ofSamples (samples : List Nat) : RoundTripEstimate := samples.foldl observe {}

theorem ofSamples_concat (samples : List Nat) (sample : Nat) :
    ofSamples (samples ++ [sample]) = (ofSamples samples).observe sample := by
  simp [ofSamples]

/-! ### Words -/

theorem toNat_micros (sample : Nat) : (micros sample).toNat = clampedMicros sample :=
  UInt32.toNat_ofNat_of_lt' (Nat.lt_of_le_of_lt (Nat.min_le_right _ _) (by decide))

theorem toNat_absDiff (a b : UInt32) :
    (absDiff a b).toNat = ((a.toNat : Int) - b.toNat).natAbs := by
  unfold absDiff
  split
  · next hlt =>
    have hle : a.toNat < b.toNat := UInt32.lt_iff_toNat_lt.mp hlt
    rw [UInt32.toNat_sub_of_le _ _ (UInt32.le_iff_toNat_le.mpr (Nat.le_of_lt hle))]
    omega
  · next hge =>
    have hle : b.toNat ≤ a.toNat := UInt32.le_iff_toNat_le.mp (UInt32.not_lt.mp hge)
    rw [UInt32.toNat_sub_of_le _ _ (UInt32.le_iff_toNat_le.mpr hle)]
    omega

/-- The count of samples does not wrap around. -/
theorem count_observe_ne_zero (e : RoundTripEstimate) (sample : Nat) :
    (e.observe sample).count ≠ 0 := by
  unfold observe
  by_cases hnone : e.count = 0
  · simp [hnone]
  · by_cases hmax : e.count = 0xffffffff
    · simp [hmax]
    · simp only [hnone, if_false, hmax]
      intro hwrap
      have hlt := e.count.toNat_lt
      have hne : e.count.toNat ≠ 0xffffffff := fun h => hmax (UInt32.toNat_inj.mp h)
      have hzero := congrArg UInt32.toNat hwrap
      simp only [UInt32.toNat_add, UInt32.reduceToNat] at hzero
      omega

/-- The estimate has seen a sample, and its words are what the recurrence has come to. -/
structure Follows (e : RoundTripEstimate) (s : Smoothing) : Prop where
  started : e.count ≠ 0
  smoothed : e.smoothed.toNat = s.smoothed
  variation : e.variation.toNat = s.variation

theorem follows_first (sample : Nat) :
    Follows (observe {} sample) (.first (clampedMicros sample)) where
  started := count_observe_ne_zero _ _
  smoothed := toNat_micros sample
  variation := by
    show (micros sample / 2).toNat = clampedMicros sample / 2
    rw [UInt32.toNat_div, toNat_micros]
    rfl

variable {e : RoundTripEstimate} {s : Smoothing}

/-- No word overflows: both quotients are means of words, and what is divided has 35 bits. -/
theorem Follows.observe (h : Follows e s) (sample : Nat) :
    Follows (e.observe sample) (s.next (clampedMicros sample)) := by
  have hsmoothed := e.smoothed.toNat_lt
  have hvariation := e.variation.toNat_lt
  have hsample := (micros sample).toNat_lt
  have hdiff := (absDiff e.smoothed (micros sample)).toNat_lt
  refine ⟨count_observe_ne_zero _ _, ?_, ?_⟩
  · simp only [RoundTripEstimate.observe, h.started, if_false, Smoothing.next]
    rw [← h.smoothed, ← toNat_micros]
    simp only [UInt64.toNat_toUInt32, UInt64.toNat_div, UInt64.toNat_add, UInt64.toNat_mul,
      UInt32.toNat_toUInt64, UInt64.reduceToNat]
    omega
  · simp only [RoundTripEstimate.observe, h.started, if_false, Smoothing.next]
    rw [← h.smoothed, ← h.variation, ← toNat_micros, ← toNat_absDiff]
    simp only [UInt64.toNat_toUInt32, UInt64.toNat_div, UInt64.toNat_add, UInt64.toNat_mul,
      UInt32.toNat_toUInt64, UInt64.reduceToNat]
    omega

/-! ### All samples -/

theorem follows_ofSamples {samples : List Nat}
    (h : Smoothing.ofValues? (samples.map clampedMicros) = some s) :
    Follows (ofSamples samples) s := by
  induction samples using List.reverseRecOn generalizing s with
  | nil => cases h
  | append_singleton samples sample ih =>
    rw [List.map_append, List.map_singleton, Smoothing.ofValues?_concat] at h
    rw [ofSamples_concat]
    cases hbefore : Smoothing.ofValues? (samples.map clampedMicros) with
    | none =>
      obtain rfl : samples = [] := by simpa [Smoothing.ofValues?_eq_none] using hbefore
      cases h
      exact follows_first sample
    | some t =>
      rw [hbefore] at h
      cases h
      exact (ih hbefore).observe sample

theorem Follows.smoothedTime? (h : Follows e s) : e.smoothedTime? = some (s.smoothed * 1000) := by
  rw [RoundTripEstimate.smoothedTime?, if_neg h.started, h.smoothed]

theorem smoothedTime?_ofSamples (samples : List Nat) :
    (ofSamples samples).smoothedTime? =
      (Smoothing.ofValues? (samples.map clampedMicros)).map (·.smoothed * 1000) := by
  cases hs : Smoothing.ofValues? (samples.map clampedMicros) with
  | none =>
    obtain rfl : samples = [] := by simpa [Smoothing.ofValues?_eq_none] using hs
    rfl
  | some s => exact (follows_ofSamples hs).smoothedTime?

theorem variationTime_ofSamples (samples : List Nat) :
    (ofSamples samples).variationTime =
      ((Smoothing.ofValues? (samples.map clampedMicros)).map (·.variation * 1000)).getD 0 := by
  cases hs : Smoothing.ofValues? (samples.map clampedMicros) with
  | none =>
    obtain rfl : samples = [] := by simpa [Smoothing.ofValues?_eq_none] using hs
    rfl
  | some s => exact congrArg (· * 1000) (follows_ofSamples hs).variation

/-- There is a smoothed time once there was a sample. -/
theorem smoothedTime?_ofSamples_eq_none {samples : List Nat} :
    (ofSamples samples).smoothedTime? = none ↔ samples = [] := by
  rw [smoothedTime?_ofSamples, Option.map_eq_none_iff, Smoothing.ofValues?_eq_none,
    List.map_eq_nil_iff]

/-- However many samples there are and however long, the estimates are those of the recurrence over
numbers of any size, on the samples in microseconds, as far as 32 bits hold them. There is a
smoothed time as soon as there is a sample, and it lies between the least and the greatest. -/
theorem estimates_unbounded (samples : List Nat) :
    (ofSamples samples).smoothedTime? =
      (Smoothing.ofValues? (samples.map clampedMicros)).map (·.smoothed * 1000) ∧
    (ofSamples samples).variationTime =
      ((Smoothing.ofValues? (samples.map clampedMicros)).map (·.variation * 1000)).getD 0 ∧
    ((ofSamples samples).smoothedTime? = none ↔ samples = []) ∧
    (samples ≠ [] → ∃ least time greatest,
      (samples.map clampedMicros).min? = some least ∧
      (ofSamples samples).smoothedTime? = some time ∧
      (samples.map clampedMicros).max? = some greatest ∧
      least * 1000 ≤ time ∧ time ≤ greatest * 1000) := by
  refine ⟨smoothedTime?_ofSamples samples, variationTime_ofSamples samples,
    smoothedTime?_ofSamples_eq_none, ?_⟩
  intro hsome
  have hvalues : samples.map clampedMicros ≠ [] := fun h => hsome (List.map_eq_nil_iff.mp h)
  obtain ⟨s, hs⟩ := Option.ne_none_iff_exists'.mp (mt Smoothing.ofValues?_eq_none.mp hvalues)
  obtain ⟨least, hleast⟩ := Option.ne_none_iff_exists'.mp (mt List.min?_eq_none_iff.mp hvalues)
  obtain ⟨greatest, hgreatest⟩ :=
    Option.ne_none_iff_exists'.mp (mt List.max?_eq_none_iff.mp hvalues)
  have hbounds : ∀ x ∈ samples.map clampedMicros, least ≤ x ∧ x ≤ greatest := fun x hx =>
    ⟨(List.min?_eq_some_iff.mp hleast).2 x hx, (List.max?_eq_some_iff.mp hgreatest).2 x hx⟩
  obtain ⟨hle, hge⟩ := Smoothing.bounds_of_ofValues? hs hbounds
  refine ⟨least, s.smoothed * 1000, greatest, hleast, ?_, hgreatest, ?_, ?_⟩
  · exact (follows_ofSamples hs).smoothedTime?
  · exact Nat.mul_le_mul_right 1000 hle
  · exact Nat.mul_le_mul_right 1000 hge

/-- Samples of 80 and 160 milliseconds, and one of more microseconds than 32 bits hold. -/
theorem estimates_of_huge_sample :
    (ofSamples [80000000, 160000000, 1000000000000000]).smoothedTime? = some 536949661000 ∧
      (ofSamples [80000000, 160000000, 1000000000000000]).variationTime = 1073756823000 ∧
      80000 * 1000 ≤ 536949661000 ∧ 536949661000 ≤ 4294967295 * 1000 := by
  obtain ⟨hsmoothed, hvariation, -, hbetween⟩ :=
    estimates_unbounded [80000000, 160000000, 1000000000000000]
  obtain ⟨least, time, greatest, hleast, htime, hgreatest, hle, hge⟩ := hbetween (by decide)
  obtain rfl : 80000 = least := Option.some.inj hleast
  obtain rfl : 4294967295 = greatest := Option.some.inj hgreatest
  obtain rfl : 536949661000 = time := Option.some.inj (hsmoothed.symm.trans htime)
  exact ⟨hsmoothed, hvariation, hle, hge⟩

end RoundTripEstimate

end MediaMux.Feedback
