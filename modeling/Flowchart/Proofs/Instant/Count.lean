import Flowchart.Instant.Basic

/-!
# Instants as counts of nanoseconds

Leap seconds apart, an instant is the number of nanoseconds since the start of 1970. `earlier_iff`
and `later_nanos` read the order of instants off this count. `addSeconds?_eq_some` and
`addSeconds?_eq_none_iff` say that seconds are added to it unless the sum is greater than the
greatest instant, and `daysUntil_eq` that the days between two instants are the whole days between
their counts. The count between two instants is always a span of time (`isSpan_sub`).
-/

namespace Flowchart.Instant

/-- The number of nanoseconds of a day. -/
def dayNanos : Int := 86400000000000

/-- The number of nanoseconds of a minute. -/
def minuteNanos : Int := 60000000000

/-- The nanoseconds from the start of 1970 to an instant. -/
def nanos (t : Instant) : Int :=
  (t.day * daySeconds + t.second) * secondNanos + t.nano

/-- An instant between the first and the last day that is not in a leap second. -/
structure IsRegular (t : Instant) : Prop where
  second_lt : t.second < daySeconds
  nano_lt : t.nano < secondNanos
  firstDay_le : firstDay ≤ t.day
  le_lastDay : t.day ≤ lastDay

/-- Whether an instant is regular can be computed. -/
instance (t : Instant) : Decidable t.IsRegular :=
  decidable_of_iff (t.second < daySeconds ∧ t.nano < secondNanos ∧ firstDay ≤ t.day ∧
      t.day ≤ lastDay)
    ⟨fun ⟨hsecond, hnano, hfirst, hlast⟩ => ⟨hsecond, hnano, hfirst, hlast⟩,
      fun h => ⟨h.second_lt, h.nano_lt, h.firstDay_le, h.le_lastDay⟩⟩

variable {t u a b : Instant} {n : Int}

/-- The earlier instant has the smaller count. -/
theorem earlier_iff (ha : a.IsRegular) (hb : b.IsRegular) :
    a.earlier b = true ↔ a.nanos < b.nanos := by
  have hasecond := ha.second_lt
  have hanano := ha.nano_lt
  have hbsecond := hb.second_lt
  have hbnano := hb.nano_lt
  simp only [earlier, nanos, daySeconds, secondNanos, Bool.or_eq_true, Bool.and_eq_true,
    decide_eq_true_eq, beq_iff_eq] at *
  omega

/-- The later of two instants has the greater count. -/
theorem later_nanos (ha : a.IsRegular) (hb : b.IsRegular) :
    (a.later b).nanos = max a.nanos b.nanos := by
  unfold later
  split
  · next h =>
      rw [earlier_iff ha hb] at h
      omega
  · next h =>
      rw [earlier_iff ha hb] at h
      omega

/-- The later of two regular instants is regular. -/
theorem IsRegular.later (ha : a.IsRegular) (hb : b.IsRegular) : (a.later b).IsRegular := by
  unfold Instant.later
  split
  · exact hb
  · exact ha

/-- What an instant becomes by adding seconds, whether or not it is still in range. -/
def shifted (t : Instant) (n : Int) : Instant where
  day := t.day + (t.second + n) / daySeconds
  second := ((t.second + n) % daySeconds).toNat
  nano := t.nano

/-- Adding seconds adds to the count. -/
theorem shifted_nanos (t : Instant) (n : Int) :
    (t.shifted n).nanos = t.nanos + n * secondNanos := by
  simp only [shifted, nanos, daySeconds, secondNanos]
  omega

/-- Seconds are added to a regular instant if the sum is in range. -/
theorem addSeconds?_eq (ht : t.IsRegular) (n : Int) : t.addSeconds? n = inRange? (t.shifted n) := by
  have hleap : decide (secondNanos ≤ t.nano) = false := decide_eq_false (Nat.not_le.mpr ht.nano_lt)
  simp only [addSeconds?, hleap, Bool.false_and, Bool.false_eq_true, if_false, shifted]

/-- What has been added to a regular instant is regular and adds to the count. -/
theorem addSeconds?_eq_some (ht : t.IsRegular) (h : t.addSeconds? n = some u) :
    u.IsRegular ∧ u.nanos = t.nanos + n * secondNanos := by
  rw [addSeconds?_eq ht, inRange?] at h
  split at h
  · next hrange =>
      obtain rfl := Option.some.inj h
      simp only [Bool.and_eq_true, decide_eq_true_eq] at hrange
      refine ⟨⟨?_, ht.nano_lt, hrange.1, hrange.2⟩, t.shifted_nanos n⟩
      simp only [shifted, daySeconds]
      omega
  · cases h

/-- Seconds can be added to a regular instant up to any other one. -/
theorem exists_addSeconds? (ht : t.IsRegular) (hb : b.IsRegular) (hn : 0 ≤ n)
    (h : t.nanos + n * secondNanos ≤ b.nanos) : ∃ u, t.addSeconds? n = some u := by
  have hfirst := ht.firstDay_le
  have hlast := hb.le_lastDay
  have hbsecond := hb.second_lt
  have hbnano := hb.nano_lt
  have hrange : firstDay ≤ (t.shifted n).day ∧ (t.shifted n).day ≤ lastDay := by
    simp only [nanos, shifted, daySeconds, secondNanos] at *
    omega
  rw [addSeconds?_eq ht, inRange?, if_pos (by simpa using hrange)]
  exact ⟨_, rfl⟩

theorem isRegular_greatest : greatest.IsRegular := by decide

/-- No regular instant is later than the greatest one. -/
theorem IsRegular.nanos_le_greatest (ht : t.IsRegular) : t.nanos ≤ greatest.nanos := by
  have hlast := ht.le_lastDay
  have hsecond := ht.second_lt
  have hnano := ht.nano_lt
  simp only [nanos, greatest, daySeconds, secondNanos] at *
  omega

/-- Seconds cannot be added just if the sum is greater than the greatest instant. -/
theorem addSeconds?_eq_none_iff (ht : t.IsRegular) (hn : 0 ≤ n) :
    t.addSeconds? n = none ↔ greatest.nanos < t.nanos + n * secondNanos := by
  constructor
  · intro hnone
    refine Int.not_le.mp fun hle => ?_
    obtain ⟨u, hu⟩ := exists_addSeconds? ht isRegular_greatest hn hle
    rw [hnone] at hu
    cases hu
  · intro hlt
    cases hadd : t.addSeconds? n with
    | none => rfl
    | some u =>
        obtain ⟨hregular, hcount⟩ := addSeconds?_eq_some ht hadd
        exact absurd (hcount ▸ hregular.nanos_le_greatest) (Int.not_le.mpr hlt)

/-- Nanoseconds that are a span of time: the milliseconds of one are counted by a signed word. -/
def IsSpan (nanos : Int) : Prop :=
  nanos.natAbs ≤ 9223372036854775807 * 1000000

/-- The time between two instants is a span, even that between the least and the greatest. -/
theorem isSpan_sub (ha : a.IsRegular) (hb : b.IsRegular) : IsSpan (b.nanos - a.nanos) := by
  have hfirstDay : firstDay = -96465292 := by decide
  have hlastDay : lastDay = 95026236 := by decide
  have hafirst := ha.firstDay_le
  have halast := ha.le_lastDay
  have hbfirst := hb.firstDay_le
  have hblast := hb.le_lastDay
  have hasecond := ha.second_lt
  have hanano := ha.nano_lt
  have hbsecond := hb.second_lt
  have hbnano := hb.nano_lt
  simp only [IsSpan, nanos, daySeconds, secondNanos] at *
  omega

/-- The days from an instant to a later one are the whole days between their counts. -/
theorem daysUntil_eq (ha : a.IsRegular) (hb : b.IsRegular) (h : a.nanos ≤ b.nanos) :
    a.daysUntil b = (b.nanos - a.nanos) / dayNanos := by
  have hanano := ha.nano_lt
  have hbnano := hb.nano_lt
  have hseconds : a.secondsUntil b = (b.nanos - a.nanos) / secondNanos := by
    have hleapa : decide (secondNanos ≤ a.nano) = false := decide_eq_false (Nat.not_le.mpr hanano)
    have hleapb : decide (secondNanos ≤ b.nano) = false := decide_eq_false (Nat.not_le.mpr hbnano)
    simp only [secondsUntil, hleapa, hleapb, Bool.and_false, Bool.false_eq_true, if_false]
    simp only [nanos, daySeconds, secondNanos]
    omega
  have hpositive : 0 ≤ a.secondsUntil b := by
    rw [hseconds]
    simp only [secondNanos]
    omega
  rw [daysUntil, Int.tdiv_eq_ediv_of_nonneg hpositive, hseconds]
  simp only [dayNanos, daySeconds, secondNanos]
  omega

end Flowchart.Instant
