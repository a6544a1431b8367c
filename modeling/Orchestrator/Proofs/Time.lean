import Orchestrator.Time.Timestamp

/-!
Moments are linearly ordered, by their seconds and then by their nanoseconds. Outside of leap seconds
the order agrees with the time that lies between two moments.
-/

namespace Orchestrator.Timestamp

theorem lt_iff {a b : Timestamp} :
    a < b ↔ a.seconds < b.seconds ∨ (a.seconds = b.seconds ∧ a.nanos < b.nanos) := by
  change a.before b = true ↔ _
  simp [before]

theorem le_iff {a b : Timestamp} :
    a ≤ b ↔ a.seconds < b.seconds ∨ (a.seconds = b.seconds ∧ a.nanos ≤ b.nanos) := by
  change ¬ b < a ↔ _
  rw [lt_iff]
  omega

theorem le_refl (a : Timestamp) : a ≤ a := by
  simp [le_iff]

theorem le_trans {a b c : Timestamp} (hab : a ≤ b) (hbc : b ≤ c) : a ≤ c := by
  rw [le_iff] at *
  omega

theorem eq_iff {a b : Timestamp} : a = b ↔ a.seconds = b.seconds ∧ a.nanos = b.nanos := by
  cases a
  cases b
  simp

theorem order_eq_lt {a b : Timestamp} : a.order b = .lt ↔ a < b := by
  rw [lt_iff, order, Ordering.then_eq_lt, Int.compare_eq_lt, Int.compare_eq_eq, Nat.compare_eq_lt]

theorem order_eq_eq {a b : Timestamp} : a.order b = .eq ↔ a = b := by
  rw [eq_iff, order, Ordering.then_eq_eq, Int.compare_eq_eq, Nat.compare_eq_eq]

theorem isInRange_iff {t : Timestamp} :
    t.isInRange = true ↔
      firstDay * secondsPerDay ≤ t.seconds ∧ t.seconds < (lastDay + 1) * secondsPerDay := by
  unfold isInRange day secondsPerDay
  rw [Int.fdiv_eq_ediv_of_nonneg _ (by decide), Bool.and_eq_true, decide_eq_true_iff,
    decide_eq_true_iff]
  omega

/-! ## A number of seconds before a reading of the clock -/

/-- What a clock shows: a moment of the years 1970 to 9999, and never a leap second. -/
structure IsReading (t : Timestamp) : Prop where
  regular : t.nanos < nanosPerSecond
  first : Date.toDays ⟨1970, 1, 1⟩ ≤ t.day
  last : t.day ≤ Date.toDays ⟨9999, 12, 31⟩

/-- The moment a number of seconds earlier, whether or not the calendar has it. -/
def back (t : Timestamp) (n : Nat) : Timestamp := ⟨t.seconds - n, t.nanos⟩

theorem IsReading.seconds_bounds {t : Timestamp} (h : t.IsReading) :
    0 ≤ t.seconds ∧ t.seconds < (lastDay + 1) * secondsPerDay := by
  have hfirst : (0 : Int) ≤ Int.fdiv t.seconds 86400 := h.first
  have hlast : Int.fdiv t.seconds 86400 ≤ Date.toDays ⟨9999, 12, 31⟩ := h.last
  have hcalendar : Date.toDays ⟨9999, 12, 31⟩ ≤ lastDay := by decide
  rw [Int.fdiv_eq_ediv_of_nonneg _ (by decide)] at hfirst hlast
  unfold secondsPerDay
  omega

/-- From a reading of the clock, only the beginning of the calendar can be in the way. -/
theorem IsReading.addSeconds?_neg {t : Timestamp} (h : t.IsReading) (n : Nat) :
    t.addSeconds? (-n) =
      if firstDay * secondsPerDay ≤ t.seconds - n then some (t.back n) else none := by
  have hregular : ¬ nanosPerSecond ≤ t.nanos := Nat.not_le.2 h.regular
  have hmoved : t.addSeconds? (-n) = if (t.back n).isInRange then some (t.back n) else none := by
    simp only [addSeconds?, hregular, false_and, if_false]
    rfl
  have hlater : (t.back n).seconds < (lastDay + 1) * secondsPerDay := by
    have := h.seconds_bounds.2
    simp only [back]
    omega
  rw [hmoved]
  simp only [isInRange_iff, hlater, and_true]
  rfl

theorem nanosSince_of_regular {later earlier : Timestamp} (hlater : later.nanos < nanosPerSecond)
    (hearlier : earlier.nanos < nanosPerSecond) :
    later.nanosSince earlier =
      (later.seconds - earlier.seconds) * nanosPerSecond + (later.nanos - earlier.nanos) := by
  have h : ¬ nanosPerSecond ≤ later.nanos := Nat.not_le.2 hlater
  have h' : ¬ nanosPerSecond ≤ earlier.nanos := Nat.not_le.2 hearlier
  simp only [nanosSince, h, h', if_false, ite_self, Int.add_zero]

/-- What is not older than a number of seconds is what comes no earlier than that many seconds ago. -/
theorem back_le_iff {now t : Timestamp} (hnow : now.nanos < nanosPerSecond)
    (ht : t.nanos < nanosPerSecond) (n : Nat) :
    now.back n ≤ t ↔ now.nanosSince t ≤ n * nanosPerSecond := by
  rw [nanosSince_of_regular hnow ht, le_iff]
  simp only [back, nanosPerSecond] at *
  omega

theorem back_antitone (now : Timestamp) {m n : Nat} (h : m ≤ n) : now.back n ≤ now.back m := by
  rw [le_iff]
  simp only [back]
  omega

end Orchestrator.Timestamp
