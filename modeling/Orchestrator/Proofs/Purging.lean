import Orchestrator.Proofs.Dict
import Orchestrator.Proofs.Time
import Orchestrator.Settings
import Orchestrator.Store.Action
import Orchestrator.Store.Pack

/-!
Removing what is too old. The service is told a number of seconds, and looks back for that long from a
reading of the clock. A number that no duration can hold stands for a hundred years; up to there, what
is not older than the number says is kept, and a larger number keeps no less.

Whether there is a moment so long ago is another matter: between the beginning of the calendar and the
longest duration there are numbers for which nothing is said here.
-/

namespace Orchestrator

namespace Settings

/-- The number of seconds does not lead beyond the beginning of the calendar, or no duration can hold
it. -/
def InReach (now : Timestamp) (n : Nat) : Prop :=
  n ≤ now.seconds - Timestamp.firstDay * secondsPerDay ∨ longestDuration < n

theorem duration_of_le {n : Nat} (h : n ≤ longestDuration) : duration n = n := if_pos h

theorem duration_of_lt {n : Nat} (h : longestDuration < n) : duration n = 100 * 365 * 86400 :=
  if_neg (Nat.not_le.2 h)

/-- A larger number means a longer duration, except across the longest one: beyond it is no more than
a hundred years. -/
theorem duration_mono {m n : Nat} (hle : m ≤ n)
    (hcross : n ≤ longestDuration ∨ longestDuration < m ∨ m ≤ 100 * 365 * 86400) :
    duration m ≤ duration n := by
  by_cases hn : n ≤ longestDuration
  · rw [duration_of_le hn, duration_of_le (Nat.le_trans hle hn)]
    exact hle
  · rw [duration_of_lt (Nat.not_le.1 hn)]
    by_cases hm : m ≤ longestDuration
    · rw [duration_of_le hm]
      omega
    · exact Nat.le_of_eq (duration_of_lt (Nat.not_le.1 hm))

theorem InReach.duration_le {now : Timestamp} (hnow : now.IsReading) {n : Nat} (h : InReach now n) :
    Timestamp.firstDay * secondsPerDay ≤ now.seconds - duration n := by
  by_cases hn : n ≤ longestDuration
  · rw [duration_of_le hn]
    have hreach : n ≤ now.seconds - Timestamp.firstDay * secondsPerDay :=
      h.resolve_right (Nat.not_lt.2 hn)
    omega
  · rw [duration_of_lt (Nat.not_le.1 hn)]
    have hlong : Timestamp.firstDay * secondsPerDay ≤ -(100 * 365 * 86400 : Nat) := by decide
    have hsince := hnow.seconds_bounds.1
    omega

/-- What a purge makes of the number of seconds that is set. An entry is as old as its time, and times
are readings of the clock. -/
structure Purges {α : Type} (time : α → Timestamp) (now : Timestamp) (entries : Dict α)
    (purge : Nat → Option (Dict α)) : Prop where
  ends : ∀ n, InReach now n → ∃ kept, purge n = some kept
  /-- Nothing is removed that is not older than the number says, -/
  spares : ∀ n kept, n ≤ longestDuration → purge n = some kept → ∀ id x,
    entries.get? id = some x → (time x).nanos < nanosPerSecond →
    now.nanosSince (time x) ≤ n * nanosPerSecond → kept.get? id = some x
  /-- or than a hundred years, if no duration can hold the number. -/
  sparesCentury : ∀ n kept, longestDuration < n → purge n = some kept → ∀ id x,
    entries.get? id = some x → (time x).nanos < nanosPerSecond →
    now.nanosSince (time x) ≤ (100 * 365 * 86400 : Nat) * nanosPerSecond → kept.get? id = some x
  /-- What is kept is as it was, and is not older than that. -/
  removes : ∀ n kept, purge n = some kept → ∀ id x, kept.get? id = some x →
    entries.get? id = some x ∧ ((time x).nanos < nanosPerSecond →
      now.nanosSince (time x) ≤ duration n * nanosPerSecond)
  grows : ∀ m n keptOfFew keptOfMany, m ≤ n →
    (n ≤ longestDuration ∨ longestDuration < m ∨ m ≤ 100 * 365 * 86400) →
    purge m = some keptOfFew → purge n = some keptOfMany → ∀ id x,
    keptOfFew.get? id = some x → keptOfMany.get? id = some x

/-- The entries whose time is not before a limit, which lies the duration of a number back. -/
def keepSince {α : Type} (time : α → Timestamp) (now : Timestamp) (entries : Dict α) (n : Nat) :
    Option (Dict α) :=
  (now.addSeconds? (-(duration n))).map fun limit => entries.filter fun _ x => limit ≤ time x

section

variable {α : Type} {time : α → Timestamp} {now : Timestamp} {entries kept : Dict α} {n : Nat}

theorem keepSince_eq_some (hnow : now.IsReading) :
    keepSince time now entries n = some kept ↔
      Timestamp.firstDay * secondsPerDay ≤ now.seconds - duration n ∧
        kept = entries.filter fun _ x => now.back (duration n) ≤ time x := by
  unfold keepSince
  rw [hnow.addSeconds?_neg]
  split
  · next h => simp only [Option.map_some, Option.some.injEq, h, true_and, eq_comm]
  · next h => simp only [Option.map_none, reduceCtorEq, h, false_and]

theorem get?_keepSince (hnow : now.IsReading) (hkept : keepSince time now entries n = some kept)
    {id : String} {x : α} :
    kept.get? id = some x ↔ entries.get? id = some x ∧ now.back (duration n) ≤ time x := by
  obtain ⟨-, rfl⟩ := (keepSince_eq_some hnow).1 hkept
  rw [Dict.get?_filter, Option.filter_eq_some_iff, decide_eq_true_iff]

theorem purges_keepSince (hnow : now.IsReading) :
    Purges time now entries (keepSince time now entries) where
  ends := by
    intro n hreach
    exact ⟨_, (keepSince_eq_some hnow).2 ⟨hreach.duration_le hnow, rfl⟩⟩
  spares := by
    intro n kept hn hkept id x hx hregular hage
    apply (get?_keepSince hnow hkept).2
    refine ⟨hx, (Timestamp.back_le_iff hnow.regular hregular _).2 ?_⟩
    rwa [duration_of_le hn]
  sparesCentury := by
    intro n kept hn hkept id x hx hregular hage
    apply (get?_keepSince hnow hkept).2
    refine ⟨hx, (Timestamp.back_le_iff hnow.regular hregular _).2 ?_⟩
    rwa [duration_of_lt hn]
  removes := by
    intro n kept hkept id x hx
    obtain ⟨hentry, hsince⟩ := (get?_keepSince hnow hkept).1 hx
    exact ⟨hentry, fun hregular => (Timestamp.back_le_iff hnow.regular hregular _).1 hsince⟩
  grows := by
    intro m n keptOfFew keptOfMany hle hcross hfew hmany id x hx
    obtain ⟨hentry, hsince⟩ := (get?_keepSince hnow hfew).1 hx
    have hlonger : duration m ≤ duration n := duration_mono hle hcross
    have hearlier : now.back (duration n) ≤ now.back (duration m) :=
      Timestamp.back_antitone now hlonger
    exact (get?_keepSince hnow hmany).2 ⟨hentry, Timestamp.le_trans hearlier hsince⟩

end

theorem expire?_eq_keepSince (s : Settings) (now : Timestamp) (actions : ActionStore) (n : Nat) :
    (actions.expire? now { s with actionTtl := n }.actionAge).map Prod.snd =
      keepSince (fun a : Action => a.state.time) now actions n := by
  simp only [ActionStore.expire?, actionAge, keepSince]
  cases now.addSeconds? (-(duration n)) <;> rfl

theorem sweepDead?_eq_keepSince (s : Settings) (now : Timestamp) (packs : PackStore) (n : Nat) :
    (packs.sweepDead? now { s with packGrace := n }.packAge).map Prod.snd =
      keepSince (fun p : Pack => p.lastSeen) now packs n := by
  simp only [PackStore.sweepDead?, packAge, keepSince, Option.map_map]
  cases now.addSeconds? (-(duration n)) with
  | none => rfl
  | some limit =>
      have hlimit (p : Pack) : (!decide (p.lastSeen < limit)) = decide (limit ≤ p.lastSeen) :=
        (decide_not (p := p.lastSeen < limit)).symm
      simp [PackStore.removeSeenBefore, hlimit]

/-- The removal of old actions and that of dead packs respect the number of seconds that is set for
them, whatever else is set, at every reading of the clock and for every store. -/
theorem purges_respect_age (s : Settings) (now : Timestamp) (hnow : now.IsReading)
    (actions : ActionStore) (packs : PackStore) :
    Purges (fun a : Action => a.state.time) now actions
      (fun n => (actions.expire? now { s with actionTtl := n }.actionAge).map Prod.snd) ∧
    Purges (fun p : Pack => p.lastSeen) now packs
      (fun n => (packs.sweepDead? now { s with packGrace := n }.packAge).map Prod.snd) := by
  constructor
  · simp only [expire?_eq_keepSince]
    exact purges_keepSince hnow
  · simp only [sweepDead?_eq_keepSince]
    exact purges_keepSince hnow

/-! ## An old soup -/

def newYear1990 : Timestamp := ⟨631152000, 0⟩

def newYear2100 : Timestamp := ⟨4102444800, 0⟩

/-- A soup that nobody has taken since the beginning of 1990. -/
def oldSoup : Action :=
  .new "soup" "kitchen" ∅ .null ⟨"order", ⟨"hall", "hall", ∅⟩, .null, newYear1990, newYear1990⟩
    ⟨⟨1⟩, newYear1990⟩

def pantry : ActionStore := (∅ : ActionStore).insert oldSoup.id oldSoup

theorem newYear2100_isReading : newYear2100.IsReading :=
  ⟨by decide, by decide, by decide⟩

/-- The soup is younger than a hundred and fourteen years, and so it is kept by who keeps for so
long. -/
theorem old_soup_kept : ∃ kept,
    (pantry.expire? newYear2100 { default with actionTtl := 3600000000 }.actionAge).map Prod.snd =
      some kept ∧ kept.get? oldSoup.id = some oldSoup := by
  have hpurges := (purges_respect_age default newYear2100 newYear2100_isReading pantry ∅).1
  obtain ⟨kept, hkept⟩ := hpurges.ends 3600000000 (.inl (by decide))
  have hstored : pantry.get? oldSoup.id = some oldSoup := Dict.get?_insert_self _ _ _
  exact ⟨kept, hkept, hpurges.spares 3600000000 kept (by decide) hkept _ _ hstored (by decide)
    (by decide)⟩

/-- It is removed when the greatest number of 64 bits is set, which is larger and which no age comes
near; and there is no answer at all to nine million million seconds. -/
theorem old_soup_lost :
    newYear2100.nanosSince oldSoup.state.time ≤ (18446744073709551615 : Nat) * nanosPerSecond ∧
    (pantry.expire? newYear2100 { default with actionTtl := 18446744073709551615 }.actionAge).map
      (fun answer => answer.2.get? oldSoup.id) = some none ∧
    pantry.expire? newYear2100 { default with actionTtl := 9000000000000 }.actionAge = none ∧
    (∅ : PackStore).sweepDead? newYear2100 { default with packGrace := 9000000000000 }.packAge =
      none :=
  ⟨by decide +kernel, by decide +kernel, by decide +kernel, by decide +kernel⟩

end Settings

end Orchestrator
