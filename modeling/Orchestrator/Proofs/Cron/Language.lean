import Orchestrator.Proofs.Cron.Grammar

/-!
Which texts are expressions of schedules, and what the schedule of an expression is. The values of a
field are those that its parts reach, and the schedule fires by them.
-/

namespace Orchestrator.Cron

/-! ## Expressions -/

/-- The macros, with the expressions that they stand for. -/
def macros : List (String × String) := [
  ("@yearly", "0 0 1 1 *"),
  ("@annually", "0 0 1 1 *"),
  ("@monthly", "0 0 1 * *"),
  ("@weekly", "0 0 * * 0"),
  ("@daily", "0 0 * * *"),
  ("@midnight", "0 0 * * *"),
  ("@hourly", "0 * * * *")]

/-- A text that is no macro stands for itself. -/
def StandsFor (s text : String) : Prop :=
  (s, text) ∈ macros ∨ (∀ t, (s, t) ∉ macros) ∧ text = s

/-- A day field is left open by a star at its beginning, or if it is a question mark. -/
def LeavesOpen (cs : List Char) : Prop := cs.head? = some '*' ∨ cs = ['?']

/-- The parts of the five fields, and which of the day fields are left open. -/
structure Expression where
  minute : List Part
  hour : List Part
  dayOfMonth : List Part
  month : List Part
  weekday : List Part
  openDay : Bool
  openWeekday : Bool

/-- A text is an expression: five fields with blanks between them, macros and blanks around the text
aside. -/
inductive IsExpression (s : String) (e : Expression) : Prop where
  | intro {text : String} {minute hour dayOfMonth month weekday : List Char}
      (htext : StandsFor (Text.trim s) text)
      (hspaced : Text.Spaced text.toList [minute, hour, dayOfMonth, month, weekday])
      (hminute : IsField .minute minute e.minute)
      (hhour : IsField .hour hour e.hour)
      (hday : IsField .dayOfMonth dayOfMonth e.dayOfMonth)
      (hmonth : IsField .month month e.month)
      (hweekday : IsField .weekday weekday e.weekday)
      (hopenDay : e.openDay = true ↔ LeavesOpen dayOfMonth)
      (hopenWeekday : e.openWeekday = true ↔ LeavesOpen weekday)

theorem isOpen_iff {cs : List Char} : isOpen cs = true ↔ LeavesOpen cs := by
  simp [isOpen, LeavesOpen]

theorem expand_eq_ok {s text : String} :
    expand s = .ok text ↔
      (s, text) ∈ macros ∨ (∀ t, (s, t) ∉ macros) ∧ s.toList.head? ≠ some '@' ∧ text = s := by
  unfold expand
  split
  case h_8 hyearly hannually hmonthly hweekly hdaily hmidnight hhourly =>
    have hnone : ∀ t, (s, t) ∉ macros := by
      intro t hmem
      simp only [macros, List.mem_cons, Prod.mk.injEq, List.not_mem_nil, or_false] at hmem
      rcases hmem with h | h | h | h | h | h | h
      · exact hyearly h.1
      · exact hannually h.1
      · exact hmonthly h.1
      · exact hweekly h.1
      · exact hdaily h.1
      · exact hmidnight h.1
      · exact hhourly h.1
    by_cases hat : s.toList.head? = some '@'
    · simp [hat, hnone]
    · simp [hat, hnone, eq_comm]
  all_goals simp [macros, eq_comm]

/-- No field begins with the sign of macros. -/
theorem IsField.head?_ne {f : Field} (hf : f.Plain) {cs : List Char} {ps : List Part}
    (h : IsField f cs ps) : cs.head? ≠ some '@' := by
  obtain ⟨words, -, rfl, hwords⟩ := h
  have hfree : ∀ w ∈ words, '@' ∉ w :=
    not_mem_of_parts hf hwords (by decide) (by decide) (by decide)
  intro hhead
  exact Text.not_mem_intercalate (by decide) hfree (List.mem_of_mem_head? hhead)

/-- What an expression stands for is what the reader expands it to: a text that looks like a macro
but is none has no first field. -/
theorem expand_of_isField {s text : String} (htext : StandsFor s text) {minute : List Char}
    {words : List (List Char)} {ps : List Part} (hspaced : Text.Spaced text.toList (minute :: words))
    (hminute : IsField .minute minute ps) : expand s = .ok text := by
  rw [expand_eq_ok]
  rcases htext with hmacro | ⟨hnone, rfl⟩
  · exact .inl hmacro
  · refine .inr ⟨hnone, fun hat => ?_, rfl⟩
    have hbegins : ∀ c ∈ text.toList.head?, Text.isBlank c = false := by
      intro c hc
      obtain rfl := Option.some.inj (hat.symm.trans hc)
      decide
    refine hminute.head?_ne (Field.plain_of_mem (by simp [Field.all])) ?_
    rw [hspaced.head?_eq hbegins, hat]

theorem standsFor_of_expand {s text : String} (h : expand s = .ok text) : StandsFor s text := by
  rcases expand_eq_ok.1 h with hmacro | ⟨hnone, -, htext⟩
  · exact .inl hmacro
  · exact .inr ⟨hnone, htext⟩

/-! ## Values -/

/-- A part reaches its first value, and from there goes on by its step up to its last value. -/
def Part.Reaches (p : Part) (v : Nat) : Prop := ∃ k, v = p.first + k * p.step ∧ v ≤ p.last

/-- Some part of a field reaches a value. -/
def Reached (ps : List Part) (v : Nat) : Prop := ∃ p ∈ ps, p.Reaches v

theorem Part.contains_iff {p : Part} {v : Nat} : p.contains v = true ↔ p.Reaches v := by
  simp only [Part.contains, Bool.and_eq_true, decide_eq_true_eq, beq_iff_eq]
  constructor
  · rintro ⟨⟨hfirst, hlast⟩, hstep⟩
    have hdiv : (v - p.first) / p.step * p.step = v - p.first :=
      Nat.div_mul_cancel (Nat.dvd_of_mod_eq_zero hstep)
    exact ⟨(v - p.first) / p.step, by omega, hlast⟩
  · rintro ⟨k, rfl, hlast⟩
    refine ⟨⟨Nat.le_add_right _ _, hlast⟩, ?_⟩
    rw [Nat.add_sub_cancel_left, Nat.mul_mod_left]

theorem IsPart.bounds {f : Field} {cs : List Char} {p : Part} (h : IsPart f cs p) :
    f.low ≤ p.first ∧ p.first ≤ p.last ∧ p.last ≤ f.high := by
  cases h with
  | plain _ hlow hle hhigh => exact ⟨hlow, hle, hhigh⟩
  | stepped _ _ _ hlow hle hhigh => exact ⟨hlow, hle, hhigh⟩

theorem IsField.isPart {f : Field} {cs : List Char} {ps : List Part} (h : IsField f cs ps) :
    ps ≠ [] ∧ ∀ p ∈ ps, ∃ w, IsPart f w p := by
  obtain ⟨words, hne, -, hwords⟩ := h
  constructor
  · rintro rfl
    cases hwords
    exact hne rfl
  · clear hne
    induction hwords with
    | nil => simp
    | cons hp _ ih =>
        rw [List.forall_mem_cons]
        exact ⟨⟨_, hp⟩, ih⟩

theorem IsField.mem_valuesOf {f : Field} {cs : List Char} {ps : List Part} (h : IsField f cs ps)
    {v : Nat} : v ∈ f.valuesOf ps ↔ Reached ps v := by
  simp only [Field.valuesOf, Field.range, List.mem_filter, List.mem_range'_1, List.any_eq_true,
    Part.contains_iff]
  constructor
  · exact fun hv => hv.2
  · rintro ⟨p, hp, k, rfl, hlast⟩
    obtain ⟨w, hw⟩ := h.isPart.2 p hp
    have hbounds := hw.bounds
    exact ⟨by omega, p, hp, k, rfl, hlast⟩

/-- A field has values, which lie in its range. -/
theorem IsField.reached {f : Field} {cs : List Char} {ps : List Part} (h : IsField f cs ps) :
    (∃ v, Reached ps v) ∧ ∀ v, Reached ps v → f.low ≤ v ∧ v ≤ f.high := by
  obtain ⟨hne, hparts⟩ := h.isPart
  constructor
  · obtain ⟨p, hp⟩ := List.exists_mem_of_ne_nil ps hne
    obtain ⟨w, hw⟩ := hparts p hp
    exact ⟨p.first, p, hp, 0, by simp, hw.bounds.2.1⟩
  · rintro v ⟨p, hp, k, rfl, hlast⟩
    obtain ⟨w, hw⟩ := hparts p hp
    have hbounds := hw.bounds
    omega

/-- Seven is counted as zero, and there are no higher days. -/
theorem mem_foldSunday {days : List Nat} (hdays : ∀ d ∈ days, d ≤ 7) {v : Nat} :
    v ∈ foldSunday days ↔ ∃ u ∈ days, v = u % 7 := by
  unfold foldSunday
  by_cases hseven : 7 ∈ days
  · simp only [List.contains_eq_mem, hseven, decide_true, if_true, List.mem_cons, List.mem_filter,
      Bool.and_eq_true, bne_iff_ne, ne_eq]
    constructor
    · rintro (rfl | ⟨hmem, -, hne⟩)
      · exact ⟨7, hseven, rfl⟩
      · have := hdays v hmem
        exact ⟨v, hmem, by omega⟩
    · rintro ⟨u, hu, rfl⟩
      have hle := hdays u hu
      by_cases hsunday : u % 7 = 0
      · exact .inl hsunday
      · have hsame : u % 7 = u := by omega
        rw [hsame]
        exact .inr ⟨hu, by omega, by omega⟩
  · have hless : ∀ u ∈ days, u % 7 = u := by
      intro u hu
      have hle := hdays u hu
      have hne : u ≠ 7 := by
        rintro rfl
        exact hseven hu
      omega
    simp only [List.contains_eq_mem, hseven, decide_false, Bool.false_eq_true, if_false]
    constructor
    · exact fun hv => ⟨v, hv, (hless v hv).symm⟩
    · rintro ⟨u, hu, rfl⟩
      rwa [hless u hu]

/-! ## Schedules -/

/-- The schedule of an expression. -/
def Expression.schedule (e : Expression) : Schedule where
  minutes := Field.minute.valuesOf e.minute
  hours := Field.hour.valuesOf e.hour
  daysOfMonth := Field.dayOfMonth.valuesOf e.dayOfMonth
  months := Field.month.valuesOf e.month
  weekdays := foldSunday (Field.weekday.valuesOf e.weekday)
  anyDayOfMonth := e.openDay
  anyWeekday := e.openWeekday

theorem plain_minute : Field.minute.Plain := Field.plain_of_mem (by simp [Field.all])

theorem plain_hour : Field.hour.Plain := Field.plain_of_mem (by simp [Field.all])

theorem plain_dayOfMonth : Field.dayOfMonth.Plain := Field.plain_of_mem (by simp [Field.all])

theorem plain_month : Field.month.Plain := Field.plain_of_mem (by simp [Field.all])

theorem plain_weekday : Field.weekday.Plain := Field.plain_of_mem (by simp [Field.all])

theorem parse_of_isExpression {s : String} {e : Expression} (h : IsExpression s e) :
    parse s = .ok e.schedule := by
  obtain ⟨htext, hspaced, hminute, hhour, hday, hmonth, hweekday, hopenDay, hopenWeekday⟩ := h
  have hexpand := expand_of_isField htext hspaced hminute
  have hwords := Text.wordsOf_of_spaced hspaced
  have hminutes := (fieldValues_eq_ok plain_minute).2 ⟨_, hminute, rfl⟩
  have hhours := (fieldValues_eq_ok plain_hour).2 ⟨_, hhour, rfl⟩
  have hdays := (fieldValues_eq_ok plain_dayOfMonth).2 ⟨_, hday, rfl⟩
  have hmonths := (fieldValues_eq_ok plain_month).2 ⟨_, hmonth, rfl⟩
  have hweekdays := (fieldValues_eq_ok plain_weekday).2 ⟨_, hweekday, rfl⟩
  have hfirst := Bool.eq_iff_iff.2 (isOpen_iff.trans hopenDay.symm)
  have hsecond := Bool.eq_iff_iff.2 (isOpen_iff.trans hopenWeekday.symm)
  simp only [parse, bind_eq_ok]
  refine ⟨_, hexpand, ?_⟩
  simp only [hwords, ofFields, bind_eq_ok]
  refine ⟨_, hweekdays, _, hminutes, _, hhours, _, hdays, _, hmonths, ?_⟩
  rw [hfirst, hsecond]
  rfl

theorem isExpression_of_parse {s : String} {schedule : Schedule} (h : parse s = .ok schedule) :
    ∃ e, IsExpression s e := by
  simp only [parse, bind_eq_ok] at h
  obtain ⟨text, hexpand, hfields⟩ := h
  unfold ofFields at hfields
  split at hfields
  · next minute hour dayOfMonth month weekday hwords =>
    simp only [bind_eq_ok] at hfields
    obtain ⟨_, hweekdays, _, hminutes, _, hhours, _, hdays, _, hmonths, -⟩ := hfields
    obtain ⟨minuteParts, hminute, -⟩ := (fieldValues_eq_ok plain_minute).1 hminutes
    obtain ⟨hourParts, hhour, -⟩ := (fieldValues_eq_ok plain_hour).1 hhours
    obtain ⟨dayParts, hday, -⟩ := (fieldValues_eq_ok plain_dayOfMonth).1 hdays
    obtain ⟨monthParts, hmonth, -⟩ := (fieldValues_eq_ok plain_month).1 hmonths
    obtain ⟨weekdayParts, hweekday, -⟩ := (fieldValues_eq_ok plain_weekday).1 hweekdays
    exact ⟨⟨minuteParts, hourParts, dayParts, monthParts, weekdayParts, isOpen dayOfMonth,
      isOpen weekday⟩, standsFor_of_expand hexpand, Text.wordsOf_eq_iff.1 hwords, hminute, hhour,
      hday, hmonth, hweekday, isOpen_iff, isOpen_iff⟩
  · cases hfields

/-- What a schedule has of its expression. -/
structure Schedule.Fulfils (s : Schedule) (e : Expression) : Prop where
  minutes : ∀ v, v ∈ s.minutes ↔ Reached e.minute v
  hours : ∀ v, v ∈ s.hours ↔ Reached e.hour v
  daysOfMonth : ∀ v, v ∈ s.daysOfMonth ↔ Reached e.dayOfMonth v
  months : ∀ v, v ∈ s.months ↔ Reached e.month v
  /-- Sunday is day zero, also where it is reached as day seven. -/
  weekdays : ∀ v, v ∈ s.weekdays ↔ ∃ u, Reached e.weekday u ∧ v = u % 7
  /-- No set is empty, -/
  nonempty : s.minutes ≠ [] ∧ s.hours ≠ [] ∧ s.daysOfMonth ≠ [] ∧ s.months ≠ [] ∧ s.weekdays ≠ []
  /-- and none leaves the range of its field. -/
  minute_le : ∀ v ∈ s.minutes, v ≤ 59
  hour_le : ∀ v ∈ s.hours, v ≤ 23
  dayOfMonth_range : ∀ v ∈ s.daysOfMonth, 1 ≤ v ∧ v ≤ 31
  month_range : ∀ v ∈ s.months, 1 ≤ v ∧ v ≤ 12
  weekday_le : ∀ v ∈ s.weekdays, v ≤ 6
  /-- If a day field is left open, the day has to be in both sets, and else in one of them. -/
  fires : ∀ t : OffsetTime, s.fires t = true ↔
    t.localMinute.minute ∈ s.minutes ∧ t.localMinute.hour ∈ s.hours ∧
      t.localMinute.month ∈ s.months ∧
      if e.openDay = true ∨ e.openWeekday = true then
        t.localMinute.dayOfMonth ∈ s.daysOfMonth ∧ t.localMinute.weekday ∈ s.weekdays
      else t.localMinute.dayOfMonth ∈ s.daysOfMonth ∨ t.localMinute.weekday ∈ s.weekdays

theorem firesOn_iff {s : Schedule} {day weekday : Nat} :
    s.firesOn day weekday = true ↔
      if s.anyDayOfMonth = true ∨ s.anyWeekday = true then
        day ∈ s.daysOfMonth ∧ weekday ∈ s.weekdays
      else day ∈ s.daysOfMonth ∨ weekday ∈ s.weekdays := by
  simp only [Schedule.firesOn, List.contains_eq_mem, Bool.or_eq_true]
  split <;> simp

theorem fires_iff {s : Schedule} {t : OffsetTime} :
    s.fires t = true ↔
      t.localMinute.minute ∈ s.minutes ∧ t.localMinute.hour ∈ s.hours ∧
        t.localMinute.month ∈ s.months ∧
        s.firesOn t.localMinute.dayOfMonth t.localMinute.weekday = true := by
  simp only [Schedule.fires, Schedule.firesAt, List.contains_eq_mem, Bool.and_eq_true,
    decide_eq_true_eq]
  constructor
  · rintro ⟨⟨⟨hday, hminute⟩, hhour⟩, hmonth⟩
    exact ⟨hminute, hhour, hmonth, hday⟩
  · rintro ⟨hminute, hhour, hmonth, hday⟩
    exact ⟨⟨⟨hday, hminute⟩, hhour⟩, hmonth⟩

/-- The values of a field are not empty and lie in its range. -/
theorem IsField.values {f : Field} {cs : List Char} {ps : List Part} (h : IsField f cs ps) :
    f.valuesOf ps ≠ [] ∧ ∀ v ∈ f.valuesOf ps, f.low ≤ v ∧ v ≤ f.high := by
  obtain ⟨⟨v, hv⟩, hrange⟩ := h.reached
  exact ⟨List.ne_nil_of_mem (h.mem_valuesOf.2 hv), fun u hu => hrange u (h.mem_valuesOf.1 hu)⟩

theorem IsExpression.fulfils {s : String} {e : Expression} (h : IsExpression s e) :
    e.schedule.Fulfils e := by
  obtain ⟨-, -, hminute, hhour, hday, hmonth, hweekday, -, -⟩ := h
  have hfold : ∀ v, v ∈ e.schedule.weekdays ↔ ∃ u, Reached e.weekday u ∧ v = u % 7 := by
    intro v
    have hle : ∀ u ∈ Field.weekday.valuesOf e.weekday, u ≤ 7 := fun u hu => (hweekday.values.2 u hu).2
    rw [Expression.schedule, mem_foldSunday hle]
    simp only [hweekday.mem_valuesOf]
  have hsomeday : e.schedule.weekdays ≠ [] := by
    obtain ⟨u, hu⟩ := hweekday.reached.1
    exact List.ne_nil_of_mem ((hfold (u % 7)).2 ⟨u, hu, rfl⟩)
  constructor
  case minutes => exact fun v => hminute.mem_valuesOf
  case hours => exact fun v => hhour.mem_valuesOf
  case daysOfMonth => exact fun v => hday.mem_valuesOf
  case months => exact fun v => hmonth.mem_valuesOf
  case weekdays => exact hfold
  case nonempty =>
    exact ⟨hminute.values.1, hhour.values.1, hday.values.1, hmonth.values.1, hsomeday⟩
  case minute_le => exact fun v hv => (hminute.values.2 v hv).2
  case hour_le => exact fun v hv => (hhour.values.2 v hv).2
  case dayOfMonth_range => exact hday.values.2
  case month_range => exact hmonth.values.2
  case weekday_le =>
    intro v hv
    obtain ⟨u, -, rfl⟩ := (hfold v).1 hv
    omega
  case fires =>
    intro t
    rw [fires_iff, firesOn_iff]
    rfl

/-- A text is read exactly if it is an expression, and its schedule then holds the values that the
parts of the expression reach and fires by them. -/
theorem parse_language (s : String) :
    ((∃ schedule, parse s = .ok schedule) ↔ ∃ e, IsExpression s e) ∧
      ∀ e, IsExpression s e → ∃ schedule, parse s = .ok schedule ∧ schedule.Fulfils e := by
  constructor
  · constructor
    · rintro ⟨schedule, hparse⟩
      exact isExpression_of_parse hparse
    · rintro ⟨e, he⟩
      exact ⟨e.schedule, parse_of_isExpression he⟩
  · intro e he
    exact ⟨e.schedule, parse_of_isExpression he, he.fulfils⟩

/-- Every twenty minutes from eight to ten, on the first day and from Friday to Sunday, in March
and in July. -/
def weekend : String := " +0/20\t8-10 1 mar,JUL fri-7 "

theorem weekend_read :
    ∃ e schedule, IsExpression weekend e ∧ parse weekend = .ok schedule ∧ schedule.Fulfils e ∧
      schedule.weekdays = [0, 5, 6] := by
  have hparse : parse weekend =
      .ok ⟨[0, 20, 40], [8, 9, 10], [1], [3, 7], [0, 5, 6], false, false⟩ := by
    decide +kernel
  obtain ⟨hread, hfulfils⟩ := parse_language weekend
  obtain ⟨e, he⟩ := hread.1 ⟨_, hparse⟩
  obtain ⟨schedule, hschedule, hfulfilled⟩ := hfulfils e he
  obtain rfl := Except.ok.inj (hparse.symm.trans hschedule)
  exact ⟨e, _, he, hparse, hfulfilled, rfl⟩

end Orchestrator.Cron
