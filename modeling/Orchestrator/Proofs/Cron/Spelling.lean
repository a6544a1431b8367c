import Mathlib.Data.List.Perm.Basic
import Orchestrator.Proofs.Cron.Language
import Orchestrator.Proofs.Time.Calendar

/-!
Other spellings of an expression: the parts of a field in another order, and the two signs for every
value in each other's place.

The values of the fields do not depend on the spelling, but which of the day fields count as left
open does, since that is read off the beginning of the field's text.
-/

namespace Orchestrator.Cron

/-! ## Spellings -/

/-- The signs for every value stand in each other's place. -/
inductive SameSign : Char → Char → Prop where
  | same (c : Char) : SameSign c c
  | star : SameSign '*' '?'
  | anyValue : SameSign '?' '*'

/-- The parts of a field are put in another order, and signs in them are exchanged. -/
def FieldRespelt (cs ds : List Char) : Prop :=
  ∃ words, (Text.splitAt ',' cs).Perm words ∧
    List.Forall₂ (List.Forall₂ SameSign) words (Text.splitAt ',' ds)

/-- Each field of a text is respelt. -/
def Respelt (s s' : String) : Prop :=
  List.Forall₂ FieldRespelt (Text.wordsOf s.toList) (Text.wordsOf s'.toList)

theorem SameSign.symm {c d : Char} (h : SameSign c d) : SameSign d c := by
  cases h with
  | same => exact .same c
  | star => exact .anyValue
  | anyValue => exact .star

theorem sameSigns_symm {cs ds : List Char} (h : List.Forall₂ SameSign cs ds) :
    List.Forall₂ SameSign ds cs :=
  (h.imp fun _ _ => SameSign.symm).flip

theorem FieldRespelt.symm {cs ds : List Char} (h : FieldRespelt cs ds) : FieldRespelt ds cs := by
  obtain ⟨words, hperm, hsigns⟩ := h
  have hback : List.Forall₂ (List.Forall₂ SameSign) (Text.splitAt ',' ds) words :=
    (hsigns.imp fun _ _ => sameSigns_symm).flip
  have hcomp : Relation.Comp (List.Forall₂ (List.Forall₂ SameSign)) List.Perm
      (Text.splitAt ',' ds) (Text.splitAt ',' cs) := ⟨words, hback, hperm.symm⟩
  rwa [List.forall₂_comp_perm_eq_perm_comp_forall₂] at hcomp

theorem Respelt.symm {s s' : String} (h : Respelt s s') : Respelt s' s :=
  (List.Forall₂.imp (fun _ _ => FieldRespelt.symm) h).flip

/-- Only the two signs are ever exchanged. -/
theorem eq_of_sameSigns {cs ds : List Char} (h : List.Forall₂ SameSign cs ds) (hstar : '*' ∉ cs)
    (hany : '?' ∉ cs) : cs = ds := by
  induction h with
  | nil => rfl
  | cons hsign _ ih =>
      rw [List.mem_cons, not_or] at hstar hany
      rw [ih hstar.2 hany.2]
      cases hsign with
      | same => rfl
      | star => exact absurd rfl hstar.1
      | anyValue => exact absurd rfl hany.1

/-- A sign that is not exchanged stands in the same place. -/
theorem sameSigns_append {cs ds es : List Char} {c : Char} (hstar : c ≠ '*') (hany : c ≠ '?')
    (h : List.Forall₂ SameSign (cs ++ c :: ds) es) :
    ∃ cs' ds', es = cs' ++ c :: ds' ∧ List.Forall₂ SameSign cs cs' ∧
      List.Forall₂ SameSign ds ds' := by
  induction cs generalizing es with
  | nil =>
      cases h with
      | cons hsign hrest =>
          cases hsign with
          | same => exact ⟨[], _, rfl, .nil, hrest⟩
          | star => exact absurd rfl hstar
          | anyValue => exact absurd rfl hany
  | cons d cs ih =>
      cases h with
      | cons hsign hrest =>
          obtain ⟨cs', ds', rfl, hbefore, hafter⟩ := ih hrest
          exact ⟨_ :: cs', ds', rfl, .cons hsign hbefore, hafter⟩

/-! ## Parts and fields -/

theorem IsValue.of_sameSigns {f : Field} (hf : f.Plain) {cs ds : List Char} {n : Nat}
    (h : IsValue f cs n) (hsigns : List.Forall₂ SameSign cs ds) : IsValue f ds n := by
  rwa [← eq_of_sameSigns hsigns (h.not_mem hf (by decide)) (h.not_mem hf (by decide))]

theorem IsNumber.of_sameSigns {cs ds : List Char} {n : Nat} (h : IsNumber cs n)
    (hsigns : List.Forall₂ SameSign cs ds) : IsNumber ds n := by
  rwa [← eq_of_sameSigns hsigns (h.not_mem (by decide)) (h.not_mem (by decide))]

theorem isSpan_of_sameSign {f : Field} {stepped : Bool} {c : Char} (hc : c = '*' ∨ c = '?')
    {ds : List Char} (hsigns : List.Forall₂ SameSign [c] ds) :
    IsSpan f stepped ds f.low f.high := by
  cases hsigns with
  | cons hsign hrest =>
      cases hrest
      cases hsign with
      | same => rcases hc with rfl | rfl <;> constructor
      | star => exact .anyValue
      | anyValue => exact .star

theorem IsSpan.of_sameSigns {f : Field} (hf : f.Plain) {stepped : Bool} {cs ds : List Char}
    {first last : Nat} (h : IsSpan f stepped cs first last)
    (hsigns : List.Forall₂ SameSign cs ds) : IsSpan f stepped ds first last := by
  cases h with
  | star => exact isSpan_of_sameSign (.inl rfl) hsigns
  | anyValue => exact isSpan_of_sameSign (.inr rfl) hsigns
  | single hvalue => exact .single (hvalue.of_sameSigns hf hsigns)
  | openEnd hvalue => exact .openEnd (hvalue.of_sameSigns hf hsigns)
  | range hfirst hlast =>
      obtain ⟨cs', ds', rfl, hbefore, hafter⟩ := sameSigns_append (by decide) (by decide) hsigns
      exact .range (hfirst.of_sameSigns hf hbefore) (hlast.of_sameSigns hf hafter)

theorem IsPart.of_sameSigns {f : Field} (hf : f.Plain) {cs ds : List Char} {p : Part}
    (h : IsPart f cs p) (hsigns : List.Forall₂ SameSign cs ds) : IsPart f ds p := by
  cases h with
  | plain hspan hlow hle hhigh => exact .plain (hspan.of_sameSigns hf hsigns) hlow hle hhigh
  | stepped hspan hstep hpos hlow hle hhigh =>
      obtain ⟨cs', ds', rfl, hbefore, hafter⟩ := sameSigns_append (by decide) (by decide) hsigns
      exact .stepped (hspan.of_sameSigns hf hbefore) (hstep.of_sameSigns hafter) hpos hlow hle hhigh

theorem parts_of_sameSigns {f : Field} (hf : f.Plain) {words words' : List (List Char)}
    {ps : List Part} (h : List.Forall₂ (IsPart f) words ps)
    (hsigns : List.Forall₂ (List.Forall₂ SameSign) words words') :
    List.Forall₂ (IsPart f) words' ps := by
  induction hsigns generalizing ps with
  | nil => exact h
  | cons hword _ ih =>
      cases h with
      | cons hpart hrest => exact .cons (hpart.of_sameSigns hf hword) (ih hrest)

/-- Another spelling of a field has the same parts, perhaps in another order. -/
theorem IsField.respelt {f : Field} (hf : f.Plain) {cs ds : List Char} {ps : List Part}
    (h : IsField f cs ps) (hrespelt : FieldRespelt cs ds) :
    ∃ ps', ps.Perm ps' ∧ IsField f ds ps' := by
  obtain ⟨words, hperm, hsigns⟩ := hrespelt
  obtain ⟨ps', hparts, hps⟩ := List.perm_comp_forall₂ hperm.symm ((isField_iff hf).1 h)
  exact ⟨ps', hps.symm, (isField_iff hf).2 (parts_of_sameSigns hf hparts hsigns)⟩

/-! ## Expressions -/

/-- Two expressions have the same parts, perhaps in another order. -/
structure Expression.SameParts (e e' : Expression) : Prop where
  minute : e.minute.Perm e'.minute
  hour : e.hour.Perm e'.hour
  dayOfMonth : e.dayOfMonth.Perm e'.dayOfMonth
  month : e.month.Perm e'.month
  weekday : e.weekday.Perm e'.weekday

theorem words_of_mem_macros {m text : String} (h : (m, text) ∈ macros) :
    Text.wordsOf m.toList = [m.toList] ∧ Text.splitAt ',' m.toList = [m.toList] ∧
      '*' ∉ m.toList ∧ '?' ∉ m.toList := by
  have hall : ∀ entry ∈ macros, Text.wordsOf entry.1.toList = [entry.1.toList] ∧
      Text.splitAt ',' entry.1.toList = [entry.1.toList] ∧
        '*' ∉ entry.1.toList ∧ '?' ∉ entry.1.toList := by
    decide +kernel
  exact hall _ h

theorem wordsOf_trim (s : String) : Text.wordsOf (Text.trim s).toList = Text.wordsOf s.toList := by
  rw [Text.trim, String.toList_ofList, Text.wordsOf_trimChars]

/-- There is nothing in a macro to put in another order or to exchange. -/
theorem trim_of_mem_macros {s s' text : String} (hlisted : (Text.trim s, text) ∈ macros)
    (h : Respelt s s') : Text.trim s' = Text.trim s := by
  obtain ⟨hwords, hpieces, hstar, hany⟩ := words_of_mem_macros hlisted
  unfold Respelt at h
  rw [← wordsOf_trim s, hwords, List.forall₂_cons_left_iff] at h
  obtain ⟨ds, rest, ⟨pieces, hperm, hsigns⟩, hrest, hwords'⟩ := h
  rw [List.forall₂_nil_left_iff] at hrest
  rw [hpieces, List.singleton_perm] at hperm
  rw [← hperm, List.forall₂_cons_left_iff] at hsigns
  obtain ⟨piece, others, hpiece, hothers, hsplit⟩ := hsigns
  rw [List.forall₂_nil_left_iff] at hothers
  have hsame := eq_of_sameSigns hpiece hstar hany
  have hds : ds = (Text.trim s).toList := by
    have hjoined : [','].intercalate (ds.splitOn ',') = ds := List.intercalate_splitOn ','
    rw [← Text.splitAt_eq_splitOn, hsplit, hothers, ← hsame] at hjoined
    simpa using hjoined.symm
  rw [hrest, hds] at hwords'
  have htrim := Text.trimChars_of_spaced (Text.wordsOf_eq_iff.1 hwords')
  rw [Text.trim, htrim, String.ofList_toList]

theorem forall₂_five {R : List Char → List Char → Prop} {a b c d e : List Char}
    {words : List (List Char)} (h : List.Forall₂ R [a, b, c, d, e] words) :
    ∃ a' b' c' d' e', words = [a', b', c', d', e'] ∧
      R a a' ∧ R b b' ∧ R c c' ∧ R d d' ∧ R e e' := by
  simp only [List.forall₂_cons_left_iff, List.forall₂_nil_left_iff] at h
  obtain ⟨a', _, ha, ⟨b', _, hb, ⟨c', _, hc, ⟨d', _, hd, ⟨e', _, he, rfl, rfl⟩, rfl⟩, rfl⟩, rfl⟩,
    rfl⟩ := h
  exact ⟨a', b', c', d', e', rfl, ha, hb, hc, hd, he⟩

/-- Another spelling of an expression is an expression with the same parts. -/
theorem IsExpression.respelt {s s' : String} {e : Expression} (h : IsExpression s e)
    (hrespelt : Respelt s s') : ∃ e', IsExpression s' e' ∧ e.SameParts e' := by
  obtain ⟨htext, hspaced, hminute, hhour, hday, hmonth, hweekday, hopenDay, hopenWeekday⟩ := h
  rcases htext with hlisted | ⟨hnone, rfl⟩
  · have htrim := trim_of_mem_macros hlisted hrespelt
    rw [← htrim] at hlisted
    exact ⟨e, .intro (.inl hlisted) hspaced hminute hhour hday hmonth hweekday hopenDay
      hopenWeekday, .refl _, .refl _, .refl _, .refl _, .refl _⟩
  · have hwords := Text.wordsOf_of_spaced hspaced
    rw [wordsOf_trim] at hwords
    rw [Respelt, hwords] at hrespelt
    obtain ⟨minute', hour', day', month', weekday', hwords', hm, hh, hd, hmo, hw⟩ :=
      forall₂_five hrespelt
    obtain ⟨minuteParts, hminutes, hminute'⟩ := hminute.respelt plain_minute hm
    obtain ⟨hourParts, hhours, hhour'⟩ := hhour.respelt plain_hour hh
    obtain ⟨dayParts, hdays, hday'⟩ := hday.respelt plain_dayOfMonth hd
    obtain ⟨monthParts, hmonths, hmonth'⟩ := hmonth.respelt plain_month hmo
    obtain ⟨weekdayParts, hweekdays, hweekday'⟩ := hweekday.respelt plain_weekday hw
    rw [← wordsOf_trim] at hwords'
    -- A macro is one word, but there are five.
    have hnone' : ∀ t, (Text.trim s', t) ∉ macros := by
      intro t hlisted
      have hone := (words_of_mem_macros hlisted).1
      rw [hwords'] at hone
      simp at hone
    exact ⟨⟨minuteParts, hourParts, dayParts, monthParts, weekdayParts, isOpen day',
      isOpen weekday'⟩, .intro (.inr ⟨hnone', rfl⟩) (Text.wordsOf_eq_iff.1 hwords') hminute' hhour'
      hday' hmonth' hweekday' isOpen_iff isOpen_iff, hminutes, hhours, hdays, hmonths, hweekdays⟩

theorem valuesOf_perm (f : Field) {ps ps' : List Part} (h : ps.Perm ps') :
    f.valuesOf ps = f.valuesOf ps' := by
  simp only [Field.valuesOf, h.any_eq]

/-- Two schedules differ at most in which of the day fields are left open. -/
structure Schedule.SameValues (x x' : Schedule) : Prop where
  minutes : x'.minutes = x.minutes
  hours : x'.hours = x.hours
  daysOfMonth : x'.daysOfMonth = x.daysOfMonth
  months : x'.months = x.months
  weekdays : x'.weekdays = x.weekdays

theorem Expression.SameParts.sameValues {e e' : Expression} (h : e.SameParts e') :
    e.schedule.SameValues e'.schedule where
  minutes := (valuesOf_perm .minute h.minute).symm
  hours := (valuesOf_perm .hour h.hour).symm
  daysOfMonth := (valuesOf_perm .dayOfMonth h.dayOfMonth).symm
  months := (valuesOf_perm .month h.month).symm
  weekdays := congrArg foldSunday (valuesOf_perm .weekday h.weekday).symm

/-! ## Days -/

theorem exists_localMinute {t : LocalMinute} (hminute : t.minute ≤ 59) (hhour : t.hour ≤ 23)
    (hmonth : 1 ≤ t.month ∧ t.month ≤ 12)
    (hday : 1 ≤ t.dayOfMonth ∧ t.dayOfMonth ≤ Date.monthLength 2000 t.month)
    (hweekday : t.weekday ≤ 6) : ∃ time : OffsetTime, time.localMinute = t := by
  obtain ⟨n, hn⟩ := Date.exists_day hmonth hday hweekday
  refine ⟨⟨⟨n * 86400 + t.hour * 3600 + t.minute * 60, 0⟩, 0⟩, ?_⟩
  have hdays : Int.fdiv (n * 86400 + t.hour * 3600 + t.minute * 60 + 0) 86400 = n := by
    rw [Int.fdiv_eq_ediv_of_nonneg _ (by decide)]
    omega
  have hseconds : (Int.fmod (n * 86400 + t.hour * 3600 + t.minute * 60 + 0) 86400).toNat =
      t.hour * 3600 + t.minute * 60 := by
    rw [Int.fmod_eq_emod_of_nonneg _ (by decide)]
    omega
  have hofMinute : (t.hour * 3600 + t.minute * 60) / 60 % 60 = t.minute := by omega
  have hofHour : (t.hour * 3600 + t.minute * 60) / 3600 = t.hour := by omega
  simp only [OffsetTime.localMinute, Timestamp.day, Timestamp.secondOfDay, secondsPerDay, hdays,
    hseconds, hofMinute, hofHour, hn]

theorem localMinute_bounds (t : OffsetTime) :
    1 ≤ t.localMinute.dayOfMonth ∧
      t.localMinute.dayOfMonth ≤ Date.monthLength 2000 t.localMinute.month ∧
        t.localMinute.weekday ≤ 6 := by
  obtain ⟨-, -, hfirst, hlast⟩ := Date.isValid_iff.1
    (Date.isValid_ofDays (Timestamp.day ⟨t.moment.seconds + t.offset, t.moment.nanos⟩))
  refine ⟨hfirst, Nat.le_trans hlast (Date.monthLength_le _ _), ?_⟩
  simp only [OffsetTime.localMinute, Date.weekday]
  rw [Int.fmod_eq_emod_of_nonneg _ (by decide)]
  omega

/-! ## Where the spelling tells -/

/-- Whether a day has to be in both sets of days, and not just in one. -/
def Schedule.asksForBoth (x : Schedule) : Bool := x.anyDayOfMonth || x.anyWeekday

/-- All days of the months and all weekdays are in the schedule. -/
def Schedule.HasEveryDay (x : Schedule) : Prop :=
  (∀ m ∈ x.months, ∀ d, 1 ≤ d → d ≤ Date.monthLength 2000 m → d ∈ x.daysOfMonth) ∧
    ∀ w ≤ 6, w ∈ x.weekdays

theorem firesOn_eq {x : Schedule} {day weekday : Nat} :
    x.firesOn day weekday = if x.asksForBoth then
      x.daysOfMonth.contains day && x.weekdays.contains weekday
    else x.daysOfMonth.contains day || x.weekdays.contains weekday := rfl

section

variable {x x' : Schedule} (hsame : x.SameValues x')

include hsame

/-- Schedules that differ in what they ask of a day agree on a day exactly if it is in both sets or
in none. -/
theorem Schedule.SameValues.mem_iff (hasks : x.asksForBoth ≠ x'.asksForBoth) {day weekday : Nat}
    (h : x.firesOn day weekday = x'.firesOn day weekday) :
    day ∈ x.daysOfMonth ↔ weekday ∈ x.weekdays := by
  have hboth : ∀ a b : Bool, (a && b) = (a || b) → a = b := by decide
  have hmem : x.daysOfMonth.contains day = x.weekdays.contains weekday := by
    rw [firesOn_eq, firesOn_eq, hsame.daysOfMonth, hsame.weekdays] at h
    cases hx : x.asksForBoth with
    | false =>
        cases hx' : x'.asksForBoth with
        | false => exact absurd (hx.trans hx'.symm) hasks
        | true => exact hboth _ _ (by simpa [hx, hx'] using h.symm)
    | true =>
        cases hx' : x'.asksForBoth with
        | false => exact hboth _ _ (by simpa [hx, hx'] using h)
        | true => exact absurd (hx.trans hx'.symm) hasks
  simpa only [List.contains_eq_mem, decide_eq_decide] using hmem

/-- Schedules that differ in what they ask of a day, and fire together all the same, leave out no
day: else a day of the one set falls on a weekday that is not in the other. -/
theorem Schedule.SameValues.hasEveryDay {e : Expression} (h : x.Fulfils e)
    (hasks : x.asksForBoth ≠ x'.asksForBoth) (hfires : ∀ t, x.fires t = x'.fires t) :
    x.HasEveryDay := by
  obtain ⟨hminute, hhour, -, hmonth, hweekday⟩ := h.nonempty
  obtain ⟨minute, hminute⟩ := List.exists_mem_of_ne_nil _ hminute
  obtain ⟨hour, hhour⟩ := List.exists_mem_of_ne_nil _ hhour
  obtain ⟨month, hmonth⟩ := List.exists_mem_of_ne_nil _ hmonth
  obtain ⟨weekday, hweekday⟩ := List.exists_mem_of_ne_nil _ hweekday
  have hagree : ∀ m ∈ x.months, ∀ d, 1 ≤ d → d ≤ Date.monthLength 2000 m → ∀ w ≤ 6,
      (d ∈ x.daysOfMonth ↔ w ∈ x.weekdays) := by
    intro m hm d hfirst hlast w hw
    obtain ⟨t, ht⟩ := exists_localMinute (t := ⟨minute, hour, d, m, w⟩) (h.minute_le _ hminute)
      (h.hour_le _ hhour) (h.month_range _ hm) ⟨hfirst, hlast⟩ hw
    apply hsame.mem_iff hasks
    have hat := hfires t
    simpa [Schedule.fires, Schedule.firesAt, ht, hsame.minutes, hsame.hours, hsame.months, hminute,
      hhour, hm] using hat
  constructor
  · intro m hm d hfirst hlast
    exact (hagree m hm d hfirst hlast weekday (h.weekday_le _ hweekday)).2 hweekday
  · intro w hw
    have hfirst := hagree month hmonth 1 (Nat.le_refl 1) (Date.monthLength_pos _ _)
    exact (hfirst w hw).1 ((hfirst weekday (h.weekday_le _ hweekday)).2 hweekday)

theorem Schedule.SameValues.fires_eq (hasks : x.asksForBoth = x'.asksForBoth) (t : OffsetTime) :
    x.fires t = x'.fires t := by
  simp only [Schedule.fires, Schedule.firesAt, firesOn_eq, hsame.minutes, hsame.hours, hsame.months,
    hsame.daysOfMonth, hsame.weekdays, hasks]

end

theorem fires_of_hasEveryDay {x : Schedule} (h : x.HasEveryDay) (t : OffsetTime) :
    x.fires t = true ↔ t.localMinute.minute ∈ x.minutes ∧ t.localMinute.hour ∈ x.hours ∧
      t.localMinute.month ∈ x.months := by
  rw [fires_iff]
  constructor
  · rintro ⟨hminute, hhour, hmonth, -⟩
    exact ⟨hminute, hhour, hmonth⟩
  · rintro ⟨hminute, hhour, hmonth⟩
    obtain ⟨hfirst, hlast, hweekday⟩ := localMinute_bounds t
    have hday := h.1 _ hmonth _ hfirst hlast
    have hweekday := h.2 _ hweekday
    refine ⟨hminute, hhour, hmonth, ?_⟩
    rw [firesOn_iff]
    split
    · exact ⟨hday, hweekday⟩
    · exact .inl hday

theorem Schedule.SameValues.fires_alike_iff {x x' : Schedule} (hsame : x.SameValues x')
    {e : Expression} (h : x.Fulfils e) :
    (∀ t, x.fires t = x'.fires t) ↔ x.asksForBoth = x'.asksForBoth ∨ x.HasEveryDay := by
  constructor
  · intro hfires
    by_cases hasks : x.asksForBoth = x'.asksForBoth
    · exact .inl hasks
    · exact .inr (hsame.hasEveryDay h hasks hfires)
  · rintro (hasks | hevery) t
    · exact hsame.fires_eq hasks t
    · have hevery' : x'.HasEveryDay := by
        rwa [Schedule.HasEveryDay, hsame.months, hsame.daysOfMonth, hsame.weekdays]
      rw [Bool.eq_iff_iff, fires_of_hasEveryDay hevery, fires_of_hasEveryDay hevery', hsame.minutes,
        hsame.hours, hsame.months]

/-- Another spelling of an expression is read as well. The two schedules fire together exactly if
both of them ask for a day in both sets, or both for one in either set, or if no day is left out. -/
theorem respelt_alike_iff {s s' : String} (h : Respelt s s') :
    ((∃ x, parse s = .ok x) ↔ ∃ x', parse s' = .ok x') ∧
      ∀ x x', parse s = .ok x → parse s' = .ok x' →
        ((∀ t, x.fires t = x'.fires t) ↔ x.asksForBoth = x'.asksForBoth ∨ x.HasEveryDay) := by
  constructor
  · constructor
    · rintro ⟨x, hx⟩
      obtain ⟨e, he⟩ := isExpression_of_parse hx
      obtain ⟨e', he', -⟩ := he.respelt h
      exact ⟨e'.schedule, parse_of_isExpression he'⟩
    · rintro ⟨x', hx'⟩
      obtain ⟨e', he'⟩ := isExpression_of_parse hx'
      obtain ⟨e, he, -⟩ := he'.respelt h.symm
      exact ⟨e.schedule, parse_of_isExpression he⟩
  · intro x x' hx hx'
    obtain ⟨e, he⟩ := isExpression_of_parse hx
    obtain ⟨e', he', hparts⟩ := he.respelt h
    obtain rfl := Except.ok.inj (hx.symm.trans (parse_of_isExpression he))
    obtain rfl := Except.ok.inj (hx'.symm.trans (parse_of_isExpression he'))
    exact hparts.sameValues.fires_alike_iff he.fulfils

theorem sameSigns_refl (words : List (List Char)) :
    List.Forall₂ (List.Forall₂ SameSign) words words :=
  List.forall₂_same.2 fun _ _ => List.forall₂_same.2 fun c _ => .same c

theorem FieldRespelt.refl (cs : List Char) : FieldRespelt cs cs := ⟨_, .refl _, sameSigns_refl _⟩

/-- The first and the fifteenth, whatever the weekday. -/
theorem paydays_alike :
    Respelt "0 0 1,15 * ?" "0 0 15,1 * *" ∧
      ∃ x x', parse "0 0 1,15 * ?" = .ok x ∧ parse "0 0 15,1 * *" = .ok x' ∧
        ∀ t, x.fires t = x'.fires t := by
  have hwords : Text.wordsOf "0 0 1,15 * ?".toList =
      [['0'], ['0'], ['1', ',', '1', '5'], ['*'], ['?']] := by decide +kernel
  have hwords' : Text.wordsOf "0 0 15,1 * *".toList =
      [['0'], ['0'], ['1', '5', ',', '1'], ['*'], ['*']] := by decide +kernel
  have hdays : FieldRespelt ['1', ',', '1', '5'] ['1', '5', ',', '1'] :=
    ⟨[['1', '5'], ['1']], by decide, sameSigns_refl _⟩
  have hweekdays : FieldRespelt ['?'] ['*'] := ⟨[['?']], .refl _, .cons (.cons .anyValue .nil) .nil⟩
  have hrespelt : Respelt "0 0 1,15 * ?" "0 0 15,1 * *" := by
    rw [Respelt, hwords, hwords']
    exact .cons (.refl _) (.cons (.refl _) (.cons hdays (.cons (.refl _) (.cons hweekdays .nil))))
  have hparse : parse "0 0 1,15 * ?" =
      .ok ⟨[0], [0], [1, 15], List.range' 1 12, List.range 7, false, true⟩ := by decide +kernel
  have hparse' : parse "0 0 15,1 * *" =
      .ok ⟨[0], [0], [1, 15], List.range' 1 12, List.range 7, false, true⟩ := by decide +kernel
  obtain ⟨-, halike⟩ := respelt_alike_iff hrespelt
  exact ⟨hrespelt, _, _, hparse, hparse', (halike _ _ hparse hparse').2 (.inl rfl)⟩

/-- The beginning of the fifth of March 2024, a Tuesday. -/
def tuesday : OffsetTime := ⟨⟨1709596800, 0⟩, 0⟩

/-- All days and Mondays are on that Tuesday or not, as the order of two parts or the sign in one of
them has it. -/
theorem tuesday_by_spelling :
    Respelt "0 0 1,* * MON" "0 0 *,1 * MON" ∧ Respelt "0 0 ?/2 * MON" "0 0 */2 * MON" ∧
      (parse "0 0 1,* * MON").map (·.fires tuesday) = .ok true ∧
      (parse "0 0 *,1 * MON").map (·.fires tuesday) = .ok false ∧
      (parse "0 0 ?/2 * MON").map (·.fires tuesday) = .ok true ∧
      (parse "0 0 */2 * MON").map (·.fires tuesday) = .ok false := by
  have hdays : FieldRespelt ['1', ',', '*'] ['*', ',', '1'] :=
    ⟨[['*'], ['1']], by decide, sameSigns_refl _⟩
  have hsteps : FieldRespelt ['?', '/', '2'] ['*', '/', '2'] :=
    ⟨[['?', '/', '2']], .refl _,
      .cons (.cons .anyValue (.cons (.same _) (.cons (.same _) .nil))) .nil⟩
  refine ⟨?_, ?_, by decide +kernel, by decide +kernel, by decide +kernel, by decide +kernel⟩
  · have hwords : Text.wordsOf "0 0 1,* * MON".toList =
        [['0'], ['0'], ['1', ',', '*'], ['*'], ['M', 'O', 'N']] := by decide +kernel
    have hwords' : Text.wordsOf "0 0 *,1 * MON".toList =
        [['0'], ['0'], ['*', ',', '1'], ['*'], ['M', 'O', 'N']] := by decide +kernel
    rw [Respelt, hwords, hwords']
    exact .cons (.refl _) (.cons (.refl _) (.cons hdays (.cons (.refl _) (.cons (.refl _) .nil))))
  · have hwords : Text.wordsOf "0 0 ?/2 * MON".toList =
        [['0'], ['0'], ['?', '/', '2'], ['*'], ['M', 'O', 'N']] := by decide +kernel
    have hwords' : Text.wordsOf "0 0 */2 * MON".toList =
        [['0'], ['0'], ['*', '/', '2'], ['*'], ['M', 'O', 'N']] := by decide +kernel
    rw [Respelt, hwords, hwords']
    exact .cons (.refl _) (.cons (.refl _) (.cons hsteps (.cons (.refl _) (.cons (.refl _) .nil))))

end Orchestrator.Cron
