import Mathlib.Data.List.Induction
import Mathlib.Data.List.TakeWhile
import Orchestrator.Proofs.Text.Cuts
import Orchestrator.Proofs.Text.Digits
import Orchestrator.Proofs.Time.Calendar
import Orchestrator.Time.Rfc3339

/-!
The text of a moment reads back to the moment, and whatever is read is a moment that has a text.

The text is read from left to right: each field ends where its digits end, because a sign follows
that is no digit.
-/

namespace Orchestrator

namespace Timestamp

/-- Whether the moment falls on a day that can be written, and its nanoseconds are those of a second
or, at the end of a minute, of a leap second. -/
def IsWritable (t : Timestamp) : Prop :=
  t.isInRange = true ∧
    (t.nanos < nanosPerSecond ∨ (t.nanos < 2 * nanosPerSecond ∧ t.secondOfDay % 60 = 59))

instance : DecidablePred IsWritable := fun t =>
  inferInstanceAs (Decidable (t.isInRange = true ∧ _))

theorem secondOfDay_lt (t : Timestamp) : t.secondOfDay < 86400 := by
  unfold secondOfDay secondsPerDay
  rw [Int.fmod_eq_emod_of_nonneg _ (by decide)]
  omega

theorem day_mul_add_secondOfDay (t : Timestamp) :
    t.day * secondsPerDay + t.secondOfDay = t.seconds := by
  unfold day secondOfDay secondsPerDay
  rw [Int.fmod_eq_emod_of_nonneg _ (by decide), Int.fdiv_eq_ediv_of_nonneg _ (by decide)]
  omega

end Timestamp

namespace Rfc3339

/-! ## Digits -/

theorem isBlank_of_isDigit {c : Char} (h : c.isDigit = true) : Text.isBlank c = false := by
  rw [Char.isDigit_iff_toNat] at h
  have hfirst : '0'.toNat = 48 := rfl
  have hlast : '9'.toNat = 57 := rfl
  simp only [Text.isBlank, Bool.or_eq_false_iff, Bool.and_eq_false_iff, decide_eq_false_iff_not,
    beq_eq_false_iff_ne]
  omega

theorem padded_toList (width n : Nat) :
    (padded width n).toList =
      List.replicate (width - (Nat.toDigits 10 n).length) '0' ++ Nat.toDigits 10 n := by
  rw [padded, String.toList_ofList]
  rfl

theorem isDigit_padded {width n : Nat} : ∀ c ∈ (padded width n).toList, c.isDigit = true := by
  intro c hc
  rw [padded_toList, List.mem_append] at hc
  rcases hc with hc | hc
  · obtain rfl := List.eq_of_mem_replicate hc
    decide
  · exact Nat.isDigit_of_mem_toDigits (by decide) (by decide) hc

theorem digitsValue_padded (width n : Nat) : Text.digitsValue (padded width n).toList = n := by
  rw [Text.digitsValue_eq_ofDigitChars, padded_toList, Nat.ofDigitChars_append,
    Nat.ofDigitChars_replicate_zero, Nat.mul_zero,
    Nat.ofDigitChars_toDigits (by decide) (by decide)]

theorem length_padded {width n : Nat} (hwidth : 0 < width) (h : n < 10 ^ width) :
    (padded width n).toList.length = width := by
  have hle := (Nat.length_toDigits_le_iff (b := 10) (by decide) hwidth).2 h
  rw [padded_toList, List.length_append, List.length_replicate]
  omega

theorem width_le_length_padded (width n : Nat) : width ≤ (padded width n).toList.length := by
  rw [padded_toList, List.length_append, List.length_replicate]
  omega

theorem padded_eq_cons {width : Nat} (hwidth : 0 < width) (n : Nat) :
    ∃ d digits, (padded width n).toList = d :: digits ∧ d.isDigit = true := by
  have hlength := width_le_length_padded width n
  have hpos : 0 < (padded width n).toList.length := by omega
  obtain ⟨d, digits, hdigits⟩ := List.exists_cons_of_length_pos hpos
  have hmem : d ∈ (padded width n).toList := by
    rw [hdigits]
    exact List.mem_cons_self
  exact ⟨d, digits, hdigits, isDigit_padded d hmem⟩

/-! ## Reading fields -/

/-- No digit follows. -/
def EndsHere (rest : List Char) : Prop := ∀ c ∈ rest.head?, c.isDigit = false

theorem takeWhile_digits {digits rest : List Char} (hdigits : ∀ c ∈ digits, c.isDigit = true)
    (hend : EndsHere rest) : (digits ++ rest).takeWhile Char.isDigit = digits := by
  have hstop : rest.takeWhile Char.isDigit = [] := by
    cases rest with
    | nil => rfl
    | cons c rest => exact List.takeWhile_cons_of_neg (by simp [hend c rfl])
  rw [List.takeWhile_append_of_pos hdigits, hstop, List.append_nil]

/-- As many digits are read as there are, where they are not more than allowed. -/
theorem number_digits {low high : Nat} {digits rest : List Char}
    (hdigits : ∀ c ∈ digits, c.isDigit = true) (hlow : low ≤ digits.length)
    (hhigh : digits.length ≤ high) (hend : EndsHere rest) :
    number low high (digits ++ rest) = some (Text.digitsValue digits, rest) := by
  have htake : ((digits ++ rest).take high).takeWhile Char.isDigit = digits := by
    rw [List.take_append, List.take_of_length_le hhigh]
    apply takeWhile_digits hdigits
    intro c hc
    rw [List.head?_take] at hc
    split at hc
    · cases hc
    · exact hend c hc
  have henough : ¬ digits.length < low := by omega
  simp only [number, htake, henough, if_false, List.drop_left]

theorem skipBlank_padded {width : Nat} (hwidth : 0 < width) (n : Nat) (rest : List Char) :
    Text.skipBlank ((padded width n).toList ++ rest) = (padded width n).toList ++ rest := by
  obtain ⟨d, digits, hdigits, hd⟩ := padded_eq_cons hwidth n
  rw [hdigits]
  apply Text.skipBlank_eq_self
  intro c hc
  obtain rfl := Option.some.inj hc
  exact isBlank_of_isDigit hd

theorem looseField_padded {least most n : Nat} {rest : List Char} (hleast : least ≤ n)
    (hmost : n ≤ most) (hn : n < 100) (hend : EndsHere rest) :
    looseField least most ((padded 2 n).toList ++ rest) = some (n, rest) := by
  have hlength : (padded 2 n).toList.length = 2 := length_padded (by decide) hn
  have hnumber : number 1 2 ((padded 2 n).toList ++ rest) = some (n, rest) := by
    rw [number_digits isDigit_padded (by omega) (by omega) hend, digitsValue_padded]
  rw [looseField, skipBlank_padded (by decide), bounded, hnumber]
  simp [hleast, hmost]

theorem endsHere_cons {c : Char} (hc : c.isDigit = false) (rest : List Char) :
    EndsHere (c :: rest) := by
  intro d hd
  obtain rfl := Option.some.inj hd
  exact hc

theorem looseYear_of_isDigit {d : Char} (hd : d.isDigit = true) (rest : List Char) :
    looseYear (d :: rest) = (number 1 4 (d :: rest)).map fun (n, rest) => (↑n, rest) := by
  have hblank : Text.skipBlank (d :: rest) = d :: rest := by
    apply Text.skipBlank_eq_self
    intro c hc
    obtain rfl := Option.some.inj hc
    exact isBlank_of_isDigit hd
  rw [looseYear, hblank]
  split
  · next heq =>
    obtain ⟨rfl, -⟩ := List.cons.inj heq
    exact absurd hd (by decide)
  · next heq =>
    obtain ⟨rfl, -⟩ := List.cons.inj heq
    exact absurd hd (by decide)
  · rfl

theorem looseYear_minus (rest : List Char) :
    looseYear ('-' :: rest) = (number 1 rest.length rest).map fun (n, rest) => (-↑n, rest) :=
  rfl

theorem looseYear_plus (rest : List Char) :
    looseYear ('+' :: rest) = (number 1 rest.length rest).map fun (n, rest) => (↑n, rest) :=
  rfl

/-- Without a sign four digits are a year, after a sign any number of them. -/
theorem looseYear_yearText (year : Int) (rest : List Char) :
    looseYear ((yearText year).toList ++ '-' :: rest) = some (year, '-' :: rest) := by
  have hend : EndsHere ('-' :: rest) := endsHere_cons (by decide) rest
  have hfour := width_le_length_padded 4 year.natAbs
  have hnumber (high : Nat) (hhigh : (padded 4 year.natAbs).toList.length ≤ high) :
      number 1 high ((padded 4 year.natAbs).toList ++ '-' :: rest) =
        some (year.natAbs, '-' :: rest) := by
    rw [number_digits isDigit_padded (by omega) hhigh hend, digitsValue_padded]
  unfold yearText
  split
  · next hplain =>
    have hsmall : year.natAbs < 10000 := by omega
    have hlength : (padded 4 year.natAbs).toList.length = 4 := length_padded (by decide) hsmall
    have hyear : (year.natAbs : Int) = year := by omega
    obtain ⟨d, digits, hdigits, hd⟩ := padded_eq_cons (by decide : 0 < 4) year.natAbs
    have hread := hnumber 4 (by omega)
    rw [hdigits, List.cons_append] at hread ⊢
    simp only [looseYear_of_isDigit hd, hread, Option.map_some, hyear]
  · next hsigned =>
    have hread := hnumber ((padded 4 year.natAbs).toList ++ '-' :: rest).length (by simp)
    split
    · next hneg =>
      have hyear : -(year.natAbs : Int) = year := by omega
      have hminus : "-".toList = ['-'] := rfl
      simp only [String.toList_append, hminus, List.cons_append, List.nil_append,
        looseYear_minus, hread, Option.map_some, hyear]
    · next hpos =>
      have hyear : (year.natAbs : Int) = year := by omega
      have hplus : "+".toList = ['+'] := rfl
      simp only [String.toList_append, hplus, List.cons_append, List.nil_append,
        looseYear_plus, hread, Option.map_some, hyear]

theorem fraction_digits {digits rest : List Char} (hdigits : ∀ c ∈ digits, c.isDigit = true)
    (hne : digits ≠ []) (hlength : digits.length ≤ 9) (hend : EndsHere rest) :
    fraction ('.' :: (digits ++ rest)) =
      some (Text.digitsValue digits * 10 ^ (9 - digits.length), rest) := by
  have hnine : Text.digitsValue ((digits ++ List.replicate 9 '0').take 9) =
      Text.digitsValue digits * 10 ^ (9 - digits.length) := by
    rw [List.take_append, List.take_of_length_le hlength, List.take_replicate,
      Nat.min_eq_left (Nat.sub_le 9 _), Text.digitsValue_eq_ofDigitChars, Nat.ofDigitChars_append,
      Nat.ofDigitChars_replicate_zero, Text.digitsValue_eq_ofDigitChars, Nat.mul_comm]
  have htake := takeWhile_digits hdigits hend
  cases digits with
  | nil => exact absurd rfl hne
  | cons d digits => simp only [fraction, htake, hnine, List.drop_left]

theorem endsHere_fractionText (nanos : Nat) :
    EndsHere ((fractionText nanos).toList ++ ['Z']) := by
  have hpoint (digits : String) : EndsHere (("." ++ digits).toList ++ ['Z']) := by
    simp only [String.toList_append, List.append_assoc]
    exact endsHere_cons (c := '.') (by decide) _
  unfold fractionText
  split
  · exact endsHere_cons (by decide) []
  split
  · exact hpoint _
  split
  · exact hpoint _
  · exact hpoint _

theorem fraction_fractionText {nanos : Nat} (h : nanos < 1000000000) :
    fraction ((fractionText nanos).toList ++ ['Z']) = some (nanos, ['Z']) := by
  have hend : EndsHere ['Z'] := endsHere_cons (by decide) []
  have hread (k n : Nat) (hk : 0 < k) (hnine : k ≤ 9) (hn : n < 10 ^ k)
      (hvalue : n * 10 ^ (9 - k) = nanos) :
      fraction (("." ++ padded k n).toList ++ ['Z']) = some (nanos, ['Z']) := by
    have hlength := length_padded hk hn
    have hne : (padded k n).toList ≠ [] := List.ne_nil_of_length_pos (by omega)
    have hsplit : ("." ++ padded k n).toList ++ ['Z'] = '.' :: ((padded k n).toList ++ ['Z']) := by
      simp
    rw [hsplit, fraction_digits isDigit_padded hne (by omega) hend, digitsValue_padded, hlength,
      hvalue]
  unfold fractionText
  split
  · next hzero =>
    subst hzero
    rfl
  split
  · exact hread 3 _ (by decide) (by decide) (by omega) (by omega)
  split
  · exact hread 6 _ (by decide) (by decide) (by omega) (by omega)
  · exact hread 9 _ (by decide) (by decide) (by omega) (by omega)

/-! ## Moments -/

theorem text_toList (t : Timestamp) :
    (text t).toList =
      (yearText (Date.ofDays t.day).year).toList ++ '-' ::
        ((padded 2 (Date.ofDays t.day).month).toList ++ '-' ::
          ((padded 2 (Date.ofDays t.day).day).toList ++ 'T' ::
            ((padded 2 (t.secondOfDay / 3600)).toList ++ ':' ::
              ((padded 2 (t.secondOfDay / 60 % 60)).toList ++ ':' ::
                ((padded 2 (t.secondOfDay % 60 + t.nanos / nanosPerSecond)).toList ++
                  ((fractionText (t.nanos % nanosPerSecond)).toList ++ ['Z'])))))) := by
  have hhyphen : "-".toList = ['-'] := rfl
  have hcolon : ":".toList = [':'] := rfl
  have hseparator : "T".toList = ['T'] := rfl
  have hoffset : "Z".toList = ['Z'] := rfl
  simp only [text, textWith, String.toList_append, hhyphen, hcolon, hseparator, hoffset,
    List.append_assoc, List.cons_append, List.nil_append]

theorem toTime?_of_timestamp {t : Timestamp} (h : t.IsWritable) :
    Fields.toTime? ⟨Date.ofDays t.day, t.secondOfDay / 3600, t.secondOfDay / 60 % 60,
      t.secondOfDay % 60 + t.nanos / nanosPerSecond, t.nanos % nanosPerSecond, 0⟩ =
        some ⟨t, 0⟩ := by
  obtain ⟨hrange, hnanos⟩ := h
  have hseconds : t.day * secondsPerDay + t.secondOfDay = t.seconds := t.day_mul_add_secondOfDay
  have hsecond : min (t.secondOfDay % 60 + t.nanos / nanosPerSecond) 59 = t.secondOfDay % 60 := by
    unfold nanosPerSecond at *
    omega
  have hwhole : t.nanos % nanosPerSecond +
      (if t.secondOfDay % 60 + t.nanos / nanosPerSecond = 60 then nanosPerSecond else 0) =
        t.nanos := by
    unfold nanosPerSecond at *
    split <;> omega
  have hclock : t.day * secondsPerDay + (t.secondOfDay / 3600 : Nat) * 3600 +
      (t.secondOfDay / 60 % 60 : Nat) * 60 + (t.secondOfDay % 60 : Nat) = t.seconds := by
    omega
  have hstart : (⟨t.seconds, 0⟩ : Timestamp).isInRange = true := hrange
  simp only [Fields.toTime?, Date.isValid_ofDays, Date.toDays_ofDays, hsecond, hclock, hwhole,
    Int.sub_zero, hstart, hrange]
  simp

theorem parseLoose?_text {t : Timestamp} (h : t.IsWritable) :
    parseLoose? (text t) = some ⟨t, 0⟩ := by
  obtain ⟨hmonth, hmonth', hday, hday'⟩ := Date.bounds_of_isValid (Date.isValid_ofDays t.day)
  have hclock := t.secondOfDay_lt
  have hsecond : t.secondOfDay % 60 + t.nanos / nanosPerSecond ≤ 60 := by
    have := h.2
    unfold nanosPerSecond at *
    omega
  have hnanos : t.nanos % nanosPerSecond < 1000000000 := Nat.mod_lt _ (by decide)
  have hhyphen (rest : List Char) : looseChar '-' ('-' :: rest) = some rest := rfl
  have hcolon (rest : List Char) : looseChar ':' (':' :: rest) = some rest := rfl
  have hsep (rest : List Char) : separator ('T' :: rest) = some rest := rfl
  have hoffset : looseOffset (Text.skipBlank ['Z']) = some (0, []) := rfl
  have hfield {least most n : Nat} (hleast : least ≤ n) (hmost : n ≤ most) (hn : n < 100)
      (c : Char) (hc : c.isDigit = false) (rest : List Char) :
      looseField least most ((padded 2 n).toList ++ c :: rest) = some (n, c :: rest) :=
    looseField_padded hleast hmost hn (endsHere_cons hc rest)
  have hhour : t.secondOfDay / 3600 ≤ 23 := by omega
  have hminute : t.secondOfDay / 60 % 60 ≤ 59 := by omega
  rw [parseLoose?, text_toList]
  -- One step for each part of the text, from its front.
  refine Option.bind_eq_some_iff.2 ⟨_, looseYear_yearText _ _, ?_⟩
  refine Option.bind_eq_some_iff.2 ⟨_, hhyphen _, ?_⟩
  refine Option.bind_eq_some_iff.2 ⟨_, hfield hmonth hmonth' (by omega) '-' (by decide) _, ?_⟩
  refine Option.bind_eq_some_iff.2 ⟨_, hhyphen _, ?_⟩
  refine Option.bind_eq_some_iff.2 ⟨_, hfield hday hday' (by omega) 'T' (by decide) _, ?_⟩
  refine Option.bind_eq_some_iff.2 ⟨_, hsep _, ?_⟩
  refine Option.bind_eq_some_iff.2
    ⟨_, hfield (Nat.zero_le _) hhour (by omega) ':' (by decide) _, ?_⟩
  refine Option.bind_eq_some_iff.2 ⟨_, hcolon _, ?_⟩
  refine Option.bind_eq_some_iff.2
    ⟨_, hfield (Nat.zero_le _) hminute (by omega) ':' (by decide) _, ?_⟩
  refine Option.bind_eq_some_iff.2 ⟨_, hcolon _, ?_⟩
  refine Option.bind_eq_some_iff.2
    ⟨_, looseField_padded (Nat.zero_le _) hsecond (by omega) (endsHere_fractionText _), ?_⟩
  refine Option.bind_eq_some_iff.2 ⟨_, fraction_fractionText hnanos, ?_⟩
  refine Option.bind_eq_some_iff.2 ⟨_, hoffset, ?_⟩
  exact toTime?_of_timestamp h

/-! ## What is read -/

theorem digitsValue_lt {digits : List Char} (h : ∀ c ∈ digits, c.isDigit = true) :
    Text.digitsValue digits < 10 ^ digits.length := by
  rw [Text.digitsValue_eq_ofDigitChars]
  induction digits using List.reverseRecOn with
  | nil => decide
  | append_singleton digits c ih =>
      have hc := Char.isDigit_iff_toNat.1 (h c (by simp))
      have hfirst : '0'.toNat = 48 := rfl
      have hlast : '9'.toNat = 57 := rfl
      have hbound := ih fun d hd => h d (List.mem_append_left _ hd)
      rw [Nat.ofDigitChars_append, Nat.ofDigitChars_cons, Nat.ofDigitChars_nil,
        List.length_append, List.length_singleton, Nat.pow_succ]
      omega

theorem fraction_lt {cs rest : List Char} {nanos : Nat} (h : fraction cs = some (nanos, rest)) :
    nanos < nanosPerSecond := by
  unfold fraction at h
  split at h
  · next rest' =>
    split at h
    · cases h
    · obtain ⟨rfl, -⟩ := Prod.mk.inj (Option.some.inj h)
      have hlength :
          ((rest'.takeWhile Char.isDigit ++ List.replicate 9 '0').take 9).length = 9 := by
        simp
      have hdigits : ∀ c ∈ (rest'.takeWhile Char.isDigit ++ List.replicate 9 '0').take 9,
          c.isDigit = true := by
        intro c hc
        rcases List.mem_append.1 (List.mem_of_mem_take hc) with hc | hc
        · exact List.mem_takeWhile_imp hc
        · obtain rfl := List.eq_of_mem_replicate hc
          decide
      have hlt := digitsValue_lt hdigits
      rwa [hlength] at hlt
  · obtain ⟨rfl, -⟩ := Prod.mk.inj (Option.some.inj h)
    decide

/-- An offset is written in hours and minutes. -/
theorem dvd_of_looseOffset {cs rest : List Char} {offset : Int}
    (h : looseOffset cs = some (offset, rest)) : 60 ∣ offset := by
  unfold looseOffset at h
  split at h
  · obtain ⟨rfl, -⟩ := Prod.mk.inj (Option.some.inj h)
    exact Int.dvd_zero 60
  · unfold Rfc3339.offset at h
    split at h
    · obtain ⟨rfl, -⟩ := Prod.mk.inj (Option.some.inj h)
      exact Int.dvd_zero 60
    · obtain ⟨rfl, -⟩ := Prod.mk.inj (Option.some.inj h)
      exact Int.dvd_zero 60
    · simp only [bind, Option.bind_eq_some_iff] at h
      obtain ⟨⟨sign, _⟩, -, ⟨hours, _⟩, -, _, -, ⟨minutes, _⟩, -, h⟩ := h
      obtain ⟨rfl, -⟩ := Prod.mk.inj (Option.some.inj h)
      have hminutes : (60 : Int) ∣ hours * 3600 + minutes * 60 := by omega
      exact Int.dvd_mul_of_dvd_right hminutes

theorem isWritable_of_toTime? {f : Fields} {w : OffsetTime} (h : f.toTime? = some w)
    (hnanos : f.nanos < nanosPerSecond) (hoffset : 60 ∣ f.offset) : w.moment.IsWritable := by
  simp only [Fields.toTime?, Option.ite_none_right_eq_some, Option.some.injEq] at h
  obtain ⟨-, ⟨-, hrange⟩, rfl⟩ := h
  refine ⟨hrange, ?_⟩
  by_cases hleap : f.second = 60
  · right
    have hlast : min f.second 59 = 59 := by omega
    simp only [hleap, if_true, Timestamp.secondOfDay, secondsPerDay]
    rw [Int.fmod_eq_emod_of_nonneg _ (by decide)]
    omega
  · left
    simpa only [hleap, if_false, Nat.add_zero] using hnanos

/-- What is read of a text is a moment that has one. -/
theorem isWritable_of_parseLoose? {s : String} {w : OffsetTime} (h : parseLoose? s = some w) :
    w.moment.IsWritable := by
  unfold parseLoose? at h
  obtain ⟨⟨year, _⟩, -, h⟩ := Option.bind_eq_some_iff.1 h
  obtain ⟨_, -, h⟩ := Option.bind_eq_some_iff.1 h
  obtain ⟨⟨month, _⟩, -, h⟩ := Option.bind_eq_some_iff.1 h
  obtain ⟨_, -, h⟩ := Option.bind_eq_some_iff.1 h
  obtain ⟨⟨day, _⟩, -, h⟩ := Option.bind_eq_some_iff.1 h
  obtain ⟨_, -, h⟩ := Option.bind_eq_some_iff.1 h
  obtain ⟨⟨hour, _⟩, -, h⟩ := Option.bind_eq_some_iff.1 h
  obtain ⟨_, -, h⟩ := Option.bind_eq_some_iff.1 h
  obtain ⟨⟨minute, _⟩, -, h⟩ := Option.bind_eq_some_iff.1 h
  obtain ⟨_, -, h⟩ := Option.bind_eq_some_iff.1 h
  obtain ⟨⟨second, _⟩, -, h⟩ := Option.bind_eq_some_iff.1 h
  obtain ⟨⟨nanos, _⟩, hnanos, h⟩ := Option.bind_eq_some_iff.1 h
  obtain ⟨⟨offset, _⟩, hoffset, h⟩ := Option.bind_eq_some_iff.1 h
  rw [Option.ite_none_right_eq_some] at h
  exact isWritable_of_toTime? h.2 (fraction_lt hnanos) (dvd_of_looseOffset hoffset)

end Rfc3339

end Orchestrator
