import Mathlib.Data.Nat.Digits.Defs
import Orchestrator.Cron.Parser
import Orchestrator.Proofs.Except
import Orchestrator.Proofs.Text.Cuts

/-!
The language of the parts of a schedule, and that the reader reads exactly this language.

The grammar is stated on its own, from numbers up to fields. It can be read from left to right
because none of the signs between parts, values and steps occurs in a value.
-/

namespace Orchestrator.Cron

open Text (cutAt?)

/-! ## The grammar -/

/-- Decimal digits, perhaps with a plus sign in front, write a number below 2^32. -/
def IsNumber (cs : List Char) (n : Nat) : Prop :=
  ∃ digits : List Char, digits ≠ [] ∧ (∀ c ∈ digits, c.isDigit = true) ∧
    (cs = digits ∨ cs = '+' :: digits) ∧
    n = Nat.ofDigits 10 (digits.reverse.map fun c => c.toNat - '0'.toNat) ∧ n < 2 ^ 32

/-- A value is a number or one of the field's names, which are in capitals, in any case. -/
inductive IsValue (f : Field) : List Char → Nat → Prop where
  | number {cs : List Char} {n : Nat} (h : IsNumber cs n) : IsValue f cs n
  | named {cs : List Char} {name : String} {i : Nat} (hname : f.names[i]? = some name)
      (hcase : cs.map Char.toUpper = name.toList) : IsValue f cs (i + f.namedFrom)

/-- What a part runs over. One value runs to the end of the range if there is a step. -/
inductive IsSpan (f : Field) : Bool → List Char → Nat → Nat → Prop where
  | star {stepped : Bool} : IsSpan f stepped ['*'] f.low f.high
  | anyValue {stepped : Bool} : IsSpan f stepped ['?'] f.low f.high
  | single {cs : List Char} {n : Nat} (h : IsValue f cs n) : IsSpan f false cs n n
  | openEnd {cs : List Char} {n : Nat} (h : IsValue f cs n) : IsSpan f true cs n f.high
  | range {stepped : Bool} {cs ds : List Char} {m n : Nat} (hfirst : IsValue f cs m)
      (hlast : IsValue f ds n) : IsSpan f stepped (cs ++ '-' :: ds) m n

/-- A part runs within the range of its field, in steps of one or of what stands behind a slash. -/
inductive IsPart (f : Field) : List Char → Part → Prop where
  | plain {cs : List Char} {first last : Nat} (h : IsSpan f false cs first last)
      (hlow : f.low ≤ first) (hle : first ≤ last) (hhigh : last ≤ f.high) :
      IsPart f cs ⟨first, last, 1⟩
  | stepped {cs ds : List Char} {first last n : Nat} (h : IsSpan f true cs first last)
      (hstep : IsNumber ds n) (hpos : 0 < n)
      (hlow : f.low ≤ first) (hle : first ≤ last) (hhigh : last ≤ f.high) :
      IsPart f (cs ++ '/' :: ds) ⟨first, last, n⟩

/-- A field is one part or more, with commas between them. -/
def IsField (f : Field) (cs : List Char) (ps : List Part) : Prop :=
  ∃ words, words ≠ [] ∧ cs = [','].intercalate words ∧ List.Forall₂ (IsPart f) words ps

/-- The fields of an expression. -/
def Field.all : List Field := [.minute, .hour, .dayOfMonth, .month, .weekday]

/-- Names are written in capital letters and are told apart, and the range is not empty. -/
structure Field.Plain (f : Field) : Prop where
  nonempty : ∀ name ∈ f.names, name.toList ≠ []
  letters : ∀ name ∈ f.names, ∀ c ∈ name.toList, c.isUpper = true
  distinct : f.names.Nodup
  low_le_high : f.low ≤ f.high

theorem Field.plain_of_mem {f : Field} (h : f ∈ Field.all) : f.Plain := by
  have hletters : ∀ f ∈ Field.all,
      (f.names.all fun name => name.toList.all Char.isUpper) = true := by
    decide +kernel
  have hnonempty : ∀ f ∈ Field.all, ∀ name ∈ f.names, name.toList ≠ [] := by decide +kernel
  have hdistinct : ∀ f ∈ Field.all, f.names.Nodup := by decide +kernel
  have hrange : ∀ f ∈ Field.all, f.low ≤ f.high := by decide +kernel
  refine ⟨hnonempty f h, fun name hname c hc => ?_, hdistinct f h, hrange f h⟩
  have hname := List.all_eq_true.1 (hletters f h) name hname
  exact List.all_eq_true.1 hname c hc

/-! ## Characters -/

/-- The characters of which numbers and names are made. -/
def isValueChar (c : Char) : Bool := c.isDigit || c == '+' || c.isAlpha

theorem IsNumber.chars {cs : List Char} {n : Nat} (h : IsNumber cs n) :
    ∀ c ∈ cs, c.isDigit = true ∨ c = '+' := by
  obtain ⟨digits, -, hdigits, rfl | rfl, -⟩ := h
  · exact fun c hc => .inl (hdigits c hc)
  · intro c hc
    rcases List.mem_cons.1 hc with rfl | hc
    · exact .inr rfl
    · exact .inl (hdigits c hc)

theorem isAlpha_eq (c : Char) : c.isAlpha = (c.isUpper || c.isLower) := rfl

theorem isAlpha_of_toUpper {c : Char} (h : c.toUpper.isUpper = true) : c.isAlpha = true := by
  rw [isAlpha_eq, Bool.or_eq_true]
  unfold Char.toUpper at h
  split at h
  · next hlower =>
    right
    change (decide (c.val ≥ 'a'.val) && decide (c.val ≤ 'z'.val)) = true
    simpa using hlower
  · exact .inl h

theorem IsValue.chars {f : Field} (hf : f.Plain) {cs : List Char} {n : Nat} (h : IsValue f cs n) :
    ∀ c ∈ cs, isValueChar c = true := by
  cases h with
  | number hnumber =>
      intro c hc
      rcases hnumber.chars c hc with hdigit | rfl
      · simp [isValueChar, hdigit]
      · decide
  | named hname hcase =>
      intro c hc
      have hmem : c.toUpper ∈ cs.map Char.toUpper := List.mem_map_of_mem hc
      rw [hcase] at hmem
      have halpha := isAlpha_of_toUpper (hf.letters _ (List.mem_of_getElem? hname) _ hmem)
      simp [isValueChar, halpha]

/-- The signs of the grammar are no characters of values. -/
theorem IsValue.not_mem {f : Field} (hf : f.Plain) {cs : List Char} {n : Nat}
    (h : IsValue f cs n) {sign : Char} (hsign : isValueChar sign = false) : sign ∉ cs := by
  intro hmem
  rw [h.chars hf sign hmem] at hsign
  cases hsign

theorem IsNumber.not_mem {cs : List Char} {n : Nat} (h : IsNumber cs n) {sign : Char}
    (hsign : isValueChar sign = false) : sign ∉ cs := by
  intro hmem
  rcases h.chars sign hmem with hdigit | rfl
  · simp [isValueChar, hdigit] at hsign
  · simp [isValueChar] at hsign

/-- The signs that may stand in a span. -/
def spanSigns : List Char := ['*', '?', '-']

theorem IsSpan.not_mem {f : Field} (hf : f.Plain) {stepped : Bool} {cs : List Char}
    {first last : Nat} (h : IsSpan f stepped cs first last) {sign : Char}
    (hsign : isValueChar sign = false) (hspan : sign ∉ spanSigns) : sign ∉ cs := by
  simp only [spanSigns, List.mem_cons, List.not_mem_nil, or_false, not_or] at hspan
  cases h with
  | star => simpa using hspan.1
  | anyValue => simpa using hspan.2.1
  | single hvalue => exact hvalue.not_mem hf hsign
  | openEnd hvalue => exact hvalue.not_mem hf hsign
  | range hfirst hlast =>
      simp only [List.mem_append, List.mem_cons, not_or]
      exact ⟨hfirst.not_mem hf hsign, hspan.2.2, hlast.not_mem hf hsign⟩

theorem IsPart.not_mem {f : Field} (hf : f.Plain) {cs : List Char} {p : Part} (h : IsPart f cs p)
    {sign : Char} (hsign : isValueChar sign = false) (hspan : sign ∉ spanSigns)
    (hslash : sign ≠ '/') : sign ∉ cs := by
  cases h with
  | plain h => exact h.not_mem hf hsign hspan
  | stepped h hstep =>
      simp only [List.mem_append, List.mem_cons, not_or]
      exact ⟨h.not_mem hf hsign hspan, hslash, hstep.not_mem hsign⟩

/-! ## Numbers and values -/

theorem digitsValue_eq_ofDigits (digits : List Char) :
    Text.digitsValue digits =
      Nat.ofDigits 10 (digits.reverse.map fun c => c.toNat - '0'.toNat) := by
  rw [Nat.ofDigits_eq_foldr, List.foldr_map, List.foldr_reverse, Text.digitsValue]
  congr 1
  funext acc c
  simp only [Text.digitValue, Nat.cast_id]
  omega

theorem number?_digits {digits : List Char} {n : Nat} :
    (if digits.isEmpty ∨ !digits.all Char.isDigit then none
      else if Text.digitsValue digits < numberBound then some (Text.digitsValue digits)
        else none) = some n ↔
      digits ≠ [] ∧ (∀ c ∈ digits, c.isDigit = true) ∧
        n = Nat.ofDigits 10 (digits.reverse.map fun c => c.toNat - '0'.toNat) ∧ n < 2 ^ 32 := by
  rw [digitsValue_eq_ofDigits]
  generalize Nat.ofDigits 10 (digits.reverse.map fun c => c.toNat - '0'.toNat) = v
  have hbound : numberBound = 2 ^ 32 := rfl
  rw [hbound]
  by_cases hempty : digits = []
  · simp [hempty]
  by_cases hdigits : ∀ c ∈ digits, c.isDigit = true
  · have hall : digits.all Char.isDigit = true := List.all_eq_true.2 hdigits
    simp only [List.isEmpty_iff, hempty, hall, Bool.not_true, Bool.false_eq_true, or_self, if_false,
      Option.ite_none_right_eq_some, Option.some.injEq, ne_eq, not_false_eq_true, true_and]
    constructor
    · rintro ⟨hlt, rfl⟩
      exact ⟨hdigits, rfl, hlt⟩
    · rintro ⟨-, rfl, hlt⟩
      exact ⟨hlt, rfl⟩
  · have hall : digits.all Char.isDigit = false := by
      rw [← Bool.not_eq_true, List.all_eq_true]
      exact hdigits
    simp [hall, hdigits]

theorem number?_eq_some {cs : List Char} {n : Nat} : number? cs = some n ↔ IsNumber cs n := by
  have hplus : ∀ rest : List Char, ¬ ∀ c ∈ '+' :: rest, c.isDigit = true := by
    intro rest h
    exact absurd (h '+' List.mem_cons_self) (by decide)
  unfold number?
  dsimp only
  rw [number?_digits]
  split
  · next rest =>
    constructor
    · rintro ⟨hne, hdigits, hvalue⟩
      exact ⟨rest, hne, hdigits, .inr rfl, hvalue⟩
    · rintro ⟨digits, hne, hdigits, heq | heq, hvalue⟩
      · exact absurd hdigits (heq ▸ hplus rest)
      · obtain rfl := (List.cons.inj heq).2
        exact ⟨hne, hdigits, hvalue⟩
  · next hsign =>
    constructor
    · rintro ⟨hne, hdigits, hvalue⟩
      exact ⟨cs, hne, hdigits, .inl rfl, hvalue⟩
    · rintro ⟨digits, hne, hdigits, rfl | heq, hvalue⟩
      · exact ⟨hne, hdigits, hvalue⟩
      · exact absurd heq (hsign digits)

theorem isDigit_eq_false_of_isAlpha {c : Char} (h : c.isAlpha = true) : c.isDigit = false := by
  rw [isAlpha_eq] at h
  change (decide (c.val ≥ 'A'.val ∧ c.val ≤ 'Z'.val) ||
    decide (c.val ≥ 'a'.val) && decide (c.val ≤ 'z'.val)) = true at h
  simp only [Bool.or_eq_true, Bool.and_eq_true, decide_eq_true_eq, ge_iff_le,
    UInt32.le_iff_toNat_le] at h
  have hA : 'A'.val.toNat = 65 := rfl
  have ha : 'a'.val.toNat = 97 := rfl
  have h9 : '9'.val.toNat = 57 := rfl
  rw [← Bool.not_eq_true]
  simp only [Char.isDigit, Bool.and_eq_true, decide_eq_true_eq, ge_iff_le,
    UInt32.le_iff_toNat_le, not_and]
  omega

/-- No name is a number. -/
theorem not_isNumber_of_named {f : Field} (hf : f.Plain) {cs : List Char} {name : String}
    (hname : name ∈ f.names) (hcase : cs.map Char.toUpper = name.toList) (n : Nat) :
    ¬ IsNumber cs n := by
  intro h
  cases cs with
  | nil => exact hf.nonempty name hname hcase.symm
  | cons c cs =>
      have hmem : c.toUpper ∈ (c :: cs).map Char.toUpper := List.mem_map_of_mem List.mem_cons_self
      rw [hcase] at hmem
      have halpha := isAlpha_of_toUpper (hf.letters name hname _ hmem)
      rcases h.chars c List.mem_cons_self with hdigit | rfl
      · rw [isDigit_eq_false_of_isAlpha halpha] at hdigit
        cases hdigit
      · cases halpha

theorem value_eq_ok {f : Field} (hf : f.Plain) {cs : List Char} {n : Nat} :
    value f cs = .ok n ↔ IsValue f cs n := by
  unfold value
  split
  · next m hm =>
    have hnumber := number?_eq_some.1 hm
    constructor
    · intro h
      obtain rfl := Except.ok.inj h
      exact .number hnumber
    · intro h
      cases h with
      | number hn => rw [Option.some.inj (hm.symm.trans (number?_eq_some.2 hn))]
      | named hname hcase =>
          exact absurd hnumber (not_isNumber_of_named hf (List.mem_of_getElem? hname) hcase m)
  · next hnone =>
    split
    · next i hi =>
      obtain ⟨hlt, hcase, -⟩ := List.findIdx?_eq_some_iff_getElem.1 hi
      have hcase : f.names[i].toList = cs.map Char.toUpper := by simpa using hcase
      constructor
      · intro h
        obtain rfl := Except.ok.inj h
        exact .named (List.getElem?_eq_getElem hlt) hcase.symm
      · intro h
        cases h with
        | number hn => rw [number?_eq_some.2 hn] at hnone; cases hnone
        | @named name j hname hcase' =>
            -- Two names that are the same text stand in the same place.
            have hsame : f.names[i] = name := String.toList_inj.1 (hcase.trans hcase')
            have hplace : f.names[i]? = f.names[j]? := by
              rw [List.getElem?_eq_getElem hlt, hname, hsame]
            rw [(List.getElem?_inj hlt hf.distinct).1 hplace]
    · next hunknown =>
      constructor
      · intro h
        cases h
      · intro h
        cases h with
        | number hn => rw [number?_eq_some.2 hn] at hnone; cases hnone
        | named hname hcase =>
            have hne := List.findIdx?_eq_none_iff.1 hunknown _ (List.mem_of_getElem? hname)
            simp [hcase] at hne

theorem step_eq_ok {cs : List Char} {n : Nat} : step cs = .ok n ↔ IsNumber cs n ∧ 0 < n := by
  rw [← number?_eq_some]
  unfold step
  split
  · next h => simp [h]
  · next h => simp [h]; omega
  · next m hm h =>
    simp only [h, Except.ok.injEq, Option.some.injEq]
    constructor
    · rintro rfl
      exact ⟨rfl, Nat.pos_of_ne_zero hm⟩
    · exact fun h => h.1

/-! ## Parts and fields -/

theorem isWildcard_iff {cs : List Char} : isWildcard cs = true ↔ cs = ['*'] ∨ cs = ['?'] := by
  simp [isWildcard]

theorem span_eq_ok {f : Field} (hf : f.Plain) {stepped : Bool} {cs : List Char}
    {first last : Nat} :
    span f stepped cs = .ok (first, last) ↔ IsSpan f stepped cs first last := by
  unfold span
  split
  · next hwild =>
    have hsigns : cs = ['*'] ∨ cs = ['?'] := isWildcard_iff.1 hwild
    have hvalue : ∀ n, ¬ IsValue f cs n := by
      rintro n h
      rcases hsigns with rfl | rfl
      · have hsign : isValueChar '*' = false := by decide
        exact h.not_mem hf hsign List.mem_cons_self
      · have hsign : isValueChar '?' = false := by decide
        exact h.not_mem hf hsign List.mem_cons_self
    constructor
    · intro h
      obtain ⟨rfl, rfl⟩ := Prod.mk.inj (Except.ok.inj h)
      rcases hsigns with rfl | rfl
      · exact .star
      · exact .anyValue
    · intro h
      cases h with
      | star | anyValue => rfl
      | single h | openEnd h => exact absurd h (hvalue _)
      | range hfirst => rcases hsigns with heq | heq <;> simp [List.append_eq_cons_iff] at heq
  · next hwild =>
    rw [isWildcard_iff, not_or] at hwild
    split
    · next front rest hcut =>
      obtain ⟨rfl, hfree⟩ := Text.cutAt?_eq_some.1 hcut
      have hvalue : ∀ n, ¬ IsValue f (front ++ '-' :: rest) n := by
        intro n h
        have hsign : isValueChar '-' = false := by decide
        exact h.not_mem hf hsign (by simp)
      simp only [bind_eq_ok, value_eq_ok hf, pure, Except.pure, Except.ok.injEq, Prod.mk.injEq]
      constructor
      · rintro ⟨m, hm, n, hn, rfl, rfl⟩
        exact .range hm hn
      · intro h
        generalize hcs : front ++ '-' :: rest = cs at h hvalue hwild
        cases h with
        | star => exact absurd rfl hwild.1
        | anyValue => exact absurd rfl hwild.2
        | single h | openEnd h => exact absurd h (hvalue _)
        | @range _ front' rest' m n hfirst hlast =>
            have hfree' : '-' ∉ front' := hfirst.not_mem hf (by decide)
            have hcut' := Text.cutAt?_eq_some.2 ⟨hcs, hfree'⟩
            rw [hcut] at hcut'
            obtain ⟨rfl, rfl⟩ := Prod.mk.inj (Option.some.inj hcut')
            exact ⟨_, hfirst, _, hlast, rfl, rfl⟩
    · next hcut =>
      have hfree : '-' ∉ cs := Text.cutAt?_eq_none.1 hcut
      simp only [bind_eq_ok, value_eq_ok hf, pure, Except.pure, Except.ok.injEq, Prod.mk.injEq]
      constructor
      · rintro ⟨n, hn, rfl, rfl⟩
        cases stepped with
        | false => exact .single hn
        | true => exact .openEnd hn
      · intro h
        cases h with
        | star => exact absurd rfl hwild.1
        | anyValue => exact absurd rfl hwild.2
        | single h | openEnd h => exact ⟨_, h, rfl, rfl⟩
        | range => simp at hfree

theorem checked_eq_ok {f : Field} {p q : Part} :
    checked f p = .ok q ↔ (f.low ≤ p.first ∧ p.first ≤ p.last ∧ p.last ≤ f.high) ∧ p = q := by
  unfold checked
  split
  · next h =>
    have hbounds : f.low ≤ p.first ∧ p.first ≤ p.last ∧ p.last ≤ f.high := ⟨h.1, h.2.2, h.2.1⟩
    simp [hbounds]
  · next h =>
    simp only [reduceCtorEq, false_iff, not_and]
    rintro ⟨hlow, hle, hhigh⟩
    exact absurd ⟨hlow, hhigh, hle⟩ h

theorem part_eq_ok {f : Field} (hf : f.Plain) {cs : List Char} {p : Part} :
    part f cs = .ok p ↔ IsPart f cs p := by
  have hslash : ∀ {stepped cs first last}, IsSpan f stepped cs first last → '/' ∉ cs :=
    fun h => h.not_mem hf (by decide) (by decide)
  unfold part
  split
  · next front steps hcut =>
    obtain ⟨rfl, hfree⟩ := Text.cutAt?_eq_some.1 hcut
    simp only [bind_eq_ok, step_eq_ok, Prod.exists, span_eq_ok hf, checked_eq_ok]
    constructor
    · rintro ⟨n, ⟨hn, hpos⟩, first, last, hspan, ⟨hlow, hle, hhigh⟩, rfl⟩
      exact .stepped hspan hn hpos hlow hle hhigh
    · intro h
      generalize hcs : front ++ '/' :: steps = cs at h
      cases h with
      | plain hspan =>
          rw [← hcs] at hspan
          exact absurd (by simp) (hslash hspan)
      | @stepped front' steps' first last n hspan hstep hpos hlow hle hhigh =>
          have hcut' := Text.cutAt?_eq_some.2 ⟨hcs, hslash hspan⟩
          rw [hcut] at hcut'
          obtain ⟨rfl, rfl⟩ := Prod.mk.inj (Option.some.inj hcut')
          exact ⟨n, ⟨hstep, hpos⟩, first, last, hspan, ⟨hlow, hle, hhigh⟩, rfl⟩
  · next hcut =>
    have hfree : '/' ∉ cs := Text.cutAt?_eq_none.1 hcut
    simp only [bind_eq_ok, Prod.exists, span_eq_ok hf, checked_eq_ok]
    constructor
    · rintro ⟨first, last, hspan, ⟨hlow, hle, hhigh⟩, rfl⟩
      exact .plain hspan hlow hle hhigh
    · intro h
      cases h with
      | plain hspan hlow hle hhigh => exact ⟨_, _, hspan, ⟨hlow, hle, hhigh⟩, rfl⟩
      | stepped => simp at hfree

theorem parts_eq_ok {f : Field} (hf : f.Plain) {words : List (List Char)} {ps : List Part} :
    parts f words = .ok ps ↔ List.Forall₂ (IsPart f) words ps := by
  induction words generalizing ps with
  | nil =>
      simp only [parts, Except.ok.injEq]
      constructor
      · rintro rfl
        exact .nil
      · intro h
        cases h
        rfl
  | cons cs rest ih =>
      simp only [parts, bind_eq_ok, part_eq_ok hf, ih, pure, Except.pure, Except.ok.injEq]
      constructor
      · rintro ⟨p, hp, qs, hqs, rfl⟩
        exact .cons hp hqs
      · intro h
        cases h with
        | cons hp hqs => exact ⟨_, hp, _, hqs, rfl⟩

theorem not_mem_of_parts {f : Field} (hf : f.Plain) {words : List (List Char)} {ps : List Part}
    (h : List.Forall₂ (IsPart f) words ps) {sign : Char} (hsign : isValueChar sign = false)
    (hspan : sign ∉ spanSigns) (hslash : sign ≠ '/') : ∀ w ∈ words, sign ∉ w := by
  induction h with
  | nil => simp
  | cons hp _ ih =>
      rw [List.forall_mem_cons]
      exact ⟨hp.not_mem hf hsign hspan hslash, ih⟩

/-- A field is cut into the parts that its text has been put together from. -/
theorem isField_iff {f : Field} (hf : f.Plain) {cs : List Char} {ps : List Part} :
    IsField f cs ps ↔ List.Forall₂ (IsPart f) (Text.splitAt ',' cs) ps := by
  rw [Text.splitAt_eq_splitOn]
  constructor
  · rintro ⟨words, hne, rfl, hwords⟩
    have hfree : ∀ w ∈ words, ',' ∉ w :=
      not_mem_of_parts hf hwords (by decide) (by decide) (by decide)
    rwa [List.splitOn_intercalate ',' hfree hne]
  · intro hwords
    exact ⟨cs.splitOn ',', List.splitOn_ne_nil ',' cs, (List.intercalate_splitOn ',').symm, hwords⟩

theorem fieldValues_eq_ok {f : Field} (hf : f.Plain) {cs : List Char} {values : List Nat} :
    fieldValues f cs = .ok values ↔ ∃ ps, IsField f cs ps ∧ values = f.valuesOf ps := by
  simp only [isField_iff hf, ← parts_eq_ok hf]
  unfold fieldValues
  constructor
  · intro h
    split at h
    · next ps hps => exact ⟨ps, hps, (Except.ok.inj h).symm⟩
    · cases h
  · rintro ⟨ps, hps, rfl⟩
    rw [hps]

end Orchestrator.Cron
