import Orchestrator.Text.Digits

/-!
Numbers that are written in digits and read back.
-/

namespace Orchestrator.Text

theorem digitsValue_eq_ofDigitChars (digits : List Char) :
    digitsValue digits = Nat.ofDigitChars 10 digits 0 := by
  rw [digitsValue, Nat.ofDigitChars_eq_foldl]
  congr 1
  funext n c
  rw [Nat.mul_comm, digitValue]

theorem hexValue?_digitChar : ∀ d < 16, hexValue? (Nat.digitChar d) = some d := by
  decide

theorem hexValue?_hexDigit (n : Nat) : hexValue? (hexDigit n) = some (n % 16) :=
  hexValue?_digitChar (n % 16) (Nat.mod_lt n (by decide))

theorem hexDigit_inj {m n : Nat} (h : hexDigit m = hexDigit n) : m % 16 = n % 16 := by
  have hvalues : hexValue? (hexDigit m) = hexValue? (hexDigit n) := by rw [h]
  rw [hexValue?_hexDigit, hexValue?_hexDigit] at hvalues
  exact Option.some.inj hvalues

theorem hexPair_inj {m n : Nat} (hm : m < 256) (hn : n < 256) (h : hexPair m = hexPair n) :
    m = n := by
  obtain ⟨hhigh, hlow⟩ := List.cons.inj h
  have hhigh := hexDigit_inj hhigh
  have hlow := hexDigit_inj (List.cons.inj hlow).1
  omega

/-- The digit at the end counts once, those before it count as often as the base says. -/
theorem digitsIn?_append_digitChar {base d : Nat} (hbase : base ≤ 16) (hd : d < base)
    (digits : List Char) :
    digitsIn? base (digits ++ [Nat.digitChar d]) =
      (digitsIn? base digits).map fun n => n * base + d := by
  have hvalue : hexValue? (Nat.digitChar d) = some d :=
    hexValue?_digitChar d (Nat.lt_of_lt_of_le hd hbase)
  rw [digitsIn?, List.foldlM_append, ← digitsIn?]
  cases digitsIn? base digits with
  | none => rfl
  | some n => simp [pushDigit?, hvalue, hd]

theorem digitsIn?_zeros {base : Nat} (hbase : 0 < base) (count : Nat) (digits : List Char) :
    digitsIn? base (List.replicate count '0' ++ digits) = digitsIn? base digits := by
  have hzero : hexValue? '0' = some 0 := hexValue?_digitChar 0 (by decide)
  induction count with
  | zero => rfl
  | succ count ih =>
      rw [List.replicate_succ, List.cons_append, digitsIn?, List.foldlM_cons, ← ih]
      simp [pushDigit?, hzero, hbase, digitsIn?]

theorem digitsIn?_toDigits {base : Nat} (hbase : 1 < base) (hle : base ≤ 16) (n : Nat) :
    digitsIn? base (Nat.toDigits base n) = some n := by
  induction n using Nat.strongRecOn with
  | ind n ih =>
      by_cases hsmall : n < base
      · rw [Nat.toDigits_of_lt_base hsmall, ← List.nil_append [_],
          digitsIn?_append_digitChar hle hsmall]
        simp [digitsIn?]
      · have hlast : n % base < base := Nat.mod_lt n (by omega)
        have hhead := ih (n / base) (Nat.div_lt_self (by omega) hbase)
        rw [Nat.toDigits_of_base_le hbase (by omega), digitsIn?_append_digitChar hle hlast, hhead,
          Option.map_some, Nat.div_add_mod']

end Orchestrator.Text
