import Mathlib.Algebra.GroupWithZero.Nat
import Orchestrator.Proofs.Text.Digits
import Orchestrator.Uuid

/-!
The text of an identifier reads back to the identifier.

Its 32 digits are a numeral to the base sixteen with zeros in front. The reader takes the text for
one with hyphens, because with them it is longer than the digits alone and shorter than the wrapped
forms.
-/

namespace Orchestrator.Uuid

theorem digitsValue?_digits (u : Uuid) : digitsValue? 0 u.digits = some u.bits.toNat := by
  change Text.digitsIn? 16 u.digits = _
  rw [digits, Text.digitsIn?_zeros (by decide), Text.digitsIn?_toDigits (by decide) (by decide)]

theorem length_digits (u : Uuid) : u.digits.length = 32 := by
  have hbits : u.bits.toNat < 16 ^ 32 := u.bits.isLt
  have hle := (Nat.length_toDigits_le_iff (by decide : 1 < 16) (by decide : 0 < 32)).2 hbits
  simp only [digits, List.length_append, List.length_replicate]
  omega

/-! ## Hyphens -/

theorem length_hyphenated {groups : List Nat} {cs : List Char} (h : cs.length = groups.sum)
    (hne : groups ≠ []) : (hyphenated groups cs).length + 1 = groups.sum + groups.length := by
  induction groups generalizing cs with
  | nil => exact absurd rfl hne
  | cons n rest ih =>
      cases rest with
      | nil => simp_all [hyphenated]
      | cons m rest =>
          simp only [List.sum_cons] at h ih
          have hlength : (cs.drop n).length = (m :: rest).sum := by
            simp only [List.length_drop, List.sum_cons]
            omega
          have hrest := ih hlength (List.cons_ne_nil m rest)
          simp only [hyphenated, List.length_append, List.length_take, List.length_cons,
            List.sum_cons] at hrest ⊢
          omega

theorem unhyphenated?_hyphenated {groups : List Nat} {cs : List Char} (h : cs.length = groups.sum)
    (hne : groups ≠ []) : unhyphenated? groups (hyphenated groups cs) = some cs := by
  induction groups generalizing cs with
  | nil => exact absurd rfl hne
  | cons n rest ih =>
      cases rest with
      | nil =>
          have hall : cs.length = n := by simpa using h
          simp [hyphenated, unhyphenated?, ← hall]
      | cons m rest =>
          have hn : n ≤ cs.length := by
            rw [h, List.sum_cons]
            omega
          have hlength : (cs.take n).length = n := List.length_take_of_le hn
          have hlength' : (cs.drop n).length = (m :: rest).sum := by
            rw [List.length_drop, h, List.sum_cons, Nat.add_sub_cancel_left]
          have hrest := ih hlength' (List.cons_ne_nil m rest)
          have hafter : (cs.take n ++ '-' :: hyphenated (m :: rest) (cs.drop n)).drop n =
              '-' :: hyphenated (m :: rest) (cs.drop n) := List.drop_left' hlength
          have hbefore : (cs.take n ++ '-' :: hyphenated (m :: rest) (cs.drop n)).take n =
              cs.take n := List.take_left' hlength
          simp only [hyphenated, unhyphenated?, hafter, hbefore, hrest, Option.map_some,
            List.take_append_drop]

theorem unwrapped_eq_self {cs : List Char} (hbraces : cs.length ≠ 38) (hurn : cs.length ≠ 45) :
    unwrapped cs = cs := by
  unfold unwrapped
  split
  · rw [if_neg fun h => hbraces h.1]
  · rw [if_neg hurn]
  · rfl

theorem parse?_text (u : Uuid) : parse? u.text = some u := by
  have hdigits := length_digits u
  have hlength : (hyphenated groups u.digits).length + 1 = 32 + 5 :=
    length_hyphenated hdigits (by decide)
  have hgroups : unhyphenated? groups (hyphenated groups u.digits) = some u.digits :=
    unhyphenated?_hyphenated hdigits (by decide)
  have hplain : unwrapped (hyphenated groups u.digits) = hyphenated groups u.digits :=
    unwrapped_eq_self (by omega) (by omega)
  have hlonger : ¬ (hyphenated groups u.digits).length = 32 := by omega
  simp only [parse?, text, String.toList_ofList, hlonger, if_false, hplain, hgroups]
  simp [digitsValue?_digits, hdigits]

end Orchestrator.Uuid
