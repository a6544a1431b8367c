import Orchestrator.Json.Parser
import Orchestrator.Json.Printer
import Orchestrator.Proofs.Dict
import Orchestrator.Proofs.Text.Digits

/-!
Documents that are written and read back. A text comes back whatever characters it has, and an
object comes back if the values of its entries do.
-/

namespace Orchestrator.Json

/-! ## Texts -/

theorem unicodeEscape_control {c : Char} (hc : c.toNat < 32) (rest : List Char) :
    unicodeEscape ('0' :: '0' :: (Text.hexPair c.toNat ++ rest)) = some (c, rest) := by
  have hzero : Text.hexValue? '0' = some 0 := by decide
  have hvalue : ((0 * 16 + 0) * 16 + c.toNat / 16 % 16) * 16 + c.toNat % 16 = c.toNat := by omega
  have hplain : ¬ (0xDC00 ≤ c.toNat ∧ c.toNat ≤ 0xDFFF) := by omega
  have hfirst : ¬ (0xD800 ≤ c.toNat ∧ c.toNat ≤ 0xDBFF) := by omega
  simp only [Text.hexPair, List.cons_append, List.nil_append, unicodeEscape, hexFour, hzero,
    Text.hexValue?_hexDigit, Option.pure_def, Option.bind_eq_bind, Option.bind_some, hvalue,
    if_neg hplain, if_neg hfirst, Char.ofNat_toNat]

/-- A character is read as it was written. -/
theorem stringBody_escaped (c : Char) (fuel : Nat) (acc : String) (rest : List Char) :
    stringBody (fuel + 1) acc (escaped c ++ rest) = stringBody fuel (acc.push c) rest := by
  unfold escaped
  -- First the seven escapes of one letter, then control characters, then what stands for itself.
  split
  · next h => subst h; rfl
  split
  · next h => subst h; rfl
  split
  · next h => subst h; rfl
  split
  · next h => subst h; rfl
  split
  · next h => subst h; rfl
  split
  · next h => subst h; rfl
  split
  · next h => subst h; rfl
  split
  · next hcontrol =>
    have hread := unicodeEscape_control hcontrol rest
    simp only [List.cons_append, stringBody, hread]
  · next hquote hbackslash _ _ _ _ _ hplain =>
    have hchar : ¬ (c.toNat < 32 ∨ c = '\\') := by simp [hplain, hbackslash]
    rw [List.singleton_append, stringBody]
    · rw [if_neg hchar]
    all_goals simp_all

theorem stringBody_text (cs : List Char) {fuel : Nat} (hfuel : cs.length < fuel) (acc : String)
    (rest : List Char) :
    stringBody fuel acc (cs.flatMap escaped ++ '"' :: rest) =
      some (acc ++ String.ofList cs, rest) := by
  induction cs generalizing fuel acc with
  | nil =>
      obtain ⟨fuel, rfl⟩ := Nat.exists_eq_add_of_lt hfuel
      simp [stringBody]
  | cons c cs ih =>
      cases fuel with
      | zero => cases hfuel
      | succ fuel =>
          rw [List.flatMap_cons, List.append_assoc, stringBody_escaped,
            ih (Nat.lt_of_succ_lt_succ hfuel), String.ofList_cons, ← String.append_assoc,
            String.append_singleton]

theorem length_le_flatMap_escaped (cs : List Char) : cs.length ≤ (cs.flatMap escaped).length := by
  induction cs with
  | nil => exact Nat.le_refl _
  | cons c cs ih =>
      have hc : 1 ≤ (escaped c).length := by
        unfold escaped
        repeat' split
        all_goals simp
      rw [List.flatMap_cons, List.length_append, List.length_cons]
      omega

theorem string_text (s : String) (rest : List Char) :
    string (s.toList.flatMap escaped ++ '"' :: rest) = some (s, rest) := by
  have hlength := length_le_flatMap_escaped s.toList
  rw [string, stringBody_text]
  · simp
  · rw [List.length_append]
    omega

theorem toList_foldl_push (cs : List Char) (acc : String) :
    (cs.foldl String.push acc).toList = acc.toList ++ cs := by
  induction cs generalizing acc with
  | nil => simp
  | cons c cs ih => simp [ih]

theorem toList_stringText (s : String) :
    (stringText s).toList = '"' :: (s.toList.flatMap escaped ++ ['"']) := by
  have hfold : ∀ (cs : List Char) (acc : String),
      (cs.foldl (fun acc c => (escaped c).foldl String.push acc) acc).toList =
        acc.toList ++ cs.flatMap escaped := by
    intro cs
    induction cs with
    | nil => simp
    | cons c cs ih => simp [ih, toList_foldl_push]
  rw [stringText, String.toList_append, String.foldl_eq_foldl_toList, hfold]
  rfl

/-! ## Documents -/

/-- A document that nests at most so deep is read as it was written, whatever stands behind it, and
it does not start with a blank. -/
structure ReadsBack (depth : Nat) (j : Json) : Prop where
  value : ∀ rest, Json.value depth (j.text.toList ++ rest) = some (j, rest)
  start : ∀ rest, skipSpace (j.text.toList ++ rest) = j.text.toList ++ rest

theorem readsBack_str (depth : Nat) (s : String) : ReadsBack depth (.str s) where
  value rest := by
    rw [text, toList_stringText, List.cons_append, List.append_assoc, List.singleton_append]
    cases depth <;> simp [Json.value, string_text]
  start rest := by
    rw [text, toList_stringText]
    rfl

theorem entryTexts_eq (entries : List (String × Json)) :
    entryTexts entries = entries.map fun e => stringText e.1 ++ ":" ++ text e.2 := by
  induction entries with
  | nil => rfl
  | cons e entries ih => rw [entryTexts, ih, List.map_cons]

theorem members_entries {depth : Nat} {entries : List (String × Json)} (hne : entries ≠ [])
    (hread : ∀ e ∈ entries, ReadsBack depth e.2) {fuel : Nat} (hfuel : entries.length ≤ fuel)
    (acc : List (String × Json)) (rest : List Char) :
    members (value depth) fuel acc
        ((",".intercalate (entryTexts entries)).toList ++ '\x7d' :: rest) =
      some (acc.reverse ++ entries, rest) := by
  induction entries generalizing fuel acc with
  | nil => exact absurd rfl hne
  | cons e more ih =>
      have hpos : 0 < fuel := Nat.lt_of_lt_of_le (by simp) hfuel
      obtain ⟨fuel, rfl⟩ := Nat.exists_eq_add_of_le' hpos
      have he := hread e List.mem_cons_self
      have hquote : ∀ cs, skipSpace ('"' :: cs) = '"' :: cs := fun _ => rfl
      have hcolon : ∀ cs, skipSpace (':' :: cs) = ':' :: cs := fun _ => rfl
      have hcomma : ∀ cs, skipSpace (',' :: cs) = ',' :: cs := fun _ => rfl
      have hbrace : ∀ cs, skipSpace ('\x7d' :: cs) = '\x7d' :: cs := fun _ => rfl
      -- After the last entry comes the brace, after any other a comma.
      cases more with
      | nil =>
          simp [entryTexts_eq, toList_stringText, members, hquote, hcolon, hbrace, string_text,
            he.start, he.value]
      | cons next more =>
          have hlater := ih (by simp) (fun e he => hread e (List.mem_cons_of_mem _ he))
            (Nat.le_of_succ_le_succ hfuel) (e :: acc)
          simp [entryTexts_eq, toList_stringText, members, hquote, hcolon, hcomma, string_text,
            he.start, he.value] at hlater ⊢
          exact hlater

theorem exists_entries_eq_cons {entries : List (String × Json)} (hne : entries ≠ []) :
    ∃ cs, (",".intercalate (entryTexts entries)).toList = '"' :: cs ∧
      entries.length ≤ cs.length := by
  induction entries with
  | nil => exact absurd rfl hne
  | cons e more ih =>
      cases more with
      | nil =>
          simp only [entryTexts_eq, List.map_cons, List.map_nil, String.intercalate_singleton,
            String.toList_append, toList_stringText, List.cons_append]
          refine ⟨_, rfl, ?_⟩
          simp only [List.length_append, List.length_cons]
          omega
      | cons next more =>
          obtain ⟨cs, hcs, hlength⟩ := ih (by simp)
          simp only [entryTexts_eq, List.map_cons, String.intercalate_cons_cons,
            String.toList_append, toList_stringText, List.cons_append] at hcs ⊢
          refine ⟨_, rfl, ?_⟩
          rw [hcs]
          simp only [List.length_append, List.length_cons] at hlength ⊢
          omega

theorem toList_text_obj (entries : List (String × Json)) (rest : List Char) :
    (text (.obj entries)).toList ++ rest =
      '\x7b' :: ((",".intercalate (entryTexts entries)).toList ++ '\x7d' :: rest) := by
  simp [text]

theorem readsBack_obj {depth : Nat} {entries : List (String × Json)}
    (hsorted : Entries.Sorted entries) (hread : ∀ e ∈ entries, ReadsBack depth e.2) :
    ReadsBack (depth + 1) (.obj entries) where
  value rest := by
    rw [toList_text_obj]
    by_cases hne : entries = []
    · subst hne
      rfl
    · obtain ⟨cs, hcs, hlength⟩ := exists_entries_eq_cons hne
      have hfuel : entries.length ≤
          ((",".intercalate (entryTexts entries)).toList ++ '\x7d' :: rest).length + 1 := by
        simp only [hcs, List.length_append, List.length_cons]
        omega
      have hmembers := members_entries hne hread hfuel [] rest
      rw [hcs, List.cons_append] at hmembers ⊢
      refine (congrArg (Option.map fun p => (object p.1, p.2)) hmembers).trans ?_
      rw [List.reverse_nil, List.nil_append, Option.map_some, object,
        Entries.ofList_of_sorted hsorted]
  start rest := by
    rw [toList_text_obj]
    rfl

theorem parse?_text {j : Json} (h : ReadsBack maxDepth j) : parse? j.text = some j := by
  have hvalue := h.value []
  have hstart := h.start []
  rw [List.append_nil] at hvalue hstart
  rw [parse?, hstart, hvalue]
  rfl

/-! ## Objects -/

theorem brace_of_value {depth : Nat} {cs rest : List Char} {entries : List (String × Json)}
    (h : value depth cs = some (.obj entries, rest)) : ∃ more, cs = '\x7b' :: more := by
  unfold value at h
  split at h
  · cases h
  · cases h
  · cases h
  · simp at h
  · simp at h
  · dsimp only at h
    split at h <;> simp at h
  · exact ⟨_, rfl⟩
  · simp at h

/-- A document that is an object starts with a brace, apart from blanks. -/
theorem brace_of_parse? {s : String} {entries : List (String × Json)}
    (h : parse? s = some (.obj entries)) : ∃ more, skipSpace s.toList = '\x7b' :: more := by
  unfold parse? at h
  split at h
  · next j rest hvalue =>
    split at h
    · obtain rfl := Option.some.inj h
      exact brace_of_value hvalue
    · cases h
  · cases h

end Orchestrator.Json
