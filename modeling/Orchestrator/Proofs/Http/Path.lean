import Mathlib.Data.List.TakeWhile
import Orchestrator.Api.Resource
import Orchestrator.Proofs.Text.Cuts
import Orchestrator.Proofs.Text.Utf8

/-!
From the target of a request to its resource: what is cut off a path, what is refused in it, and
what escapes make of a name.
-/

namespace Orchestrator

/-! ## Escapes -/

namespace Percent

/-- Somewhere two hexadecimal digits follow a percent sign. -/
def HasEscape (bytes : List UInt8) : Prop :=
  ∃ before high low after, bytes = before ++ 0x25 :: high :: low :: after ∧
    (hexValue? high).isSome = true ∧ (hexValue? low).isSome = true

theorem not_hasEscape_nil : ¬ HasEscape [] := by
  rintro ⟨before, high, low, after, h, -⟩
  simp at h

theorem hasEscape_cons {b : UInt8} {rest : List UInt8} :
    HasEscape (b :: rest) ↔
      (b = 0x25 ∧ ∃ high low after, rest = high :: low :: after ∧
        (hexValue? high).isSome = true ∧ (hexValue? low).isSome = true) ∨ HasEscape rest := by
  constructor
  · rintro ⟨before, high, low, after, h, hhigh, hlow⟩
    cases before with
    | nil =>
        obtain ⟨rfl, rfl⟩ := List.cons.inj h
        exact .inl ⟨rfl, high, low, after, rfl, hhigh, hlow⟩
    | cons c before =>
        obtain ⟨rfl, rfl⟩ := List.cons.inj h
        exact .inr ⟨before, high, low, after, rfl, hhigh, hlow⟩
  · rintro (⟨rfl, high, low, after, rfl, hhigh, hlow⟩ | ⟨before, high, low, after, rfl, h⟩)
    · exact ⟨[], high, low, after, rfl, hhigh, hlow⟩
    · exact ⟨b :: before, high, low, after, rfl, h⟩

theorem length_decode_le (bytes : List UInt8) : (decode bytes).length ≤ bytes.length := by
  fun_induction decode bytes with
  | case1 => exact Nat.le_refl _
  | case2 =>
      simp only [List.length_cons]
      omega
  | case3 _ _ _ _ ih => exact Nat.succ_le_succ ih
  | case4 _ _ ih => exact Nat.succ_le_succ ih
  | case5 _ _ _ ih => exact Nat.succ_le_succ ih

theorem decode_ne_nil {bytes : List UInt8} (h : bytes ≠ []) : decode bytes ≠ [] := by
  fun_cases decode bytes with
  | case1 => exact absurd rfl h
  | case2 | case3 | case4 | case5 => simp

/-- What is read is what was written exactly if nothing in it looks like an escape. -/
theorem decode_eq_self_iff (bytes : List UInt8) : decode bytes = bytes ↔ ¬ HasEscape bytes := by
  fun_induction decode bytes with
  | case1 => simp [not_hasEscape_nil]
  | case2 high low tail h l hlow hhigh ih =>
      have hshort := length_decode_le tail
      have hescape : HasEscape (0x25 :: high :: low :: tail) :=
        ⟨[], high, low, tail, rfl, by simp [hhigh], by simp [hlow]⟩
      constructor
      · intro heq
        have hlength := congrArg List.length heq
        simp only [List.length_cons] at hlength
        omega
      · exact fun hnot => absurd hescape hnot
  | case3 high low tail hdigits ih =>
      rw [List.cons.injEq, ih, hasEscape_cons (b := 0x25), not_or]
      refine ⟨fun h => ⟨?_, h.2⟩, fun h => ⟨rfl, h.2⟩⟩
      rintro ⟨-, high', low', after, heq, hhigh, hlow⟩
      simp only [List.cons.injEq] at heq
      obtain ⟨rfl, rfl, -⟩ := heq
      obtain ⟨h, hh⟩ := Option.isSome_iff_exists.1 hhigh
      obtain ⟨l, hl⟩ := Option.isSome_iff_exists.1 hlow
      exact hdigits h l hh hl
  | case4 short hshort ih =>
      rw [List.cons.injEq, ih, hasEscape_cons, not_or]
      refine ⟨fun h => ⟨?_, h.2⟩, fun h => ⟨rfl, h.2⟩⟩
      rintro ⟨-, high, low, after, heq, -⟩
      exact hshort high low after heq
  | case5 b rest hb ih =>
      rw [List.cons.injEq, ih, hasEscape_cons, not_or]
      exact ⟨fun h => ⟨fun hsign => hb hsign.1, h.2⟩, fun h => ⟨rfl, h.2⟩⟩

theorem decodeText?_eq_some {raw name : String} :
    decodeText? raw = some name ↔ decode (Utf8.octets raw) = Utf8.octets name := by
  unfold decodeText?
  rw [Utf8.text?_eq_some]

theorem ne_empty_of_decodeText? {raw name : String} (h : decodeText? raw = some name)
    (hraw : raw ≠ "") : name ≠ "" := by
  rintro rfl
  rw [decodeText?_eq_some] at h
  refine decode_ne_nil (fun hnil => hraw ?_) h
  exact Utf8.octets_inj hnil

/-- A name never becomes longer by taking its escapes out, so nothing shorter stands for it. -/
theorem eq_of_decodeText? {raw rest name : String} (hname : raw ++ rest = name)
    (h : decodeText? raw = some name) : raw = name ∧ ¬ HasEscape (Utf8.octets name) := by
  rw [decodeText?_eq_some] at h
  have hle := length_decode_le (Utf8.octets raw)
  have hoctets := congrArg Utf8.octets hname
  rw [Utf8.octets_append] at hoctets
  have hlength := congrArg List.length hoctets
  rw [h, ← hlength, List.length_append] at hle
  have hrest : Utf8.octets rest = [] := List.eq_nil_of_length_eq_zero (by omega)
  rw [hrest, List.append_nil] at hoctets
  rw [hoctets] at h
  exact ⟨Utf8.octets_inj hoctets, (decode_eq_self_iff _).1 h⟩

end Percent

theorem Resource.ne_empty_of_ofPath? {path raw : String}
    (h : ofPath? path = some (.dataEntry raw)) : raw ≠ "" := by
  unfold ofPath? ofSegments? at h
  split at h
  case h_11 key =>
    simp only [Option.ite_none_left_eq_some, Option.some.injEq, Resource.dataEntry.injEq] at h
    obtain ⟨hempty, rfl⟩ := h
    rintro rfl
    exact hempty rfl
  all_goals simp at h

/-! ## Targets -/

namespace Http.Target

theorem parse?_of_slash {s : String} {rest : List Char} (h : s.toList = '/' :: rest) :
    parse? s = ofPath? s.toList := by
  unfold parse?
  rw [h]
  cases rest <;> rfl

theorem isPathChar_ne {c sign : Char} (hsign : isPathChar sign = false)
    (h : isPathChar c = true) : c ≠ sign := by
  rintro rfl
  rw [h] at hsign
  cases hsign

/-- What is cut off the end of a path does not reach into a front that may stand in paths. -/
theorem ofPath?_append {front cs : List Char} (hfront : ∀ c ∈ front, isPathChar c = true)
    {t : Target} (h : ofPath? (front ++ cs) = some t) :
    ∃ name rest, t.path.toList = front ++ name ∧ cs = name ++ rest ∧
      ∀ c ∈ name, isPathChar c = true := by
  have hfragment : ∀ c ∈ front, decide (c ≠ '#') = true :=
    fun c hc => decide_eq_true (isPathChar_ne (by decide) (hfront c hc))
  have hquery : ∀ c ∈ front, decide (c ≠ '?') = true :=
    fun c hc => decide_eq_true (isPathChar_ne (by decide) (hfront c hc))
  simp only [ofPath?, withoutFragment, Option.ite_none_right_eq_some, Bool.and_eq_true,
    Option.some.injEq] at h
  obtain ⟨⟨hchars, -⟩, rfl⟩ := h
  rw [List.takeWhile_append_of_pos hfragment, List.takeWhile_append_of_pos hquery] at hchars
  obtain ⟨rest, hrest⟩ := (List.takeWhile_prefix _).trans (List.takeWhile_prefix _)
  refine ⟨_, rest, ?_, hrest.symm, fun c hc => ?_⟩
  · rw [String.toList_ofList, List.takeWhile_append_of_pos hfragment,
      List.takeWhile_append_of_pos hquery]
  · exact List.all_eq_true.1 hchars c (List.mem_append_right front hc)

theorem takeWhile_ne {cs : List Char} {sign : Char} (hsign : isPathChar sign = false)
    (h : ∀ c ∈ cs, isPathChar c = true) : cs.takeWhile (· ≠ sign) = cs := by
  rw [List.takeWhile_eq_self_iff]
  exact fun c hc => decide_eq_true (isPathChar_ne hsign (h c hc))

/-- Nothing is cut off a path all of whose characters may stand in it. -/
theorem ofPath?_of_pathChars {cs : List Char} (h : ∀ c ∈ cs, isPathChar c = true) :
    ofPath? cs = some ⟨String.ofList cs, none⟩ := by
  have hfragment : withoutFragment cs = cs := takeWhile_ne (by decide) h
  have hpath : cs.takeWhile (· ≠ '?') = cs := takeWhile_ne (by decide) h
  have hquery : cs.dropWhile (· ≠ '?') = [] := by
    have hwhole := List.takeWhile_append_dropWhile (p := (· ≠ '?')) (l := cs)
    rw [hpath] at hwhole
    simpa using hwhole
  have hall : cs.all isPathChar = true := List.all_eq_true.2 h
  simp only [ofPath?, hfragment, hpath, hquery, hall]
  rfl

end Http.Target

end Orchestrator
