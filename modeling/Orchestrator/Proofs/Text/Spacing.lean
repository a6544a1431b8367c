import Mathlib.Data.List.Chain
import Orchestrator.Proofs.Text.Cuts
import Orchestrator.Text.Spacing

/-!
What becomes of the blanks of a text when they are made uniform.

The result depends on the words of the text and on whether it begins with a blank, and on nothing
else: it is the words with one space between them, and one before the first of them if the text
begins with a blank. All that is said about the result follows from this.
-/

namespace Orchestrator.Text

/-! ## Words with spaces -/

/-- Words with one space before each of them, or between them alone. -/
def spaceOut : Bool → List (List Char) → List Char
  | true, words => words.flatMap (' ' :: ·)
  | false, [] => []
  | false, word :: words => word ++ words.flatMap (' ' :: ·)

/-- Whether a text begins with a blank. -/
def beginsBlank (cs : List Char) : Bool := cs.head?.any isBlank

/-- Words are not empty, and there are no blanks in them. -/
def AreWords (words : List (List Char)) : Prop :=
  ∀ word ∈ words, word ≠ [] ∧ ∀ c ∈ word, isBlank c = false

theorem Spaced.areWords {cs : List Char} {words : List (List Char)} (h : Spaced cs words) :
    AreWords words := by
  unfold AreWords
  induction h with
  | nil => simp
  | blank _ _ ih => exact ih
  | word hnonempty hword _ _ ih =>
      rw [List.forall_mem_cons]
      exact ⟨⟨hnonempty, hword⟩, ih⟩

theorem spaceOut_true {words : List (List Char)} (hwords : AreWords words) :
    spaceOut true words =
      if spaceOut false words = [] then [] else ' ' :: spaceOut false words := by
  cases words with
  | nil => rfl
  | cons word words =>
      have hne : spaceOut false (word :: words) ≠ [] :=
        List.append_ne_nil_of_left_ne_nil (hwords word List.mem_cons_self).1 _
      rw [if_neg hne]
      rfl

theorem beginsBlank_word {word : List Char} (hnonempty : word ≠ [])
    (hword : ∀ c ∈ word, isBlank c = false) (cs : List Char) :
    beginsBlank (word ++ cs) = false := by
  cases word with
  | nil => exact absurd rfl hnonempty
  | cons c word => exact hword c List.mem_cons_self

/-- After a word, other words come only with a blank. -/
theorem Spaced.spaceOut_rest {cs : List Char} {words : List (List Char)} (h : Spaced cs words)
    (hend : ∀ c ∈ cs.head?, isBlank c = true) :
    spaceOut (beginsBlank cs) words = spaceOut true words := by
  cases cs with
  | nil =>
      rw [← wordsOf_of_spaced h]
      rfl
  | cons c cs => rw [beginsBlank, List.head?_cons, Option.any_some, hend c rfl]

/-! ## Collapsing -/

theorem dropEndWhile_cons (p : Char → Bool) (c : Char) (cs : List Char) :
    dropEndWhile p (c :: cs) =
      if dropEndWhile p cs = [] then if p c then [] else [c] else c :: dropEndWhile p cs := by
  unfold dropEndWhile
  rw [List.reverse_cons, List.dropWhile_append]
  by_cases h : cs.reverse.dropWhile p = []
  · by_cases hc : p c = true <;> simp [h, hc]
  · simp [h]

theorem dropEndWhile_append {p : Char → Bool} {word : List Char} (hword : ∀ c ∈ word, p c = false)
    (cs : List Char) : dropEndWhile p (word ++ cs) = word ++ dropEndWhile p cs := by
  induction word with
  | nil => rfl
  | cons c word ih =>
      rw [List.forall_mem_cons] at hword
      rw [List.cons_append, dropEndWhile_cons, ih hword.2]
      split
      · next hnil =>
        rw [List.append_eq_nil_iff] at hnil
        simp [hnil, hword.1]
      · rfl

theorem singleSpaces_word {word : List Char} (hnonempty : word ≠ [])
    (hword : ∀ c ∈ word, isBlank c = false) (afterBlank : Bool) (cs : List Char) :
    singleSpaces afterBlank (word ++ cs) = word ++ singleSpaces false cs := by
  induction word generalizing afterBlank with
  | nil => exact absurd rfl hnonempty
  | cons c word ih =>
      rw [List.forall_mem_cons] at hword
      rw [List.cons_append, singleSpaces, if_neg (by simp [hword.1])]
      cases word with
      | nil => rfl
      | cons d word => exact congrArg (c :: ·) (ih (List.cons_ne_nil d word) hword.2 false)

/-- The induction follows the text from word to word; a blank counts only if there is none before
it. -/
theorem dropEndWhile_singleSpaces {cs : List Char} {words : List (List Char)}
    (h : Spaced cs words) (afterBlank : Bool) :
    dropEndWhile (· = ' ') (singleSpaces afterBlank cs) =
      spaceOut (beginsBlank cs && !afterBlank) words := by
  induction h generalizing afterBlank with
  | nil => rfl
  | @blank c cs words hc h ih =>
      have hbegins : beginsBlank (c :: cs) = true := hc
      have hrest := ih true
      rw [Bool.not_true, Bool.and_false] at hrest
      cases afterBlank with
      | true =>
          rw [singleSpaces, if_pos hc, if_pos rfl, hrest, hbegins]
          rfl
      | false =>
          rw [singleSpaces, if_pos hc, if_neg Bool.false_ne_true, dropEndWhile_cons, hrest, hbegins]
          simp [spaceOut_true h.areWords]
  | @word word cs words hnonempty hword hend h ih =>
      have hletters : ∀ c ∈ word, decide (c = ' ') = false := by
        intro c hc
        have hletter := hword c hc
        rw [decide_eq_false_iff_not]
        rintro rfl
        cases hletter
      rw [singleSpaces_word hnonempty hword, dropEndWhile_append hletters, ih, Bool.not_false,
        Bool.and_true, h.spaceOut_rest hend, beginsBlank_word hnonempty hword]
      rfl

theorem collapseChars_of_spaced {cs : List Char} {words : List (List Char)} (h : Spaced cs words) :
    collapseChars cs = spaceOut (beginsBlank cs) words := by
  rw [collapseChars, dropEndWhile_singleSpaces h, Bool.not_false, Bool.and_true]

/-! ## The form of the result -/

/-- The only blanks are single spaces, and there is none at the end. -/
structure Uniform (cs : List Char) : Prop where
  spaces : ∀ c ∈ cs, isBlank c = true → c = ' '
  apart : cs.IsChain fun a b => ¬ (a = ' ' ∧ b = ' ')
  ends : ∀ c ∈ cs.getLast?, isBlank c = false

theorem Uniform.nil : Uniform [] := ⟨by simp, .nil, by simp⟩

theorem Uniform.letter {c : Char} {cs : List Char} (hc : isBlank c = false) (h : Uniform cs) :
    Uniform (c :: cs) where
  spaces := by
    rw [List.forall_mem_cons]
    exact ⟨fun hblank => absurd hblank (by simp [hc]), h.spaces⟩
  apart := by
    refine h.apart.cons fun d _ => ?_
    rintro ⟨rfl, -⟩
    cases hc
  ends := by
    rw [List.getLast?_cons]
    cases hlast : cs.getLast? with
    | none => simpa using hc
    | some d => simpa using h.ends d hlast

theorem Uniform.word {word cs : List Char} (hword : ∀ c ∈ word, isBlank c = false)
    (h : Uniform cs) : Uniform (word ++ cs) := by
  induction word with
  | nil => exact h
  | cons c word ih =>
      rw [List.forall_mem_cons] at hword
      exact .letter hword.1 (ih hword.2)

theorem Uniform.space {c : Char} {cs : List Char} (hc : isBlank c = false)
    (h : Uniform (c :: cs)) : Uniform (' ' :: c :: cs) where
  spaces := by
    rw [List.forall_mem_cons]
    exact ⟨fun _ => rfl, h.spaces⟩
  apart := by
    refine h.apart.cons fun d hd => ?_
    rintro ⟨-, rfl⟩
    cases hd
    cases hc
  ends := by
    rw [List.getLast?_cons_cons]
    exact h.ends

theorem uniform_spaceOut {words : List (List Char)} (hwords : AreWords words) (lead : Bool) :
    Uniform (spaceOut lead words) := by
  induction words generalizing lead with
  | nil => cases lead <;> exact .nil
  | cons word words ih =>
      obtain ⟨⟨hnonempty, hword⟩, hrest⟩ := List.forall_mem_cons.1 hwords
      have hbetween : Uniform (word ++ spaceOut true words) := .word hword (ih hrest true)
      cases lead with
      | false => exact hbetween
      | true =>
          cases word with
          | nil => exact absurd rfl hnonempty
          | cons c word => exact hbetween.space (hword c List.mem_cons_self)

/-! ## What is kept -/

theorem head?_spaceOut_true (words : List (List Char)) :
    ∀ c ∈ (spaceOut true words).head?, c = ' ' := by
  cases words with
  | nil => simp [spaceOut]
  | cons word words => simp [spaceOut, eq_comm]

theorem spaced_spaceOut {words : List (List Char)} (hwords : AreWords words) (lead : Bool) :
    Spaced (spaceOut lead words) words := by
  induction words generalizing lead with
  | nil => cases lead <;> exact .nil
  | cons word words ih =>
      obtain ⟨⟨hnonempty, hword⟩, hrest⟩ := List.forall_mem_cons.1 hwords
      have hend : ∀ c ∈ (spaceOut true words).head?, isBlank c = true := by
        intro c hc
        rw [head?_spaceOut_true words c hc]
        rfl
      have hbetween : Spaced (word ++ spaceOut true words) (word :: words) :=
        .word hnonempty hword hend (ih hrest true)
      cases lead with
      | false => exact hbetween
      | true => exact .blank rfl hbetween

/-- All that is no blank, in its order. -/
def letters (cs : List Char) : List Char := cs.filter fun c => !isBlank c

theorem Spaced.letters_eq {cs : List Char} {words : List (List Char)} (h : Spaced cs words) :
    letters cs = words.flatten := by
  unfold letters
  induction h with
  | nil => rfl
  | blank hc _ ih => rw [List.filter_cons_of_neg (by simp [hc]), ih]
  | @word word cs words _ hword _ _ ih =>
      have hkept : word.filter (fun c => !isBlank c) = word :=
        List.filter_eq_self.2 fun c hc => by rw [hword c hc, Bool.not_false]
      rw [List.filter_append, hkept, ih, List.flatten_cons]

theorem Spaced.exists_letter {cs : List Char} {words : List (List Char)} (h : Spaced cs words) :
    (∃ c ∈ cs, isBlank c = false) ↔ words ≠ [] := by
  constructor
  · rintro ⟨c, hc, hletter⟩ rfl
    rw [h.blanks c hc] at hletter
    cases hletter
  · intro hne
    obtain ⟨word, hword⟩ := List.exists_mem_of_ne_nil words hne
    obtain ⟨hnonempty, hletters⟩ := h.areWords word hword
    obtain ⟨c, hc⟩ := List.exists_mem_of_ne_nil word hnonempty
    have hmem : c ∈ letters cs := h.letters_eq ▸ List.mem_flatten.2 ⟨word, hword, hc⟩
    exact ⟨c, List.mem_of_mem_filter hmem, hletters c hc⟩

theorem beginsBlank_spaceOut {words : List (List Char)} (hwords : AreWords words) (lead : Bool) :
    beginsBlank (spaceOut lead words) = true ↔ lead = true ∧ words ≠ [] := by
  cases words with
  | nil => cases lead <;> simp [spaceOut, beginsBlank]
  | cons word words =>
      obtain ⟨hnonempty, hword⟩ := hwords word List.mem_cons_self
      cases lead with
      | true => exact ⟨fun _ => ⟨rfl, List.cons_ne_nil word words⟩, fun _ => rfl⟩
      | false => simp [spaceOut, beginsBlank_word hnonempty hword]

theorem Uniform.head?_eq_space {cs : List Char} (h : Uniform cs) :
    cs.head? = some ' ' ↔ beginsBlank cs = true := by
  cases cs with
  | nil => simp [beginsBlank]
  | cons c cs =>
      rw [List.head?_cons, Option.some.injEq, beginsBlank, List.head?_cons, Option.any_some]
      constructor
      · rintro rfl
        rfl
      · exact h.spaces c List.mem_cons_self

/-- A text is another one with its blanks made uniform. -/
structure Respaced (cs ds : List Char) : Prop extends Uniform ds where
  /-- All that is no blank stays in its order, -/
  letters_eq : letters ds = letters cs
  /-- and no word is parted or joined to another. -/
  words_eq : wordsOf ds = wordsOf cs
  /-- There is a space at the beginning if the text begins with a blank and is not blank. -/
  begins : ds.head? = some ' ' ↔ beginsBlank cs = true ∧ ∃ c ∈ cs, isBlank c = false

theorem respaced_collapseChars (cs : List Char) : Respaced cs (collapseChars cs) := by
  have hspaced := spaced_wordsOf cs
  have hresult : Spaced (collapseChars cs) (wordsOf cs) := by
    rw [collapseChars_of_spaced hspaced]
    exact spaced_spaceOut hspaced.areWords (beginsBlank cs)
  have huniform : Uniform (collapseChars cs) := by
    rw [collapseChars_of_spaced hspaced]
    exact uniform_spaceOut hspaced.areWords (beginsBlank cs)
  refine ⟨huniform, ?letters, wordsOf_of_spaced hresult, ?begins⟩
  case letters => rw [hresult.letters_eq, hspaced.letters_eq]
  case begins =>
    rw [huniform.head?_eq_space, collapseChars_of_spaced hspaced,
      beginsBlank_spaceOut hspaced.areWords, hspaced.exists_letter]

/-! ## Texts that come to the same -/

/-- Texts with the same words come to the same if both begin with a blank or neither does. Where
there are no words, this does not matter. -/
theorem collapseChars_congr {cs ds : List Char} {words : List (List Char)} (hcs : Spaced cs words)
    (hds : Spaced ds words) (hbegins : words ≠ [] → beginsBlank cs = beginsBlank ds) :
    collapseChars cs = collapseChars ds := by
  rw [collapseChars_of_spaced hcs, collapseChars_of_spaced hds]
  cases words with
  | nil => cases beginsBlank cs <;> cases beginsBlank ds <;> rfl
  | cons word words => rw [hbegins (List.cons_ne_nil word words)]

theorem collapseChars_idem (cs : List Char) :
    collapseChars (collapseChars cs) = collapseChars cs := by
  have hspaced := spaced_wordsOf cs
  have hresult : Spaced (collapseChars cs) (wordsOf cs) :=
    wordsOf_eq_iff.1 (respaced_collapseChars cs).words_eq
  refine collapseChars_congr hresult hspaced fun hne => ?_
  rw [collapseChars_of_spaced hspaced, Bool.eq_iff_iff, beginsBlank_spaceOut hspaced.areWords]
  simp [hne]

/-- A space in the place of a no-break space. -/
def plainSpace (c : Char) : Char := if c = noBreakSpace then ' ' else c

theorem isBlank_plainSpace (c : Char) : isBlank (plainSpace c) = isBlank c := by
  unfold plainSpace
  split
  · next h =>
    subst h
    rfl
  · rfl

theorem plainSpace_letter {c : Char} (h : isBlank c = false) : plainSpace c = c := by
  refine if_neg ?_
  rintro rfl
  cases h

theorem map_plainSpace {cs : List Char} (h : ∀ c ∈ cs, plainSpace c = c) :
    cs.map plainSpace = cs := by
  rw [List.map_congr_left h, List.map_id']

theorem Spaced.plain {cs : List Char} {words : List (List Char)} (h : Spaced cs words) :
    Spaced (cs.map plainSpace) words := by
  induction h with
  | nil => exact .nil
  | blank hc _ ih => exact .blank ((isBlank_plainSpace _).trans hc) ih
  | @word word cs words hnonempty hword hend _ ih =>
      rw [List.map_append, map_plainSpace fun c hc => plainSpace_letter (hword c hc)]
      refine .word hnonempty hword (fun c hc => ?_) ih
      cases cs with
      | nil => cases hc
      | cons d cs =>
          cases hc
          exact (isBlank_plainSpace d).trans (hend d rfl)

theorem collapseChars_plain (cs : List Char) :
    collapseChars (cs.map plainSpace) = collapseChars cs := by
  have hspaced := spaced_wordsOf cs
  refine collapseChars_congr hspaced.plain hspaced fun _ => ?_
  cases cs with
  | nil => rfl
  | cons c cs => exact isBlank_plainSpace c

theorem plain_collapseChars (cs : List Char) :
    (collapseChars cs).map plainSpace = collapseChars cs := by
  refine map_plainSpace fun c hc => ?_
  cases hblank : isBlank c with
  | false => exact plainSpace_letter hblank
  | true =>
      obtain rfl := (respaced_collapseChars cs).spaces c hc hblank
      rfl

theorem respaced_collapseBlanks (s : String) : Respaced s.toList (collapseBlanks s).toList := by
  rw [collapseBlanks, String.toList_ofList]
  exact respaced_collapseChars s.toList

theorem collapseBlanks_idem (s : String) : collapseBlanks (collapseBlanks s) = collapseBlanks s := by
  simp only [collapseBlanks, String.toList_ofList, collapseChars_idem]

theorem collapseBlanks_plainSpaces (s : String) :
    collapseBlanks (plainSpaces s) = collapseBlanks s := by
  rw [collapseBlanks, plainSpaces, String.toList_ofList]
  exact congrArg String.ofList (collapseChars_plain s.toList)

theorem plainSpaces_collapseBlanks (s : String) :
    plainSpaces (collapseBlanks s) = collapseBlanks s := by
  rw [plainSpaces, collapseBlanks, String.toList_ofList]
  exact congrArg String.ofList (plain_collapseChars s.toList)

end Orchestrator.Text
