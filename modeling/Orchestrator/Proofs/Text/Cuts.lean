import Orchestrator.Text.Blank

/-!
What the cuts of texts give. A cut at a character is undone by putting the character back between
the pieces, and it gives back any pieces that are free of the character. The words of a text are
told by where blanks stand around them, and so is what trimming leaves of it.
-/

namespace Orchestrator.Text

theorem splitAt_eq_splitOn (sep : Char) (cs : List Char) : splitAt sep cs = cs.splitOn sep := by
  induction cs with
  | nil => simp [splitAt]
  | cons c cs ih =>
      rw [List.splitOn_eq_splitOnP, List.splitOnP_cons_eq_if_modifyHead, ← List.splitOn_eq_splitOnP,
        ← ih, splitAt]
      by_cases hc : c = sep
      · simp [hc]
      · have hpieces : splitAt sep cs ≠ [] := ih ▸ List.splitOn_ne_nil sep cs
        simp only [hc, if_false, beq_iff_eq]
        cases hsplit : splitAt sep cs with
        | nil => exact absurd hsplit hpieces
        | cons piece pieces => rfl

theorem splitAt_ne_nil (sep : Char) (cs : List Char) : splitAt sep cs ≠ [] := by
  rw [splitAt_eq_splitOn]
  exact List.splitOn_ne_nil sep cs

theorem splitAt_of_not_mem {sep : Char} {cs : List Char} (h : sep ∉ cs) :
    splitAt sep cs = [cs] := by
  induction cs with
  | nil => rfl
  | cons c cs ih =>
      rw [List.mem_cons, not_or] at h
      simp [splitAt, Ne.symm h.1, ih h.2]

theorem splitAt_append {sep : Char} {piece : List Char} (h : sep ∉ piece) (cs : List Char) :
    splitAt sep (piece ++ sep :: cs) = piece :: splitAt sep cs := by
  induction piece with
  | nil => simp [splitAt]
  | cons c piece ih =>
      rw [List.mem_cons, not_or] at h
      simp [splitAt, Ne.symm h.1, ih h.2]

theorem length_splitAt (sep : Char) (cs : List Char) :
    (splitAt sep cs).length = cs.count sep + 1 := by
  induction cs with
  | nil => rfl
  | cons c cs ih =>
      rw [splitAt, List.count_cons]
      by_cases hc : c = sep
      · simp [hc, ih]
      · cases hsplit : splitAt sep cs with
        | nil => exact absurd hsplit (splitAt_ne_nil sep cs)
        | cons piece pieces => simpa [hc, hsplit] using ih

/-- A text is cut in two exactly if the character occurs once. -/
theorem splitAt_eq_pair {sep : Char} {cs front back : List Char} :
    splitAt sep cs = [front, back] ↔ cs = front ++ sep :: back ∧ sep ∉ front ∧ sep ∉ back := by
  constructor
  · intro h
    have hcs : cs = front ++ sep :: back := by
      have hjoined : [sep].intercalate (splitAt sep cs) = cs := by
        rw [splitAt_eq_splitOn, List.intercalate_splitOn]
      rw [h] at hjoined
      simpa using hjoined.symm
    have hcount : cs.count sep = 1 := by simpa [h] using (length_splitAt sep cs).symm
    rw [hcs, List.count_append, List.count_cons_self] at hcount
    exact ⟨hcs, List.count_eq_zero.1 (by omega), List.count_eq_zero.1 (by omega)⟩
  · rintro ⟨rfl, hfront, hback⟩
    rw [splitAt_append hfront, splitAt_of_not_mem hback]

theorem cutAt?_eq_none {sep : Char} {cs : List Char} : cutAt? sep cs = none ↔ sep ∉ cs := by
  induction cs with
  | nil => simp [cutAt?]
  | cons c cs ih =>
      by_cases hc : c = sep
      · simp [cutAt?, hc]
      · simp [cutAt?, hc, ih, Ne.symm hc]

theorem cutAt?_eq_some {sep : Char} {cs before after : List Char} :
    cutAt? sep cs = some (before, after) ↔ cs = before ++ sep :: after ∧ sep ∉ before := by
  induction cs generalizing before with
  | nil => simp [cutAt?]
  | cons c cs ih =>
      by_cases hc : c = sep
      · subst hc
        cases before with
        | nil => simp [cutAt?, eq_comm]
        | cons b before =>
            simp only [cutAt?, if_true, Option.some.injEq, Prod.mk.injEq, List.cons_append,
              List.cons.injEq, List.mem_cons, not_or]
            constructor
            · rintro ⟨hnil, -⟩
              cases hnil
            · rintro ⟨⟨heq, -⟩, hne, -⟩
              exact absurd heq hne
      · cases before with
        | nil => simp [cutAt?, hc]
        | cons b before =>
            simp only [cutAt?, hc, if_false, Option.map_eq_some_iff, Prod.exists, Prod.mk.injEq,
              List.cons.injEq, List.cons_append, List.mem_cons, not_or]
            constructor
            · rintro ⟨front, rest, hcut, ⟨rfl, rfl⟩, rfl⟩
              obtain ⟨rfl, hfree⟩ := ih.1 hcut
              exact ⟨⟨rfl, rfl⟩, Ne.symm hc, hfree⟩
            · rintro ⟨⟨rfl, hcs⟩, -, hfree⟩
              exact ⟨before, after, ih.2 ⟨hcs, hfree⟩, ⟨rfl, rfl⟩, rfl⟩

/-- A character that is put between pieces is the only one that they do not bring along. -/
theorem not_mem_intercalate {sep c : Char} {pieces : List (List Char)} (hsep : c ≠ sep)
    (hpieces : ∀ piece ∈ pieces, c ∉ piece) : c ∉ [sep].intercalate pieces := by
  induction pieces with
  | nil => simp
  | cons piece rest ih =>
      rw [List.forall_mem_cons] at hpieces
      cases rest with
      | nil => simpa using hpieces.1
      | cons next rest =>
          rw [List.intercalate_cons_cons]
          simp only [List.mem_append, List.mem_singleton, not_or]
          exact ⟨⟨hpieces.1, hsep⟩, ih hpieces.2⟩

/-! ## Words -/

/-- Words with blanks between them, and perhaps around them. -/
inductive Spaced : List Char → List (List Char) → Prop where
  | nil : Spaced [] []
  | blank {c : Char} {cs : List Char} {words : List (List Char)} (hc : isBlank c = true)
      (h : Spaced cs words) : Spaced (c :: cs) words
  /-- A word ends at a blank or with the text. -/
  | word {word cs : List Char} {words : List (List Char)} (hnonempty : word ≠ [])
      (hword : ∀ c ∈ word, isBlank c = false) (hend : ∀ c ∈ cs.head?, isBlank c = true)
      (h : Spaced cs words) : Spaced (word ++ cs) (word :: words)

/-- The reader goes through a word without looking up. -/
theorem runsOf_word {p : Char → Bool} {word : List Char} (hword : ∀ c ∈ word, p c = true)
    (cs acc : List Char) : runsOf p (word ++ cs) acc = runsOf p cs (word.reverse ++ acc) := by
  induction word generalizing acc with
  | nil => rfl
  | cons c word ih =>
      have hc : p c = true := hword c List.mem_cons_self
      have hrest : ∀ d ∈ word, p d = true := fun d hd => hword d (List.mem_cons_of_mem c hd)
      have hstep : runsOf p (c :: (word ++ cs)) acc = runsOf p (word ++ cs) (c :: acc) := by
        simp [runsOf, hc]
      rw [List.cons_append, hstep, ih hrest]
      simp

theorem runsOf_end {p : Char → Bool} {cs acc : List Char} (hacc : acc ≠ [])
    (hend : ∀ c ∈ cs.head?, p c = false) : runsOf p cs acc = acc.reverse :: runsOf p cs [] := by
  cases acc with
  | nil => exact absurd rfl hacc
  | cons a acc =>
      cases cs with
      | nil => rfl
      | cons c cs =>
          have hc : p c = false := hend c rfl
          simp [runsOf, hc]

theorem wordsOf_of_spaced {cs : List Char} {words : List (List Char)} (h : Spaced cs words) :
    wordsOf cs = words := by
  induction h with
  | nil => rfl
  | @blank c cs words hc _ ih =>
      rw [← ih]
      simp [wordsOf, runsOf, hc]
  | @word word cs words hnonempty hword hend _ ih =>
      have hletters : ∀ c ∈ word, (!isBlank c) = true := by simpa using hword
      have hreverse : word.reverse ++ [] ≠ [] := by simpa using hnonempty
      rw [wordsOf, runsOf_word hletters, runsOf_end hreverse (by simpa using hend)]
      simpa [wordsOf] using ih

/-- What has been read of a word stands before the rest of the text. -/
theorem spaced_runsOf (cs acc : List Char) (hacc : ∀ c ∈ acc, isBlank c = false) :
    Spaced (acc.reverse ++ cs) (runsOf (fun c => !isBlank c) cs acc) := by
  induction cs generalizing acc with
  | nil =>
      cases acc with
      | nil => exact .nil
      | cons a acc =>
          exact .word (by simp) (fun c hc => hacc c (List.mem_reverse.1 hc)) (by simp) .nil
  | cons c cs ih =>
      by_cases hc : isBlank c = true
      · have hrest : Spaced (c :: cs) (runsOf (fun c => !isBlank c) cs []) :=
          .blank hc (ih [] (by simp))
        cases acc with
        | nil => simpa [runsOf, hc] using hrest
        | cons a acc =>
            simp only [runsOf, hc, Bool.not_true, Bool.false_eq_true, if_false]
            exact .word (by simp) (fun d hd => hacc d (List.mem_reverse.1 hd))
              (by simpa using hc) hrest
      · have hletter : isBlank c = false := by simpa using hc
        have hread := ih (c :: acc) (by simpa [hletter] using hacc)
        simpa [runsOf, hletter] using hread

theorem wordsOf_eq_iff {cs : List Char} {words : List (List Char)} :
    wordsOf cs = words ↔ Spaced cs words := by
  constructor
  · rintro rfl
    exact spaced_runsOf cs [] (by simp)
  · exact wordsOf_of_spaced

theorem spaced_wordsOf (cs : List Char) : Spaced cs (wordsOf cs) := wordsOf_eq_iff.1 rfl

/-- A text that does not begin with a blank begins with its first word. -/
theorem Spaced.head?_eq {cs word : List Char} {words : List (List Char)}
    (h : Spaced cs (word :: words)) (hbegins : ∀ c ∈ cs.head?, isBlank c = false) :
    word.head? = cs.head? := by
  cases h with
  | blank hc =>
      rw [hbegins _ rfl] at hc
      cases hc
  | word hnonempty =>
      cases word with
      | nil => exact absurd rfl hnonempty
      | cons c word => rfl

/-! ## Trimming -/

theorem Spaced.append_blanks {cs blanks : List Char} {words : List (List Char)}
    (h : Spaced cs words) (hblanks : ∀ c ∈ blanks, isBlank c = true) :
    Spaced (cs ++ blanks) words := by
  induction h with
  | nil =>
      induction blanks with
      | nil => exact .nil
      | cons c blanks ih =>
          rw [List.forall_mem_cons] at hblanks
          exact .blank hblanks.1 (ih hblanks.2)
  | blank hc _ ih => exact .blank hc ih
  | @word word cs words hnonempty hword hend _ ih =>
      rw [List.append_assoc]
      refine .word hnonempty hword (fun c hc => ?_) ih
      cases cs with
      | nil => exact hblanks c (List.mem_of_mem_head? hc)
      | cons d cs => exact hend c hc

theorem Spaced.blanks {cs : List Char} (h : Spaced cs []) : ∀ c ∈ cs, isBlank c = true := by
  generalize hwords : ([] : List (List Char)) = words at h
  induction h with
  | nil => simp
  | blank hc _ ih =>
      rw [List.forall_mem_cons]
      exact ⟨hc, ih hwords⟩
  | word => cases hwords

theorem exists_blanks_of_dropEndWhile (cs : List Char) :
    ∃ blanks, (∀ c ∈ blanks, isBlank c = true) ∧ cs = dropEndWhile isBlank cs ++ blanks := by
  refine ⟨(cs.reverse.takeWhile isBlank).reverse, fun c hc => ?_, ?_⟩
  · exact List.all_eq_true.1 List.all_takeWhile c (List.mem_reverse.1 hc)
  · rw [dropEndWhile, ← List.reverse_append, List.takeWhile_append_dropWhile, List.reverse_reverse]

theorem wordsOf_dropWhile (cs : List Char) : wordsOf (cs.dropWhile isBlank) = wordsOf cs := by
  induction cs with
  | nil => rfl
  | cons c cs ih =>
      by_cases hc : isBlank c = true
      · rw [List.dropWhile_cons_of_pos hc, ih]
        simp [wordsOf, runsOf, hc]
      · rw [List.dropWhile_cons_of_neg hc]

theorem wordsOf_trimChars (cs : List Char) : wordsOf (trimChars cs) = wordsOf cs := by
  obtain ⟨blanks, hblanks, hcs⟩ := exists_blanks_of_dropEndWhile (cs.dropWhile isBlank)
  have hmore := wordsOf_of_spaced ((spaced_wordsOf (trimChars cs)).append_blanks hblanks)
  rw [trimChars, stripBoth, ← hcs, wordsOf_dropWhile] at hmore
  exact hmore.symm

/-- A text that neither begins nor ends with a blank. -/
structure Trimmed (cs : List Char) : Prop where
  begins : ∀ c ∈ cs.head?, isBlank c = false
  ends : ∀ c ∈ cs.getLast?, isBlank c = false

/-- A trimmed text with blanks, or nothing, before and after it. -/
inductive Padded (core : List Char) : List Char → Prop where
  | intro {before after : List Char} (hcore : Trimmed core)
      (hbefore : ∀ c ∈ before, isBlank c = true) (hafter : ∀ c ∈ after, isBlank c = true) :
      Padded core (before ++ core ++ after)

theorem Trimmed.padded {core : List Char} (h : Trimmed core) : Padded core core := by
  have hpadded : Padded core ([] ++ core ++ []) := .intro h (by simp) (by simp)
  simpa using hpadded

theorem Padded.blank {core cs : List Char} {c : Char} (h : Padded core cs)
    (hc : isBlank c = true) : Padded core (c :: cs) := by
  cases h with
  | @intro before after hcore hbefore hafter =>
      have hmore : ∀ d ∈ c :: before, isBlank d = true := List.forall_mem_cons.2 ⟨hc, hbefore⟩
      exact .intro hcore hmore hafter

theorem dropWhile_eq_self {p : Char → Bool} {cs : List Char} (h : ∀ c ∈ cs.head?, p c = false) :
    cs.dropWhile p = cs := by
  cases cs with
  | nil => rfl
  | cons c cs => exact List.dropWhile_cons_of_neg (by simp [h c rfl])

theorem skipBlank_eq_self {cs : List Char} (h : ∀ c ∈ cs.head?, isBlank c = false) :
    skipBlank cs = cs :=
  dropWhile_eq_self h

theorem trimChars_of_padded {core cs : List Char} (h : Padded core cs) : trimChars cs = core := by
  cases h with
  | @intro before after hcore hbefore hafter =>
      have hback : ∀ c ∈ after.reverse, isBlank c = true :=
        fun c hc => hafter c (List.mem_reverse.1 hc)
      have hstop : core.reverse.dropWhile isBlank = core.reverse :=
        dropWhile_eq_self (by simpa using hcore.ends)
      have hend : dropEndWhile isBlank (core ++ after) = core := by
        rw [dropEndWhile, List.reverse_append, List.dropWhile_append_of_pos hback, hstop,
          List.reverse_reverse]
      rw [trimChars, stripBoth, List.append_assoc, List.dropWhile_append_of_pos hbefore]
      cases core with
      | nil =>
          rw [List.nil_append, ← List.append_nil after, List.dropWhile_append_of_pos hafter]
          rfl
      | cons c core => rw [dropWhile_eq_self (by simpa using hcore.begins), hend]

theorem head?_dropWhile {p : Char → Bool} {cs : List Char} :
    ∀ c ∈ (cs.dropWhile p).head?, p c = false := by
  intro c hc
  have hnot := List.head?_dropWhile_not p cs
  rwa [Option.mem_def.1 hc] at hnot

theorem trimmed_trimChars (cs : List Char) : Trimmed (trimChars cs) := by
  constructor
  case begins =>
    intro c hc
    obtain ⟨after, -, hback⟩ := exists_blanks_of_dropEndWhile (cs.dropWhile isBlank)
    have hbegin : c ∈ (trimChars cs ++ after).head? := by
      rw [List.head?_append, Option.mem_def.1 hc]
      rfl
    rw [trimChars, stripBoth, ← hback] at hbegin
    exact head?_dropWhile c hbegin
  case ends =>
    intro c hc
    rw [trimChars, stripBoth, dropEndWhile, List.getLast?_reverse] at hc
    exact head?_dropWhile c hc

theorem padded_trimChars (cs : List Char) : Padded (trimChars cs) cs := by
  obtain ⟨after, hafter, hback⟩ := exists_blanks_of_dropEndWhile (cs.dropWhile isBlank)
  have hbefore : ∀ c ∈ cs.takeWhile isBlank, isBlank c = true :=
    List.all_eq_true.1 List.all_takeWhile
  have hcs : cs.takeWhile isBlank ++ trimChars cs ++ after = cs := by
    rw [List.append_assoc, trimChars, stripBoth, ← hback, List.takeWhile_append_dropWhile]
  have hpadded : Padded (trimChars cs) (cs.takeWhile isBlank ++ trimChars cs ++ after) :=
    .intro (trimmed_trimChars cs) hbefore hafter
  rwa [hcs] at hpadded

theorem trimChars_eq_iff {core cs : List Char} : trimChars cs = core ↔ Padded core cs :=
  ⟨fun h => h ▸ padded_trimChars cs, trimChars_of_padded⟩

theorem trimmed_iff {cs : List Char} : Trimmed cs ↔ trimChars cs = cs :=
  ⟨fun h => trimChars_of_padded h.padded, fun h => h ▸ trimmed_trimChars cs⟩

instance (cs : List Char) : Decidable (Trimmed cs) := decidable_of_iff' _ trimmed_iff

theorem trimChars_eq_nil {cs : List Char} : trimChars cs = [] ↔ ∀ c ∈ cs, isBlank c = true := by
  rw [trimChars_eq_iff]
  constructor
  · rintro ⟨-, hbefore, hafter⟩
    simp only [List.append_nil, List.mem_append]
    rintro c (hc | hc)
    · exact hbefore c hc
    · exact hafter c hc
  · intro h
    have hpadded : Padded [] (cs ++ [] ++ []) := .intro ⟨by simp, by simp⟩ h (by simp)
    simpa using hpadded

/-- A text with one word is the word with blanks around it. -/
theorem Spaced.padded {cs word : List Char} (h : Spaced cs [word]) : Padded word cs := by
  generalize hwords : [word] = words at h
  induction h with
  | nil => cases hwords
  | blank hc _ ih => exact (ih hwords).blank hc
  | @word first cs words hnonempty hletters _ hrest =>
      obtain ⟨rfl, rfl⟩ := List.cons.inj hwords
      have htrimmed : Trimmed word :=
        ⟨fun c hc => hletters c (List.mem_of_mem_head? hc),
          fun c hc => hletters c (List.mem_of_mem_getLast? hc)⟩
      have hpadded : Padded word ([] ++ word ++ cs) := .intro htrimmed (by simp) hrest.blanks
      exact hpadded

theorem trimChars_of_spaced {cs word : List Char} (h : Spaced cs [word]) : trimChars cs = word :=
  trimChars_of_padded h.padded

end Orchestrator.Text
