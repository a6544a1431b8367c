import Mathlib.Data.List.Chain
import Orchestrator.Resolve

/-!
Templates that are rendered one within the other.

A rendering comes to an end exactly if the templates that it calls for, those that these call for,
and so on, are nested to a bounded depth. Nothing bounds the depth beforehand: a text that is given
to itself as a variable, and renders that variable, never comes to an end.
-/

namespace Orchestrator

namespace Template

/-! ## What a computation calls for -/

/-- What is answered stays so, and more may be answered. -/
def Answers.Extends (more answers : Answers) : Prop :=
  ∀ c answer, answers c = some answer → more c = some answer

/-- Answers that are the same as others, save that one call has come to a fault. -/
structure Answers.FailsAt (faulty answers : Answers) (c : Call) (fault : Fault) : Prop where
  here : faulty c = some (.error fault)
  elsewhere : ∀ d, d ≠ c → faulty d = answers d

theorem Answers.exists_failsAt (answers : Answers) (c : Call) (fault : Fault) :
    ∃ faulty : Answers, faulty.FailsAt answers c fault := by
  classical
  let faulty : Answers := fun d => if d = c then some (.error fault) else answers d
  exact ⟨faulty, if_pos rfl, fun d hd => if_neg hd⟩

/-- As others are answered, a computation comes to a call: whichever fault the call comes to is its
own. -/
def Outcome.ComesTo {α : Type} (x : Outcome α) (answers : Answers) (c : Call) : Prop :=
  ∀ faulty fault, Answers.FailsAt faulty answers c fault → x faulty = some (.error fault)

namespace Asks

variable {α : Type} {x : Outcome α} {answers more : Answers}

/-- What a computation comes to does not change when more is answered. -/
theorem mono (hx : Asks x) (hmore : more.Extends answers) {result : Except Fault α}
    (h : x answers = some result) : x more = some result := by
  induction hx with
  | done _ => exact h
  | call c next _ ih =>
      obtain ⟨answer, hc, hnext⟩ := Option.bind_eq_some_iff.1 h
      refine Option.bind_eq_some_iff.2 ⟨answer, hmore c answer hc, ?_⟩
      cases answer with
      | ok s => exact ih s hnext
      | error fault => exact hnext

theorem comesTo_mono (hx : Asks x) (hmore : more.Extends answers) {c : Call}
    (h : x.ComesTo answers c) : x.ComesTo more c := by
  intro faulty fault hfaulty
  obtain ⟨less, hless⟩ := answers.exists_failsAt c fault
  refine hx.mono (fun d answer hd => ?_) (h less fault hless)
  by_cases hdc : d = c
  · subst hdc
    rw [hfaulty.here, ← hless.here, hd]
  · rw [hfaulty.elsewhere d hdc]
    exact hmore d answer (hless.elsewhere d hdc ▸ hd)

/-- A computation that comes to nothing comes to a call that does so. -/
theorem exists_unanswered (hx : Asks x) (h : x answers = none) :
    ∃ c, x.ComesTo answers c ∧ answers c = none := by
  induction hx with
  | done result => cases h
  | call c next _ ih =>
      cases hc : answers c with
      | none =>
          refine ⟨c, fun faulty fault hfaulty => ?_, hc⟩
          simp [Outcome.andThen, hfaulty.here]
      | some answer =>
          cases answer with
          | error fault => simp [Outcome.andThen, hc] at h
          | ok s =>
              obtain ⟨d, hcomes, hd⟩ := ih s (by simpa [Outcome.andThen, hc] using h)
              refine ⟨d, fun faulty fault hfaulty => ?_, hd⟩
              have hne : c ≠ d := by
                rintro rfl
                rw [hc] at hd
                cases hd
              have hsame : faulty c = some (.ok s) := (hfaulty.elsewhere c hne).trans hc
              simpa [Outcome.andThen, hsame] using hcomes faulty fault hfaulty

/-- A computation that comes to something has asked for finitely many calls, and nothing else
matters to it. -/
theorem exists_asked (hx : Asks x) {result : Except Fault α} (h : x answers = some result) :
    ∃ asked : List Call, (∀ c ∈ asked, ∃ answer, answers c = some answer) ∧
      ∀ other : Answers, (∀ c ∈ asked, other c = answers c) → x other = some result := by
  induction hx with
  | done _ => exact ⟨[], by simp, fun _ _ => h⟩
  | call c next _ ih =>
      obtain ⟨answer, hc, hnext⟩ := Option.bind_eq_some_iff.1 h
      cases answer with
      | error fault =>
          refine ⟨[c], by simp [hc], fun other hsame => ?_⟩
          exact Option.bind_eq_some_iff.2 ⟨_, (hsame c (by simp)).trans hc, hnext⟩
      | ok s =>
          obtain ⟨asked, hanswered, hall⟩ := ih s hnext
          refine ⟨c :: asked, ?_, fun other hsame => ?_⟩
          · simpa [hc] using hanswered
          · refine Option.bind_eq_some_iff.2 ⟨_, (hsame c (by simp)).trans hc, ?_⟩
            exact hall other fun d hd => hsame d (List.mem_cons_of_mem _ hd)

/-- Those are all the calls that it comes to: of another one it would not notice the fault. -/
theorem mem_of_comesTo {asked : List Call} {result : Except Fault α} {c : Call}
    (hall : ∀ other : Answers, (∀ d ∈ asked, other d = answers d) → x other = some result)
    (hmore : ∀ d ∈ asked, more d = answers d) (hcomes : x.ComesTo more c) : c ∈ asked := by
  by_contra hc
  have hfault : ∀ fault, result = .error fault := by
    intro fault
    obtain ⟨faulty, hfaulty⟩ := more.exists_failsAt c fault
    have hresult : x faulty = some result := hall faulty fun d hd => by
      have hne : d ≠ c := fun heq => hc (heq ▸ hd)
      rw [hfaulty.elsewhere d hne, hmore d hd]
    exact Option.some.inj (hresult.symm.trans (hcomes faulty fault hfaulty))
  cases (hfault .syntaxError).symm.trans (hfault .badEscape)

end Asks

/-! ## How deeply renderings are nested -/

/-- Rendering one template calls for another, if enough others may be rendered for that. -/
def Nests (data : DataStore) (c d : Call) : Prop :=
  ∃ depth, (run data c).outcome.ComesTo (renderWithin data depth) d

/-- Below a template others are nested one within the other at most this often. -/
def NestedWithin (data : DataStore) (depth : Nat) (c : Call) : Prop :=
  ∀ calls : List Call, (c :: calls).IsChain (Nests data) → calls.length ≤ depth

section

variable {data : DataStore} {c d : Call} {m n depth : Nat}

theorem renderWithin_succ : renderWithin data (depth + 1) c =
    (run data c).outcome (renderWithin data depth) := rfl

theorem renderWithin_mono (data : DataStore) (h : m ≤ n) :
    Answers.Extends (renderWithin data n) (renderWithin data m) := by
  induction m generalizing n with
  | zero => exact fun c answer hc => absurd hc (by simp [renderWithin])
  | succ m ih =>
      obtain ⟨n, rfl⟩ : ∃ k, n = k + 1 := ⟨n - 1, by omega⟩
      exact fun c answer hc => (run data c).asks.mono (ih (Nat.le_of_succ_le_succ h)) hc

/-- A template that comes to something has called for others that come to something one level
below. -/
theorem Nests.answered (hnests : Nests data c d) {result : Except Fault String}
    (hresult : renderWithin data (depth + 1) c = some result) :
    ∃ answer, renderWithin data depth d = some answer := by
  obtain ⟨k, hcomes⟩ := hnests
  obtain ⟨asked, hanswered, hall⟩ := (run data c).asks.exists_asked hresult
  have hk := renderWithin_mono data (Nat.le_max_left k depth)
  have hdepth := renderWithin_mono data (Nat.le_max_right k depth)
  refine hanswered d (Asks.mem_of_comesTo hall (fun e he => ?_)
    ((run data c).asks.comesTo_mono hk hcomes))
  obtain ⟨answer, he⟩ := hanswered e he
  rw [he, hdepth e answer he]

theorem nestedWithin_of_answered {result : Except Fault String}
    (h : renderWithin data (depth + 1) c = some result) : NestedWithin data depth c := by
  intro calls hchain
  induction calls generalizing c depth result with
  | nil => exact Nat.zero_le depth
  | cons d rest ih =>
      obtain ⟨hnests, hrest⟩ := List.isChain_cons_cons.1 hchain
      obtain ⟨answer, hd⟩ := hnests.answered h
      obtain _ | depth := depth
      · cases hd
      · exact Nat.succ_le_succ (ih hd hrest)

/-- Where some levels are not enough, calls go down all of them. -/
theorem exists_chain_of_unanswered (h : renderWithin data depth c = none) :
    ∃ calls : List Call, (c :: calls).IsChain (Nests data) ∧ calls.length = depth := by
  induction depth generalizing c with
  | zero => exact ⟨[], .singleton c, rfl⟩
  | succ depth ih =>
      obtain ⟨d, hcomes, hd⟩ := (run data c).asks.exists_unanswered h
      obtain ⟨calls, hchain, hlength⟩ := ih hd
      exact ⟨d :: calls, .cons_cons ⟨depth, hcomes⟩ hchain, by rw [List.length_cons, hlength]⟩

/-- As many levels are needed as templates are nested, and one for the template itself. -/
theorem renderWithin_isSome_iff :
    (renderWithin data (depth + 1) c).isSome = true ↔ NestedWithin data depth c := by
  constructor
  · intro h
    obtain ⟨result, hresult⟩ := Option.isSome_iff_exists.1 h
    exact nestedWithin_of_answered hresult
  · intro hwithin
    by_contra hnone
    obtain ⟨calls, hchain, hlength⟩ :=
      exists_chain_of_unanswered (Option.not_isSome_iff_eq_none.1 hnone)
    have hle := hwithin calls hchain
    omega

end

/-- A template comes to a text or to a fault, and to the same one with however many more levels,
exactly if the renderings that it calls for are nested to a bounded depth. -/
theorem ends_iff_nestedWithin (data : DataStore) (c : Call) :
    (∃ result, ∃ least, ∀ depth, least ≤ depth → renderWithin data depth c = some result) ↔
      ∃ depth, NestedWithin data depth c := by
  constructor
  · rintro ⟨result, least, h⟩
    exact ⟨least, nestedWithin_of_answered (h (least + 1) (Nat.le_succ least))⟩
  · rintro ⟨depth, hwithin⟩
    obtain ⟨result, hresult⟩ := Option.isSome_iff_exists.1 (renderWithin_isSome_iff.2 hwithin)
    exact ⟨result, depth + 1, fun n hn => renderWithin_mono data hn c result hresult⟩

/-! ## A text that renders itself -/

theorem Outcome.andThen_eq_none {α β : Type} {x : Outcome α} {answers : Answers}
    (h : x answers = none) {f : α → Outcome β} : x.andThen f answers = none := by
  simp [Outcome.andThen, h]

/-- The function that renders a text with variables comes to nothing if the text does not. -/
theorem Render.outcome_template (r : Reach) {source : String} {safe : Bool}
    {entries : List (Value × Value)} {answers : Answers}
    (h : ∀ seed, answers ⟨seed, source, .map entries⟩ = none) (m : Machine) :
    ((callFunction r "template" ⟨[.str source safe, .map entries], none⟩).run m).outcome answers =
      none := by
  have hcall : callFunction r "template" ⟨[.str source safe, .map entries], none⟩ = (do
      let seed ← draw (Nat.pow 2 53)
      return .ofText (← nest ⟨seed, source, .map entries⟩)) := rfl
  obtain ⟨seed, moved, hdraw⟩ : ∃ seed moved, (draw (Nat.pow 2 53)).run m = pure (seed, moved) :=
    ⟨_, _, rfl⟩
  rw [hcall, StateT.run_bind, hdraw]
  exact Outcome.andThen_eq_none (Outcome.andThen_eq_none (h seed))

/-- Renders the variable that holds its text, with the same variable. -/
def echo : String := "\x7b\x7b template(t, \x7b't': t\x7d) \x7d\x7d"

/-- The text is rendered as it asks to be. -/
def echoCall (seed : Nat) : Call := ⟨seed, echo, .ofJson (Json.object [("t", .str echo)])⟩

def echoBody : List Stmt :=
  [.output (.call (.var "template")
    [(.positional, .var "t"), (.positional, .map [(.literal (.str "t"), .var "t")])])]

/-- Programs cannot be compared, but this one can be recognised. -/
def Program.isEcho : Program → Bool
  | ⟨[.output (.call (.var "template") [(.positional, .var "t"),
      (.positional, .map [(.literal (.str "t"), .var "t")])])], []⟩ => true
  | _ => false

theorem Program.eq_of_isEcho {p : Program} (h : p.isEcho = true) : p = ⟨echoBody, []⟩ := by
  unfold isEcho at h
  split at h
  · rfl
  · cases h

theorem parse_echo : parse echo = .ok ⟨echoBody, []⟩ := by
  have hparse : (parse echo).toOption.any Program.isEcho = true := by decide +kernel
  cases h : parse echo with
  | error fault => simp [h, Except.toOption] at hparse
  | ok p =>
      have hp : p.isEcho = true := by simpa [h, Except.toOption] using hparse
      rw [Program.eq_of_isEcho hp]

theorem outcome_echoBody (r : Reach) (seed : Nat) {answers : Answers}
    (h : ∀ seed, answers (echoCall seed) = none) :
    ((Render.execAll r echoBody).run (.start (echoCall seed))).outcome answers = none := by
  -- What happens first is the call, with the same text and the same variable.
  obtain ⟨m, shown, rest, hrun⟩ : ∃ (m : Machine)
      (shown : Value × Machine → Calling (Unit × Machine))
      (rest : Unit × Machine → Calling (Unit × Machine)),
      (Render.execAll r echoBody).run (.start (echoCall seed)) =
        (Render.callFunction r "template" ⟨[.str echo false, (echoCall seed).bindings], none⟩).run m
          >>= shown >>= rest :=
    ⟨_, _, _, rfl⟩
  rw [hrun]
  exact Outcome.andThen_eq_none (Outcome.andThen_eq_none (Render.outcome_template r h m))

theorem renderWithin_echo (data : DataStore) (depth seed : Nat) :
    renderWithin data depth (echoCall seed) = none := by
  induction depth generalizing seed with
  | zero => rfl
  | succ depth ih =>
      have hparse : parse (echoCall seed).source = .ok ⟨echoBody, []⟩ := parse_echo
      rw [renderWithin_succ, run, hparse]
      exact Outcome.andThen_eq_none (outcome_echoBody _ seed ih)

/-- The text is a template, and its renderings are nested beyond every depth, so that it comes to
nothing at any of them. -/
theorem echo_never_ends :
    hasMarkup echo = true ∧ ∀ data seed depth, renderWithin data depth (echoCall seed) = none ∧
      ¬ NestedWithin data depth (echoCall seed) := by
  refine ⟨by decide +kernel, fun data seed depth => ⟨renderWithin_echo data depth seed, ?_⟩⟩
  intro hwithin
  have hsome := renderWithin_isSome_iff.2 hwithin
  rw [renderWithin_echo] at hsome
  cases hsome

end Template

end Orchestrator
