import Orchestrator.Proofs.Broker.Attempt

/-!
TAKE against all others. A call reads its candidates once and then tries them in turn, while other
clients may change the store before every attempt. The others are free: they may add actions, and
take or complete actions by copies that were read at any earlier time, or that were never right.

The main statement says which candidate the call ends with, and that its lost attempts leave no
trace: the store that an attempt meets is the one that the others alone have made.
-/

namespace Orchestrator

namespace Broker

/-- What somebody may do to the store at one stroke. -/
inductive Stroke where
  | add (a : Action)
  | claim (a : Action) (now : Timestamp)
  | settle (pack : Pack) (a : Action) (result : Event) (now : Timestamp)
  | expire (now : Timestamp) (age : Int)

/-- The store after a stroke; one that fails changes nothing. -/
def Stroke.apply (s : ActionStore) : Stroke → ActionStore
  | .add a => match s.add a with
    | .ok (_, s) => s
    | .error _ => s
  | .claim a now => match Broker.claim s a now with
    | .ok (_, s) => s
    | .error _ => s
  | .settle pack a result now => match Broker.settle s pack a result now with
    | .ok (_, s) => s
    | .error _ => s
  | .expire now age => match s.expire? now age with
    | some (_, s) => s
    | none => s

def Stroke.isExpiry : Stroke → Bool
  | .expire .. => true
  | _ => false

def endure (s : ActionStore) (strokes : List Stroke) : ActionStore := strokes.foldl Stroke.apply s

/-- The store after the strokes of the first gaps, if nobody else does anything. -/
def others (gaps : Nat → List Stroke) (s : ActionStore) : Nat → ActionStore
  | 0 => s
  | n + 1 => others (fun m => gaps (m + 1)) (endure s (gaps 0)) n

/-- Tries candidates in turn amid the strokes of others: those of a gap come before the attempt with
the number of the gap, for which the clock is read as `clock` says. -/
def takeAmid (gaps : Nat → List Stroke) (clock : Nat → Timestamp) (s : ActionStore) :
    List Action → Except Error (Option Action) × ActionStore
  | [] => (.ok none, s)
  | a :: rest =>
    let s := endure s (gaps 0)
    match claim s a (clock 0) with
    | .ok (taken, s) => (.ok (some taken), s)
    | .error (.illegalTransition ..) =>
      takeAmid (fun n => gaps (n + 1)) (fun n => clock (n + 1)) s rest
    | .error e => (.error e, s)

/-- Left alone, a call does what taking without others does. -/
theorem takeAmid_alone (s : ActionStore) (now : Timestamp) (queue : List Action) :
    takeAmid (fun _ => []) (fun _ => now) s queue =
      match takeFirst s now queue with
      | .ok (outcome, s) => (.ok outcome, s)
      | .error e => (.error e, s) := by
  induction queue with
  | nil => rfl
  | cons a rest ih =>
      simp only [takeAmid, takeFirst, endure, List.foldl_nil]
      cases hclaim : claim s a now with
      | ok result => rfl
      | error e => cases e <;> first | exact ih | rfl

/-- An action is stored and still new. -/
def StillNew (s : ActionStore) (a : Action) : Prop :=
  ∃ b, s.get? a.id = some b ∧ b.state.value = .new

/-- An action is stored, and somebody has moved it on. -/
def MovedOn (s : ActionStore) (a : Action) : Prop :=
  ∃ b, s.get? a.id = some b ∧ b.state.value ≠ .new

/-- A stroke puts in an action, which is new only if nobody had its identifier, or it removes some,
or it does nothing. -/
theorem Stroke.apply_cases (s : ActionStore) (stroke : Stroke) :
    stroke.apply s = s ∨
      (∃ a, stroke.apply s = s.insert a.id a ∧ (s.get? a.id = none ∨ a.state.value ≠ .new)) ∨
      (stroke.isExpiry = true ∧ ∃ p, stroke.apply s = s.filter p) := by
  cases stroke with
  | add a =>
      simp only [apply]
      cases hadd : s.add a with
      | error e => exact .inl rfl
      | ok result =>
          obtain ⟨stored, t⟩ := result
          obtain ⟨hnone, rfl, rfl⟩ := ActionStore.add_eq_ok.1 hadd
          exact .inr (.inl ⟨{ a with previous := none }, rfl, .inl hnone⟩)
  | claim a now =>
      simp only [apply]
      cases hclaim : Broker.claim s a now with
      | error e => exact .inl rfl
      | ok result =>
          obtain ⟨taken, t⟩ := result
          obtain ⟨-, b, -, -, rfl, rfl⟩ := claim_eq_ok.1 hclaim
          exact .inr (.inl ⟨a.entered ⟨.pending, now⟩ b.history a.result, rfl, .inr (by simp)⟩)
  | settle pack a r now =>
      simp only [apply]
      cases hsettle : Broker.settle s pack a r now with
      | error e => exact .inl rfl
      | ok result =>
          obtain ⟨outcome, t⟩ := result
          cases outcome with
          | none => exact .inl (settle_eq_ok_none.1 hsettle).2
          | some completed =>
              obtain ⟨-, -, b, -, -, rfl, rfl⟩ := settle_eq_ok_some.1 hsettle
              refine .inr (.inl ⟨a.entered ⟨Action.outcome r, now⟩ b.history (some r), rfl, .inr ?_⟩)
              intro hnew
              have hterminal := Action.outcome_isTerminal r
              rw [show Action.outcome r = .new from hnew] at hterminal
              cases hterminal
  | expire now age =>
      simp only [apply]
      cases hexpire : s.expire? now age with
      | none => exact .inl rfl
      | some result =>
          obtain ⟨n, kept⟩ := result
          obtain ⟨limit, rfl⟩ := ActionStore.expire?_eq_some hexpire
          exact .inr (.inr ⟨rfl, _, rfl⟩)

/-- Whatever is done to a store, it keeps every action under its own identifier. -/
theorem Stroke.keyed_apply {s : ActionStore} (hs : s.Keyed) (stroke : Stroke) :
    (stroke.apply s).Keyed := by
  rcases stroke.apply_cases s with hsame | ⟨a, hinsert, -⟩ | ⟨-, p, hfilter⟩
  · rwa [hsame]
  · exact hinsert ▸ hs.insert a
  · exact hfilter ▸ hs.filter p

theorem keyed_endure {s : ActionStore} (hs : s.Keyed) (strokes : List Stroke) :
    (endure s strokes).Keyed := by
  induction strokes generalizing s with
  | nil => exact hs
  | cons stroke rest ih => exact ih (stroke.keyed_apply hs)

/-- A stroke other than expiry leaves a stored action as it is, or moves it on; it never makes an
action new again. -/
theorem Stroke.get?_apply {s : ActionStore} {stroke : Stroke} {id : String} {a : Action}
    (hstay : stroke.isExpiry = false) (ha : s.get? id = some a) :
    ∃ b, (stroke.apply s).get? id = some b ∧ (b = a ∨ b.state.value ≠ .new) := by
  rcases stroke.apply_cases s with hsame | ⟨c, hinsert, hc⟩ | ⟨hexpiry, -⟩
  · rw [hsame]
    exact ⟨a, ha, .inl rfl⟩
  · rw [hinsert, Dict.get?_insert]
    split
    · next hid =>
      refine ⟨c, rfl, .inr (hc.resolve_left fun hnone => ?_)⟩
      rw [← hid, ha] at hnone
      cases hnone
    · exact ⟨a, ha, .inl rfl⟩
  · rw [hstay] at hexpiry
    cases hexpiry

/-- An action that stays as it was, or is moved on, over one time and over the next, does so over
both. -/
theorem kept_trans {a b c : Action} (hab : b = a ∨ b.state.value ≠ .new)
    (hbc : c = b ∨ c.state.value ≠ .new) : c = a ∨ c.state.value ≠ .new := by
  rcases hbc with rfl | hmoved
  · exact hab
  · exact .inr hmoved

theorem get?_endure {strokes : List Stroke} {s : ActionStore} {id : String} {a : Action}
    (hstay : ∀ stroke ∈ strokes, stroke.isExpiry = false) (ha : s.get? id = some a) :
    ∃ b, (endure s strokes).get? id = some b ∧ (b = a ∨ b.state.value ≠ .new) := by
  induction strokes generalizing s a with
  | nil => exact ⟨a, ha, .inl rfl⟩
  | cons stroke rest ih =>
      obtain ⟨b, hb, hcase⟩ := Stroke.get?_apply (hstay stroke List.mem_cons_self) ha
      obtain ⟨c, hc, hlater⟩ := ih (fun x hx => hstay x (List.mem_cons_of_mem _ hx)) hb
      exact ⟨c, hc, kept_trans hcase hlater⟩

theorem get?_others {gaps : Nat → List Stroke} {s : ActionStore} {id : String} {a : Action}
    (hstay : ∀ n, ∀ stroke ∈ gaps n, stroke.isExpiry = false) (ha : s.get? id = some a) (n : Nat) :
    ∃ b, (others gaps s n).get? id = some b ∧ (b = a ∨ b.state.value ≠ .new) := by
  induction n generalizing gaps s a with
  | zero => exact ⟨a, ha, .inl rfl⟩
  | succ n ih =>
      obtain ⟨b, hb, hcase⟩ := get?_endure (hstay 0) ha
      obtain ⟨c, hc, hlater⟩ := ih (fun m => hstay (m + 1)) hb
      exact ⟨c, hc, kept_trans hcase hlater⟩

/-- An action is stored no longer. -/
def Gone (s : ActionStore) (a : Action) : Prop := s.get? a.id = none

/-- The candidates before the one with the number `n` were each lost to another when their turn
came. -/
def LostBefore (gaps : Nat → List Stroke) (s : ActionStore) (queue : List Action) (n : Nat) :
    Prop :=
  ∀ m b, m < n → queue[m]? = some b → MovedOn (others gaps s (m + 1)) b

/-- The ways in which a call ends: its candidates run out, it gets one, or it comes to one that is
gone. -/
inductive Ends (gaps : Nat → List Stroke) (clock : Nat → Timestamp) (s : ActionStore)
    (queue : List Action) : Except Error (Option Action) × ActionStore → Prop where
  | exhausted (hlost : LostBefore gaps s queue queue.length) :
      Ends gaps clock s queue (.ok none, others gaps s queue.length)
  | got {n : Nat} {a b taken : Action} (ha : queue[n]? = some a)
      (hb : (others gaps s (n + 1)).get? a.id = some b) (hnew : b.state.value = .new)
      (htaken : taken = a.entered ⟨.pending, clock n⟩ b.history a.result)
      (hlost : LostBefore gaps s queue n) :
      Ends gaps clock s queue (.ok (some taken), (others gaps s (n + 1)).insert a.id taken)
  | stopped {n : Nat} {a : Action} (ha : queue[n]? = some a)
      (hgone : Gone (others gaps s (n + 1)) a) (hlost : LostBefore gaps s queue n) :
      Ends gaps clock s queue (.error (.actionNotFound a.id), others gaps s (n + 1))

section Turns

variable {gaps : Nat → List Stroke} {clock : Nat → Timestamp} {s : ActionStore} {a : Action}
  {rest : List Action}

theorem LostBefore.zero {queue : List Action} : LostBefore gaps s queue 0 := by
  intro m b hm
  omega

theorem LostBefore.cons {n : Nat} (hmoved : MovedOn (endure s (gaps 0)) a)
    (h : LostBefore (fun n => gaps (n + 1)) (endure s (gaps 0)) rest n) :
    LostBefore gaps s (a :: rest) (n + 1) := by
  intro m b hm hb
  cases m with
  | zero =>
      simp only [List.getElem?_cons_zero, Option.some.injEq] at hb
      exact hb ▸ hmoved
  | succ m => exact h m b (by omega) hb

theorem Ends.cons {result : Except Error (Option Action) × ActionStore}
    (hmoved : MovedOn (endure s (gaps 0)) a)
    (h : Ends (fun n => gaps (n + 1)) (fun n => clock (n + 1)) (endure s (gaps 0)) rest result) :
    Ends gaps clock s (a :: rest) result := by
  cases h with
  | exhausted hlost => exact .exhausted (hlost.cons hmoved)
  | @got n b c _ hb hstored hnew htaken hlost =>
      exact .got (n := n + 1) hb hstored hnew htaken (hlost.cons hmoved)
  | @stopped n b hb hgone hlost => exact .stopped (n := n + 1) hb hgone (hlost.cons hmoved)

end Turns

/-- Whatever others do, expiry included, a call that has read only new actions ends in one of the
three ways. -/
theorem takeAmid_cases (gaps : Nat → List Stroke) (clock : Nat → Timestamp) (s : ActionStore)
    {queue : List Action} (hqueue : ∀ a ∈ queue, a.state.value = .new) :
    Ends gaps clock s queue (takeAmid gaps clock s queue) := by
  induction queue generalizing gaps clock s with
  | nil => exact .exhausted fun m b hm => absurd hm (Nat.not_lt_zero m)
  | cons a rest ih =>
      have hnew := hqueue a List.mem_cons_self
      cases hstored : (endure s (gaps 0)).get? a.id with
      | none =>
          have hclaim : claim (endure s (gaps 0)) a (clock 0) = .error (.actionNotFound a.id) :=
            (claim_eq_error hnew).2 (.inl ⟨hstored, rfl⟩)
          simp only [takeAmid, hclaim]
          exact .stopped (n := 0) rfl hstored .zero
      | some b =>
          by_cases hvalue : b.state.value = .new
          · have hclaim : claim (endure s (gaps 0)) a (clock 0) = .ok _ :=
              claim_eq_ok.2 ⟨hnew, b, hstored, hvalue, rfl, rfl⟩
            simp only [takeAmid, hclaim]
            exact .got (n := 0) rfl hstored hvalue rfl .zero
          · have hclaim : claim (endure s (gaps 0)) a (clock 0) =
                .error (.illegalTransition a.id b.state.value .pending) :=
              (claim_eq_error hnew).2 (.inr ⟨b, hstored, hvalue, rfl⟩)
            simp only [takeAmid, hclaim]
            exact (ih _ _ _ fun c hc => hqueue c (List.mem_cons_of_mem _ hc)).cons
              ⟨b, hstored, hvalue⟩

/-- How a call ends whose candidates have run out, each moved on before its turn. -/
def Leaves (gaps : Nat → List Stroke) (s : ActionStore) (queue : List Action)
    (final : ActionStore) : Prop :=
  final = others gaps s queue.length ∧
    ∀ n a, queue[n]? = some a → MovedOn (others gaps s (n + 1)) a

/-- How a call ends that gets a candidate: that one is as it was read, and the ones before it were
moved on before their turn. -/
def Gets (gaps : Nat → List Stroke) (clock : Nat → Timestamp) (s : ActionStore)
    (queue : List Action) (n : Nat) (taken : Action) (final : ActionStore) : Prop :=
  ∃ a, queue[n]? = some a ∧ (others gaps s (n + 1)).get? a.id = some a ∧
    a.state.value = .new ∧ taken = a.entered ⟨.pending, clock n⟩ a.history a.result ∧
    final = (others gaps s (n + 1)).insert a.id taken ∧
    ∀ m b, m < n → queue[m]? = some b → MovedOn (others gaps s (m + 1)) b

theorem takeAmid_ends {gaps : Nat → List Stroke} (clock : Nat → Timestamp) {s : ActionStore}
    {queue : List Action} (hstay : ∀ n, ∀ stroke ∈ gaps n, stroke.isExpiry = false)
    (hqueue : ∀ a ∈ queue, a.state.value = .new ∧
      ∃ b, s.get? a.id = some b ∧ (b = a ∨ b.state.value ≠ .new)) :
    (∃ final, takeAmid gaps clock s queue = (.ok none, final) ∧ Leaves gaps s queue final) ∨
    ∃ taken final, takeAmid gaps clock s queue = (.ok (some taken), final) ∧
      ∃ n, Gets gaps clock s queue n taken final := by
  have hlater : ∀ n a, queue[n]? = some a →
      ∃ b, (others gaps s (n + 1)).get? a.id = some b ∧ (b = a ∨ b.state.value ≠ .new) := by
    intro n a ha
    obtain ⟨-, b, hb, hcase⟩ := hqueue a (List.mem_of_getElem? ha)
    obtain ⟨c, hc, hthen⟩ := get?_others hstay hb (n + 1)
    exact ⟨c, hc, kept_trans hcase hthen⟩
  have hends := takeAmid_cases gaps clock s fun a ha => (hqueue a ha).1
  generalize takeAmid gaps clock s queue = result at hends ⊢
  cases hends with
  | exhausted hlost =>
      refine .inl ⟨_, rfl, rfl, fun n a ha => ?_⟩
      exact hlost n a (List.getElem?_eq_some_iff.1 ha).1 ha
  | @got n a b taken ha hb hnew htaken hlost =>
      obtain ⟨c, hc, hcase⟩ := hlater n a ha
      obtain rfl : b = c := Option.some.inj (hb.symm.trans hc)
      obtain rfl : b = a := hcase.resolve_right fun hmoved => hmoved hnew
      exact .inr ⟨taken, _, rfl, n, b, ha, hb, hnew, htaken, rfl, hlost⟩
  | @stopped n a ha hgone =>
      -- Without expiry no candidate is gone.
      obtain ⟨b, hb, -⟩ := hlater n a ha
      rw [Gone, hb] at hgone
      cases hgone

theorem MovedOn.not_stillNew {s : ActionStore} {a : Action} (h : MovedOn s a) : ¬ StillNew s a := by
  rintro ⟨b, hb, hnew⟩
  obtain ⟨c, hc, hmoved⟩ := h
  rw [hb, Option.some.injEq] at hc
  exact hmoved (hc ▸ hnew)

theorem take_eq {s : ActionStore} (hs : s.Keyed) (pack : Pack) (name : Option String)
    (now : Timestamp) :
    take s pack name now = match candidates s pack name with
      | [] => .ok (none, s)
      | a :: _ =>
        let taken := a.entered ⟨.pending, now⟩ a.history a.result
        .ok (some taken, s.insert a.id taken) := by
  unfold take
  cases hqueue : candidates s pack name with
  | nil => rfl
  | cons a rest =>
      obtain ⟨hstored, hnew, -⟩ := (mem_candidates hs).1 (hqueue ▸ List.mem_cons_self)
      have hclaim : claim s a now = .ok _ := claim_eq_ok.2 ⟨hnew, a, hstored, hnew, rfl, rfl⟩
      simp only [takeFirst, hclaim]

/-- A call amid all others ends without an error. It gets the first of its candidates that is still
new when its turn comes, and nothing exactly if there is none; what it tried before leaves no trace
in the store. The candidates are the new actions that the pack serves, the oldest first, and a call
that is left alone gets the oldest of them. -/
theorem takeAmid_gets_first_still_new (s : ActionStore) (hs : s.Keyed) (pack : Pack)
    (name : Option String) (gaps : Nat → List Stroke) (clock : Nat → Timestamp)
    (hstay : ∀ n, ∀ stroke ∈ gaps n, stroke.isExpiry = false) :
    (∀ a, a ∈ candidates s pack name ↔
      s.get? a.id = some a ∧ a.state.value = .new ∧ a.packName = pack.name ∧
        (∀ n, name = some n → a.name = n) ∧
        ∀ key value, a.packLabels.get? key = some value → pack.labels.get? key = some value) ∧
    (candidates s pack name).Pairwise ActionStore.Earlier ∧
    (∃ outcome final,
      takeAmid gaps clock s (candidates s pack name) = (.ok outcome, final) ∧
      (outcome.isSome ↔ ∃ n a, (candidates s pack name)[n]? = some a ∧
        StillNew (others gaps s (n + 1)) a) ∧
      (outcome = none → final = others gaps s (candidates s pack name).length) ∧
      ∀ taken, outcome = some taken → ∃ n a, (candidates s pack name)[n]? = some a ∧
        (others gaps s (n + 1)).get? a.id = some a ∧
        taken = a.entered ⟨.pending, clock n⟩ a.history a.result ∧
        final = (others gaps s (n + 1)).insert a.id taken ∧
        ∀ m b, m < n → (candidates s pack name)[m]? = some b →
          MovedOn (others gaps s (m + 1)) b) ∧
    ∀ now, take s pack name now = match candidates s pack name with
      | [] => .ok (none, s)
      | a :: _ =>
        let taken := a.entered ⟨.pending, now⟩ a.history a.result
        .ok (some taken, s.insert a.id taken) := by
  refine ⟨fun a => mem_candidates hs, (hs.findNew_pairwise pack.name name).filter _, ?_,
    take_eq hs pack name⟩
  have hqueue : ∀ a ∈ candidates s pack name, a.state.value = .new ∧
      ∃ b, s.get? a.id = some b ∧ (b = a ∨ b.state.value ≠ .new) := by
    intro a ha
    obtain ⟨hstored, hnew, -⟩ := (mem_candidates hs).1 ha
    exact ⟨hnew, a, hstored, .inl rfl⟩
  rcases takeAmid_ends clock hstay hqueue with
    ⟨final, hends, hfinal, hmoved⟩ |
      ⟨taken, final, hends, n, a, ha, hstored, hnew, htaken, hfinal, hmoved⟩
  · refine ⟨none, final, hends, ?_, fun _ => hfinal, by simp⟩
    simp only [Option.isSome_none, Bool.false_eq_true, false_iff]
    rintro ⟨n, a, ha, hstill⟩
    exact (hmoved n a ha).not_stillNew hstill
  · refine ⟨some taken, final, hends, ?_, by simp, ?_⟩
    · simp only [Option.isSome_some, true_iff]
      exact ⟨n, a, ha, a, hstored, hnew⟩
    · intro t ht
      simp only [Option.some.injEq] at ht
      subst ht
      exact ⟨n, a, ha, hstored, htaken, hfinal, hmoved⟩

/-- A chore for the kitchen. -/
def chore (id : String) : Action :=
  { Action.new "cook" "kitchen" ∅ .null default default with id }

def chores : ActionStore := endure ∅ [.add (chore "1"), .add (chore "2")]

def cook : Pack := ⟨"cook", "kitchen", ∅, [], [], default⟩

/-- Somebody takes the first chore just before the first attempt. -/
def rivals : Nat → List Stroke
  | 0 => [.claim (chore "1") default]
  | _ => []

theorem takeAmid_passes_over_lost_chore :
    chores.Keyed ∧ (∀ n, ∀ stroke ∈ rivals n, stroke.isExpiry = false) ∧
    ∃ taken final, takeAmid rivals (fun _ => default) chores (candidates chores cook none)
      = (.ok (some taken), final) ∧ taken.id = "2" := by
  have hkeyed : chores.Keyed := keyed_endure ActionStore.keyed_empty _
  have hstay : ∀ n, ∀ stroke ∈ rivals n, stroke.isExpiry = false := by
    intro n stroke hmem
    cases n with
    | zero =>
        simp only [rivals, List.mem_singleton] at hmem
        exact hmem ▸ rfl
    | succ n => simp [rivals] at hmem
  obtain ⟨-, -, ⟨outcome, final, hends, hsome, -, htaken⟩, -⟩ :=
    takeAmid_gets_first_still_new chores hkeyed cook none rivals (fun _ => default) hstay
  have hqueue : candidates chores cook none = [chore "1", chore "2"] := by
    rw [candidates_of_ordered (by decide +kernel)]
    decide +kernel
  rw [hqueue] at hends hsome htaken
  have hstill : outcome.isSome = true :=
    hsome.2 ⟨1, chore "2", rfl, chore "2", by decide +kernel, by decide +kernel⟩
  obtain ⟨taken, rfl⟩ := Option.isSome_iff_exists.1 hstill
  obtain ⟨n, a, ha, hstored, hentered, -⟩ := htaken taken rfl
  refine ⟨hkeyed, hstay, taken, final, hqueue ▸ hends, ?_⟩
  rcases n with _ | _ | n
  · simp only [List.getElem?_cons_zero, Option.some.injEq] at ha
    subst ha
    exact absurd hstored (by decide +kernel)
  · simp only [List.getElem?_cons_succ, List.getElem?_cons_zero, Option.some.injEq] at ha
    subst ha
    exact hentered ▸ rfl
  · simp at ha

end Broker

end Orchestrator
