import Orchestrator.Proofs.Api.Handling
import Orchestrator.Proofs.Floor.Lifecycle

/-!
Of all calls that want to move one action, one wins. What decides it is the journal: the versions of
an action are in ever later states there, so a state is entered by one write alone, and a call that
returns an action has made the write by which the action entered its state.

A completed action is dispatched by the call that has completed it, when that call answers its
request. So dispatches and answered winners go together, one for one.
-/

namespace Orchestrator

namespace Task

/-- The action that a take call has returned. -/
def took : Task → Option Action
  | .taken _ (.ok (some a)) => some a
  | _ => none

/-- The action that a complete call has returned. -/
def won : Task → Option Action
  | .completed _ _ _ (.ok (some a)) _ => some a
  | _ => none

/-- The action that a complete call has returned, once its request is answered. -/
def passedOn : Task → Option Action
  | .completed _ _ _ (.ok (some a)) true => some a
  | _ => none

/-- The completed action whose dispatch a task is. -/
def dispatches : Task → Option Action
  | .dispatch (.completed a) _ => some a
  | _ => none

/-- Whether a task is a complete call, finished or not. -/
def isComplete : Task → Bool
  | .complete .. | .completed .. => true
  | _ => false

end Task

namespace Floor

/-! ## What is to be seen of the tasks -/

def seen (s : Floor) (f : Task → Option Action) (i : Nat) : Option Action := s.tasks[i]?.bind f

section Seen

variable {s : Floor} {f : Task → Option Action} {i k : Nat} {t u : Task} {a : Action}

theorem seen_eq_some : s.seen f i = some a ↔ ∃ t, s.tasks[i]? = some t ∧ f t = some a :=
  Option.bind_eq_some_iff

theorem seen_congr {u : Floor} (h : s.tasks = u.tasks) : s.seen f = u.seen f := by
  funext k
  rw [seen, seen, h]

theorem seen_put (htask : s.tasks[i]? = some t) (u : Task) (k : Nat) :
    (s.put i u).seen f k = if k = i then f u else s.seen f k := by
  have hlt : i < s.tasks.length := (List.getElem?_eq_some_iff.1 htask).1
  simp only [seen, put, List.getElem?_set]
  by_cases hk : i = k
  · simp [← hk, hlt]
  · simp [hk, Ne.symm hk]

theorem seen_write_self (htask : s.tasks[i]? = some t) (a : Action) (u : Task) :
    (s.write i a u).seen f i = f u :=
  (seen_put htask u i).trans (if_pos rfl)

theorem seen_put_eq (htask : s.tasks[i]? = some t) (hsame : f u = f t) :
    (s.put i u).seen f = s.seen f := by
  funext k
  rw [seen_put htask]
  split
  · next hk => simp [seen, hk, htask, hsame]
  · rfl

theorem seen_begin (t : Task) (k : Nat) :
    (s.begin [t]).seen f k = if k = s.tasks.length then f t else s.seen f k := by
  simp only [seen, begin, List.getElem?_append]
  rcases Nat.lt_trichotomy k s.tasks.length with hlt | heq | hgt
  · simp [hlt, Nat.ne_of_lt hlt]
  · simp [heq]
  · have hnone : s.tasks[k]? = none := List.getElem?_eq_none (Nat.le_of_lt hgt)
    rw [if_neg (by omega), if_neg (by omega), hnone, List.getElem?_eq_none (by simp; omega)]

theorem seen_begin_eq {tasks : List Task} (hnothing : ∀ t ∈ tasks, f t = none) :
    (s.begin tasks).seen f = s.seen f := by
  funext k
  simp only [seen, begin, List.getElem?_append]
  split
  · rfl
  · next hge =>
    rw [List.getElem?_eq_none (l := s.tasks) (by omega), Option.bind_none, Option.bind_eq_none_iff]
    exact fun t ht => hnothing t (List.mem_of_getElem? ht)

/-- A task that has shown nothing so far takes nothing away. -/
theorem seen_put_of_none (htask : s.tasks[i]? = some t) (hnothing : f t = none)
    (ha : s.seen f k = some a) : (s.put i u).seen f k = some a := by
  rw [seen_put htask, if_neg]
  · exact ha
  · rintro rfl
    simp [seen, htask, hnothing] at ha

end Seen

theorem won_answered (pack : Pack) (id : String) (read : Option Action)
    (outcome : Except Error (Option Action)) (answered : Bool) :
    Task.won (.completed pack id read outcome true) =
      Task.won (.completed pack id read outcome answered) := by
  rcases outcome with e | _ | a <;> rfl

/-- What a complete call has won stays won. -/
theorem Effect.won_mono {s s' : Floor} {move : Move} (heffect : s.Effect move s') {i : Nat}
    {a : Action} (ha : s.seen Task.won i = some a) : s'.seen Task.won i = some a := by
  cases heffect with
  | registered | unregistered | expired => exact ha
  | published | takeBegun | completeBegun | completeMissed =>
      rw [seen_begin_eq (by simp [Task.won])]
      exact ha
  | @loaded j ids report htask =>
      rw [seen_begin_eq (by simp [Task.won])]
      exact seen_put_of_none (s := s.give j ids) htask rfl ha
  | @drafted j renderer stamp w step rest b htask =>
      exact seen_put_of_none (s := s.give j [stamp.id]) htask rfl ha
  | passed htask | takeTimed htask | completeTimed htask | added htask | addRefused htask
  | queueEmpty htask | claimed htask | claimLost htask | claimFailed htask | settled htask
  | settleIgnored htask | settleRefused htask => exact seen_put_of_none htask rfl ha
  | dispatched htask =>
      rw [seen_begin_eq (by simp [Task.won]), seen_put_eq htask (won_answered ..)]
      exact ha
  | answered htask =>
      rw [seen_put_eq htask (won_answered ..)]
      exact ha

/-! ## Who has won -/

variable {s s' : Floor} {move : Move}

theorem Sound.took (h : s.Sound) {i : Nat} {a : Action} (ha : s.seen Task.took i = some a) :
    ⟨i, a⟩ ∈ s.journal ∧ a.state.value = .pending := by
  obtain ⟨t, htask, ht⟩ := seen_eq_some.1 ha
  unfold Task.took at ht
  split at ht
  · exact h.tasks i _ htask a (by rw [Option.some.inj ht])
  · cases ht

theorem Sound.won (h : s.Sound) {i : Nat} {a : Action} (ha : s.seen Task.won i = some a) :
    ⟨i, a⟩ ∈ s.journal ∧ a.state.value.isTerminal = true := by
  obtain ⟨t, htask, ht⟩ := seen_eq_some.1 ha
  unfold Task.won at ht
  split at ht
  · obtain ⟨hentry, hterminal, -⟩ := (h.tasks i _ htask).2 a (by rw [Option.some.inj ht])
    exact ⟨hentry, hterminal⟩
  · cases ht

theorem Sound.took_unique (h : s.Sound) {i j : Nat} {a b : Action}
    (ha : s.seen Task.took i = some a) (hb : s.seen Task.took j = some b) (hid : a.id = b.id) :
    i = j := by
  obtain ⟨hi, hpending⟩ := h.took ha
  obtain ⟨hj, hpending'⟩ := h.took hb
  exact congrArg Entry.task
    (h.booked.advances.eq_of_same_rank hi hj hid (by rw [hpending, hpending']))

theorem Sound.won_unique (h : s.Sound) {i j : Nat} {a b : Action}
    (ha : s.seen Task.won i = some a) (hb : s.seen Task.won j = some b) (hid : a.id = b.id) :
    i = j := by
  obtain ⟨hi, hterminal⟩ := h.won ha
  obtain ⟨hj, hterminal'⟩ := h.won hb
  refine congrArg Entry.task (h.booked.advances.eq_of_same_rank hi hj hid ?_)
  rw [ActionState.rank_eq_three.2 hterminal, ActionState.rank_eq_three.2 hterminal']

/-- How a complete call may end that has found its action, whose state it read is known. -/
inductive Verdict (s : Floor) (pack : Pack) (a : Action) : Except Error (Option Action) → Prop where
  | won (b : Action) : Verdict s pack a (.ok (some b))
  | ignored (hserves : pack.serves a.packName a.packLabels = false) : Verdict s pack a (.ok none)
  /-- Another has completed the action, unless it was not pending in the first place. -/
  | refused {source target : ActionState}
      (hwinner : a.state.value = .pending → ∃ i b, s.seen Task.won i = some b ∧ b.id = a.id) :
      Verdict s pack a (.error (.illegalTransition a.id source target))
  | gone (hnone : s.actions.get? a.id = none) : Verdict s pack a (.error (.actionNotFound a.id))

theorem Verdict.mono (hs : s.Sound) (heffect : s.Effect move s') {pack : Pack} {a : Action}
    {outcome : Except Error (Option Action)} (ha : Recorded s.journal a)
    (h : s.Verdict pack a outcome) : s'.Verdict pack a outcome := by
  cases h with
  | won b => exact .won b
  | ignored hserves => exact .ignored hserves
  | refused hwinner =>
      refine .refused fun hpending => ?_
      obtain ⟨i, b, hb, hid⟩ := hwinner hpending
      exact ⟨i, b, heffect.won_mono hb, hid⟩
  | gone hnone => exact .gone (heffect.stays_gone hs ha hnone)

/-- What holds of the end of a complete call. -/
def Judged (s : Floor) : Task → Prop
  | .completed _ id none outcome _ => outcome = .error (.actionNotFound id)
  | .completed pack _ (some a) outcome _ => s.Verdict pack a outcome
  | _ => True

theorem judged_answered {pack : Pack} {id : String} {read : Option Action}
    {outcome : Except Error (Option Action)} (h : s.Judged (.completed pack id read outcome false)) :
    s.Judged (.completed pack id read outcome true) := by
  cases read <;> exact h

theorem Judged.mono (hs : s.Sound) (heffect : s.Effect move s') {i : Nat} {t : Task}
    (hsound : t.Sound s.journal s.given i) (h : s.Judged t) : s'.Judged t := by
  cases t with
  | completed pack id read outcome answered =>
      cases read with
      | none => exact h
      | some a => exact Verdict.mono hs heffect (hsound.1 a rfl).1 h
  | _ => trivial

/-- Every completion is the credit of a complete call, and every other such call ends as it must. -/
structure Fair (s : Floor) : Prop where
  credited : ∀ i a, ⟨i, a⟩ ∈ s.journal → a.state.value.isTerminal = true →
    s.seen Task.won i = some a
  judged : s.Each fun _ t => s.Judged t

theorem fair_empty (mode : DependencyMode) : (empty mode).Fair where
  credited := by
    intro i a hentry
    simp [empty] at hentry
  judged := each_empty mode _

theorem verdict_of_refused (hs : s.Sound) (hfair : s.Fair) {pack : Pack} {a : Action} {r : Event}
    {now : Timestamp} {e : Error} (ha : Recorded s.journal a)
    (hsettle : Broker.settle s.actions pack a r now = .error e) : s.Verdict pack a (.error e) := by
  obtain ⟨-, ⟨hvalue, rfl⟩ | ⟨hpending, ⟨hnone, rfl⟩ | ⟨b, hb, hmoved, rfl⟩⟩⟩ :=
    Broker.settle_eq_error.1 hsettle
  · exact .refused fun hpending => absurd hpending hvalue
  · exact .gone hnone
  · refine .refused fun _ => ?_
    have hrecorded : Recorded s.journal b := hs.booked.recorded _ _ hb
    have hrank := (hs.booked.latest _ _ _ hb ha rfl).rank_le (hs.booked.lived a ha)
      (hs.booked.lived b hrecorded)
    -- What is stored is later than what was read as pending, so another call has completed it.
    have hterminal : b.state.value.isTerminal = true := by
      rw [hpending] at hrank
      cases hvalue : b.state.value <;>
        simp_all [ActionState.rank, ActionState.isTerminal]
    obtain ⟨i, hentry⟩ := hrecorded
    exact ⟨i, b, hfair.credited i b hentry hterminal, hs.booked.keyed _ _ hb⟩

/-- A write that completes an action is the credit of the call that has made it. -/
theorem Effect.credited (hs : s.Sound) (heffect : s.Effect move s') {i : Nat} {a : Action}
    (hentry : ⟨i, a⟩ ∈ s'.journal) (hterminal : a.state.value.isTerminal = true) :
    ⟨i, a⟩ ∈ s.journal ∨ s'.seen Task.won i = some a := by
  rcases heffect.write_cases hs with ⟨j, b, t, -, hwrite, rfl⟩ | ⟨hjournal, -⟩ | ⟨-, hjournal, -⟩
  · rcases List.mem_append.1 hentry with hold | hnew
    · exact .inl hold
    · obtain ⟨rfl, rfl⟩ := Entry.mk.inj (List.mem_singleton.1 hnew)
      cases hwrite with
      | birth _ _ _ hdrafted =>
          rw [hdrafted.new] at hterminal
          cases hterminal
      | take => cases hterminal
      | complete htask => exact .inr (seen_write_self htask _ _)
  · exact .inl (hjournal ▸ hentry)
  · exact .inl (hjournal ▸ hentry)

theorem Effect.fair (hs : s.Sound) (h : s.Fair) (heffect : s.Effect move s') : s'.Fair where
  credited := by
    intro i a hentry hterminal
    rcases heffect.credited hs hentry hterminal with hold | hnew
    · exact heffect.won_mono (h.credited i a hold hterminal)
    · exact hnew
  judged := by
    have hkept : s.Each fun _ t => s'.Judged t :=
      fun i t ht => Judged.mono hs heffect (hs.tasks i t ht) (h.judged i t ht)
    cases heffect with
    | registered | unregistered | expired => exact hkept
    | published | takeBegun | completeBegun | completeMissed => exact hkept.begin (by simp [Judged])
    | @loaded i ids report =>
        have hput := Each.put (s := s.give i ids) (i := i) (t := .dispatch report true) hkept trivial
        refine hput.begin fun t ht k => ?_
        obtain ⟨a, -, rfl⟩ := List.mem_map.1 ht
        trivial
    | drafted | passed | takeTimed | completeTimed | added | addRefused | queueEmpty | claimed
    | claimLost | claimFailed => exact hkept.put trivial
    | settled => exact hkept.put (.won _)
    | settleIgnored htask hsettle =>
        exact hkept.put (.ignored (Broker.settle_eq_ok_none.1 hsettle).1)
    | @settleRefused i pack a result now e htask hsettle =>
        have ha : Recorded s.journal a := hs.tasks _ _ htask
        exact hkept.put
          (Verdict.mono hs (.settleRefused htask hsettle) ha (verdict_of_refused hs h ha hsettle))
    | dispatched htask =>
        exact (hkept.put (judged_answered (hkept _ _ htask))).begin (by simp [Judged])
    | answered htask => exact hkept.put (judged_answered (hkept _ _ htask))

theorem run_fair (mode : DependencyMode) (moves : List Move) : (run mode moves).Fair := by
  exact run_invariant (fair_empty mode) fun s s' move _ hs h heffect => heffect.fair hs h

/-! ## What is dispatched -/

theorem won_of_passedOn {i : Nat} {a : Action} (ha : s.seen Task.passedOn i = some a) :
    s.seen Task.won i = some a := by
  obtain ⟨t, htask, ht⟩ := seen_eq_some.1 ha
  refine seen_eq_some.2 ⟨t, htask, ?_⟩
  unfold Task.passedOn at ht
  split at ht
  · exact ht
  · cases ht

/-- Two floors on which the same is dispatched, by the same calls. -/
structure SamePost (s s' : Floor) : Prop where
  dispatches : s'.seen Task.dispatches = s.seen Task.dispatches
  passedOn : s'.seen Task.passedOn = s.seen Task.passedOn

theorem samePost_begin {tasks : List Task} (hd : ∀ t ∈ tasks, t.dispatches = none)
    (hp : ∀ t ∈ tasks, t.passedOn = none) : SamePost s (s.begin tasks) :=
  ⟨seen_begin_eq hd, seen_begin_eq hp⟩

theorem samePost_set {i : Nat} {t u : Task} (hset : s'.tasks = s.tasks.set i u)
    (htask : s.tasks[i]? = some t) (hd : u.dispatches = t.dispatches)
    (hp : u.passedOn = t.passedOn) : SamePost s s' :=
  ⟨(seen_congr hset).trans (seen_put_eq htask hd), (seen_congr hset).trans (seen_put_eq htask hp)⟩

/-- A dispatch begins when a call that has won answers its request, and never else. -/
theorem Effect.post (heffect : s.Effect move s') :
    SamePost s s' ∨ ∃ i a, s.seen Task.won i = some a ∧ s.seen Task.passedOn i = none ∧
      (∀ k, s'.seen Task.dispatches k =
        if k = s.tasks.length then some a else s.seen Task.dispatches k) ∧
      ∀ k, s'.seen Task.passedOn k = if k = i then some a else s.seen Task.passedOn k := by
  cases heffect with
  | registered | unregistered | expired => exact .inl ⟨rfl, rfl⟩
  | published | takeBegun | completeBegun | completeMissed =>
      exact .inl (samePost_begin (by simp [Task.dispatches]) (by simp [Task.passedOn]))
  | @loaded i ids report htask =>
      have hput : SamePost s ((s.give i ids).put i (.dispatch report true)) :=
        samePost_set rfl htask (by cases report <;> rfl) rfl
      have hbegin : SamePost ((s.give i ids).put i (.dispatch report true))
          (s.loaded i ids report) :=
        samePost_begin (by simp [Task.dispatches]) (by simp [Task.passedOn])
      exact .inl ⟨hbegin.dispatches.trans hput.dispatches, hbegin.passedOn.trans hput.passedOn⟩
  | drafted htask | passed htask | takeTimed htask | completeTimed htask | added htask
  | addRefused htask | queueEmpty htask | claimed htask | claimLost htask | claimFailed htask
  | settled htask | settleIgnored htask | settleRefused htask =>
      exact .inl (samePost_set rfl htask rfl rfl)
  | @answered i pack id read outcome htask hnothing =>
      refine .inl (samePost_set rfl htask rfl ?_)
      rcases outcome with e | _ | a
      · rfl
      · rfl
      · exact absurd rfl (hnothing a)
  | @dispatched i pack id read a htask =>
      refine .inr ⟨i, a, by simp [seen, htask, Task.won], by simp [seen, htask, Task.passedOn],
        ?_, ?_⟩
      · intro k
        rw [seen_begin, seen_put_eq htask (by rfl)]
        simp [put, Task.dispatches]
      · intro k
        rw [seen_begin_eq (by simp [Task.passedOn]), seen_put htask]
        rfl

/-- The completed actions that calls have passed on and those that are dispatched are the same, one
for one. -/
structure Posted (s : Floor) : Prop where
  passedOn : ∀ k a, s.seen Task.dispatches k = some a → ∃ i, s.seen Task.passedOn i = some a
  dispatched : ∀ i a, s.seen Task.passedOn i = some a → ∃ k, s.seen Task.dispatches k = some a
  once : ∀ k l a b, s.seen Task.dispatches k = some a → s.seen Task.dispatches l = some b →
    a.id = b.id → k = l

theorem posted_empty (mode : DependencyMode) : (empty mode).Posted where
  passedOn := by simp [seen, empty]
  dispatched := by simp [seen, empty]
  once := by simp [seen, empty]

theorem Effect.posted (hs : s.Sound) (h : s.Posted) (heffect : s.Effect move s') : s'.Posted := by
  rcases heffect.post with hsame | ⟨i, a, hwon, hnone, hd, hp⟩
  · exact ⟨by rw [hsame.dispatches, hsame.passedOn]; exact h.passedOn,
      by rw [hsame.dispatches, hsame.passedOn]; exact h.dispatched,
      by rw [hsame.dispatches]; exact h.once⟩
  · have hbeyond : s.seen Task.dispatches s.tasks.length = none := by
      simp [seen]
    -- Nobody has dispatched the action yet, because no other call can have won it.
    have hfirst : ∀ k b, s.seen Task.dispatches k = some b → b.id ≠ a.id := by
      intro k b hb hid
      obtain ⟨j, hj⟩ := h.passedOn k b hb
      obtain rfl := hs.won_unique (won_of_passedOn hj) hwon hid
      simp [hnone] at hj
    refine ⟨fun k b hb => ?_, fun j b hb => ?_, fun k l b c hb hc hid => ?_⟩
    · rw [hd] at hb
      split at hb
      · exact ⟨i, by rw [hp, if_pos rfl]; exact hb⟩
      · obtain ⟨j, hj⟩ := h.passedOn k b hb
        refine ⟨j, ?_⟩
        rw [hp, if_neg]
        · exact hj
        · rintro rfl
          simp [hnone] at hj
    · rw [hp] at hb
      split at hb
      · exact ⟨s.tasks.length, by rw [hd, if_pos rfl]; exact hb⟩
      · obtain ⟨k, hk⟩ := h.dispatched j b hb
        refine ⟨k, ?_⟩
        rw [hd, if_neg]
        · exact hk
        · rintro rfl
          simp [hbeyond] at hk
    · rw [hd] at hb hc
      split at hb <;> split at hc
      · next hk hl => rw [hk, hl]
      · obtain rfl := Option.some.inj hb
        exact absurd hid.symm (hfirst l c hc)
      · obtain rfl := Option.some.inj hc
        exact absurd hid (hfirst k b hb)
      · exact h.once k l b c hb hc hid

theorem run_posted (mode : DependencyMode) (moves : List Move) : (run mode moves).Posted := by
  exact run_invariant (posted_empty mode) fun s s' move _ hs h heffect => heffect.posted hs h

/-! ## One winner -/

/-- A complete call that does not win leaves all actions as they are, whatever it does. -/
theorem Effect.actions_eq_of_lost (hs : s.Sound) (heffect : s.Effect move s') {i : Nat} {t : Task}
    (hmove : move.task? = some i) (htask : s.tasks[i]? = some t) (ht : t.isComplete = true)
    (hlost : s'.seen Task.won i = none) : s'.actions = s.actions := by
  rcases heffect.write_cases hs with ⟨j, a, u, rfl, hwrite, rfl⟩ | ⟨-, hsame⟩ | ⟨hexpiry, -⟩
  · obtain rfl := Option.some.inj hmove
    cases hwrite with
    | birth hwalk =>
        obtain rfl := Option.some.inj (htask.symm.trans hwalk)
        cases ht
    | take htake =>
        obtain rfl := Option.some.inj (htask.symm.trans htake)
        cases ht
    | complete =>
        rw [seen_write_self htask] at hlost
        cases hlost
  · exact hsame
  · cases move <;> cases hexpiry
    cases hmove

/-- What calls for one action may come to, over a whole run. A take call that returns an action is
seen by `took`, a complete call that does so by `won`. -/
structure OneWinner (mode : DependencyMode) (moves : List Move) : Prop where
  /-- No action is returned by two take calls, -/
  takes : ∀ i j a b, (run mode moves).seen Task.took i = some a →
    (run mode moves).seen Task.took j = some b → a.id = b.id → i = j
  /-- and none by two complete calls. -/
  completes : ∀ i j a b, (run mode moves).seen Task.won i = some a →
    (run mode moves).seen Task.won j = some b → a.id = b.id → i = j
  /-- A complete call by a pack that serves the action is refused if it does not return it. That the
  action is not found happens only if it has expired. -/
  ends : ∀ (i : Nat) (pack : Pack) (id : String) (a : Action)
      (outcome : Except Error (Option Action)) (answered : Bool),
    (run mode moves).tasks[i]? = some (.completed pack id (some a) outcome answered) →
    pack.serves a.packName a.packLabels = true →
      (∃ b, outcome = .ok (some b) ∧ b.id = id) ∨
      (∃ source target, outcome = .error (.illegalTransition id source target)) ∨
      (outcome = .error (.actionNotFound id) ∧ (run mode moves).actions.get? id = none ∧
        ∃ move ∈ moves, move.isExpiry = true)
  /-- A call for an action that is not stored is told so. -/
  missed : ∀ (i : Nat) (pack : Pack) (id : String) (outcome : Except Error (Option Action))
      (answered : Bool),
    (run mode moves).tasks[i]? = some (.completed pack id none outcome answered) →
      outcome = .error (.actionNotFound id)
  /-- Without expiry, an action that was stored at any moment is there for all later calls. -/
  kept : (∀ move ∈ moves, move.isExpiry = false) → ∀ before after id o, moves = before ++ after →
    (run mode before).actions.get? id = some o →
      ∃ a, (run mode moves).actions.get? id = some a ∧ o.Older a
  /-- No move of a complete call changes the store, but the one with which it wins. -/
  untouched : ∀ (before : List Move) (move : Move) (after : List Move) (i : Nat) (t : Task),
    moves = before ++ move :: after → move.task? = some i →
    (run mode before).tasks[i]? = some t → t.isComplete = true →
    (run mode (before ++ [move])).seen Task.won i = none →
      (run mode (before ++ [move])).actions = (run mode before).actions
  /-- Without expiry, if a call by a pack that serves an action has read it as pending and has
  finished, then exactly one call has won the action. -/
  winner : (∀ move ∈ moves, move.isExpiry = false) →
    ∀ (i : Nat) (pack : Pack) (id : String) (a : Action) (outcome : Except Error (Option Action))
      (answered : Bool),
    (run mode moves).tasks[i]? = some (.completed pack id (some a) outcome answered) →
    pack.serves a.packName a.packLabels = true → a.state.value = .pending →
      ∃! j, ∃ b, (run mode moves).seen Task.won j = some b ∧ b.id = id
  /-- What a call has won was stored as it has returned it, -/
  stored : ∀ i a, (run mode moves).seen Task.won i = some a →
    a.state.value.isTerminal = true ∧
      ∃ before after, moves = before ++ after ∧ (run mode before).actions.get? a.id = some a
  /-- and every action that was ever stored in a terminal state was won by a call. -/
  credited : ∀ before after id a, moves = before ++ after →
    (run mode before).actions.get? id = some a → a.state.value.isTerminal = true →
      ∃ i, (run mode moves).seen Task.won i = some a
  /-- The completed action of a call that has answered its request is dispatched once, -/
  dispatched : ∀ i a, (run mode moves).seen Task.passedOn i = some a →
    ∃! k, (run mode moves).seen Task.dispatches k = some a
  /-- and nothing else is dispatched, -/
  passedOn : ∀ k a, (run mode moves).seen Task.dispatches k = some a →
    ∃ i, (run mode moves).seen Task.passedOn i = some a
  /-- nor an action twice. -/
  once : ∀ k l a b, (run mode moves).seen Task.dispatches k = some a →
    (run mode moves).seen Task.dispatches l = some b → a.id = b.id → k = l

/-- The version that a complete call has found is known, and its end was judged by it. -/
theorem verdict_of_completed {mode : DependencyMode} {moves : List Move} {i : Nat} {pack : Pack}
    {id : String} {a : Action} {outcome : Except Error (Option Action)} {answered : Bool}
    (htask : (run mode moves).tasks[i]? = some (.completed pack id (some a) outcome answered)) :
    Recorded (run mode moves).journal a ∧ a.id = id ∧ (run mode moves).Verdict pack a outcome := by
  obtain ⟨hrecorded, hid⟩ := ((run_sound mode moves).tasks i _ htask).1 a rfl
  exact ⟨hrecorded, hid, (run_fair mode moves).judged i _ htask⟩

theorem won_of_completed {i : Nat} {pack : Pack} {id : String} {read : Option Action} {b : Action}
    {answered : Bool}
    (htask : s.tasks[i]? = some (.completed pack id read (.ok (some b)) answered)) :
    s.seen Task.won i = some b :=
  seen_eq_some.2 ⟨_, htask, rfl⟩

theorem exists_winner {mode : DependencyMode} {moves : List Move}
    (hstay : ∀ move ∈ moves, move.isExpiry = false) {i : Nat} {pack : Pack} {id : String}
    {a : Action} {outcome : Except Error (Option Action)} {answered : Bool}
    (htask : (run mode moves).tasks[i]? = some (.completed pack id (some a) outcome answered))
    (hserves : pack.serves a.packName a.packLabels = true) (hpending : a.state.value = .pending) :
    ∃ j b, (run mode moves).seen Task.won j = some b ∧ b.id = id := by
  obtain ⟨hrecorded, hid, hverdict⟩ := verdict_of_completed htask
  cases hverdict with
  | won b =>
      obtain ⟨-, -, hb⟩ := ((run_sound mode moves).tasks i _ htask).2 b rfl
      exact ⟨i, b, won_of_completed htask, hb⟩
  | ignored hignored =>
      rw [hserves] at hignored
      cases hignored
  | refused hwinner =>
      obtain ⟨j, b, hb, hba⟩ := hwinner hpending
      exact ⟨j, b, hb, hba.trans hid⟩
  | gone hnone =>
      obtain ⟨b, hb⟩ := run_complete hstay a hrecorded
      rw [hnone] at hb
      cases hb

/-- A call by a pack that serves its action wins it, is refused, or finds it gone. -/
theorem end_of_completed {mode : DependencyMode} {moves : List Move} {i : Nat} {pack : Pack}
    {id : String} {a : Action} {outcome : Except Error (Option Action)} {answered : Bool}
    (htask : (run mode moves).tasks[i]? = some (.completed pack id (some a) outcome answered))
    (hserves : pack.serves a.packName a.packLabels = true) :
    (∃ b, outcome = .ok (some b) ∧ b.id = id) ∨
      (∃ source target, outcome = .error (.illegalTransition id source target)) ∨
      (outcome = .error (.actionNotFound id) ∧ (run mode moves).actions.get? id = none ∧
        ∃ move ∈ moves, move.isExpiry = true) := by
  obtain ⟨hrecorded, rfl, hverdict⟩ := verdict_of_completed htask
  cases hverdict with
  | won b => exact .inl ⟨b, rfl, (((run_sound mode moves).tasks i _ htask).2 b rfl).2.2⟩
  | ignored hignored =>
      rw [hserves] at hignored
      cases hignored
  | refused => exact .inr (.inl ⟨_, _, rfl⟩)
  | gone hnone =>
      refine .inr (.inr ⟨rfl, hnone, ?_⟩)
      by_contra hnever
      have hstay : ∀ move ∈ moves, move.isExpiry = false := by simpa using hnever
      obtain ⟨b, hb⟩ := run_complete hstay a hrecorded
      rw [hnone] at hb
      cases hb

theorem stays_stored {mode : DependencyMode} {before after : List Move} {id : String} {o : Action}
    (hstay : ∀ move ∈ before ++ after, move.isExpiry = false)
    (ho : (run mode before).actions.get? id = some o) :
    ∃ a, (run mode (before ++ after)).actions.get? id = some a ∧ o.Older a := by
  have hbooked := (run_sound mode before).booked
  have hrecorded : Recorded (run mode (before ++ after)).journal o :=
    (hbooked.recorded id o ho).later (run_journal_grows mode before after)
  obtain ⟨a, ha⟩ := run_complete hstay o hrecorded
  rw [hbooked.keyed id o ho] at ha
  exact ⟨a, ha, older_of_earlier ho ha⟩

theorem actions_eq_of_lost {mode : DependencyMode} {before : List Move} {move : Move} {i : Nat}
    {t : Task} (hmove : move.task? = some i) (htask : (run mode before).tasks[i]? = some t)
    (ht : t.isComplete = true) (hlost : (run mode (before ++ [move])).seen Task.won i = none) :
    (run mode (before ++ [move])).actions = (run mode before).actions := by
  rw [run_snoc] at hlost ⊢
  rcases (run mode before).step_effect move with hsame | heffect
  · rw [hsame]
  · exact heffect.actions_eq_of_lost (run_sound mode before) hmove htask ht hlost

theorem won_of_terminal {mode : DependencyMode} {before after : List Move} {id : String} {a : Action}
    (ha : (run mode before).actions.get? id = some a) (hterminal : a.state.value.isTerminal = true) :
    ∃ i, (run mode (before ++ after)).seen Task.won i = some a := by
  obtain ⟨i, hi⟩ := (run_sound mode before).booked.recorded id a ha
  refine ⟨i, (run_fair mode (before ++ after)).credited i a ?_ hterminal⟩
  exact (run_journal_grows mode before after).subset hi

/-- Over any run, whatever the order of the calls' accesses to the store: of all takers of an action
one gets it, of all its completers one wins and the others are refused without a trace, and what is
won is dispatched once. A request with a result is the complete call and the answer in one. -/
theorem one_winner_one_dispatch (mode : DependencyMode) (moves : List Move) :
    OneWinner mode moves ∧
    ∀ (hub : Hub) (id actionId : String) (r : Http.Request),
      let after := ((Api.completeAction id actionId r).run hub).2
      (after.actions = hub.actions ∧ after.reports = hub.reports) ∨
        ∃ pack result now a,
          Broker.complete hub.actions pack actionId result now = .ok (some a, after.actions) ∧
            after.reports = hub.reports ++ [.completed a] := by
  have hs := run_sound mode moves
  have hposted := run_posted mode moves
  refine ⟨?_, fun hub id actionId r => Api.completeAction_reports id actionId r hub⟩
  constructor
  case takes => exact fun i j a b ha hb hid => hs.took_unique ha hb hid
  case completes => exact fun i j a b ha hb hid => hs.won_unique ha hb hid
  case ends => exact fun i pack id a outcome answered htask => end_of_completed htask
  case missed =>
    exact fun i pack id outcome answered htask => (run_fair mode moves).judged i _ htask
  case kept =>
    rintro hstay before after id o rfl ho
    exact stays_stored hstay ho
  case untouched =>
    rintro before move after i t - hmove htask ht hlost
    exact actions_eq_of_lost hmove htask ht hlost
  case winner =>
    intro hstay i pack id a outcome answered htask hserves hpending
    obtain ⟨j, b, hb, hid⟩ := exists_winner hstay htask hserves hpending
    refine ⟨j, ⟨b, hb, hid⟩, ?_⟩
    rintro k ⟨c, hc, hcid⟩
    exact hs.won_unique hc hb (hcid.trans hid.symm)
  case stored =>
    intro i a ha
    obtain ⟨hentry, hterminal⟩ := hs.won ha
    exact ⟨hterminal, exists_stored ⟨i, hentry⟩⟩
  case credited =>
    rintro before after id a rfl ha hterminal
    exact won_of_terminal ha hterminal
  case dispatched =>
    intro i a ha
    obtain ⟨k, hk⟩ := hposted.dispatched i a ha
    exact ⟨k, hk, fun l hl => hposted.once l k a a hl hk rfl⟩
  case passedOn => exact hposted.passedOn
  case once => exact hposted.once

/-- Two calls have read the soup as pending. -/
def Dinner.contested : List Move :=
  [.read 2 ⟨3, 0⟩, .call 2, .beginComplete kitchen (stamp 1).id (event "kitchen" "ready"),
    .beginComplete kitchen (stamp 1).id (event "kitchen" "ready"), .read 3 ⟨4, 0⟩, .read 4 ⟨5, 0⟩,
    .call 4, .call 3, .call 4, .call 3]

open Dinner in
theorem soup_dispatched_once :
    ∃ a, (run .any (ordered ++ .beginTake kitchen none :: contested)).seen Task.passedOn 4 = some a ∧
      ∃! k, (run .any (ordered ++ .beginTake kitchen none :: contested)).seen Task.dispatches k
        = some a := by
  have hsome : ((run .any (ordered ++ .beginTake kitchen none :: contested)).seen
      Task.passedOn 4).isSome = true := by
    rw [run_beginTake (by decide +kernel)]
    decide +kernel
  obtain ⟨a, ha⟩ := Option.isSome_iff_exists.1 hsome
  exact ⟨a, ha, (one_winner_one_dispatch _ _).1.dispatched 4 a ha⟩

end Floor

end Orchestrator
