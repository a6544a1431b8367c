import Orchestrator.Proofs.Floor.Sound

/-!
The life of an action among many tasks. Whatever takers and completers do at the same time, with
copies however old, a stored action has run one of the four courses, and everything that was ever
stored of it is still part of it.

The times in a history follow the clock: if the clock never goes back, neither do they. For this it
matters that an attempt can only succeed with the stored action itself, so that the reading that
goes into the history was taken after all readings that are there already.
-/

namespace Orchestrator

/-- The times of a history are in order, and none of them is after a moment. -/
structure Action.TimedBy (a : Action) (bound : Timestamp) : Prop where
  ordered : (a.history.map StateRecord.time).Pairwise (· ≤ ·)
  bounded : ∀ r ∈ a.history, r.time ≤ bound

namespace Action.TimedBy

variable {a : Action} {bound now : Timestamp}

theorem mono (h : a.TimedBy bound) (hle : bound ≤ now) : a.TimedBy now where
  ordered := h.ordered
  bounded := fun r hr => Timestamp.le_trans (h.bounded r hr) hle

theorem entered (h : a.TimedBy now) (hle : now ≤ bound) (value : ActionState)
    (result : Option Event) : (a.entered ⟨value, now⟩ a.history result).TimedBy bound where
  ordered := by
    simp only [Action.entered, List.map_append, List.pairwise_append, List.map_cons, List.map_nil]
    refine ⟨h.ordered, List.pairwise_singleton _ _, ?_⟩
    intro t ht u hu
    obtain ⟨r, hr, rfl⟩ := List.mem_map.1 ht
    obtain rfl := List.mem_singleton.1 hu
    exact h.bounded r hr
  bounded := by
    intro r hr
    rcases List.mem_append.1 hr with hold | hnew
    · exact Timestamp.le_trans (h.bounded r hold) hle
    · obtain rfl := List.mem_singleton.1 hnew
      exact hle

end Action.TimedBy

/-- No reading of the clock that a task holds is after a moment, nor before the action it is for. -/
def Task.Timely (bound : Timestamp) : Task → Prop
  | .walk w => ∀ a, w.draft = some a → a.TimedBy bound
  | .take _ (a :: _) (some now) | .complete _ a _ (some now) => a.TimedBy now ∧ now ≤ bound
  | _ => True

theorem Task.Timely.mono {bound now : Timestamp} {t : Task} (h : t.Timely bound)
    (hle : bound ≤ now) : t.Timely now := by
  unfold Timely at *
  split at h
  · exact fun a ha => (h a ha).mono hle
  · exact ⟨h.1, Timestamp.le_trans h.2 hle⟩
  · exact ⟨h.1, Timestamp.le_trans h.2 hle⟩
  · trivial

/-- The reading of the clock that a move makes. -/
def Move.reading? : Move → Option Timestamp
  | .evaluate _ _ stamp => some stamp.time
  | .read _ now => some now
  | _ => none

namespace Floor

def readings (moves : List Move) : List Timestamp := moves.filterMap Move.reading?

theorem Effect.journal_grows {s s' : Floor} {move : Move} (heffect : s.Effect move s') :
    s.journal <+: s'.journal := by
  cases heffect with
  | added | claimed | settled => exact List.prefix_append _ _
  | _ => exact List.prefix_rfl

/-- Nothing is ever struck from the journal. -/
theorem journal_grows_foldl (s : Floor) (moves : List Move) :
    s.journal <+: (moves.foldl step s).journal := by
  induction moves generalizing s with
  | nil => exact List.prefix_rfl
  | cons move rest ih =>
      refine List.IsPrefix.trans ?_ (ih (s.step move))
      rcases s.step_effect move with hstay | heffect
      · simp only [hstay, List.prefix_rfl]
      · exact heffect.journal_grows

theorem run_journal_grows (mode : DependencyMode) (before after : List Move) :
    (run mode before).journal <+: (run mode (before ++ after)).journal := by
  rw [run_append]
  exact journal_grows_foldl _ after

theorem Recorded.later {journal later : List Entry} {a : Action} (h : Recorded journal a)
    (hgrown : journal <+: later) : Recorded later a := by
  obtain ⟨i, hi⟩ := h
  exact ⟨i, hgrown.subset hi⟩

/-- What was stored at an earlier moment is an older version of what is stored under the identifier
now. -/
theorem older_of_earlier {mode : DependencyMode} {before after : List Move} {id : String}
    {o a : Action} (ho : (run mode before).actions.get? id = some o)
    (ha : (run mode (before ++ after)).actions.get? id = some a) : o.Older a := by
  have hbefore := (run_sound mode before).booked
  have hafter := (run_sound mode (before ++ after)).booked
  have hrecorded : Recorded (run mode (before ++ after)).journal o :=
    (hbefore.recorded id o ho).later (run_journal_grows mode before after)
  exact hafter.latest id a o ha hrecorded (hbefore.keyed id o ho)

/-- All times are those of the clock until a moment. -/
structure Timely (bound : Timestamp) (s : Floor) : Prop where
  journal : ∀ a, Recorded s.journal a → a.TimedBy bound
  tasks : s.Each fun _ t => t.Timely bound

theorem timely_empty (mode : DependencyMode) (bound : Timestamp) : Timely bound (empty mode) where
  journal := fun a ha => absurd ha (not_recorded_nil a)
  tasks := each_empty mode _

namespace Timely

variable {bound now : Timestamp} {s : Floor}

theorem mono (h : s.Timely bound) (hle : bound ≤ now) : s.Timely now where
  journal := fun a ha => (h.journal a ha).mono hle
  tasks := h.tasks.imp fun _ _ ht => ht.mono hle

theorem begin (h : s.Timely bound) {tasks : List Task} (htasks : ∀ t ∈ tasks, t.Timely bound) :
    (s.begin tasks).Timely bound where
  journal := h.journal
  tasks := h.tasks.begin fun t ht _ => htasks t ht

theorem put (h : s.Timely bound) {t : Task} (ht : t.Timely bound) (i : Nat) :
    (s.put i t).Timely bound where
  journal := h.journal
  tasks := h.tasks.put ht

theorem accept (h : s.Timely bound) {a : Action} {t : Task} (ha : a.TimedBy bound)
    (ht : t.Timely bound) (i : Nat) (actions : ActionStore) :
    (s.accept i a actions t).Timely bound where
  journal := by
    intro b hb
    rcases recorded_append_singleton.1 hb with hold | rfl
    · exact h.journal b hold
    · exact ha
  tasks := h.tasks.put (s := s) ht

end Timely

theorem timely_walk {bound : Timestamp} {w : Walk} (hnone : w.draft = none) :
    (Task.walk w).Timely bound := by
  intro a ha
  simp [hnone] at ha

/-- The bound of all times moves with the readings of the clock. -/
theorem Effect.timely {s s' : Floor} {move : Move} {bound : Timestamp} (hs : s.Sound)
    (h : s.Timely bound) (heffect : s.Effect move s') (hle : ∀ now ∈ move.reading?, bound ≤ now) :
    s'.Timely (move.reading?.getD bound) := by
  cases heffect with
  | registered | unregistered | expired => exact ⟨h.journal, h.tasks⟩
  | published | takeBegun | completeBegun | completeMissed => exact h.begin (by simp [Task.Timely])
  | @loaded i ids report htask hdemand hnodup hfresh =>
      have hgiven : (s.give i ids).Timely bound := ⟨h.journal, h.tasks⟩
      refine (hgiven.put (by simp [Task.Timely]) i).begin fun t ht => ?_
      obtain ⟨a, -, rfl⟩ := List.mem_map.1 ht
      exact timely_walk rfl
  | @drafted i renderer stamp w step rest a htask hsteps hnone heval hfresh =>
      have hlater : s.Timely stamp.time := h.mono (hle _ rfl)
      have hgiven : (s.give i [stamp.id]).Timely stamp.time := ⟨hlater.journal, hlater.tasks⟩
      refine hgiven.put ?_ i
      intro b hb
      obtain rfl := Option.some.inj hb
      obtain ⟨labels, input, context, rfl⟩ := Step.evaluate_eq_some heval
      exact ⟨List.pairwise_singleton _ _,
        by simp [FlowInstance.adopt, Action.new, Timestamp.le_refl]⟩
  | passed =>
      refine (h.mono (hle _ rfl)).put ?_ _
      exact timely_walk rfl
  | @takeTimed i now pack a rest htask =>
      obtain ⟨ha, -⟩ := hs.tasks _ _ htask a List.mem_cons_self
      refine (h.mono (hle _ rfl)).put ?_ i
      exact ⟨(h.journal a ha).mono (hle _ rfl), Timestamp.le_refl now⟩
  | @completeTimed i now pack a result htask =>
      have ha : Recorded s.journal a := hs.tasks _ _ htask
      refine (h.mono (hle _ rfl)).put ?_ i
      exact ⟨(h.journal a ha).mono (hle _ rfl), Timestamp.le_refl now⟩
  | @added i w step rest a stored actions htask hsteps hdraft hadd =>
      obtain ⟨rfl, -⟩ := hs.added htask hdraft hadd
      refine h.accept (h.tasks _ _ htask _ hdraft) ?_ i actions
      exact timely_walk rfl
  | @claimed i pack a taken rest now actions htask hclaim =>
      obtain ⟨ha, -⟩ := hs.tasks _ _ htask a List.mem_cons_self
      obtain ⟨-, -, rfl, -⟩ := hs.booked.claim ha hclaim
      obtain ⟨htimed, hbound⟩ := h.tasks _ _ htask
      refine h.accept (htimed.entered hbound _ _) ?_ i actions
      trivial
  | @settled i pack a completed result now actions htask hsettle =>
      obtain ⟨-, -, rfl, -⟩ := hs.booked.settle (hs.tasks _ _ htask) hsettle
      obtain ⟨htimed, hbound⟩ := h.tasks _ _ htask
      refine h.accept (htimed.entered hbound _ _) ?_ i actions
      trivial
  | addRefused =>
      refine h.put ?_ _
      exact timely_walk rfl
  | queueEmpty | claimFailed | settleIgnored | settleRefused | answered =>
      refine h.put ?_ _
      trivial
  | @claimLost i pack a rest =>
      refine h.put ?_ i
      cases rest <;> trivial
  | dispatched =>
      refine (h.put ?_ _).begin (by simp [Task.Timely])
      trivial

theorem timely_foldl {moves : List Move} {s : Floor} {bound : Timestamp} (hs : s.Sound)
    (h : s.Timely bound) (hordered : (bound :: readings moves).Pairwise (· ≤ ·)) :
    ∃ last, (moves.foldl step s).Timely last := by
  induction moves generalizing s bound with
  | nil => exact ⟨bound, h⟩
  | cons move rest ih =>
      have hle : ∀ now ∈ move.reading?, bound ≤ now := by
        intro now hnow
        refine (List.pairwise_cons.1 hordered).1 now ?_
        simp only [readings, List.filterMap_cons]
        rw [Option.mem_def.1 hnow]
        exact List.mem_cons_self
      have hnext : (s.step move).Timely (move.reading?.getD bound) := by
        rcases s.step_effect move with hstay | heffect
        · rw [hstay]
          cases hreading : move.reading? with
          | none => exact h
          | some now => exact h.mono (hle now hreading)
        · exact heffect.timely hs h hle
      refine ih (step_sound hs move) hnext ?_
      simp only [readings, List.filterMap_cons] at hordered
      cases hreading : move.reading? with
      | none => simpa [hreading, readings] using hordered
      | some now =>
          rw [hreading] at hordered
          exact (List.pairwise_cons.1 hordered).2

/-- If the clock never goes back, the times of a history never do. -/
theorem times_ordered {mode : DependencyMode} {moves : List Move}
    (hordered : (readings moves).Pairwise (· ≤ ·)) {id : String} {a : Action}
    (ha : (run mode moves).actions.get? id = some a) :
    (a.history.map StateRecord.time).Pairwise (· ≤ ·) := by
  -- A run begins with no times at all, so the first reading may be their bound.
  have htimely : ∃ last, (run mode moves).Timely last := by
    cases hreadings : readings moves with
    | nil =>
        exact timely_foldl (sound_empty mode) (timely_empty mode default)
          (by rw [hreadings]; exact List.pairwise_singleton _ _)
    | cons first rest =>
        refine timely_foldl (sound_empty mode) (timely_empty mode first) ?_
        rw [hreadings] at hordered ⊢
        refine List.pairwise_cons.2 ⟨fun now hnow => ?_, hordered⟩
        rcases List.mem_cons.1 hnow with rfl | hlater
        · exact Timestamp.le_refl now
        · exact (List.pairwise_cons.1 hordered).1 now hlater
  obtain ⟨last, hlast⟩ := htimely
  exact (hlast.journal a ((run_sound mode moves).booked.recorded id a ha)).ordered

/-- What appears in the store under an identifier that it did not have is a new action, and the
identifier has never been used. -/
theorem Effect.new_of_appears {s s' : Floor} {move : Move} (hs : s.Sound)
    (heffect : s.Effect move s') {id : String} {a : Action} (hnone : s.actions.get? id = none)
    (ha : s'.actions.get? id = some a) :
    a.state.value = .new ∧ ∀ b, Recorded s.journal b → b.id ≠ id := by
  rcases heffect.write_cases hs with
    ⟨i, c, t, -, hwrite, rfl⟩ | ⟨-, hactions⟩ | ⟨-, -, p, hactions⟩
  · simp only [write, accept, Dict.get?_insert, hnone] at ha
    split at ha
    · next hid =>
      obtain rfl := Option.some.inj ha
      subst hid
      cases hwrite with
      | birth _ _ _ hdrafted => exact ⟨hdrafted.new, hdrafted.unused⟩
      | take _ hstored => exact absurd (hstored.symm.trans hnone) (by simp)
      | complete _ hstored => exact absurd (hstored.symm.trans hnone) (by simp)
    · simp at ha
  · rw [hactions, hnone] at ha
    simp at ha
  · rw [hactions, Dict.get?_filter, hnone] at ha
    simp at ha

/-- An action that is gone does not come back. -/
theorem Effect.stays_gone {s s' : Floor} {move : Move} (hs : s.Sound) (heffect : s.Effect move s')
    {a : Action} (ha : Recorded s.journal a) (hnone : s.actions.get? a.id = none) :
    s'.actions.get? a.id = none := by
  cases hafter : s'.actions.get? a.id with
  | none => rfl
  | some b => exact absurd rfl ((heffect.new_of_appears hs hnone hafter).2 a ha)

theorem Effect.stored_of_accepted {s s' : Floor} {move : Move} (hs : s.Sound)
    (heffect : s.Effect move s') {a : Action} (hnot : ¬ Recorded s.journal a)
    (ha : Recorded s'.journal a) : s'.actions.get? a.id = some a := by
  rcases heffect.write_cases hs with ⟨i, b, t, -, -, rfl⟩ | ⟨hjournal, -⟩ | ⟨-, hjournal, -⟩
  · obtain rfl := (recorded_append_singleton.1 ha).resolve_left hnot
    exact Dict.get?_insert_self _ _ _
  · exact absurd (hjournal ▸ ha) hnot
  · exact absurd (hjournal ▸ ha) hnot

/-- Every version that was ever accepted is still stored, or a later one of it. -/
def Complete (s : Floor) : Prop :=
  ∀ a, Recorded s.journal a → ∃ b, s.actions.get? a.id = some b

theorem Effect.complete {s s' : Floor} {move : Move} (hs : s.Sound) (h : s.Complete)
    (heffect : s.Effect move s') (hstay : move.isExpiry = false) : s'.Complete := by
  rcases heffect.write_cases hs with
    ⟨i, a, t, -, -, rfl⟩ | ⟨hjournal, hactions⟩ | ⟨hexpiry, -⟩
  · intro b hb
    simp only [write, accept, Dict.get?_insert]
    split
    · exact ⟨a, rfl⟩
    · next hne =>
      rcases recorded_append_singleton.1 hb with hold | rfl
      · exact h b hold
      · exact absurd rfl hne
  · intro b hb
    rw [hactions]
    exact h b (hjournal ▸ hb)
  · rw [hstay] at hexpiry
    cases hexpiry

/-- Only expiry makes actions disappear. -/
theorem run_complete {mode : DependencyMode} {moves : List Move}
    (hstay : ∀ move ∈ moves, move.isExpiry = false) : (run mode moves).Complete := by
  exact run_invariant (fun a ha => absurd ha (not_recorded_nil a))
    fun s s' move hmem hs h heffect => heffect.complete hs h (hstay move hmem)

/-- What the store has accepted was stored at some moment. -/
theorem exists_stored {mode : DependencyMode} {moves : List Move} {a : Action}
    (ha : Recorded (run mode moves).journal a) :
    ∃ before after, moves = before ++ after ∧ (run mode before).actions.get? a.id = some a := by
  induction moves using List.reverseRecOn with
  | nil => exact absurd ha (not_recorded_nil a)
  | append_singleton moves move ih =>
      by_cases hearlier : Recorded (run mode moves).journal a
      · obtain ⟨before, after, rfl, hstored⟩ := ih hearlier
        exact ⟨before, after ++ [move], by rw [List.append_assoc], hstored⟩
      · refine ⟨moves ++ [move], [], by rw [List.append_nil], ?_⟩
        rw [run_snoc] at ha ⊢
        rcases (run mode moves).step_effect move with hsame | heffect
        · rw [hsame] at ha
          exact absurd ha hearlier
        · exact heffect.stored_of_accepted (run_sound mode moves) hearlier ha

/-- The life of a stored action began at some moment of the run, when it was put into the store. -/
theorem exists_birth {mode : DependencyMode} {moves : List Move} {id : String} {a : Action}
    (ha : (run mode moves).actions.get? id = some a) :
    ∃ before after o, moves = before ++ after ∧ (run mode before).actions.get? id = some o ∧
      o.state.value = .new := by
  induction moves using List.reverseRecOn generalizing a with
  | nil => simp [run, empty] at ha
  | append_singleton moves move ih =>
      cases hearlier : (run mode moves).actions.get? id with
      | some o =>
          obtain ⟨before, after, b, rfl, hb, hnew⟩ := ih hearlier
          exact ⟨before, after ++ [move], b, by rw [List.append_assoc], hb, hnew⟩
      | none =>
          refine ⟨moves ++ [move], [], a, by rw [List.append_nil], ha, ?_⟩
          rw [run_snoc] at ha
          rcases (run mode moves).step_effect move with hsame | heffect
          · rw [hsame, hearlier] at ha
            simp at ha
          · exact (heffect.new_of_appears (run_sound mode moves) hearlier ha).1

/-- The life of an action in the store, after any run. Its history is one of the four courses and
ends with its state; a result comes with a terminal state, which is fatal exactly if the result says
so. Since the action was put into the store its history was only ever extended, and apart from state,
history and result it is what it was; and its times never go back if the clock never does. -/
theorem stored_action_lifecycle (mode : DependencyMode) (moves : List Move) (id : String)
    (a : Action) (hstored : (run mode moves).actions.get? id = some a) :
    a.history.map StateRecord.value ∈
      [[.new], [.new, .pending], [.new, .pending, .success], [.new, .pending, .fatal]] ∧
    a.history.getLast? = some a.state ∧
    (a.result.isSome = true ↔ a.state.value.isTerminal = true) ∧
    (a.state.value = .fatal ↔ ∃ r, a.result = some r ∧ r.name = "FATAL") ∧
    a.previous = none ∧
    (∃ before after o, moves = before ++ after ∧ (run mode before).actions.get? id = some o ∧
      o.history = [o.state] ∧ o.state.value = .new) ∧
    (∀ before after o, moves = before ++ after → (run mode before).actions.get? id = some o →
      o.history <+: a.history ∧
        a = { o with state := a.state, history := a.history, result := a.result }) ∧
    ((readings moves).Pairwise (· ≤ ·) → (a.history.map StateRecord.time).Pairwise (· ≤ ·)) := by
  have hlived : ∀ before o, (run mode before).actions.get? id = some o → o.WellLived := by
    intro before o ho
    have hbooked := (run_sound mode before).booked
    exact hbooked.lived o (hbooked.recorded id o ho)
  have ha : a.WellLived := hlived moves a hstored
  refine ⟨ha.course, ha.last, by rw [ha.result], ha.fatal, ha.previous, ?_, ?_,
    fun hordered => times_ordered hordered hstored⟩
  · obtain ⟨before, after, o, hmoves, ho, hnew⟩ := exists_birth hstored
    exact ⟨before, after, o, hmoves, ho, (hlived before o ho).history_of_new hnew, hnew⟩
  · rintro before after o rfl ho
    have holder : o.Older a := older_of_earlier ho hstored
    refine ⟨holder.history, Action.eq_of_core holder.core.symm rfl rfl rfl ?_⟩
    exact ha.previous.trans (hlived before o ho).previous.symm

theorem run_beginTake {mode : DependencyMode} {before after : List Move} {pack : Pack}
    {name : Option String}
    (hordered : ((run mode before).actions.values.filter
      (ActionStore.isWaiting pack.name name)).Pairwise fun a b => ActionStore.precedes a b = true) :
    run mode (before ++ .beginTake pack name :: after) =
      after.foldl step ((run mode before).begin [.take pack
        (((run mode before).actions.values.filter (ActionStore.isWaiting pack.name name)).filter
          fun a => pack.serves a.packName a.packLabels) none]) := by
  rw [run_append, List.foldl_cons, ← Broker.candidates_of_ordered hordered]
  rfl

/-! ## A dinner -/

namespace Dinner

def renderer : Renderer := fun source _ => .ok source

def course (id : String) (dependsOn : List String) (packName event : String) : Step :=
  ⟨id, dependsOn, ⟨packName, event, ∅⟩, "", ∅, ⟨"kitchen", id, ∅, .null⟩⟩

/-- An order starts two courses, and the dessert waits for what comes of them. -/
def flow : FlowDefinition :=
  ⟨"dinner", none, "", [course "soup" [] "hall" "order", course "roast" [] "hall" "order",
    course "dessert" ["soup", "roast"] "kitchen" "ready"]⟩

def kitchen : Pack := ⟨"kitchen", "kitchen", ∅, [], [], default⟩

def event (packName name : String) : Event :=
  ⟨name, ⟨packName, packName, ∅⟩, .null, default, default⟩

def stamp (n : Nat) : Stamp := ⟨⟨BitVec.ofNat 128 n⟩, ⟨n, 0⟩⟩

/-- The two courses wait for the kitchen. -/
def ordered : List Move :=
  [.register flow ⟨0⟩, .publish (event "hall" "order"), .load 0 ["table"],
    .evaluate 1 renderer (stamp 1), .call 1, .evaluate 1 renderer (stamp 2), .call 1]

end Dinner

open Dinner in
theorem taken_soup_lifecycle :
    ∃ a, (run .any (ordered ++ .beginTake kitchen none :: [.read 2 ⟨3, 0⟩, .call 2])).actions.get?
        (stamp 1).id = some a ∧
      a.history.map StateRecord.value ∈
        [[.new], [.new, .pending], [.new, .pending, .success], [.new, .pending, .fatal]] ∧
      a.history.getLast? = some a.state ∧ a.previous = none := by
  have hsome : ((run .any (ordered ++ .beginTake kitchen none ::
      [.read 2 ⟨3, 0⟩, .call 2])).actions.get? (stamp 1).id).isSome = true := by
    rw [run_beginTake (by decide +kernel)]
    decide +kernel
  obtain ⟨a, ha⟩ := Option.isSome_iff_exists.1 hsome
  obtain ⟨hcourse, hlast, -, -, hprevious, -⟩ := stored_action_lifecycle _ _ _ a ha
  exact ⟨a, ha, hcourse, hlast, hprevious⟩

end Floor

end Orchestrator
