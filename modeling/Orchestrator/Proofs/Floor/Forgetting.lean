import Orchestrator.Proofs.Floor.Origin
import Orchestrator.Proofs.Floor.Overtaking
import Orchestrator.Proofs.Floor.Walks

/-!
How many actions a step gets in one run of a flow when actions expire. That a step has been taken is
known from its stored action alone, and actions expire one by one, each by the age of its own state.

If the dispatches of a run come one after the other, then no step of it ever has two actions in the
store. Over time it may get a second one, and does so exactly if the first had expired when the run was
found, which other actions of the run have outlived.
-/

namespace Orchestrator

def Move.isLoad : Move → Bool
  | .load .. => true
  | _ => false

/-- A walk has come to its end. -/
def Task.isOver : Task → Bool
  | .walk w => w.steps.isEmpty
  | _ => true

/-- What holds of a walk that shares its run with no other one. -/
structure Walk.Fresh (s : Floor) (w : Walk) : Prop where
  distinct : (w.steps.map (·.id)).Nodup
  since : w.since ≤ s.journal.length
  /-- If a step before it has had an action, then the action is gone, -/
  gone : ∀ b, Floor.Recorded s.journal b → b.correlationId = w.run.correlationId →
    b.stepId ∈ w.steps.map (·.id) → s.actions.get? b.id = none
  /-- and the store had accepted it before the run was found. -/
  clear : ∀ e ∈ s.journal.drop w.since, e.action.correlationId = w.run.correlationId →
    e.action.stepId ∉ w.steps.map (·.id)

namespace Floor

section

variable {s s' : Floor} {move : Move} {w v : Walk} {k : Nat}

/-- Only what the move writes has to be looked at. -/
theorem Effect.fresh (hs : s.Sound) (heffect : s.Effect move s') (hw : w.Fresh s)
    (hleads : w.Leads v) {more : List Entry} (hjournal : s'.journal = s.journal ++ more)
    (hmore : ∀ e ∈ more, e.action.correlationId = v.run.correlationId →
      e.action.stepId ∉ v.steps.map (·.id)) : v.Fresh s' where
  distinct := hw.distinct.sublist (hleads.steps.sublist.map _)
  since := by
    have := hw.since
    rw [hleads.since, hjournal, List.length_append]
    omega
  gone := by
    rintro b ⟨i, hb⟩ hrun hstep
    rw [hjournal, List.mem_append] at hb
    rcases hb with hold | hnew
    · have hbefore : s.actions.get? b.id = none :=
        hw.gone b ⟨i, hold⟩ (hrun.trans hleads.run) (hleads.ids hstep)
      exact heffect.stays_gone hs ⟨i, hold⟩ hbefore
    · exact absurd hstep (hmore _ hnew hrun)
  clear := by
    rw [hjournal, hleads.since, List.drop_append_of_le_length hw.since]
    intro e he hrun hstep
    rcases List.mem_append.1 he with hold | hnew
    · exact hw.clear e hold (hrun.trans hleads.run) (hleads.ids hstep)
    · exact hmore e hnew hrun hstep

theorem fresh_setOut {a : Assignment} (hnodup : a.run.flow.stepIds.Nodup)
    (hknown : ∀ b, Recorded s.journal b → b.correlationId = a.run.correlationId →
      s.actions.get? b.id = none ∨ a.run.hasActionFor b.stepId = true) :
    (Walk.setOut s.mode a s.journal.length).Fresh s where
  distinct := FlowInstance.candidates_ids_nodup hnodup s.mode a.event
  since := Nat.le_refl _
  gone := by
    intro b hb hrun hmem
    refine (hknown b hb hrun).resolve_right fun hhas => ?_
    rw [FlowInstance.hasActionFor_of_mem_candidates hmem] at hhas
    cases hhas
  clear := by simp [Walk.setOut]

/-- The run of an event is new, and a run that is resumed knows the actions that are stored. -/
theorem SetsOut.fresh (hs : s.Sound) (h : s.Rooted) (hout : s.SetsOut move k v) : v.Fresh s := by
  obtain @⟨i, n, ids, report, a, htask, hdemand, hnodup, hfresh, hfound⟩ := hout
  cases report with
  | published event =>
      obtain ⟨flow, id, hflow, hid, rfl⟩ := found_started hdemand hfound
      refine fresh_setOut (h.stepIds_nodup hflow) fun b hb hrun => ?_
      obtain ⟨_, _, hrooted⟩ := h.actions b hb
      have hsame : b.correlationId = id := hrun
      exact absurd (hsame ▸ hrooted.named) (hfresh id (List.mem_of_getElem? hid))
  | completed c =>
      obtain ⟨-, flow, result, hflow, rfl⟩ := found_resumed hfound
      have hlisting := s.actions.isListing_findCorrelated c.correlationId
      refine fresh_setOut (h.stepIds_nodup hflow) fun b hb hrun => ?_
      cases hget : s.actions.get? b.id with
      | none => exact .inl rfl
      | some d => exact .inr (hs.hasActionFor_stored hlisting hb hget hrun)

end

/-! ## Dispatches one after the other -/

/-- All walks have come to their ends. -/
def Idle (s : Floor) : Prop := ∀ t ∈ s.tasks, t.isOver = true

instance (s : Floor) : Decidable s.Idle :=
  inferInstanceAs (Decidable (∀ t ∈ s.tasks, t.isOver = true))

/-- Dispatches are processed one after the other. -/
def Serial (mode : DependencyMode) (moves : List Move) : Prop :=
  ∀ before i ids after, moves = before ++ .load i ids :: after → (run mode before).Idle

theorem serial_of_no_load {mode : DependencyMode} {moves : List Move}
    (h : ∀ move ∈ moves, move.isLoad = false) : Serial mode moves := by
  rintro before i ids after rfl
  have hload := h (.load i ids) (by simp)
  cases hload

/-- The next dispatch waits until all walks have come to their ends. -/
theorem Serial.load {mode : DependencyMode} {moves more : List Move} (h : Serial mode moves)
    (hidle : (run mode moves).Idle) {i : Nat} {ids : List String}
    (hmore : ∀ move ∈ more, move.isLoad = false) : Serial mode (moves ++ .load i ids :: more) := by
  intro before j ids' after heq
  rcases List.append_eq_append_iff.1 heq with ⟨_ | ⟨move, rest⟩, hbefore, htail⟩ |
    ⟨_ | ⟨move, rest⟩, hmoves, htail⟩
  · rw [hbefore, List.append_nil]
    exact hidle
  · obtain ⟨-, hrest⟩ := List.cons.inj htail
    have hload := hmore (.load j ids') (hrest ▸ by simp)
    cases hload
  · rw [← List.append_nil before, ← hmoves]
    exact hidle
  · obtain ⟨rfl, -⟩ := List.cons.inj htail
    exact h before j ids' rest hmoves

/-- If a move finds the run of a completed action, then the walks of that run have come to their
ends. -/
def Free (s : Floor) (move : Move) : Prop :=
  ∀ i ids a, move = .load i ids → s.tasks[i]? = some (.dispatch (.completed a) false) →
    ∀ (k : Nat) (w : Walk), s.tasks[k]? = some (.walk w) →
      w.run.correlationId = a.correlationId → w.steps = []

/-- The dispatches of each run are processed one after the other. -/
def Apart (mode : DependencyMode) (moves : List Move) : Prop :=
  ∀ before move after, moves = before ++ move :: after → (run mode before).Free move

theorem Serial.apart {mode : DependencyMode} {moves : List Move} (h : Serial mode moves) :
    Apart mode moves := by
  rintro before move after hmoves i ids a rfl - k w hw -
  have hover := h before i ids after hmoves _ (List.mem_of_getElem? hw)
  exact List.isEmpty_iff.1 hover

/-- No run is walked by two tasks at the same time. -/
def Lone (s : Floor) : Prop :=
  ∀ (i k : Nat) (w v : Walk), s.tasks[i]? = some (.walk w) → s.tasks[k]? = some (.walk v) →
    w.run.correlationId = v.run.correlationId → i ≠ k → w.steps = [] ∨ v.steps = []

section

variable {s s' : Floor} {move : Move} {w v : Walk} {i k : Nat}

/-- A run that sets out is walked by nobody else. -/
theorem SetsOut.others (h : s.Rooted) (hfree : s.Free move) (hout : s.SetsOut move k v)
    (hw : s.tasks[i]? = some (.walk w)) (hrun : w.run.correlationId = v.run.correlationId) :
    w.steps = [] := by
  obtain @⟨j, n, ids, report, a, htask, hdemand, hnodup, hfresh, hfound⟩ := hout
  cases report with
  | published event =>
      obtain ⟨flow, id, -, hid, rfl⟩ := found_started hdemand hfound
      have hrooted : w.Rooted s := h.tasks i _ hw
      have hsame : w.run.correlationId = id := hrun
      exact absurd (hsame ▸ hrooted.named) (hfresh id (List.mem_of_getElem? hid))
  | completed c =>
      obtain ⟨-, flow, result, -, rfl⟩ := found_resumed hfound
      exact hfree j ids c rfl htask i w hw hrun

theorem Effect.lone (h : s.Rooted) (hlone : s.Lone) (heffect : s.Effect move s')
    (hfree : s.Free move) : s'.Lone := by
  intro i k w' v' hw' hv' hrun hne
  rcases heffect.walk_cases i _ hw' w' rfl with ⟨w, hw, hwleads⟩ | hwout <;>
    rcases heffect.walk_cases k _ hv' v' rfl with ⟨v, hv, hvleads⟩ | hvout
  · rcases hlone i k w v hw hv (hwleads.run ▸ hvleads.run ▸ hrun) hne with hdone | hdone
    · exact .inl (hwleads.over hdone)
    · exact .inr (hvleads.over hdone)
  · exact .inl (hwleads.over (hvout.others h hfree hw (hwleads.run ▸ hrun)))
  · exact .inr (hvleads.over (hwout.others h hfree hv (hvleads.run ▸ hrun.symm)))
  · exact absurd (hwout.unique hvout hrun) hne

/-- What holds after a run whose dispatches are kept apart. -/
structure Parted (s : Floor) : Prop where
  lone : s.Lone
  fresh : ∀ (k : Nat) (w : Walk), s.tasks[k]? = some (.walk w) → w.Fresh s

theorem parted_empty (mode : DependencyMode) : (empty mode).Parted where
  lone := by
    intro i k w v hw
    simp [empty] at hw
  fresh := by
    intro k w hw
    simp [empty] at hw

/-- What a task writes is not for a step that a walk still has before it. -/
theorem Parted.written (h : s.Parted) (hs : s.Sound) {a : Action} {t : Task}
    (hwrite : s.Write i a t) (hw : s.tasks[k]? = some (.walk w)) (hleads : w.Leads v)
    (hv : (s.write i a t).tasks[k]? = some (.walk v))
    (hrun : a.correlationId = v.run.correlationId) : a.stepId ∉ v.steps.map (·.id) := by
  rcases hwrite.cases_core with
    ⟨o, ho, hcore⟩ | ⟨u, step, rest, htask, hsteps, -, hdrafted, rfl⟩
  · intro hmem
    obtain ⟨horun, hostep⟩ := Action.run_eq_of_core hcore
    have hgone := (h.fresh k w hw).gone o (hs.booked.recorded _ _ ho)
      (horun.trans (hrun.trans hleads.run)) (hleads.ids (hostep ▸ hmem))
    rw [Action.id_eq_of_core hcore, ho] at hgone
    cases hgone
  · by_cases hk : k = i
    · subst hk
      have hdistinct := (h.fresh k u htask).distinct
      obtain ⟨hlt, -⟩ := List.getElem?_eq_some_iff.1 htask
      simp only [Floor.write, accept, Floor.put, List.getElem?_set_self hlt, Option.some.injEq,
        Task.walk.injEq] at hv
      rw [hsteps, List.map_cons, List.nodup_cons] at hdistinct
      simp only [← hv, Walk.stored, Walk.skip, hsteps, List.tail_cons, hdrafted.stepId hsteps]
      exact hdistinct.1
    · have hsame : u.run.correlationId = w.run.correlationId := by
        rw [← hdrafted.run, hrun, hleads.run]
      rcases h.lone i k u w htask hw hsame (Ne.symm hk) with hover | hover
      · rw [hsteps] at hover
        cases hover
      · simp [hleads.over hover]

theorem Effect.parted (hs : s.Sound) (hrooted : s.Rooted) (h : s.Parted)
    (heffect : s.Effect move s') (hfree : s.Free move) : s'.Parted where
  lone := heffect.lone hrooted h.lone hfree
  fresh := by
    intro k v hv
    have hwalk := heffect.walk_cases k _ hv v rfl
    -- A write is made by a call, with which no walk sets out.
    rcases heffect.write_cases hs with ⟨i, a, t, rfl, hwrite, rfl⟩ | hquiet
    · rcases hwalk with ⟨w, hw, hleads⟩ | hout
      · have hjournal : (s.write i a t).journal = s.journal ++ [⟨i, a⟩] := rfl
        refine heffect.fresh hs (h.fresh k w hw) hleads hjournal fun e he hrun => ?_
        obtain rfl := List.mem_singleton.1 he
        exact h.written hs hwrite hw hleads hv hrun
      · cases hout
    · have hjournal : s'.journal = s.journal ++ [] := by
        rw [List.append_nil]
        rcases hquiet with ⟨hjournal, -⟩ | ⟨-, hjournal, -⟩ <;> exact hjournal
      have hbefore : ∃ w : Walk, w.Fresh s ∧ w.Leads v := by
        rcases hwalk with ⟨w, hw, hleads⟩ | hout
        · exact ⟨w, h.fresh k w hw, hleads⟩
        · exact ⟨v, hout.fresh hs hrooted, .refl v⟩
      obtain ⟨w, hw, hleads⟩ := hbefore
      exact heffect.fresh hs hw hleads hjournal (by simp)

/-- What is put into the store is for a step that has no action there. -/
theorem Effect.onePerStep (hs : s.Sound) (h : s.Parted) (hone : s.OnePerStep)
    (heffect : s.Effect move s') : s'.OnePerStep := by
  rcases heffect.write_cases hs with
    ⟨i, a, t, -, hwrite, rfl⟩ | ⟨-, hactions⟩ | ⟨-, -, p, hactions⟩
  · have hown : ∀ id b, s.actions.get? id = some b → b.correlationId = a.correlationId →
        b.stepId = a.stepId → id = a.id := by
      intro id b hb hrun hstep
      rcases hwrite.cases_core with ⟨o, ho, hcore⟩ | ⟨w, _, _, htask, -, -, hdrafted, -⟩
      · obtain ⟨horun, hostep⟩ := Action.run_eq_of_core hcore
        exact hone id a.id b o hb ho (hrun.trans horun.symm) (hstep.trans hostep.symm)
      · have hgone := (h.fresh i w htask).gone b (hs.booked.recorded _ _ hb)
          (hrun.trans hdrafted.run) (hstep ▸ hdrafted.mem_ids)
        rw [hs.booked.keyed id b hb, hb] at hgone
        cases hgone
    intro id id' b c hb hc hrun hstep
    simp only [Floor.write, accept, Dict.get?_insert] at hb hc
    split at hb <;> split at hc
    · next hid hid' => rw [hid, hid']
    · next hid _ =>
      obtain rfl := Option.some.inj hb
      rw [hid, hown id' c hc hrun.symm hstep.symm]
    · next _ hid' =>
      obtain rfl := Option.some.inj hc
      rw [hid', hown id b hb hrun hstep]
    · exact hone id id' b c hb hc hrun hstep
  · rw [OnePerStep, hactions]
    exact hone
  · intro id id' b c hb hc
    rw [hactions, Dict.get?_filter, Option.filter_eq_some_iff] at hb hc
    exact hone id id' b c hb.1 hc.1

end

theorem Apart.init {mode : DependencyMode} {moves more : List Move}
    (h : Apart mode (moves ++ more)) : Apart mode moves := by
  intro before move after hmoves
  exact h before move (after ++ more) (by simp [hmoves])

theorem run_parted {mode : DependencyMode} {moves : List Move} (h : Apart mode moves) :
    (run mode moves).Parted ∧ (run mode moves).OnePerStep := by
  induction moves using List.reverseRecOn with
  | nil =>
      refine ⟨parted_empty mode, ?_⟩
      intro id id' a b ha
      simp [run, empty] at ha
  | append_singleton moves move ih =>
      obtain ⟨hparted, hone⟩ := ih h.init
      have hs := run_sound mode moves
      rw [run_snoc]
      rcases (run mode moves).step_effect move with hsame | heffect
      · rw [hsame]
        exact ⟨hparted, hone⟩
      · have hfree := h moves move [] rfl
        exact ⟨heffect.parted hs (run_rooted mode moves) hparted hfree,
          heffect.onePerStep hs hparted hone⟩

/-! ## What a run forgets -/

/-- When the run of a task was found, an action had been stored and was gone. -/
def GoneWhenFound (mode : DependencyMode) (moves : List Move) (i : Nat) (b : Action) : Prop :=
  ∃ found move between w, moves = found ++ move :: between ∧ (run mode found).SetsOut move i w ∧
    Recorded (run mode found).journal b ∧ (run mode found).actions.get? b.id = none

/-- At some moment an action is stored for a step that has had one, which was gone when the run was
found. -/
def ForgetsAt (mode : DependencyMode) (moves : List Move) (correlationId stepId : String) : Prop :=
  ∃ before i after a b, moves = before ++ .call i :: after ∧ (run mode before).Stores i a ∧
    GoneWhenFound mode before i b ∧ a.IsFor correlationId stepId ∧ b.IsFor correlationId stepId

theorem GoneWhenFound.recorded {mode : DependencyMode} {moves : List Move} {i : Nat} {b : Action}
    (h : GoneWhenFound mode moves i b) : Recorded (run mode moves).journal b := by
  obtain ⟨found, move, between, w, rfl, -, hb, -⟩ := h
  exact hb.later (run_journal_grows mode found _)

/-- What the store has accepted since the run was found is for other steps than those that the walk
still comes to, and of what it had accepted before then for these steps nothing was left. -/
theorem goneWhenFound_of_recorded {mode : DependencyMode} {moves : List Move}
    (hapart : Apart mode moves) {i : Nat} {a b : Action} (hstores : (run mode moves).Stores i a)
    (hb : Recorded (run mode moves).journal b) (hrun : b.correlationId = a.correlationId)
    (hstep : b.stepId = a.stepId) : GoneWhenFound mode moves i b := by
  obtain ⟨w, htask, hdraft⟩ := hstores
  obtain ⟨found, move, between, v, rfl, hout, hleads⟩ := exists_setsOut htask
  have hdrafted := (run_sound mode _).tasks _ _ htask a hdraft
  have hmem : b.stepId ∈ w.steps.map (·.id) := hstep ▸ hdrafted.mem_ids
  have hwrun : b.correlationId = w.run.correlationId := hrun.trans hdrafted.run
  have hfresh : w.Fresh _ := (run_parted hapart).1.fresh i w htask
  have hgrown := run_journal_grows mode found (move :: between)
  have hbfound : Recorded (run mode found).journal b := by
    obtain ⟨j, hb⟩ := hb
    rw [← List.take_append_drop w.since (run mode (found ++ move :: between)).journal] at hb
    rcases List.mem_append.1 hb with hearlier | hsince
    · rw [hleads.since, hout.since, ← List.prefix_iff_eq_take.1 hgrown] at hearlier
      exact ⟨j, hearlier⟩
    · exact absurd hmem (hfresh.clear _ hsince hwrun)
  have hgone := (hout.fresh (run_sound mode found) (run_rooted mode found)).gone b hbfound
    (hwrun.trans hleads.run) (hleads.ids hmem)
  exact ⟨found, move, between, v, rfl, hout, hbfound, hgone⟩

theorem repeatedAt_iff_forgetsAt {mode : DependencyMode} {moves : List Move}
    (hapart : Apart mode moves) {correlationId stepId : String} :
    RepeatedAt mode moves correlationId stepId ↔ ForgetsAt mode moves correlationId stepId := by
  constructor
  · rintro ⟨before, i, after, a, b, rfl, hstores, hb, hfor, hbfor⟩
    have hgone := goneWhenFound_of_recorded hapart.init hstores hb
      (hbfor.1.trans hfor.1.symm) (hbfor.2.trans hfor.2.symm)
    exact ⟨before, i, after, a, b, rfl, hstores, hgone, hfor, hbfor⟩
  · rintro ⟨before, i, after, a, b, hmoves, hstores, hgone, hfor, hbfor⟩
    exact ⟨before, i, after, a, b, hmoves, hstores, hgone.recorded, hfor, hbfor⟩

/-- If the dispatches of each run are processed one after the other, then a step never has two actions
in the store, whatever expires and when. Over time a step of a run gets a second one exactly if one
had expired when the run was found for another; and of each action that is stored, the earlier ones
for its step are those that had expired when the run was found for it. -/
theorem single_iff_nothing_forgotten (mode : DependencyMode) (moves : List Move)
    (hapart : Apart mode moves) :
    (run mode moves).OnePerStep ∧
      (∀ correlationId stepId, (run mode moves).SingleAt correlationId stepId ↔
        ¬ ForgetsAt mode moves correlationId stepId) ∧
      ∀ before i after a b, moves = before ++ .call i :: after → (run mode before).Stores i a →
        b.correlationId = a.correlationId → b.stepId = a.stepId →
          (Recorded (run mode before).journal b ↔ GoneWhenFound mode before i b) := by
  refine ⟨(run_parted hapart).2, fun correlationId stepId => ?_, ?_⟩
  · rw [singleAt_iff_not_repeatedAt, repeatedAt_iff_forgetsAt hapart]
  · rintro before i after a b rfl hstores hrun hstep
    exact ⟨fun hb => goneWhenFound_of_recorded hapart.init hstores hb hrun hstep, (·.recorded)⟩

/-! ## A dinner that lasts long -/

namespace Dinner

/-- The soup is ready, and its result is about to be dispatched. -/
def soup : List Move :=
  ordered ++ .beginTake kitchen none :: [.read 2 ⟨3, 0⟩, .call 2,
    .beginComplete kitchen (stamp 1).id (event "kitchen" "ready"), .read 3 ⟨4, 0⟩, .call 3, .call 3]

def dessert : List Move :=
  soup ++ [.load 4 [], .evaluate 5 renderer (stamp 10), .call 5]

/-- When the roast is ready, the soup and the dessert have expired. -/
def lateRoast : List Move :=
  dessert ++ .beginTake kitchen none :: [.read 6 ⟨20, 0⟩, .call 6, .expire ⟨30, 0⟩ 15,
    .beginComplete kitchen (stamp 2).id (event "kitchen" "ready"), .read 7 ⟨31, 0⟩, .call 7, .call 7]

def longDinner : List Move :=
  lateRoast ++ [.load 8 [], .evaluate 9 renderer (stamp 32), .call 9]

theorem dessert_waits : ((run .any dessert).actions.values.filter
    (ActionStore.isWaiting kitchen.name none)).Pairwise
      fun a b => ActionStore.precedes a b = true := by
  rw [dessert, soup, List.append_assoc, List.cons_append, run_beginTake (by decide +kernel)]
  decide +kernel

/-- All walks are over when the roast is dispatched, and then there is a second dessert. -/
theorem roast_dispatched : (run .any lateRoast).Idle ∧
    ((run .any longDinner).journal.filter fun e => e.action.stepId == "dessert").map
        (fun e => (e.action.id, e.action.correlationId)) =
      [((stamp 10).id, "table"), ((stamp 32).id, "table")] := by
  rw [longDinner, run_append, lateRoast, run_beginTake dessert_waits, dessert, soup,
    List.append_assoc, List.cons_append, run_beginTake (by decide +kernel)]
  decide +kernel

theorem longDinner_serial : Serial .any longDinner := by
  have horder : Serial .any [.register flow ⟨0⟩, .publish (event "hall" "order")] :=
    serial_of_no_load (by decide)
  have hsoup : Serial .any soup := horder.load (by decide +kernel) (by decide)
  have hidle : (run .any soup).Idle := by
    rw [soup, run_beginTake (by decide +kernel)]
    decide +kernel
  have hroast : Serial .any lateRoast := by
    rw [lateRoast, dessert, List.append_assoc]
    exact hsoup.load hidle (by decide)
  exact hroast.load roast_dispatched.1 (by decide)

theorem longDinner_not_singleAt : ¬ (run .any longDinner).SingleAt "table" "dessert" := by
  intro hsingle
  have hmade : ∀ id, (id, "table") ∈ [((stamp 10).id, "table"), ((stamp 32).id, "table")] →
      ∃ a, Recorded (run .any longDinner).journal a ∧ a.id = id ∧ a.IsFor "table" "dessert" := by
    intro id hid
    rw [← roast_dispatched.2] at hid
    obtain ⟨e, he, hpair⟩ := List.mem_map.1 hid
    obtain ⟨hentry, hstep⟩ := List.mem_filter.1 he
    obtain ⟨hid, hrun⟩ := Prod.mk.inj hpair
    exact ⟨e.action, ⟨e.task, hentry⟩, hid, hrun, by simpa using hstep⟩
  obtain ⟨a, ha, haid, hfor⟩ := hmade (stamp 10).id (by simp)
  obtain ⟨b, hb, hbid, hbfor⟩ := hmade (stamp 32).id (by simp)
  have hsame := hsingle a b ha hb hfor hbfor
  rw [haid, hbid] at hsame
  exact absurd hsame (by decide +kernel)

end Dinner

open Dinner in
/-- A valid flow, dispatches one after the other, and yet two actions are made for one step. -/
theorem dessert_made_again :
    flow.validate.isOk = true ∧ Serial .any longDinner ∧ ¬ (run .any longDinner).Single :=
  ⟨by decide +kernel, longDinner_serial,
    fun hsingle => longDinner_not_singleAt (single_iff_singleAt.1 hsingle _ _)⟩

open Dinner in
theorem first_dessert_forgotten :
    Apart .any longDinner ∧ (run .any longDinner).OnePerStep ∧
      ForgetsAt .any longDinner "table" "dessert" := by
  have hapart : Apart .any longDinner := longDinner_serial.apart
  obtain ⟨hone, hsingle, -⟩ := single_iff_nothing_forgotten .any longDinner hapart
  refine ⟨hapart, hone, ?_⟩
  by_contra hnot
  exact longDinner_not_singleAt ((hsingle "table" "dessert").2 hnot)

end Floor

end Orchestrator
