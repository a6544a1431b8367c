import Orchestrator.Proofs.Floor.Requests

/-!
Which packs move an action. It asks for a pack of a name and for some labels, and what any other pack
does leaves it as it is. So the result of an action that has finished is from a pack that it asks for.

A pack is judged by a copy of the action that was read at some earlier time. That is enough, since
copies under one identifier agree on what the action asks for, and what has its result has it from a
pack that was judged.
-/

namespace Orchestrator

/-- A pack is not one that an action asks for: it has another name, or it lacks a label. -/
def Pack.Foreign (p : Pack) (a : Action) : Prop :=
  a.packName ≠ p.name ∨
    ∃ key value, a.packLabels.get? key = some value ∧ p.labels.get? key ≠ some value

/-- If an action has finished, its result is from a pack that the action asks for. -/
def Action.Authentic (a : Action) : Prop :=
  a.hasFinished = true → ∃ result, a.result = some result ∧ result.pack.name = a.packName ∧
    ∀ key value, a.packLabels.get? key = some value → result.pack.labels.get? key = some value

/-- What never changes of the actions, by their identifiers. -/
abbrev Cores := String → Option Action

def Action.Known (cores : Cores) (a : Action) : Prop := cores a.id = some a.core

/-- A result that a pack records was made from a message of this pack. -/
def Move.Reports : Move → Prop
  | .beginComplete pack _ result =>
      ∃ (message : EventMessage) (now : Timestamp), message.toEvent pack now = .ok result
  | _ => True

/-- The actions that a task holds are known, and their packs were judged. -/
def Task.Guarded (cores : Cores) : Task → Prop
  | .walk w => ∀ a, w.draft = some a → a.Known cores ∧ a.hasFinished = false
  | .take pack queue _ => ∀ a ∈ queue, a.Known cores ∧ ¬ pack.Foreign a
  | .complete pack a result _ => a.Known cores ∧ result.pack = .ofPack pack
  | .completed pack id read outcome _ => ∀ a, read = some a →
      a.id = id ∧ a.Known cores ∧ (pack.Foreign a → outcome = .ok none)
  | _ => True

/-- The pack that a task works for. -/
def Task.pack? : Task → Option Pack
  | .take pack _ _ | .taken pack _ | .complete pack _ _ _ | .completed pack _ _ _ _ => some pack
  | _ => none

section

variable {p : Pack} {a b : Action} {cores cores' : Cores} {t : Task}

theorem Pack.serves_eq_false : p.serves a.packName a.packLabels = false ↔ p.Foreign a := by
  rw [← Bool.not_eq_true, serves, Bool.and_eq_true, Labels.fits_iff, beq_iff_eq, Foreign]
  simp only [not_and_or, not_forall, ne_eq, exists_prop, eq_comm (a := p.name)]

theorem Pack.serves_iff : p.serves a.packName a.packLabels = true ↔ ¬ p.Foreign a := by
  rw [← Pack.serves_eq_false, Bool.not_eq_false]

theorem Pack.foreign_congr (h : a.core = b.core) : p.Foreign a ↔ p.Foreign b := by
  simp only [Action.core, Action.mk.injEq] at h
  obtain ⟨-, -, hname, hlabels, -⟩ := h
  rw [Pack.Foreign, hname, hlabels, Pack.Foreign]

theorem Action.Known.core_eq (ha : a.Known cores) (hb : b.Known cores) (hid : a.id = b.id) :
    a.core = b.core := by
  unfold Action.Known at ha hb
  rw [hid, hb] at ha
  exact (Option.some.inj ha).symm

theorem Action.Known.of_core (ha : a.Known cores) (hcore : a.core = b.core) : b.Known cores := by
  unfold Action.Known at ha ⊢
  rw [← Action.id_eq_of_core hcore, ha, hcore]

theorem Action.authentic_of_unfinished (h : a.hasFinished = false) : a.Authentic := by
  intro hfinished
  rw [h] at hfinished
  cases hfinished

/-- Who is not foreign to an action may give it a result. -/
theorem Action.authentic_entered {result : Event} (hown : result.pack = .ofPack p)
    (hserves : ¬ p.Foreign a) (state : StateRecord) (past : List StateRecord) :
    (a.entered state past (some result)).Authentic := by
  intro _
  rw [← Pack.serves_iff, Pack.serves, Bool.and_eq_true, Labels.fits_iff, beq_iff_eq] at hserves
  refine ⟨result, rfl, ?_, ?_⟩
  · rw [hown]
    exact hserves.1
  · rw [hown]
    exact hserves.2

theorem Task.Guarded.extend (h : t.Guarded cores)
    (hext : ∀ id core, cores id = some core → cores' id = some core) : t.Guarded cores' := by
  have hknown : ∀ a : Action, a.Known cores → a.Known cores' := fun a ha => hext _ _ ha
  cases t with
  | walk w => exact fun a ha => ⟨hknown a (h a ha).1, (h a ha).2⟩
  | take pack queue reading => exact fun a ha => ⟨hknown a (h a ha).1, (h a ha).2⟩
  | complete pack a result reading => exact ⟨hknown a h.1, h.2⟩
  | completed pack id read outcome answered =>
      exact fun a ha => ⟨(h a ha).1, hknown a (h a ha).2.1, (h a ha).2.2⟩
  | dispatch | taken => trivial

end

namespace Floor

/-- What holds of the stored actions and of those that the tasks hold. -/
structure Guarded (cores : Cores) (s : Floor) : Prop where
  named : ∀ id core, cores id = some core → id ∈ s.names
  actions : ∀ id a, s.actions.get? id = some a → a.id = id ∧ a.Known cores ∧ a.Authentic
  tasks : s.Each fun _ t => t.Guarded cores

theorem guarded_empty (mode : DependencyMode) : (empty mode).Guarded fun _ => none where
  named := fun id core h => by cases h
  actions := fun id a h => by simp [empty] at h
  tasks := each_empty mode _

namespace Guarded

variable {cores : Cores} {s : Floor}

theorem begin (h : s.Guarded cores) {tasks : List Task} (htasks : ∀ t ∈ tasks, t.Guarded cores) :
    (s.begin tasks).Guarded cores :=
  { h with tasks := h.tasks.begin fun t ht _ => htasks t ht }

theorem put (h : s.Guarded cores) {i : Nat} {t : Task} (ht : t.Guarded cores) :
    (s.put i t).Guarded cores :=
  { h with tasks := h.tasks.put ht }

theorem give (h : s.Guarded cores) (i : Nat) (ids : List String) : (s.give i ids).Guarded cores :=
  { h with
    named := by
      intro id core hcore
      rw [names_give]
      exact List.mem_append_left _ (h.named id core hcore) }

/-- The store gets a later version of an action that is known. -/
theorem insert (h : s.Guarded cores) {a b : Action} (ha : a.Known cores) (hcore : a.core = b.core)
    (hb : b.Authentic) : { s with actions := s.actions.insert a.id b }.Guarded cores :=
  { h with
    actions := by
      intro id c hc
      rw [Dict.get?_insert] at hc
      split at hc
      · next hid =>
        obtain rfl := Option.some.inj hc
        exact ⟨hid ▸ (Action.id_eq_of_core hcore).symm, ha.of_core hcore, hb⟩
      · exact h.actions id c hc }

theorem accept (h : s.Guarded cores) {i : Nat} {a b : Action} {t : Task} (ha : a.Known cores)
    (hcore : a.core = b.core) (hb : b.Authentic) (ht : t.Guarded cores) :
    (s.accept i b (s.actions.insert a.id b) t).Guarded cores :=
  { (h.insert ha hcore hb).put ht with }

/-- The candidates of a pack are stored, and the pack is not foreign to them. -/
theorem candidates (h : s.Guarded cores) {pack : Pack} {name : Option String} {a : Action}
    (ha : a ∈ Broker.candidates s.actions pack name) :
    s.actions.get? a.id = some a ∧ a.Known cores ∧ ¬ pack.Foreign a := by
  obtain ⟨hfound, hserves⟩ := List.mem_filter.1 ha
  obtain ⟨id, hid⟩ := Dict.mem_values.1 (ActionStore.mem_findNew.1 hfound).1
  obtain ⟨rfl, hknown, -⟩ := h.actions id a hid
  exact ⟨hid, hknown, Pack.serves_iff.1 hserves⟩

/-- An action that is evaluated has a fresh identifier, and becomes known under it. -/
theorem draft (h : s.Guarded cores) {a : Action} {id : String} (hid : a.id = id)
    (hfresh : id ∉ s.names) (i : Nat) :
    ∃ cores', (s.give i [id]).Guarded cores' ∧ a.Known cores' := by
  subst hid
  have hext : ∀ id core, cores id = some core →
      (if id = a.id then some a.core else cores id) = some core := by
    intro id core hcore
    rw [if_neg, hcore]
    rintro rfl
    exact hfresh (h.named _ _ hcore)
  refine ⟨fun id => if id = a.id then some a.core else cores id, ⟨?_, ?_, ?_⟩, if_pos rfl⟩
  · intro id core hcore
    rw [names_give]
    by_cases hid : id = a.id
    · exact List.mem_append_right _ (List.mem_singleton.2 hid)
    · rw [if_neg hid] at hcore
      exact List.mem_append_left _ (h.named id core hcore)
  · intro id b hb
    obtain ⟨hid, hknown, hauthentic⟩ := h.actions id b hb
    exact ⟨hid, hext _ _ hknown, hauthentic⟩
  · exact h.tasks.imp fun _ _ ht => ht.extend hext

end Guarded

theorem Effect.guarded {cores : Cores} {s s' : Floor} {move : Move} (h : s.Guarded cores)
    (hreports : move.Reports) (heffect : s.Effect move s') : ∃ cores', s'.Guarded cores' := by
  cases heffect with
  | registered | unregistered => exact ⟨cores, h.named, h.actions, h.tasks⟩
  | published | completeMissed => exact ⟨cores, h.begin (by simp [Task.Guarded])⟩
  | takeBegun =>
      refine ⟨cores, h.begin fun t ht => ?_⟩
      obtain rfl := List.mem_singleton.1 ht
      exact fun a ha => (h.candidates ha).2
  | completeBegun hstored =>
      obtain ⟨message, now, hevent⟩ := hreports
      refine ⟨cores, h.begin fun t ht => ?_⟩
      obtain rfl := List.mem_singleton.1 ht
      refine ⟨(h.actions _ _ hstored).2.1, ?_⟩
      rw [(Api.toEvent_eq_ok.1 hevent).2]
      rfl
  | @loaded i ids =>
      refine ⟨cores, ((h.give i ids).put ?_).begin fun t ht => ?_⟩
      · trivial
      · obtain ⟨a, -, rfl⟩ := List.mem_map.1 ht
        intro b hb
        cases hb
  | @drafted i renderer stamp w step rest a htask hsteps hnone heval hfresh =>
      obtain ⟨hid, hunfinished⟩ :
          (w.run.adopt step a).id = stamp.id ∧ (w.run.adopt step a).hasFinished = false := by
        obtain ⟨labels, input, context, rfl⟩ := Step.evaluate_eq_some heval
        exact ⟨rfl, rfl⟩
      obtain ⟨cores', hgiven, hknown⟩ := h.draft hid hfresh i
      refine ⟨cores', hgiven.put fun b hb => ?_⟩
      obtain rfl := Option.some.inj hb
      exact ⟨hknown, hunfinished⟩
  | passed | addRefused =>
      refine ⟨cores, h.put fun b hb => ?_⟩
      cases hb
  | takeTimed htask | completeTimed htask =>
      refine ⟨cores, h.put ?_⟩
      exact (h.tasks _ _ htask :)
  | added htask hsteps hdraft hadd =>
      obtain ⟨hknown, hunfinished⟩ := h.tasks _ _ htask _ hdraft
      obtain ⟨-, rfl, rfl⟩ := ActionStore.add_eq_ok.1 hadd
      refine ⟨cores, h.accept hknown rfl (Action.authentic_of_unfinished hunfinished) ?_⟩
      intro b hb
      cases hb
  | queueEmpty | claimFailed => exact ⟨cores, h.put trivial⟩
  | claimed htask hclaim =>
      obtain ⟨-, b, -, -, rfl, rfl⟩ := Broker.claim_eq_ok.1 hclaim
      obtain ⟨hknown, -⟩ := h.tasks _ _ htask _ List.mem_cons_self
      refine ⟨cores, h.accept hknown rfl (Action.authentic_of_unfinished rfl) ?_⟩
      trivial
  | claimLost htask =>
      refine ⟨cores, h.put fun b hb => ?_⟩
      exact h.tasks _ _ htask b (List.mem_cons_of_mem _ hb)
  | settled htask hsettle =>
      obtain ⟨hserves, -, b, -, -, rfl, rfl⟩ := Broker.settle_eq_ok_some.1 hsettle
      obtain ⟨hknown, hown⟩ := h.tasks _ _ htask
      have hnot := Pack.serves_iff.1 hserves
      refine ⟨cores, h.accept hknown rfl (Action.authentic_entered hown hnot _ _) fun c hc => ?_⟩
      obtain rfl := Option.some.inj hc
      exact ⟨rfl, hknown, fun hforeign => absurd hforeign hnot⟩
  | settleIgnored htask =>
      obtain ⟨hknown, -⟩ := h.tasks _ _ htask
      refine ⟨cores, h.put fun c hc => ?_⟩
      obtain rfl := Option.some.inj hc
      exact ⟨rfl, hknown, fun _ => rfl⟩
  | settleRefused htask hsettle =>
      obtain ⟨hknown, -⟩ := h.tasks _ _ htask
      have hnot := Pack.serves_iff.1 (Broker.settle_eq_error.1 hsettle).1
      refine ⟨cores, h.put fun c hc => ?_⟩
      obtain rfl := Option.some.inj hc
      exact ⟨rfl, hknown, fun hforeign => absurd hforeign hnot⟩
  | dispatched htask =>
      refine ⟨cores, (h.put ?_).begin (by simp [Task.Guarded])⟩
      exact (h.tasks _ _ htask :)
  | answered htask =>
      refine ⟨cores, h.put ?_⟩
      exact (h.tasks _ _ htask :)
  | expired =>
      refine ⟨cores, h.named, fun id a ha => ?_, h.tasks⟩
      rw [Dict.get?_filter, Option.filter_eq_some_iff] at ha
      exact h.actions id a ha.1

/-- Requests, too, complete an action with a result of a pack that the action asks for. -/
theorem Guarded.serve {cores : Cores} {s : Floor} (h : s.Guarded cores) (shared : Bool) (hub : Hub)
    (r : Http.Request) : (s.serve shared hub r).Guarded cores := by
  unfold Floor.serve
  have hchange := Api.change_serve shared
    { hub with flows := s.flows, actions := s.actions, reports := [] } r
  generalize (Api.serve shared
    { hub with flows := s.flows, actions := s.actions, reports := [] } r).2 = after at hchange
  cases hchange with
  | none | registered | removed | published =>
      refine begin ?_ (by simp [Task.Guarded])
      exact ⟨h.named, h.actions, h.tasks⟩
  | took htake =>
      refine begin ?_ (by simp)
      rcases Broker.takeFirst_writes htake with rfl | ⟨a, ha, b, hcore, hpending, rfl⟩
      · exact h
      · obtain ⟨-, hknown, -⟩ := h.candidates ha
        refine h.insert hknown hcore (Action.authentic_of_unfinished ?_)
        rw [Action.hasFinished, hpending]
        rfl
  | completed hown hcomplete =>
      simp only [Broker.complete_eq] at hcomplete
      split at hcomplete
      · next a hstored =>
        obtain ⟨hserves, -, b, -, -, rfl, rfl⟩ := Broker.settle_eq_ok_some.1 hcomplete
        obtain ⟨-, hknown, -⟩ := h.actions _ a hstored
        refine begin ?_ (by simp [Task.Guarded])
        exact h.insert hknown rfl
          (Action.authentic_entered hown (Pack.serves_iff.1 hserves) _ _)
      · cases hcomplete

/-- What a floor comes to by requests, and by moves whose results were made from messages. -/
inductive Served (mode : DependencyMode) : Floor → Prop where
  | start : Served mode (empty mode)
  | request {s : Floor} (shared : Bool) (hub : Hub) (r : Http.Request) (h : Served mode s) :
      Served mode (s.serve shared hub r)
  | move {s : Floor} (move : Move) (hreports : move.Reports) (h : Served mode s) :
      Served mode (s.step move)

theorem Served.guarded {mode : DependencyMode} {s : Floor} (h : Served mode s) :
    ∃ cores, s.Guarded cores := by
  induction h with
  | start => exact ⟨_, guarded_empty mode⟩
  | request shared hub r _ ih =>
      obtain ⟨cores, hguarded⟩ := ih
      exact ⟨cores, hguarded.serve shared hub r⟩
  | @move s move hreports _ ih =>
      obtain ⟨cores, hguarded⟩ := ih
      rcases s.step_effect move with hsame | heffect
      · exact ⟨cores, hsame.symm ▸ hguarded⟩
      · exact heffect.guarded hguarded hreports

theorem served_run {mode : DependencyMode} {moves : List Move}
    (hreports : ∀ move ∈ moves, move.Reports) : Served mode (run mode moves) := by
  induction moves using List.reverseRecOn with
  | nil => exact .start
  | append_singleton moves move ih =>
      rw [run_snoc]
      exact .move move (hreports move (by simp)) (ih fun m hm => hreports m (by simp [hm]))

/-! ## What a pack does -/

/-- The pack that a move is made for. -/
def pack? (s : Floor) : Move → Option Pack
  | .beginTake pack _ | .beginComplete pack _ _ => some pack
  | .read i _ | .call i => s.tasks[i]?.bind Task.pack?
  | _ => none

/-- A request is one of a pack to take an action or to complete one. -/
inductive CallsFor (hub : Hub) (r : Http.Request) (pack : Pack) : Prop where
  | take {id : String} (hasks : Api.Asks r (.takeAction id))
      (hpack : hub.packs.require id = .ok pack)
  | complete {id actionId : String} (hasks : Api.Asks r (.actionResult id actionId))
      (hpack : hub.packs.require id = .ok pack)

/-- The results of a pack for an action are ignored: they are answered with nothing, and nothing is
dispatched. -/
structure Ignores (s : Floor) (pack : Pack) (id : String) : Prop where
  /-- It is so at one stroke, -/
  atOnce : ∀ result now, Broker.complete s.actions pack id result now = .ok (none, s.actions)
  /-- and for a copy that was read earlier. -/
  settled : ∀ i b result now, s.tasks[i]? = some (.complete pack b result (some now)) → b.id = id →
    s.step (.call i) = s.put i (.completed pack id (some b) (.ok none) false)
  answered : ∀ i b outcome, s.tasks[i]? = some (.completed pack id (some b) outcome false) →
    outcome = .ok none ∧ s.step (.call i) = s.put i (.completed pack id (some b) (.ok none) true)
  /-- A request is accepted nevertheless. -/
  accepted : ∀ shared hub r packId message, Api.Asks r (.actionResult packId id) →
    hub.packs.require packId = .ok pack → r.payload EventMessage.read = .ok message →
    Text.isBlankText message.name = false →
    (Api.serve shared { hub with flows := s.flows, actions := s.actions, reports := [] } r).1.status =
      202 ∧ s.serve shared hub r = s

section

variable {cores : Cores} {s : Floor} {pack : Pack} {id : String} {a : Action}

/-- What is written for a pack is no action that it is foreign to. -/
theorem Guarded.get?_insert (h : s.Guarded cores) (ha : s.actions.get? id = some a)
    (hforeign : pack.Foreign a) {b : Action} (hb : b.Known cores) (hnot : ¬ pack.Foreign b)
    (c : Action) : (s.actions.insert b.id c).get? id = some a := by
  rw [Dict.get?_insert, if_neg, ha]
  intro hid
  obtain ⟨hown, hknown, -⟩ := h.actions id a ha
  exact hnot ((Pack.foreign_congr (hknown.core_eq hb (hown.trans hid))).1 hforeign)

theorem Guarded.moved (h : s.Guarded cores) (ha : s.actions.get? id = some a)
    (hforeign : pack.Foreign a) {move : Move} (hpack : s.pack? move = some pack) :
    (s.step move).actions.get? id = some a := by
  rcases s.step_effect move with hsame | heffect
  · rw [hsame, ha]
  generalize s.step move = s' at heffect
  cases heffect with
  | claimed htask hclaim =>
      simp only [pack?, htask, Option.bind_some, Task.pack?, Option.some.injEq] at hpack
      subst hpack
      obtain ⟨-, b, -, -, rfl, rfl⟩ := Broker.claim_eq_ok.1 hclaim
      obtain ⟨hknown, hnot⟩ := h.tasks _ _ htask _ List.mem_cons_self
      exact h.get?_insert ha hforeign hknown hnot _
  | settled htask hsettle =>
      simp only [pack?, htask, Option.bind_some, Task.pack?, Option.some.injEq] at hpack
      subst hpack
      obtain ⟨hserves, -, b, -, -, rfl, rfl⟩ := Broker.settle_eq_ok_some.1 hsettle
      obtain ⟨hknown, -⟩ := h.tasks _ _ htask
      exact h.get?_insert ha hforeign hknown (Pack.serves_iff.1 hserves) _
  | added htask => simp [pack?, htask, Task.pack?] at hpack
  | expired => cases hpack
  | _ => exact ha

theorem Guarded.taken (h : s.Guarded cores) (ha : s.actions.get? id = some a)
    (hforeign : pack.Foreign a) {name : Option String} {now : Timestamp} {taken : Option Action}
    {actions : ActionStore} (htake : Broker.take s.actions pack name now = .ok (taken, actions)) :
    actions.get? id = some a := by
  rcases Broker.takeFirst_writes htake with rfl | ⟨b, hb, c, -, -, rfl⟩
  · exact ha
  · obtain ⟨-, hknown, hnot⟩ := h.candidates hb
    exact h.get?_insert ha hforeign hknown hnot c

theorem Guarded.completed (h : s.Guarded cores) (ha : s.actions.get? id = some a)
    (hforeign : pack.Foreign a) {other : String} {result : Event} {now : Timestamp}
    {outcome : Option Action} {actions : ActionStore}
    (hcomplete : Broker.complete s.actions pack other result now = .ok (outcome, actions)) :
    actions.get? id = some a := by
  rw [Broker.complete_eq] at hcomplete
  split at hcomplete
  · next b hstored =>
    cases outcome with
    | none =>
        obtain ⟨-, rfl⟩ := Broker.settle_eq_ok_none.1 hcomplete
        exact ha
    | some c =>
        obtain ⟨hserves, -, _, -, -, rfl, rfl⟩ := Broker.settle_eq_ok_some.1 hcomplete
        exact h.get?_insert ha hforeign (h.actions _ b hstored).2.1 (Pack.serves_iff.1 hserves) _
  · cases hcomplete

theorem Guarded.called (h : s.Guarded cores) (ha : s.actions.get? id = some a)
    (hforeign : pack.Foreign a) (shared : Bool) {hub : Hub} {r : Http.Request}
    (hcalls : CallsFor hub r pack) : (s.serve shared hub r).actions.get? id = some a := by
  let before : Hub := { hub with flows := s.flows, actions := s.actions, reports := [] }
  change (Api.serve shared before r).2.actions.get? id = some a
  cases hcalls with
  | @take packId hasks hpack =>
      rw [(Api.serve_eq hasks rfl shared before).1]
      rcases Api.takeAction_cases packId r before with
        hsame | ⟨found, name, now, taken, hfound, htake⟩
      · exact hsame ▸ ha
      · obtain rfl := Except.ok.inj (hpack.symm.trans hfound)
        exact h.taken ha hforeign htake
  | @complete packId actionId hasks hpack =>
      rw [(Api.serve_eq hasks rfl shared before).1]
      rcases Api.completeAction_cases packId actionId r before with
        ⟨hsame, -⟩ | ⟨found, result, now, b, hfound, -, hcomplete, -⟩
      · exact hsame ▸ ha
      · obtain rfl := Except.ok.inj (hpack.symm.trans hfound)
        exact h.completed ha hforeign hcomplete

theorem Guarded.ignores (h : s.Guarded cores) (ha : s.actions.get? id = some a)
    (hforeign : pack.Foreign a) : s.Ignores pack id := by
  obtain ⟨hown, hknown, -⟩ := h.actions id a ha
  have hserves : pack.serves a.packName a.packLabels = false := Pack.serves_eq_false.2 hforeign
  constructor
  case atOnce =>
    intro result now
    rw [Broker.complete_eq, ha]
    exact Broker.settle_eq_ok_none.2 ⟨hserves, rfl⟩
  case settled =>
    intro i b result now htask hid
    obtain ⟨hbknown, -⟩ := h.tasks _ _ htask
    have hbforeign : pack.Foreign b :=
      (Pack.foreign_congr (hknown.core_eq hbknown (hown.trans hid.symm))).1 hforeign
    have hsettle : Broker.settle s.actions pack b result now = .ok (none, s.actions) :=
      Broker.settle_eq_ok_none.2 ⟨Pack.serves_eq_false.2 hbforeign, rfl⟩
    simp only [Floor.step, call, htask, callComplete, hsettle, hid]
  case answered =>
    intro i b outcome htask
    obtain ⟨hid, hbknown, hnothing⟩ := h.tasks _ _ htask b rfl
    have hbforeign : pack.Foreign b :=
      (Pack.foreign_congr (hknown.core_eq hbknown (hown.trans hid.symm))).1 hforeign
    obtain rfl := hnothing hbforeign
    exact ⟨rfl, by simp only [Floor.step, call, htask, answer]⟩
  case accepted =>
    intro shared hub r packId message hasks hpack hmessage hname
    obtain ⟨hafter, hstatus⟩ := Api.serve_eq hasks rfl shared
      { hub with flows := s.flows, actions := s.actions, reports := [] }
    obtain ⟨packs, used, hrun⟩ := Api.completeAction_ignored hmessage hname hpack ha hserves
      (s := { hub with flows := s.flows, actions := s.actions, reports := [] })
    have hhandle : (Api.handle (.actionResult packId id) "POST" r).run
        { hub with flows := s.flows, actions := s.actions, reports := [] } = _ := hrun
    rw [hhandle] at hafter hstatus
    refine ⟨hstatus _ rfl, ?_⟩
    unfold Floor.serve
    rw [hafter]
    simp [Floor.begin]

end

/-- Whatever is reached by requests and moves, a pack leaves all actions alone that it is foreign to,
whatever it does to take an action or to complete one, and its results for them are ignored. So the
result of an action that has finished is from a pack of the name and the labels that the action asks
for. -/
theorem packs_move_their_own (mode : DependencyMode) {s : Floor} (h : Served mode s) :
    (∀ pack id a, s.actions.get? id = some a → pack.Foreign a →
      (∀ move, s.pack? move = some pack → (s.step move).actions.get? id = some a) ∧
      (∀ shared hub r, CallsFor hub r pack →
        (s.serve shared hub r).actions.get? id = some a) ∧
      s.Ignores pack id) ∧
    ∀ id a, s.actions.get? id = some a → a.hasFinished = true →
      ∃ result, a.result = some result ∧ result.pack.name = a.packName ∧
        ∀ key value, a.packLabels.get? key = some value →
          result.pack.labels.get? key = some value := by
  obtain ⟨cores, hguarded⟩ := h.guarded
  constructor
  · intro pack id a ha hforeign
    refine ⟨fun move hpack => hguarded.moved ha hforeign hpack, ?_, hguarded.ignores ha hforeign⟩
    exact fun shared hub r hcalls => hguarded.called ha hforeign shared hcalls
  · intro id a ha
    exact (hguarded.actions id a ha).2.2

namespace Dinner

/-- The soup is done, and the roast is not begun. -/
def plated : List Move :=
  ordered ++ .beginTake kitchen none :: [.read 2 ⟨3, 0⟩, .call 2,
    .beginComplete kitchen (stamp 1).id (event "kitchen" "ready"), .read 3 ⟨4, 0⟩, .call 3]

theorem plated_reports : ∀ move ∈ plated, move.Reports := by
  intro move hmove
  cases move with
  | beginComplete pack id result =>
      simp [plated, ordered] at hmove
      obtain ⟨rfl, rfl, rfl⟩ := hmove
      exact ⟨⟨"ready", .null, some default⟩, default, rfl⟩
  | _ => trivial

theorem soup_finished :
    ((run .any plated).actions.get? (stamp 1).id).map (fun a => (a.hasFinished, a.packName)) =
      some (true, "kitchen") := by
  rw [plated, run_beginTake (by decide +kernel)]
  decide +kernel

def hall : Pack := ⟨"hall", "hall", ∅, [], [], default⟩

end Dinner

open Dinner in
theorem soup_from_the_kitchen :
    Served .any (run .any plated) ∧
      ∃ a result, (run .any plated).actions.get? (stamp 1).id = some a ∧ hall.Foreign a ∧
        (∀ result now, Broker.complete (run .any plated).actions hall (stamp 1).id result now =
          .ok (none, (run .any plated).actions)) ∧
        a.result = some result ∧ result.pack.name = "kitchen" := by
  have hserved : Served .any (run .any plated) := served_run plated_reports
  obtain ⟨hleft, hfinished⟩ := packs_move_their_own .any hserved
  obtain ⟨a, ha, hsoup⟩ := Option.map_eq_some_iff.1 soup_finished
  obtain ⟨hdone, hname⟩ := Prod.mk.inj hsoup
  have hforeign : hall.Foreign a := by
    left
    rw [hname]
    decide
  obtain ⟨-, -, hignores⟩ := hleft hall _ a ha hforeign
  obtain ⟨result, hresult, hpack, -⟩ := hfinished _ a ha hdone
  exact ⟨hserved, a, result, ha, hforeign, hignores.atOnce, hresult, hpack.trans hname⟩

end Floor

end Orchestrator
