import Mathlib.Data.List.Dedup
import Orchestrator.Proofs.Floor.Forgetting
import Orchestrator.Proofs.Flow.OneByOne

/-!
What an event leaves behind when its runs all move at the same time. Whatever the order of their
moves, the store takes in what each latest flow yields, and that is what it takes in when a run of
every latest flow is moved on its own, one after the other. A flow that the event does not enter
yields nothing, so that it makes no difference that no run of it is found.
-/

namespace Orchestrator

namespace Floor

/-! ## All runs at the same time -/

/-- What a task has put into the store, in order. -/
def writtenBy (k : Nat) (journal : List Entry) : List Action :=
  (journal.filter fun e => e.task == k).map Entry.action

theorem writtenBy_snoc (k i : Nat) (journal : List Entry) (a : Action) :
    writtenBy k (journal ++ [⟨i, a⟩]) = writtenBy k journal ++ if i = k then [a] else [] := by
  by_cases hi : i = k <;> simp [writtenBy, List.filter_append, hi]

/-- The way of a walk whose run begins with the event. What lies behind it is what the flow yields
there, and so is what it holds. -/
structure Yielding (r : Renderer) (mode : DependencyMode) (event : Event) (f : FlowDefinition)
    (correlationId : String) (own : List Action) (w : Walk) : Prop where
  flow : w.run.flow = f
  run : w.run.correlationId = correlationId
  context : w.run.context = ∅
  moves : w.event = event
  behind : ∃ done, (FlowInstance.start f correlationId).candidates mode event = done ++ w.steps ∧
    own.map Action.bare = done.filterMap (f.yield? r event)
  owned : ∀ a ∈ own, a.correlationId = correlationId
  held : ∀ a, w.draft = some a → a.correlationId = correlationId ∧ a.previous = none ∧
    ∃ step rest, w.steps = step :: rest ∧ f.yield? r event step = some a.bare

namespace Yielding

variable {r : Renderer} {mode : DependencyMode} {event : Event} {f : FlowDefinition}
  {correlationId : String} {own : List Action} {w : Walk} {step : Step} {rest : List Step}
  {a : Action}

theorem setOut (since : Nat) : Yielding r mode event f correlationId []
    (.setOut mode ⟨.start f correlationId, event⟩ since) where
  flow := rfl
  run := rfl
  context := rfl
  moves := rfl
  behind := ⟨[], rfl, rfl⟩
  owned := by simp
  held := fun a ha => by cases ha

/-- The steps before a walk are steps of its flow. -/
theorem mem_steps (hw : Yielding r mode event f correlationId own w) (hstep : step ∈ w.steps) :
    step ∈ f.steps := by
  obtain ⟨done, hdone, -⟩ := hw.behind
  have hmem : step ∈ (FlowInstance.start f correlationId).candidates mode event := by
    rw [hdone]
    exact List.mem_append_right _ hstep
  exact (FlowInstance.mem_candidates.1 hmem).1

theorem skip (hw : Yielding r mode event f correlationId own w) (hsteps : w.steps = step :: rest)
    (hnone : f.yield? r event step = none) :
    Yielding r mode event f correlationId own w.skip where
  flow := hw.flow
  run := hw.run
  context := hw.context
  moves := hw.moves
  behind := by
    obtain ⟨done, hdone, hown⟩ := hw.behind
    refine ⟨done ++ [step], ?_, ?_⟩
    · simp [hdone, hsteps, Walk.skip]
    · rw [hown, List.filterMap_append, List.filterMap_cons_none hnone, List.filterMap_nil,
        List.append_nil]
  owned := hw.owned
  held := fun a ha => by cases ha

theorem draft (hw : Yielding r mode event f correlationId own w) (hsteps : w.steps = step :: rest)
    (hprevious : (w.run.adopt step a).previous = none)
    (hyield : f.yield? r event step = some (w.run.adopt step a).bare) :
    Yielding r mode event f correlationId own { w with draft := some (w.run.adopt step a) } :=
  { hw with
    held := by
      intro b hb
      obtain rfl := Option.some.inj hb
      exact ⟨hw.run, hprevious, step, rest, hsteps, hyield⟩ }

theorem stored (hw : Yielding r mode event f correlationId own w) (hdraft : w.draft = some a) :
    Yielding r mode event f correlationId (own ++ [a]) (w.stored step a) where
  flow := hw.flow
  run := hw.run
  context := hw.context
  moves := hw.moves
  behind := by
    obtain ⟨done, hdone, hown⟩ := hw.behind
    obtain ⟨-, -, first, rest', hfirst, hyield⟩ := hw.held a hdraft
    rw [hfirst] at hdone
    refine ⟨done ++ [first], ?_, ?_⟩
    · simp [hdone, hfirst, Walk.stored, Walk.skip]
    · rw [List.map_append, hown, List.filterMap_append, List.filterMap_cons_some hyield]
      rfl
  owned := by
    intro b hb
    rcases List.mem_append.1 hb with hold | hnew
    · exact hw.owned b hold
    · obtain rfl := List.mem_singleton.1 hnew
      exact (hw.held b hdraft).1
  held := fun b hb => by cases hb

/-- At its end a walk has put in all that the flow yields. -/
theorem bare_of_done (hw : Yielding r mode event f correlationId own w) (hdone : w.steps = []) :
    own.map Action.bare = f.yields r mode event := by
  obtain ⟨done, hall, hown⟩ := hw.behind
  rw [hdone, List.append_nil] at hall
  rw [hown, ← hall, FlowDefinition.yields, FlowDefinition.candidates_start,
    FlowDefinition.candidates_start]

end Yielding

/-- What holds of a task, by its place, while the runs of an event move. -/
def OnItsWay (r : Renderer) (mode : DependencyMode) (event : Event)
    (runs : List (FlowDefinition × String)) (t : Floor) (k : Nat) : Task → Prop
  | .dispatch _ done => done = true ∧ k = 0
  | .walk w => ∃ n f correlationId, k = n + 1 ∧ runs[n]? = some (f, correlationId) ∧
      Yielding r mode event f correlationId (writtenBy k t.journal) w ∧
      ∀ a, w.draft = some a → (a.id, k) ∈ t.given ∧ t.actions.get? a.id = none
  | _ => False

/-- While the runs of an event move, the store has taken in what lies behind them. -/
structure FansOut (before : ActionStore) (r : Renderer) (mode : DependencyMode) (event : Event)
    (runs : List (FlowDefinition × String)) (t : Floor) : Prop where
  adds : before.Adds t.actions (t.journal.map Entry.action)
  distinct : t.names.Nodup
  named : ∀ id, t.actions.contains id = true → id ∈ t.names
  length : t.tasks.length = runs.length + 1
  entries : ∀ e ∈ t.journal, ∃ n < runs.length, e.task = n + 1
  tasks : t.Each (OnItsWay r mode event runs t)

section

variable {before : ActionStore} {data : DataStore} {r r' : Renderer} {mode : DependencyMode}
  {event : Event} {runs : List (FlowDefinition × String)} {t : Floor} {i k : Nat} {w : Walk}
  {step : Step} {rest : List Step} {a : Action} {stamp : Stamp} {move : Move}

theorem names_give_put (s : Floor) (i k : Nat) (ids : List String) (u : Task) :
    ((s.give i ids).put k u).names = s.names ++ ids :=
  names_give s i ids

theorem OnItsWay.give {task : Task} (h : OnItsWay r mode event runs t k task) (ids : List String) :
    OnItsWay r mode event runs (t.give i ids) k task := by
  cases task with
  | dispatch report done => exact h
  | walk w =>
      obtain ⟨n, f, correlationId, hk, hrun, hw, hheld⟩ := h
      refine ⟨n, f, correlationId, hk, hrun, hw, fun a ha => ?_⟩
      exact ⟨List.mem_append_left _ (hheld a ha).1, (hheld a ha).2⟩
  | _ => exact h

/-- What one task puts in is no other's draft. -/
theorem OnItsWay.accept {task u : Task} (h : OnItsWay r mode event runs t k task) (hother : k ≠ i)
    (hdistinct : t.names.Nodup) (hgiven : (a.id, i) ∈ t.given) :
    OnItsWay r mode event runs (t.accept i a (t.actions.insert a.id a) u) k task := by
  cases task with
  | dispatch report done => exact h
  | walk w =>
      obtain ⟨n, f, correlationId, hk, hrun, hw, hheld⟩ := h
      have hown : writtenBy k (t.journal ++ [⟨i, a⟩]) = writtenBy k t.journal := by
        rw [writtenBy_snoc, if_neg hother.symm, List.append_nil]
      refine ⟨n, f, correlationId, hk, hrun, ?_, fun b hb => ?_⟩
      · simpa [Floor.accept, hown] using hw
      · obtain ⟨hbgiven, hunused⟩ := hheld b hb
        have hne : b.id ≠ a.id := by
          intro hid
          have hpair := List.inj_on_of_nodup_map hdistinct hbgiven hgiven hid
          exact hother (congrArg Prod.snd hpair)
        refine ⟨hbgiven, ?_⟩
        rwa [Floor.accept, Dict.get?_insert, if_neg hne]
  | _ => exact h

namespace FansOut

/-- A step that comes to nothing changes nothing but the walk itself. -/
theorem pass (h : FansOut before r mode event runs t) (htask : t.tasks[i]? = some (.walk w))
    (hsteps : w.steps = step :: rest) (hread : ∀ run ∈ runs, run.1.ReadAlike r' r)
    (hnot : ∀ a, step.evaluate r' w.event w.run.context stamp ≠ .ok (some a)) :
    FansOut before r mode event runs (t.put i (.walk w.skip)) where
  adds := h.adds
  distinct := h.distinct
  named := h.named
  length := by simpa [put] using h.length
  entries := h.entries
  tasks := by
    obtain ⟨n, f, correlationId, hi, hrun, hw, -⟩ := h.tasks i _ htask
    have hagree : r'.AgreeOn r step.sources :=
      hread _ (List.mem_of_getElem? hrun) step (hw.mem_steps (hsteps ▸ List.mem_cons_self))
    rw [hw.moves] at hnot
    have hnone : f.yield? r event step = none :=
      FlowDefinition.yield?_eq_none hw.context hagree hnot
    refine Each.put (s := t) h.tasks ⟨n, f, correlationId, hi, hrun, hw.skip hsteps hnone, ?_⟩
    intro a ha
    cases ha

/-- A step that comes to an action lets the walk hold what the flow yields. -/
theorem draw (h : FansOut before r mode event runs t) (htask : t.tasks[i]? = some (.walk w))
    (hsteps : w.steps = step :: rest) (hread : ∀ run ∈ runs, run.1.ReadAlike r' r)
    (heval : step.evaluate r' w.event w.run.context stamp = .ok (some a))
    (hfresh : stamp.id ∉ t.names) :
    FansOut before r mode event runs
      ((t.give i [stamp.id]).put i (.walk { w with draft := some (w.run.adopt step a) })) where
  adds := h.adds
  distinct := by
    rw [names_give_put]
    exact List.nodup_append'.2 ⟨h.distinct, List.nodup_singleton _, by simpa using hfresh⟩
  named := by
    intro id hid
    rw [names_give_put]
    exact List.mem_append_left _ (h.named id hid)
  length := by simpa [put, Floor.give] using h.length
  entries := h.entries
  tasks := by
    obtain ⟨n, f, correlationId, hi, hrun, hw, -⟩ := h.tasks i _ htask
    have hagree : r'.AgreeOn r step.sources :=
      hread _ (List.mem_of_getElem? hrun) step (hw.mem_steps (hsteps ▸ List.mem_cons_self))
    rw [hw.moves] at heval
    obtain ⟨hyield, hid, hprevious⟩ := FlowDefinition.yield?_adopt hw.context hagree hw.flow heval
    refine Each.put (s := t.give i [stamp.id]) (h.tasks.imp fun _ _ hu => hu.give _)
      ⟨n, f, correlationId, hi, hrun, hw.draft hsteps hprevious hyield, ?_⟩
    intro b hb
    obtain rfl := Option.some.inj hb
    rw [hid]
    refine ⟨by simp [put, Floor.give], ?_⟩
    rw [← Dict.contains_eq_false, ← Bool.not_eq_true]
    exact fun hused => hfresh (h.named _ hused)

/-- The store takes in what a walk holds. -/
theorem store (h : FansOut before r mode event runs t) (htask : t.tasks[i]? = some (.walk w))
    (hdraft : w.draft = some a) (step : Step) :
    t.actions.add a = .ok (a, t.actions.insert a.id a) ∧
      FansOut before r mode event runs
        (t.accept i a (t.actions.insert a.id a) (.walk (w.stored step a))) := by
  obtain ⟨n, f, correlationId, hi, hrun, hw, hheld⟩ := h.tasks i _ htask
  obtain ⟨hgiven, hunused⟩ := hheld a hdraft
  have hlt : n < runs.length := (List.getElem?_eq_some_iff.1 hrun).1
  refine ⟨ActionStore.add_of_unused hunused (hw.held a hdraft).2.1, ?_⟩
  exact {
    adds := by
      have hadds := h.adds.append (.insert hunused)
      simpa [Floor.accept] using hadds
    distinct := h.distinct
    named := by
      intro id hid
      obtain ⟨b, hb⟩ := Dict.contains_iff.1 hid
      rw [Floor.accept, Dict.get?_insert] at hb
      split at hb
      · next heq => exact heq ▸ List.mem_map_of_mem (f := Prod.fst) hgiven
      · exact h.named id (Dict.contains_iff.2 ⟨b, hb⟩)
    length := by simpa [Floor.accept, put] using h.length
    entries := by
      intro e he
      rcases List.mem_append.1 he with hold | hnew
      · exact h.entries e hold
      · obtain rfl := List.mem_singleton.1 hnew
        exact ⟨n, hlt, hi⟩
    tasks := by
      refine each_accept (fun k u hk hu => (h.tasks k u hu).accept hk h.distinct hgiven) ?_
      refine ⟨n, f, correlationId, hi, hrun, ?_, fun b hb => by cases hb⟩
      have hown : writtenBy i (t.journal ++ [⟨i, a⟩]) = writtenBy i t.journal ++ [a] := by
        rw [writtenBy_snoc, if_pos rfl]
      simpa [Floor.accept, hown] using hw.stored hdraft }

end FansOut

/-- The move is one of a run that moves, and templates are rendered with some data. -/
def Engages (data : DataStore) : Move → Prop
  | .evaluate _ renderer _ => ∃ seed, renderer = templateRenderer data seed
  | .call _ => True
  | _ => False

theorem step_fansOut (h : FansOut before r mode event runs t) (hmove : Engages data move)
    (hread : ∀ run ∈ runs, ∀ seed, run.1.ReadAlike (templateRenderer data seed) r) :
    FansOut before r mode event runs (t.step move) := by
  rcases t.step_effect move with hsame | heffect
  · rwa [hsame]
  generalize t.step move = t' at heffect
  cases heffect with
  | registered | unregistered | published | takeBegun | completeBegun | completeMissed | loaded
  | takeTimed | completeTimed | expired => exact hmove.elim
  | drafted htask hsteps hnone heval hfresh =>
      obtain ⟨seed, rfl⟩ := hmove
      exact h.draw htask hsteps (fun run hrun => hread run hrun seed) heval hfresh
  | passed htask hsteps hnone hnothing =>
      obtain ⟨seed, rfl⟩ := hmove
      exact h.pass htask hsteps (fun run hrun => hread run hrun seed) hnothing
  | @added i w step rest a stored actions htask hsteps hdraft hadd =>
      obtain ⟨hadded, hstored⟩ := h.store htask hdraft step
      obtain ⟨rfl, rfl⟩ := Prod.mk.inj (Except.ok.inj (hadd.symm.trans hadded))
      exact hstored
  | @addRefused i w step rest a e htask hsteps hdraft hadd =>
      obtain ⟨hadded, -⟩ := h.store htask hdraft step
      rw [hadd] at hadded
      cases hadded
  | queueEmpty htask | claimed htask | claimLost htask | claimFailed htask | settled htask
  | settleIgnored htask | settleRefused htask | dispatched htask | answered htask =>
      exact (h.tasks _ _ htask).elim

theorem steps_fansOut {moves : List Move} (h : FansOut before r mode event runs t)
    (hmoves : ∀ move ∈ moves, Engages data move)
    (hread : ∀ run ∈ runs, ∀ seed, run.1.ReadAlike (templateRenderer data seed) r) :
    FansOut before r mode event runs (moves.foldl Floor.step t) := by
  induction moves generalizing t with
  | nil => exact h
  | cons move rest ih =>
      have hnext := step_fansOut h (hmoves move List.mem_cons_self) hread
      exact ih hnext fun m hm => hmoves m (List.mem_cons_of_mem _ hm)

theorem FansOut.yields (h : FansOut before r mode event runs t) (hidle : t.Idle) {n : Nat}
    {run : FlowDefinition × String} (hrun : runs[n]? = some run) :
    (writtenBy (n + 1) t.journal).map Action.bare = run.1.yields r mode event ∧
      ∀ a ∈ writtenBy (n + 1) t.journal, a.correlationId = run.2 := by
  have hlt : n + 1 < t.tasks.length := by
    rw [h.length]
    exact Nat.succ_lt_succ (List.getElem?_eq_some_iff.1 hrun).1
  have htask : t.tasks[n + 1]? = some t.tasks[n + 1] := List.getElem?_eq_getElem hlt
  have hway := h.tasks _ _ htask
  cases hsort : t.tasks[n + 1] with
  | walk w =>
      rw [hsort] at htask hway
      obtain ⟨m, f, correlationId, hm, hrun', hw, -⟩ := hway
      obtain rfl := Nat.succ.inj hm
      obtain rfl := Option.some.inj (hrun.symm.trans hrun')
      exact ⟨hw.bare_of_done (List.isEmpty_iff.1 (hidle _ (List.mem_of_getElem? htask))), hw.owned⟩
  | dispatch report done =>
      rw [hsort] at hway
      exact absurd hway.2 (Nat.succ_ne_zero n)
  | _ =>
      rw [hsort] at hway
      exact hway.elim

end

/-! ## What each flow has put in -/

theorem mem_writtenBy {k : Nat} {journal : List Entry} {a : Action} :
    a ∈ writtenBy k journal ↔ ⟨k, a⟩ ∈ journal := by
  simp only [writtenBy, List.mem_map, List.mem_filter, beq_iff_eq]
  constructor
  · rintro ⟨⟨_, _⟩, ⟨he, rfl⟩, rfl⟩
    exact he
  · intro he
    exact ⟨_, ⟨he, rfl⟩, rfl⟩

/-- What each of some runs has put in. -/
def shares (count : Nat) (journal : List Entry) : List (List Action) :=
  (List.range count).map fun n => writtenBy (n + 1) journal

theorem mem_shares {count : Nat} {journal : List Entry} {a : Action}
    (hentries : ∀ e ∈ journal, ∃ n < count, e.task = n + 1) :
    a ∈ (shares count journal).flatten ↔ a ∈ journal.map Entry.action := by
  constructor
  · intro ha
    obtain ⟨own, hown, ha⟩ := List.mem_flatten.1 ha
    obtain ⟨n, -, rfl⟩ := List.mem_map.1 hown
    exact List.mem_map_of_mem (f := Entry.action) (mem_writtenBy.1 ha)
  · intro ha
    obtain ⟨e, he, rfl⟩ := List.mem_map.1 ha
    obtain ⟨n, hn, htask⟩ := hentries e he
    refine List.mem_flatten.2 ⟨_, List.mem_map_of_mem (List.mem_range.2 hn), ?_⟩
    exact mem_writtenBy.2 (htask ▸ he)

theorem shares_distinct {count : Nat} {journal : List Entry}
    (h : ((journal.map Entry.action).map (·.id)).Nodup) :
    ((shares count journal).flatten.map (·.id)).Nodup := by
  rw [List.Nodup, List.pairwise_map, List.pairwise_flatten]
  constructor
  · intro own hown
    obtain ⟨n, -, rfl⟩ := List.mem_map.1 hown
    have hsublist : (writtenBy (n + 1) journal).Sublist (journal.map Entry.action) :=
      List.filter_sublist.map _
    exact (List.pairwise_map.1 h).sublist hsublist
  · rw [shares, List.pairwise_map]
    refine List.nodup_range.imp fun hne a ha b hb hid => hne ?_
    rw [List.map_map] at h
    have hsame := List.inj_on_of_nodup_map h (mem_writtenBy.1 ha) (mem_writtenBy.1 hb) hid
    exact Nat.succ.inj (congrArg Entry.task hsame)

/-- Some actions all belong to one run, and the store has no action of that run. -/
def OneNewRun (before : ActionStore) (own : List Action) : Prop :=
  ∀ a ∈ own, (∀ b ∈ own, b.correlationId = a.correlationId) ∧
    ∀ id b, before.get? id = some b → b.correlationId ≠ a.correlationId

/-- Some actions and others belong to different runs. -/
def RunsApart (own others : List Action) : Prop :=
  ∀ a ∈ own, ∀ b ∈ others, a.correlationId ≠ b.correlationId

/-- Shares of the chosen ones become shares of all, where those that are not chosen have none. -/
theorem exists_spread {α β γ : Type} {p : α → Bool} {g : List β → γ} {k : α → γ}
    {Q : List β → List β → Prop} {as : List α} {owns : List (List β)}
    (hchosen : owns.map g = (as.filter p).map k) (hnot : ∀ a ∈ as, p a = false → g [] = k a)
    (hapart : owns.Pairwise Q) (hleft : ∀ own, Q [] own) (hright : ∀ own, Q own []) :
    ∃ all : List (List β), all.map g = as.map k ∧ all.flatten = owns.flatten ∧
      all.Pairwise Q ∧ ∀ own ∈ all, own = [] ∨ own ∈ owns := by
  induction as generalizing owns with
  | nil =>
      obtain rfl := List.map_eq_nil_iff.1 hchosen
      exact ⟨[], rfl, rfl, .nil, by simp⟩
  | cons a as ih =>
      have hrest : ∀ b ∈ as, p b = false → g [] = k b :=
        fun b hb => hnot b (List.mem_cons_of_mem _ hb)
      by_cases ha : p a = true
      · rw [List.filter_cons_of_pos ha, List.map_cons] at hchosen
        obtain ⟨own, owns, rfl, hown, hchosen⟩ := List.map_eq_cons_iff.1 hchosen
        obtain ⟨hfirst, hlater⟩ := List.pairwise_cons.1 hapart
        obtain ⟨all, hall, hflat, hpairs, hmem⟩ := ih hchosen hrest hlater
        refine ⟨own :: all, ?_, ?_, List.pairwise_cons.2 ⟨?_, hpairs⟩, ?_⟩
        · rw [List.map_cons, List.map_cons, hown, hall]
        · rw [List.flatten_cons, List.flatten_cons, hflat]
        · intro other hother
          rcases hmem other hother with rfl | hold
          · exact hright own
          · exact hfirst other hold
        · intro other hother
          rcases List.mem_cons.1 hother with rfl | hother
          · exact .inr List.mem_cons_self
          · exact (hmem other hother).imp_right (List.mem_cons_of_mem _)
      · rw [List.filter_cons_of_neg ha] at hchosen
        obtain ⟨all, hall, hflat, hpairs, hmem⟩ := ih hchosen hrest hapart
        have hnone : g [] = k a := hnot a List.mem_cons_self (by simpa using ha)
        refine ⟨[] :: all, ?_, hflat, ?_, ?_⟩
        · rw [List.map_cons, List.map_cons, hnone, hall]
        · exact List.pairwise_cons.2 ⟨fun own _ => hleft own, hpairs⟩
        · intro other hother
          rcases List.mem_cons.1 hother with rfl | hother
          · exact .inl rfl
          · exact hmem other hother

/-! ## An event comes in -/

/-- The orchestrator with no work under way. What the store uses as an identifier has been given
out. -/
def resting (h : Hub) : Floor where
  mode := h.mode
  flows := h.flows
  actions := h.actions
  tasks := []
  given := (h.actions.keys ++ h.actions.values.map (·.correlationId)).dedup.map fun id => (id, 0)
  journal := []

/-- An event has come in, and its runs have been found. -/
def fanned (h : Hub) (event : Event) (ids : List String) : Floor :=
  ((resting h).step (.publish event)).step (.load 0 ids)

theorem names_resting (h : Hub) :
    (resting h).names = (h.actions.keys ++ h.actions.values.map (·.correlationId)).dedup := by
  simp [resting, names, Function.comp_def]

theorem mem_names_resting_of_stored {h : Hub} {id : String} {a : Action}
    (ha : h.actions.get? id = some a) :
    id ∈ (resting h).names ∧ a.correlationId ∈ (resting h).names := by
  rw [names_resting, List.mem_dedup, List.mem_dedup, List.mem_append, List.mem_append]
  constructor
  · left
    exact List.mem_map_of_mem (f := Prod.fst) (Dict.mem_entries.2 ha)
  · right
    exact List.mem_map_of_mem (Dict.mem_values.2 ⟨id, ha⟩)

section

variable {h : Hub} {event : Event} {ids : List String}
  (hdemand : ids.length = (h.flows.findByEvent event).length)
  (hids : (resting h).areFresh ids = true)

include hdemand hids

/-- A walk has set out for each flow that the event enters. -/
theorem fanned_eq :
    fanned h event ids =
      { resting h with
        tasks := .dispatch (.published event) true ::
          ((h.flows.findByEvent event).zip ids).map fun run =>
            .walk (.setOut h.mode ⟨.start run.1 run.2, event⟩ 0)
        given := (resting h).given ++ ids.map fun id => (id, 0) } := by
  have hstart := Dispatch.start_eq_zip hdemand
  have hfresh : ((resting h).begin [.dispatch (.published event) false]).areFresh ids = true := hids
  simp only [fanned, Floor.step, load, Floor.begin, resting, List.nil_append,
    List.getElem?_cons_zero] at hfresh ⊢
  simp only [demand, hdemand, hfresh, decide_true, Bool.and_true, if_true, found, hstart, put,
    Floor.give, List.set_cons_zero, List.map_map, List.length_nil]
  rfl

theorem fansOut_fanned (r : Renderer) :
    FansOut h.actions r h.mode event ((h.flows.findByEvent event).zip ids)
      (fanned h event ids) := by
  obtain ⟨hnodup, hunused⟩ := areFresh_iff.1 hids
  have hnames : (fanned h event ids).names = (resting h).names ++ ids := by
    rw [fanned_eq hdemand hids]
    simp [names, Function.comp_def]
  rw [fanned_eq hdemand hids] at hnames ⊢
  exact {
    adds := .refl _
    distinct := by
      rw [hnames, names_resting]
      refine List.nodup_append'.2 ⟨List.nodup_dedup _, hnodup, fun id hold hnew => ?_⟩
      exact hunused id hnew (names_resting h ▸ hold)
    named := by
      intro id hid
      obtain ⟨a, ha⟩ := Dict.contains_iff.1 hid
      rw [hnames]
      exact List.mem_append_left _ (mem_names_resting_of_stored ha).1
    length := by simp
    entries := fun e he => by cases he
    tasks := by
      intro k task htask
      cases k with
      | zero =>
          obtain rfl := Option.some.inj htask
          exact ⟨rfl, rfl⟩
      | succ n =>
          simp only [List.getElem?_cons_succ, List.getElem?_map, Option.map_eq_some_iff] at htask
          obtain ⟨run, hrun, rfl⟩ := htask
          exact ⟨n, run.1, run.2, rfl, hrun, .setOut 0, fun a ha => by cases ha⟩ }

end

/-- At rest each run has put in what its flow yields, and nothing else has been put in. -/
theorem FansOut.settled {h : Hub} {event : Event} {ids : List String} {r : Renderer} {t : Floor}
    (hdemand : ids.length = (h.flows.findByEvent event).length)
    (hids : (resting h).areFresh ids = true)
    (ht : FansOut h.actions r h.mode event ((h.flows.findByEvent event).zip ids) t)
    (hidle : t.Idle) :
    ∃ owns : List (List Action), h.actions.Adds t.actions owns.flatten ∧
      owns.map (List.map Action.bare) =
        ((h.flows.findByEvent event).map fun f => f.yields r h.mode event) ∧
      (∀ own ∈ owns, OneNewRun h.actions own) ∧ owns.Pairwise RunsApart := by
  obtain ⟨hnodup, hunused⟩ := areFresh_iff.1 hids
  generalize hentered : h.flows.findByEvent event = entered at *
  have hcount : (entered.zip ids).length = entered.length := by simp [hdemand]
  have hshare : ∀ n (hn : n < entered.length), ∃ correlationId, ids[n]? = some correlationId ∧
      (writtenBy (n + 1) t.journal).map Action.bare = entered[n].yields r h.mode event ∧
      ∀ a ∈ writtenBy (n + 1) t.journal, a.correlationId = correlationId := by
    intro n hn
    have hid : ids[n]? = some ids[n] := List.getElem?_eq_getElem (hdemand ▸ hn)
    have hrun : (entered.zip ids)[n]? = some (entered[n], ids[n]) :=
      List.getElem?_zip_eq_some.2 ⟨List.getElem?_eq_getElem hn, hid⟩
    exact ⟨_, hid, ht.yields hidle hrun⟩
  refine ⟨shares entered.length t.journal, ?_, ?_, ?_, ?_⟩
  · have hentries := ht.entries
    rw [hcount] at hentries
    exact ht.adds.regroup (fun a => mem_shares hentries) (shares_distinct ht.adds.distinct)
  · apply List.ext_getElem
    · simp [shares]
    · intro n _ hn
      rw [List.length_map] at hn
      obtain ⟨_, -, hbare, -⟩ := hshare n hn
      simpa [shares] using hbare
  · intro own hown a ha
    obtain ⟨n, hn, rfl⟩ := List.mem_map.1 hown
    obtain ⟨correlationId, hid, -, hrun⟩ := hshare n (List.mem_range.1 hn)
    refine ⟨fun b hb => (hrun b hb).trans (hrun a ha).symm, fun id b hb hsame => ?_⟩
    refine hunused correlationId (List.mem_of_getElem? hid) ?_
    rw [← hrun a ha, ← hsame]
    exact (mem_names_resting_of_stored hb).2
  · rw [shares, List.pairwise_map]
    refine List.Pairwise.imp_of_mem ?_ List.nodup_range
    intro m n hm hn hne a ha b hb hsame
    obtain ⟨_, hmid, -, hmown⟩ := hshare m (List.mem_range.1 hm)
    obtain ⟨_, hnid, -, hnown⟩ := hshare n (List.mem_range.1 hn)
    rw [hmown a ha, hnown b hb] at hsame
    have hlt : m < ids.length := (List.getElem?_eq_some_iff.1 hmid).1
    exact hne ((List.getElem?_inj hlt hnodup).1 (hmid.trans (hsame ▸ hnid.symm)))

/-- However the runs of an event come between each other, in the end the store has taken in, up to
identifiers and times, what it takes in when a run of each latest flow is moved on its own, one
after the other. What one flow adds belongs to one new run, and is what a run of it adds that is
moved in the place of all of them. -/
theorem fan_out (h : Hub) (event : Event) (ids : List String) (moves : List Move)
    (alone : List Assignment)
    (hdemand : ids.length = (h.flows.findByEvent event).length)
    (hids : (resting h).areFresh ids = true)
    (hmoves : ∀ move ∈ moves, Engages h.data move)
    (hidle : (moves.foldl step (fanned h event ids)).Idle)
    (hsteady : h.Steady)
    (halone : List.Forall₂ (Hub.BeginsRun event) h.flows.latest.values alone)
    (hfresh : Unspent (fun id => h.actions.contains id = true) h.supply h.used
      (h.processEach alone).2.used) :
    ∃ created : List (List Action),
      h.actions.Adds (moves.foldl step (fanned h event ids)).actions created.flatten ∧
      h.actions.Adds (h.processEach alone).2.actions (h.processEach alone).1.flatten ∧
      created.map (List.map Action.bare) = (h.processEach alone).1.map (List.map Action.bare) ∧
      created.map (List.map Action.bare) = (alone.map fun a => (h.process a).1.map Action.bare) ∧
      (∀ own ∈ created, OneNewRun h.actions own) ∧ created.Pairwise RunsApart := by
  have hread : ∀ f ∈ h.flows.latest.values, ∀ seed,
      f.ReadAlike (templateRenderer h.data seed) (templateRenderer h.data h.used) :=
    fun f hf seed => hsteady f hf seed h.used
  have hfans := steps_fansOut (fansOut_fanned hdemand hids _) hmoves fun run hrun =>
    hread run.1 (List.mem_filter.1 (List.of_mem_zip hrun).1).1
  obtain ⟨owns, hadds, hchosen, hnew, hapart⟩ := hfans.settled hdemand hids hidle
  have hnot : ∀ f ∈ h.flows.latest.values, f.isEnteredBy event = false →
      [].map Action.bare = f.yields (templateRenderer h.data h.used) h.mode event :=
    fun f _ hf => (FlowDefinition.yields_eq_nil h.mode hf).symm
  obtain ⟨created, hyields, hflat, hpairs, hmem⟩ := exists_spread hchosen hnot hapart
    (fun _ a ha => by cases ha) (fun _ a _ b hb => by cases hb)
  obtain ⟨haddsAlone, hbareAlone⟩ := Hub.processEach_yields halone hread hfresh (Nat.le_refl _)
  have hbareOwn := Hub.map_process_yields halone hread hfresh
    fun a ha => h.process_used_le_processEach ha
  refine ⟨created, hflat ▸ hadds, haddsAlone, hyields.trans hbareAlone.symm,
    hyields.trans hbareOwn.symm, fun own hown => ?_, hpairs⟩
  rcases hmem own hown with rfl | hold
  · intro a ha
    cases ha
  · exact hnew own hold

/-- A flow without markup reads alike whatever is drawn at random. -/
theorem readAlike_of_plain {f : FlowDefinition}
    (hplain : ∀ step ∈ f.steps, ∀ source ∈ step.sources, hasMarkup source = false)
    (data : DataStore) (seed seed' : Nat) :
    f.ReadAlike (templateRenderer data seed) (templateRenderer data seed') := by
  intro step hstep source hsource document
  simp only [templateRenderer, hplain step hstep source hsource, Bool.false_eq_true, if_false]

namespace Dinner

/-- Nobody has ordered this. -/
def breakfast : FlowDefinition := ⟨"breakfast", none, "", [course "eggs" [] "hall" "morning"]⟩

/-- An order fails to start the first course of a snack, and starts the second. -/
def snack : FlowDefinition :=
  ⟨"snack", none, "", [{ course "cake" [] "hall" "order" with criteria := "perhaps" },
    course "tea" [] "hall" "order"]⟩

/-- Three flows are known, and an action of yesterday is still stored. -/
def evening : Hub where
  mode := .any
  packs := ∅
  flows := ⟨.ofList [("breakfast", breakfast), ("dinner", flow), ("snack", snack)], []⟩
  actions := .ofList [("leftovers", { (default : Action) with id := "leftovers" })]
  data := ∅
  reports := []
  assignments := []
  supply := stamp
  used := 0

/-- The two runs that an order starts come between each other. -/
def bustle : List Move :=
  [.evaluate 2 (templateRenderer ∅ 7) (stamp 20), .evaluate 1 (templateRenderer ∅ 1) (stamp 21),
    .evaluate 2 (templateRenderer ∅ 2) (stamp 22), .call 2, .call 1,
    .evaluate 1 (templateRenderer ∅ 5) (stamp 23), .call 1]

/-- A run of each flow, to be moved one after the other. -/
def oneByOne : List Assignment :=
  [breakfast, flow, snack].map fun f => ⟨.start f f.name, event "hall" "order"⟩

theorem evening_flows : evening.flows.latest.values = [breakfast, flow, snack] := by
  decide +kernel

theorem evening_steady : evening.Steady := by
  intro f hf seed seed'
  rw [evening_flows] at hf
  refine readAlike_of_plain ?_ _ _ _
  revert f
  decide +kernel

theorem bustle_ends :
    (bustle.foldl step (fanned evening (event "hall" "order") ["table", "tray"])).Idle := by
  decide +kernel

theorem evening_unspent : Unspent (fun id => evening.actions.contains id = true) stamp 0
    (evening.processEach oneByOne).2.used := by
  have hused : (evening.processEach oneByOne).2.used = 4 := by decide +kernel
  have hunused : ∀ n < 4, ¬ evening.actions.contains (stamp n).id = true := by decide +kernel
  have hdistinct : ∀ n < 4, ∀ m < n, (stamp m).id ≠ (stamp n).id := by decide +kernel
  rw [hused]
  exact ⟨fun n _ hn => hunused n hn, fun m n _ hmn hn => hdistinct n hn m hmn⟩

end Dinner

open Dinner in
theorem dinner_and_tea :
    ∃ created : List (List Action),
      evening.actions.Adds (bustle.foldl step
        (fanned evening (event "hall" "order") ["table", "tray"])).actions created.flatten ∧
      created.map (List.map (·.stepId)) = [[], ["soup", "roast"], ["tea"]] := by
  have halone : List.Forall₂ (Hub.BeginsRun (event "hall" "order")) evening.flows.latest.values
      oneByOne := by
    rw [evening_flows]
    exact .cons ⟨_, rfl⟩ (.cons ⟨_, rfl⟩ (.cons ⟨_, rfl⟩ .nil))
  obtain ⟨created, hadds, -, hbare, -⟩ := fan_out evening (event "hall" "order")
    ["table", "tray"] bustle oneByOne (by decide +kernel) (by decide +kernel)
    (by simp [bustle, Engages, evening]) bustle_ends evening_steady halone evening_unspent
  refine ⟨created, hadds, ?_⟩
  have hsteps : ((evening.processEach oneByOne).1.map (List.map Action.bare)).map
      (List.map (·.stepId)) = [[], ["soup", "roast"], ["tea"]] := by
    decide +kernel
  rw [← hbare] at hsteps
  simpa [List.map_map, Function.comp_def, Action.bare] using hsteps

end Floor

end Orchestrator
