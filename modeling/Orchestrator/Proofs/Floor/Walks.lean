import Mathlib.Data.List.Induction
import Orchestrator.Proofs.Floor.Effect

/-!
The way of a walk. It sets out when a dispatch finds its run, and from then on it stays with the run
and loses steps from the front. Every walk that is seen at some moment has come this way.
-/

namespace Orchestrator

/-- One walk is another one, further on. -/
structure Walk.Leads (w v : Walk) : Prop where
  run : v.run.correlationId = w.run.correlationId
  flow : v.run.flow = w.run.flow
  context : v.run.context = w.run.context
  event : v.event = w.event
  steps : v.steps <:+ w.steps
  since : v.since = w.since

theorem Walk.Leads.refl (w : Walk) : w.Leads w := ⟨rfl, rfl, rfl, rfl, List.suffix_rfl, rfl⟩

theorem Walk.Leads.trans {u v w : Walk} (huv : u.Leads v) (hvw : v.Leads w) : u.Leads w where
  run := hvw.run.trans huv.run
  flow := hvw.flow.trans huv.flow
  context := hvw.context.trans huv.context
  event := hvw.event.trans huv.event
  steps := hvw.steps.trans huv.steps
  since := hvw.since.trans huv.since

theorem Walk.leads_skip (w : Walk) : w.Leads w.skip :=
  ⟨rfl, rfl, rfl, rfl, List.tail_suffix _, rfl⟩

theorem Walk.leads_draft (w : Walk) (draft : Option Action) : w.Leads { w with draft } :=
  ⟨rfl, rfl, rfl, rfl, List.suffix_rfl, rfl⟩

theorem Walk.leads_stored (w : Walk) (step : Step) (a : Action) : w.Leads (w.stored step a) :=
  ⟨rfl, rfl, rfl, rfl, List.tail_suffix _, rfl⟩

theorem Walk.Leads.ids {w v : Walk} (h : w.Leads v) {id : String}
    (hid : id ∈ v.steps.map (·.id)) : id ∈ w.steps.map (·.id) :=
  (h.steps.sublist.map _).subset hid

theorem Walk.Leads.over {w v : Walk} (h : w.Leads v) (hw : w.steps = []) : v.steps = [] :=
  List.suffix_nil.1 (hw ▸ h.steps)

namespace Floor

/-- A load makes a task the walk of a run that it has found. -/
inductive SetsOut (s : Floor) : Move → Nat → Walk → Prop where
  | found {i n : Nat} {ids : List String} {report : Report} {a : Assignment}
      (htask : s.tasks[i]? = some (.dispatch report false))
      (hdemand : ids.length = s.demand report) (hnodup : ids.Nodup)
      (hfresh : ∀ id ∈ ids, id ∉ s.names) (hfound : (s.found ids report)[n]? = some a) :
      SetsOut s (.load i ids) (s.tasks.length + n) (.setOut s.mode a s.journal.length)

theorem loaded_walk {s : Floor} {i k : Nat} {ids : List String} {report : Report} {v : Walk}
    (htask : s.tasks[i]? = some (.dispatch report false))
    (hdemand : ids.length = s.demand report) (hnodup : ids.Nodup)
    (hfresh : ∀ id ∈ ids, id ∉ s.names)
    (hv : (s.loaded i ids report).tasks[k]? = some (.walk v)) :
    s.tasks[k]? = some (.walk v) ∨ s.SetsOut (.load i ids) k v := by
  simp only [loaded, Floor.begin, put, Floor.give, List.getElem?_append, List.length_set,
    List.getElem?_set] at hv
  split at hv
  · left
    split at hv
    · split at hv <;> simp at hv
    · exact hv
  · next hge =>
    right
    simp only [List.getElem?_map, Option.map_eq_some_iff] at hv
    obtain ⟨a, ha, heq⟩ := hv
    obtain rfl := Task.walk.inj heq
    have hplace : s.tasks.length + (k - s.tasks.length) = k := by omega
    rw [← hplace]
    exact .found htask hdemand hnodup hfresh ha

/-- A walk was one before the move, or sets out with it. -/
theorem Effect.walk_cases {s s' : Floor} {move : Move} (heffect : s.Effect move s') :
    s'.Each fun k t => ∀ v, t = .walk v →
      (∃ w, s.tasks[k]? = some (.walk w) ∧ w.Leads v) ∨ s.SetsOut move k v := by
  have hold : s.Each fun k t => ∀ v, t = .walk v →
      (∃ w, s.tasks[k]? = some (.walk w) ∧ w.Leads v) ∨ s.SetsOut move k v := by
    rintro k t ht v rfl
    exact .inl ⟨v, ht, .refl v⟩
  cases heffect with
  | registered | unregistered | expired => exact hold
  | published | takeBegun | completeBegun | completeMissed => exact hold.begin (by simp)
  | loaded htask hdemand hnodup hfresh =>
      rintro k t ht v rfl
      rcases loaded_walk htask hdemand hnodup hfresh ht with hbefore | hout
      · exact .inl ⟨v, hbefore, .refl v⟩
      · exact .inr hout
  | drafted htask =>
      refine Each.put hold ?_
      intro v hv
      obtain rfl := Task.walk.inj hv
      exact .inl ⟨_, htask, Walk.leads_draft _ _⟩
  | passed htask | addRefused htask =>
      refine hold.put ?_
      intro v hv
      obtain rfl := Task.walk.inj hv
      exact .inl ⟨_, htask, Walk.leads_skip _⟩
  | added htask =>
      refine Each.put hold ?_
      intro v hv
      obtain rfl := Task.walk.inj hv
      exact .inl ⟨_, htask, Walk.leads_stored _ _ _⟩
  | claimed | settled => exact Each.put hold (by simp)
  | dispatched => exact (hold.put (by simp)).begin (by simp)
  | takeTimed | completeTimed | queueEmpty | claimLost | claimFailed | settleIgnored
  | settleRefused | answered => exact hold.put (by simp)

/-! ## The way forward -/

section

variable {s s' : Floor} {move : Move} {k : Nat} {w v : Walk}

theorem walk_begin (hw : s.tasks[k]? = some (.walk w)) (tasks : List Task) :
    (s.begin tasks).tasks[k]? = some (.walk w) :=
  (List.getElem?_append_left (List.getElem?_eq_some_iff.1 hw).1).trans hw

/-- Another task advances. -/
theorem walk_put (hw : s.tasks[k]? = some (.walk w)) {i : Nat} {t : Task}
    (htask : s.tasks[i]? = some t) (hother : ∀ v, t ≠ .walk v) (u : Task) :
    (s.put i u).tasks[k]? = some (.walk w) := by
  have hne : i ≠ k := by
    rintro rfl
    exact hother w (Option.some.inj (htask.symm.trans hw))
  exact (List.getElem?_set_ne hne).trans hw

/-- A walk advances, which may be this one. -/
theorem walk_put_walk (hw : s.tasks[k]? = some (.walk w)) {i : Nat}
    (hv : s.tasks[i]? = some (.walk v)) (u : Walk) :
    (s.put i (.walk u)).tasks[k]? = some (.walk w) ∨
      (i = k ∧ v = w ∧ (s.put i (.walk u)).tasks[k]? = some (.walk u)) := by
  by_cases hi : i = k
  · subst hi
    have hsame : v = w := Task.walk.inj (Option.some.inj (hv.symm.trans hw))
    exact .inr ⟨rfl, hsame, List.getElem?_set_self (List.getElem?_eq_some_iff.1 hw).1⟩
  · exact .inl ((List.getElem?_set_ne hi).trans hw)

/-- A walk goes on to be one. -/
theorem Effect.walk_stays (heffect : s.Effect move s') (hw : s.tasks[k]? = some (.walk w)) :
    ∃ v, s'.tasks[k]? = some (.walk v) ∧ w.Leads v := by
  have hsame : s'.tasks[k]? = some (.walk w) → ∃ v, s'.tasks[k]? = some (.walk v) ∧ w.Leads v :=
    fun hw' => ⟨w, hw', .refl w⟩
  cases heffect with
  | registered | unregistered | expired => exact hsame hw
  | published | takeBegun | completeBegun | completeMissed => exact hsame (walk_begin hw _)
  | @loaded i ids report htask =>
      exact hsame (walk_begin (walk_put (s := s.give i ids) hw htask (by simp) _) _)
  | @drafted i renderer stamp v step rest a htask =>
      rcases walk_put_walk (s := s.give i [stamp.id]) hw htask
        { v with draft := some (v.run.adopt step a) } with hw' | ⟨-, rfl, hw'⟩
      · exact hsame hw'
      · exact ⟨_, hw', v.leads_draft _⟩
  | @passed i _ _ v _ _ htask | @addRefused i v _ _ _ _ htask =>
      rcases walk_put_walk hw htask v.skip with hw' | ⟨-, rfl, hw'⟩
      · exact hsame hw'
      · exact ⟨_, hw', v.leads_skip⟩
  | @added i v step rest a stored actions htask =>
      rcases walk_put_walk hw htask (v.stored step stored) with hw' | ⟨-, rfl, hw'⟩
      · exact hsame hw'
      · exact ⟨_, hw', v.leads_stored _ _⟩
  | takeTimed htask | completeTimed htask | queueEmpty htask | claimed htask | claimLost htask
  | claimFailed htask | settled htask | settleIgnored htask | settleRefused htask
  | answered htask => exact hsame (walk_put hw htask (by simp) _)
  | dispatched htask => exact hsame (walk_begin (walk_put hw htask (by simp) _) _)

theorem walk_later {mode : DependencyMode} {before : List Move}
    (hw : (run mode before).tasks[k]? = some (.walk w)) (after : List Move) :
    ∃ v, (run mode (before ++ after)).tasks[k]? = some (.walk v) ∧ w.Leads v := by
  induction after using List.reverseRecOn with
  | nil => exact ⟨w, by simpa using hw, .refl w⟩
  | append_singleton after move ih =>
      obtain ⟨u, hu, hwu⟩ := ih
      rw [← List.append_assoc, run_snoc]
      rcases (run mode (before ++ after)).step_effect move with hsame | heffect
      · exact ⟨u, by rw [hsame, hu], hwu⟩
      · obtain ⟨v, hv, huv⟩ := heffect.walk_stays hu
        exact ⟨v, hv, hwu.trans huv⟩

/-- When a walk has set out, the task is this walk. -/
theorem SetsOut.begins (h : s.SetsOut move k v) : (s.step move).tasks[k]? = some (.walk v) := by
  obtain @⟨i, n, ids, report, a, htask, hdemand, hnodup, hfresh, hfound⟩ := h
  have hguard : (ids.length = s.demand report && s.areFresh ids) = true := by
    rw [Bool.and_eq_true, decide_eq_true_iff, areFresh_iff]
    exact ⟨hdemand, hnodup, hfresh⟩
  simp only [Floor.step, load, htask, hguard, if_true, Floor.begin, put, Floor.give]
  rw [List.getElem?_append_right (by simp), List.length_set, Nat.add_sub_cancel_left,
    List.getElem?_map, hfound, Option.map_some]

end

theorem SetsOut.since {s : Floor} {move : Move} {k : Nat} {v : Walk} (h : s.SetsOut move k v) :
    v.since = s.journal.length := by
  cases h
  rfl

/-- Runs that set out together are different ones. -/
theorem SetsOut.unique {s : Floor} {move : Move} {i k : Nat} {w v : Walk} (hw : s.SetsOut move i w)
    (hv : s.SetsOut move k v) (hrun : w.run.correlationId = v.run.correlationId) : i = k := by
  obtain @⟨j, n, ids, report, a, htask, hdemand, hnodup, -, hfound⟩ := hw
  obtain @⟨_, m, _, report', b, htask', hdemand', -, -, hfound'⟩ := hv
  rw [htask] at htask'
  obtain ⟨rfl, -⟩ := Task.dispatch.inj (Option.some.inj htask')
  cases report with
  | published event =>
      obtain ⟨flow, id, -, hid, rfl⟩ := found_started hdemand hfound
      obtain ⟨flow', id', -, hid', rfl⟩ := found_started hdemand' hfound'
      have hlt : n < ids.length := (List.getElem?_eq_some_iff.1 hid).1
      have hsame : ids[n]? = ids[m]? := hid.trans ((congrArg some hrun).trans hid'.symm)
      rw [(List.getElem?_inj hlt hnodup).1 hsame]
  | completed c =>
      obtain ⟨rfl, -⟩ := found_resumed hfound
      obtain ⟨rfl, -⟩ := found_resumed hfound'
      rfl

/-- Every walk set out with some move of the run. -/
theorem exists_setsOut {mode : DependencyMode} {moves : List Move} {k : Nat} {w : Walk}
    (hw : (run mode moves).tasks[k]? = some (.walk w)) :
    ∃ found move between v, moves = found ++ move :: between ∧
      (run mode found).SetsOut move k v ∧ v.Leads w := by
  induction moves using List.reverseRecOn generalizing w with
  | nil => simp [run, empty] at hw
  | append_singleton moves move ih =>
      have hlater : ∀ u, (run mode moves).tasks[k]? = some (.walk u) → u.Leads w →
          ∃ found m between v, moves ++ [move] = found ++ m :: between ∧
            (run mode found).SetsOut m k v ∧ v.Leads w := by
        intro u hu hleads
        obtain ⟨found, m, between, v, rfl, hout, hv⟩ := ih hu
        exact ⟨found, m, between ++ [move], v, by simp, hout, hv.trans hleads⟩
      rw [run_snoc] at hw
      rcases (run mode moves).step_effect move with hsame | heffect
      · exact hlater w (hsame ▸ hw) (.refl w)
      rcases heffect.walk_cases k _ hw w rfl with ⟨u, hu, hleads⟩ | hout
      · exact hlater u hu hleads
      · exact ⟨moves, move, [], w, rfl, hout, .refl w⟩

/-! ## Dispatches that are done -/

/-- A dispatch that is done was done before the move, or has found its runs with it. -/
theorem Effect.dispatch_cases {s s' : Floor} {move : Move} (heffect : s.Effect move s') :
    s'.Each fun k t => ∀ report, t = .dispatch report true →
      s.tasks[k]? = some (.dispatch report true) ∨
      ∃ ids, s.tasks[k]? = some (.dispatch report false) ∧ move = .load k ids ∧
        s' = s.loaded k ids report := by
  have hold : s.Each fun k t => ∀ report, t = .dispatch report true →
      s.tasks[k]? = some (.dispatch report true) ∨
      ∃ ids, s.tasks[k]? = some (.dispatch report false) ∧ move = .load k ids ∧
        s' = s.loaded k ids report := by
    rintro k t ht report rfl
    exact .inl ht
  cases heffect with
  | registered | unregistered | expired => exact hold
  | published | takeBegun | completeBegun | completeMissed => exact hold.begin (by simp)
  | @loaded i ids report htask =>
      refine (Each.put (s := s.give i ids) hold ?_).begin (by simp)
      rintro report' heq
      obtain ⟨rfl, -⟩ := Task.dispatch.inj heq
      exact .inr ⟨ids, htask, rfl, rfl⟩
  | drafted | added | claimed | settled => exact Each.put hold (by simp)
  | dispatched => exact (hold.put (by simp)).begin (by simp)
  | passed | addRefused | takeTimed | completeTimed | queueEmpty | claimLost | claimFailed
  | settleIgnored | settleRefused | answered => exact hold.put (by simp)

/-- A dispatch that is done has found its runs with some move of the run. -/
theorem exists_loaded {mode : DependencyMode} {moves : List Move} {k : Nat} {report : Report}
    (hdone : (run mode moves).tasks[k]? = some (.dispatch report true)) :
    ∃ before ids after, moves = before ++ .load k ids :: after ∧
      (run mode before).tasks[k]? = some (.dispatch report false) ∧
      (run mode before).step (.load k ids) = (run mode before).loaded k ids report := by
  induction moves using List.reverseRecOn with
  | nil => simp [run, empty] at hdone
  | append_singleton moves move ih =>
      have hearlier : (run mode moves).tasks[k]? = some (.dispatch report true) →
          ∃ before ids after, moves ++ [move] = before ++ .load k ids :: after ∧
            (run mode before).tasks[k]? = some (.dispatch report false) ∧
            (run mode before).step (.load k ids) = (run mode before).loaded k ids report := by
        intro hbefore
        obtain ⟨before, ids, after, rfl, hload⟩ := ih hbefore
        exact ⟨before, ids, after ++ [move], by simp, hload⟩
      rw [run_snoc] at hdone
      rcases (run mode moves).step_effect move with hsame | heffect
      · exact hearlier (hsame ▸ hdone)
      rcases heffect.dispatch_cases k _ hdone report rfl with hbefore | ⟨ids, htask, rfl, hload⟩
      · exact hearlier hbefore
      · exact ⟨moves, ids, [], rfl, htask, hload⟩

end Floor

end Orchestrator
