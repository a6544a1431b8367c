import Orchestrator.Template.Fault
import Orchestrator.Template.Value

/-!
Computations that have other templates rendered on their way.

What such a computation comes to depends on what those templates come to. It calls for them one after
the other, and a fault of one of them is its own fault too. If one of them never comes to anything,
neither does the computation.
-/

namespace Orchestrator

namespace Template

/-- A template to be rendered with its variables. -/
structure Call where
  /-- What random draws depend on. -/
  seed : Nat
  source : String
  bindings : Value

/-- What calls come to. Some may never come to anything. -/
abbrev Answers := Call → Option (Except Fault String)

/-- What a computation comes to, as calls come to this or that. -/
abbrev Outcome (α : Type) := Answers → Option (Except Fault α)

/-- A computation and then one that goes on with its result. -/
def Outcome.andThen {α β : Type} (x : Outcome α) (f : α → Outcome β) : Outcome β := fun answers =>
  x answers >>= fun
    | .ok a => f a answers
    | .error fault => some (.error fault)

/-- The computation is over, or calls first, and goes on as the answer says. -/
inductive Asks {α : Type} : Outcome α → Prop where
  | done (result : Except Fault α) : Asks fun _ => some result
  | call (c : Call) (next : String → Outcome α) (hnext : ∀ s, Asks (next s)) :
      Asks (Outcome.andThen (fun answers => answers c) next)

namespace Asks

variable {α β : Type}

theorem andThen {x : Outcome α} (hx : Asks x) {f : α → Outcome β} (hf : ∀ a, Asks (f a)) :
    Asks (x.andThen f) := by
  induction hx with
  | done result =>
      cases result with
      | ok a => exact hf a
      | error fault => exact .done (.error fault)
  | call c next _ ih =>
      have hassoc : (Outcome.andThen (fun answers => answers c) next).andThen f =
          Outcome.andThen (fun answers => answers c) fun s => (next s).andThen f := by
        funext answers
        simp only [Outcome.andThen]
        rcases answers c with _ | _ | _ <;> rfl
      rw [hassoc]
      exact .call c _ ih

theorem only (c : Call) : Asks fun answers => answers c := by
  have hid : (fun answers : Answers => answers c) =
      Outcome.andThen (fun answers => answers c) fun s _ => some (.ok s) := by
    funext answers
    simp only [Outcome.andThen]
    rcases answers c with _ | _ | _ <;> rfl
  rw [hid]
  exact .call c _ fun s => .done (.ok s)

end Asks

/-- A computation that may fail and may call for other templates. -/
structure Calling (α : Type) where
  outcome : Outcome α
  asks : Asks outcome

namespace Calling

/-- One computation after another. -/
def bind {α β : Type} (x : Calling α) (f : α → Calling β) : Calling β :=
  ⟨x.outcome.andThen fun a => (f a).outcome, x.asks.andThen fun a => (f a).asks⟩

instance : Monad Calling where
  pure x := ⟨fun _ => some (.ok x), .done (.ok x)⟩
  bind := bind

instance : MonadLift (Except Fault) Calling where
  monadLift result := ⟨fun _ => some result, .done result⟩

/-- Calls for a template. -/
def ask (c : Call) : Calling String := ⟨fun answers => answers c, .only c⟩

end Calling

end Template

end Orchestrator
