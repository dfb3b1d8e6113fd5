import Routewright.Files.Workspace
import Routewright.Proofs.Except

namespace Routewright.Work

variable {α β : Type}

def outcome (x : Work α) (w : Workspace) : Except Failure α × Workspace :=
  StateT.run (ExceptT.run x) w

@[simp]
lemma outcome_pure (a : α) (w : Workspace) : outcome (pure a) w = (.ok a, w) :=
  rfl

@[simp]
lemma outcome_tree (w : Workspace) : outcome Work.tree w = (.ok w.tree, w) :=
  rfl

@[simp]
lemma outcome_lift (x : Except Failure α) (w : Workspace) :
    outcome (liftM x : Work α) w = (x, w) :=
  rfl

lemma outcome_lift_of_ok {x : Except Failure α} {a : α} (h : x = .ok a) (w : Workspace) :
    outcome (liftM x : Work α) w = (.ok a, w) := by
  rw [outcome_lift, h]

lemma outcome_lift_of_error {x : Except Failure α} {failure : Failure} (h : x = .error failure)
    (w : Workspace) : outcome (liftM x : Work α) w = (.error failure, w) := by
  rw [outcome_lift, h]

lemma outcome_discard_lift_of_ok {x : Except Failure α} {a : α} (h : x = .ok a) (w : Workspace) :
    outcome (discard (liftM x : Work α)) w = (.ok (), w) := by
  rw [h]
  rfl

lemma outcome_discard_lift_of_error {x : Except Failure α} {failure : Failure}
    (h : x = .error failure) (w : Workspace) :
    outcome (discard (liftM x : Work α)) w = (.error failure, w) := by
  rw [h]
  rfl

lemma outcome_bind_of_ok {x : Work α} {w u : Workspace} {a : α} (h : outcome x w = (.ok a, u))
    (f : α → Work β) : outcome (x >>= f) w = outcome (f a) u :=
  exceptState_bind_of_ok h f

lemma outcome_bind_of_error {x : Work α} {w u : Workspace} {failure : Failure}
    (h : outcome x w = (.error failure, u)) (f : α → Work β) :
    outcome (x >>= f) w = (.error failure, u) :=
  exceptState_bind_of_error h f

@[simp]
lemma outcome_modify (f : Workspace → Workspace) (w : Workspace) :
    outcome (modify f : Work Unit) w = (.ok (), f w) :=
  rfl

lemma outcome_perform_of_ok {change : FileChange} {w : Workspace} {t : FileTree}
    (h : change.apply w.tree = .ok t) :
    outcome (perform change) w = (.ok (), ⟨t, w.changes ++ [change]⟩) := by
  have hget : outcome (get : Work Workspace) w = (.ok w, w) := rfl
  rw [perform, outcome_bind_of_ok hget, h]
  rfl

end Routewright.Work
