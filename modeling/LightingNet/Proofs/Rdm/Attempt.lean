import LightingNet.Rdm.Device
/-!
# Steps of an attempt

An attempt is a chain of questions that may fail. These laws take the first step off a chain whose
outcome is known.
-/
namespace LightingNet.Rdm

variable {σ α β : Type}

theorem stateM_bind {x : StateM σ α} {f : α → StateM σ β} {s s' : σ} {a : α}
    (h : x s = (a, s')) : (x >>= f) s = f a s' := by
  have hbind : (x >>= f) s = f (x s).1 (x s).2 := rfl
  rw [hbind, h]

namespace Attempt

theorem bind_ok {x : Attempt σ α} {f : α → Attempt σ β} {s s' : σ} {a : α}
    (h : x s = (.ok a, s')) : (x >>= f) s = f a s' :=
  stateM_bind (x := x) (f := ExceptT.bindCont f) h

theorem bind_error {x : Attempt σ α} {f : α → Attempt σ β} {s s' : σ} {e : Fault}
    (h : x s = (.error e, s')) : (x >>= f) s = (.error e, s') :=
  stateM_bind (x := x) (f := ExceptT.bindCont f) h

theorem liftM_ok (a : α) (s : σ) :
    (liftM (.ok a : Except Fault α) : Attempt σ α) s = (.ok a, s) := rfl

theorem liftM_error (e : Fault) (s : σ) :
    (liftM (.error e : Except Fault α) : Attempt σ α) s = (.error e, s) := rfl

theorem liftM_state (x : StateM σ α) (s : σ) :
    (liftM x : Attempt σ α) s = (.ok (x s).1, (x s).2) := rfl

end Attempt

end LightingNet.Rdm
