/-!
# Steps of operations that may fail

An operation on a state that may fail is taken apart step by step: what comes after a step that
succeeds goes on from the state that it leaves, and what comes after one that fails is not done.
-/

set_option autoImplicit false

namespace Beans.Stateful

universe u
variable {σ ε ε' α β : Type u} {x : ExceptT ε (StateM σ) α} {f : α → ExceptT ε (StateM σ) β}
  {a : α} {e : ε} {s s' : σ}

theorem bind_of_ok (h : x s = (.ok a, s')) : (x >>= f) s = f a s' := by
  change ExceptT.bindCont f (x s).1 (x s).2 = _
  rw [h]
  rfl

theorem bind_of_error (h : x s = (.error e, s')) : (x >>= f) s = (.error e, s') := by
  change ExceptT.bindCont f (x s).1 (x s).2 = _
  rw [h]
  rfl

theorem pure_apply (a : α) (s : σ) : (pure a : ExceptT ε (StateM σ) α) s = (.ok a, s) := rfl

theorem getThe_apply (s : σ) : (getThe σ : ExceptT ε (StateM σ) σ) s = (.ok s, s) := rfl

theorem ofExcept_ok (a : α) (s : σ) :
    (ofExcept (.ok a : Except ε α) : ExceptT ε (StateM σ) α) s = (.ok a, s) := rfl

theorem ofExcept_error (e : ε) (s : σ) :
    (ofExcept (.error e : Except ε α) : ExceptT ε (StateM σ) α) s = (.error e, s) := rfl

theorem adapt_apply (g : ε → ε') (x : ExceptT ε (StateM σ) α) (s : σ) :
    (x.adapt g : ExceptT ε' (StateM σ) α) s = ((x s).1.mapError g, (x s).2) := rfl

end Beans.Stateful
