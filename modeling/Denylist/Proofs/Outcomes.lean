import Denylist.Proofs.Sequences

/-!
# Proofs — what a computation ends in

`Yields post stop x` says of a computation that may fail that its result satisfies `post`, and that
it fails only in ways that satisfy `stop`.  A computation on a state `Keeps` a property of the state
when it leads from states that have it to states that have it.  Both are put together along the
steps of the computation.
-/

namespace Denylist

variable {ε α β : Type}

/-- The result satisfies `post`, or the failure satisfies `stop`. -/
def Yields (post : α → Prop) (stop : ε → Prop) : Except ε α → Prop
  | .ok a => post a
  | .error e => stop e

namespace Yields
variable {post post' : α → Prop} {stop stop' : ε → Prop} {x : Except ε α}

theorem of_ok {a : α} (h : Yields post stop x) (hx : x = .ok a) : post a := by
  subst hx
  exact h

theorem of_error {e : ε} (h : Yields post stop x) (hx : x = .error e) : stop e := by
  subst hx
  exact h

theorem imp (h : Yields post stop x) (hpost : ∀ a, post a → post' a)
    (hstop : ∀ e, stop e → stop' e) : Yields post' stop' x := by
  cases x with
  | ok a => exact hpost a h
  | error e => exact hstop e h

theorem bind {f : α → Except ε β} {after : β → Prop} (h : Yields post stop x)
    (hf : ∀ a, post a → Yields after stop (f a)) : Yields after stop (x >>= f) := by
  cases x with
  | ok a => exact hf a h
  | error e => exact h

theorem map {f : α → β} {after : β → Prop} (h : Yields post stop x)
    (hf : ∀ a, post a → after (f a)) : Yields after stop (x.map f) := by
  cases x with
  | ok a => exact hf a h
  | error e => exact h

end Yields

/-- A computation on a state that leads from states with a property to states with it, and fails
only in ways that satisfy `stop`. -/
def Keeps {σ : Type} (inv : σ → Prop) (stop : ε → Prop) (m : StateT σ (Except ε) α) : Prop :=
  ∀ s, inv s → Yields (fun r => inv r.2) stop (m.run s)

namespace Keeps
variable {σ : Type} {inv : σ → Prop} {stop : ε → Prop}

theorem pure (a : α) : Keeps inv stop (pure a : StateT σ (Except ε) α) := fun _ hs => hs

theorem throw {e : ε} (h : stop e) : Keeps inv stop (throw e : StateT σ (Except ε) α) :=
  fun _ _ => h

theorem get : Keeps inv stop (get : StateT σ (Except ε) σ) := fun _ hs => hs

theorem modify {f : σ → σ} (h : ∀ s, inv s → inv (f s)) :
    Keeps inv stop (modify f : StateT σ (Except ε) PUnit) := fun s hs => h s hs

theorem bind {m : StateT σ (Except ε) α} {f : α → StateT σ (Except ε) β} (hm : Keeps inv stop m)
    (hf : ∀ a, Keeps inv stop (f a)) : Keeps inv stop (m >>= f) :=
  fun s hs => (hm s hs).bind fun r hr => hf r.1 r.2 hr

/-- A computation without a state leaves the state as it is. -/
theorem lift {x : Except ε α} (h : Yields (fun _ => True) stop x) :
    Keeps inv stop (liftM x : StateT σ (Except ε) α) :=
  fun _ hs => h.bind fun _ _ => hs

/-- A step that looks at the state, and then one that may rely on what it saw. -/
theorem get_bind {f : σ → StateT σ (Except ε) β}
    (hf : ∀ s, inv s → Yields (fun r => inv r.2) stop ((f s).run s)) :
    Keeps inv stop (MonadState.get >>= f) := fun s hs => hf s hs

theorem forM {f : α → StateT σ (Except ε) PUnit} (hf : ∀ a, Keeps inv stop (f a)) (l : List α) :
    Keeps inv stop (l.forM f) := by
  induction l with
  | nil => exact pure _
  | cons a l ih => exact (hf a).bind fun _ => ih

theorem mapM {f : α → StateT σ (Except ε) β} (hf : ∀ a, Keeps inv stop (f a)) (l : List α) :
    Keeps inv stop (l.mapM f) := by
  induction l with
  | nil =>
      rw [List.mapM_nil]
      exact pure _
  | cons a l ih =>
      rw [List.mapM_cons]
      exact (hf a).bind fun b => ih.bind fun bs => pure _

end Keeps

end Denylist
