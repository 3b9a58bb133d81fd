/-! Work on a state. It may end early; what was done to the state before that stays done. -/
namespace GreetingServer

abbrev Work (σ ε α : Type) := ExceptT ε (StateM σ) α

namespace Work
variable {σ ε α β : Type}

def result (work : Work σ ε α) (s : σ) : Except ε α × σ := work s

@[simp] theorem result_pure (a : α) (s : σ) : (pure a : Work σ ε α).result s = (.ok a, s) := rfl

@[simp] theorem result_throw (e : ε) (s : σ) : (throw e : Work σ ε α).result s = (.error e, s) := rfl

@[simp] theorem result_get (s : σ) : (get : Work σ ε σ).result s = (.ok s, s) := rfl

@[simp] theorem result_modify (change : σ → σ) (s : σ) :
    (modify change : Work σ ε PUnit).result s = (.ok (), change s) := rfl

@[simp] theorem result_ofExcept (x : Except ε α) (s : σ) :
    (MonadExcept.ofExcept x : Work σ ε α).result s = (x, s) := by cases x <;> rfl

theorem result_bind (work : Work σ ε α) (next : α → Work σ ε β) (s : σ) :
    (work >>= next).result s = match work.result s with
      | (.ok a, s) => (next a).result s
      | (.error e, s) => (.error e, s) := by
  unfold result
  simp only [bind, ExceptT.bind, ExceptT.mk, StateT.bind, ExceptT.bindCont]
  cases work s with
  | mk x t => cases x <;> rfl

theorem result_tryCatch (work : Work σ ε α) (deal : ε → Work σ ε α) (s : σ) :
    (tryCatch work deal).result s = match work.result s with
      | (.ok a, s) => (.ok a, s)
      | (.error e, s) => (deal e).result s := by
  unfold result
  simp only [tryCatch, tryCatchThe, MonadExceptOf.tryCatch, ExceptT.tryCatch, ExceptT.mk, bind,
    StateT.bind]
  cases work s with
  | mk x t => cases x <;> rfl

theorem result_observing (work : Work σ ε α) (s : σ) :
    (observing work).result s = (.ok (work.result s).1, (work.result s).2) := by
  simp only [observing, result_tryCatch, result_bind]
  cases work.result s with
  | mk x t => cases x <;> rfl

theorem result_tryFinally (work : Work σ ε α) (cleanup : Work σ ε β) (s : σ) :
    (tryFinally work cleanup).result s = match cleanup.result (work.result s).2 with
      | (.ok _, t) => ((work.result s).1, t)
      | (.error e, t) => (.error e, t) := by
  unfold result
  simp only [tryFinally, tryFinally', Functor.map, ExceptT.map, ExceptT.mk, bind, StateT.bind]
  cases work s with
  | mk x t =>
    cases x <;> cases hc : cleanup t with
    | mk y u => cases y <;> simp [hc] <;> rfl

end Work
end GreetingServer
