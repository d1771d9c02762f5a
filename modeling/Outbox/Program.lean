/-!
# Programs that ask

A `Program Q R α` computes an `α` by asking questions one after another.  What a question `q : Q` is
answered with has the type `R q`, and what is asked next may depend on it.

* `Program.bind`    one program after another;
* `Program.run`     the result when a machine with state `σ` answers, and the state it is left in;
* `Program.mapAsk`  every question replaced by a program of other questions.
-/

namespace Outbox

inductive Program (Q : Type) (R : Q → Type) (α : Type) where
  | done (a : α)
  | ask (q : Q) (next : R q → Program Q R α)

namespace Program

variable {Q Q' : Type} {R : Q → Type} {R' : Q' → Type} {α β σ : Type}

def bind (p : Program Q R α) (f : α → Program Q R β) : Program Q R β :=
  match p with
  | .done a => f a
  | .ask q next => .ask q fun r => (next r).bind f

instance : Monad (Program Q R) where
  pure := .done
  bind := .bind

/-- the answer to one question -/
def call (q : Q) : Program Q R (R q) := .ask q .done

def run (answer : (q : Q) → σ → R q × σ) (p : Program Q R α) (s : σ) : α × σ :=
  match p with
  | .done a => (a, s)
  | .ask q next => (next (answer q s).1).run answer (answer q s).2

def mapAsk (f : (q : Q) → Program Q' R' (R q)) (p : Program Q R α) : Program Q' R' α :=
  match p with
  | .done a => .done a
  | .ask q next => (f q).bind fun r => (next r).mapAsk f

theorem run_done (answer : (q : Q) → σ → R q × σ) (a : α) (s : σ) :
    (done a : Program Q R α).run answer s = (a, s) := rfl

theorem run_ask (answer : (q : Q) → σ → R q × σ) (q : Q) (next : R q → Program Q R α) (s : σ) :
    (ask q next).run answer s = (next (answer q s).1).run answer (answer q s).2 := rfl

theorem run_bind (answer : (q : Q) → σ → R q × σ) (p : Program Q R α) (f : α → Program Q R β)
    (s : σ) :
    (p.bind f).run answer s = (f (p.run answer s).1).run answer (p.run answer s).2 := by
  induction p generalizing s with
  | done a => rfl
  | ask q next ih => exact ih (answer q s).1 (answer q s).2

end Program

end Outbox
