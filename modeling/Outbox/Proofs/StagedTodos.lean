import Outbox.Proofs.TodoEvents
import Outbox.Proofs.UnitOfWork

/-!
# Staged todos are the todos after the commit

A unit of work sees its own changes of the todos, and nobody else does.  A look-up goes through the
changes; the end makes them one after another, and there an insert leaves alone what is stored already.
Both come to the same because nothing is inserted that is found.

* `Rows.Answers`, `Rows.after`   what a map of todos answers when a call is made on it, and the map after
                     that;
* `Staged.rows`      what a transaction finds;
* `Staged.answers_rows`   its calls are answered as by the map that it finds;
* `Staged.Exact`     what is found is what the end would leave, which every call keeps;
* `Site.Undisturbed` nobody else changes the todos;
* `Served`           a unit of work up to some moment of a run;
* `as_if_stored`     every unit of work is served as if it worked on a map, which is what it leaves.
-/

namespace Outbox

open Scenario (World)

/-! ## calls on a map -/

namespace Rows

/-- Made on the map, the call is answered so.  An enqueue does not look at the todos. -/
def Answers (m : Rows) : Exchange → Prop
  | ⟨.insertTodo t, answer⟩ => (answer : Except StoreError Bool) = .ok (m t.id).isNone
  | ⟨.deleteTodo id, answer⟩ =>
    (answer : Except StoreError Todo) =
      match m id with
      | none => .error (Todo.notFound id)
      | some t => .ok t
  | ⟨.getTodo id, answer⟩ => (answer : Except StoreError (Option Todo)) = .ok (m id)
  | ⟨.enqueue _, _⟩ => True

/-- A todo that is there already stays as it is. -/
def after (m : Rows) : Call → Rows
  | .insertTodo t => if (m t.id).isNone then Function.update m t.id (some t) else m
  | .deleteTodo id => Function.update m id none
  | .getTodo _ => m
  | .enqueue _ => m

/-- The calls are answered so when they are made on the map, one after another. -/
def AnswersAll : Rows → List Exchange → Prop
  | _, [] => True
  | m, x :: said => m.Answers x ∧ AnswersAll (m.after x.1) said

def afterAll (m : Rows) (said : List Exchange) : Rows := said.foldl (fun m x => m.after x.1) m

theorem afterAll_snoc (m : Rows) (said : List Exchange) (x : Exchange) :
    m.afterAll (said ++ [x]) = (m.afterAll said).after x.1 := by
  unfold afterAll
  rw [List.foldl_append]
  rfl

theorem AnswersAll.snoc {m : Rows} {said : List Exchange} {x : Exchange} (h : m.AnswersAll said)
    (hx : (m.afterAll said).Answers x) : m.AnswersAll (said ++ [x]) := by
  induction said generalizing m with
  | nil => exact ⟨hx, trivial⟩
  | cons y said ih => exact ⟨h.1, ih h.2 hx⟩

end Rows

/-! ## what a transaction finds -/

namespace Staged

variable {s : Stores} {t : Staged}

/-- what the transaction finds when `todos` are stored -/
def rows (todos : Todos) (t : Staged) : Rows := todos.seenAfter t.changes

/-- What is found is what is stored once the changes are made. -/
def Exact (todos : Todos) (t : Staged) : Prop :=
  (t.changes.foldl Todos.apply todos).get? = t.rows todos

theorem rows_snoc (todos : Todos) (events : List Event) (changes : List Todos.Change)
    (c : Todos.Change) (id : Uuid) :
    rows todos ⟨events, changes ++ [c]⟩ id = c.seen id (rows todos ⟨events, changes⟩ id) := by
  show (changes ++ [c]).foldl _ _ = _
  rw [List.foldl_append]
  rfl

theorem insertTodo_eq (s : Stores) (t : Staged) (todo : Todo) :
    t.insertTodo s todo =
      if (t.rows s.todos todo.id).isNone then
        (true, { t with changes := t.changes ++ [.insert todo] })
      else (false, t) := by
  have hfound : t.todo? s todo.id = t.rows s.todos todo.id := rfl
  unfold insertTodo
  rw [hfound]
  cases t.rows s.todos todo.id <;> rfl

theorem deleteTodo_eq (s : Stores) (t : Staged) (id : Uuid) :
    t.deleteTodo s id =
      match t.rows s.todos id with
      | none => (.error (Todo.notFound id), t)
      | some todo => (.ok todo, { t with changes := t.changes ++ [.remove id] }) := rfl

/-- A call is answered as by the map that the transaction finds, and then it finds the map after it. -/
theorem answers_rows (s : Stores) (c : Call) (t : Staged) :
    (t.rows s.todos).Answers ⟨c, (answer s c t).1⟩ ∧
      (answer s c t).2.rows s.todos = (t.rows s.todos).after c := by
  cases c with
  | enqueue e =>
    refine ⟨trivial, ?_⟩
    show (t.enqueue s e).2.rows s.todos = _
    rcases enqueue_cases s t e with h | ⟨_, h⟩
    all_goals rw [h]
    all_goals rfl
  | insertTodo todo =>
    show (Except.ok (t.insertTodo s todo).1 : Except StoreError Bool) = _ ∧
      (t.insertTodo s todo).2.rows s.todos = if _ then _ else _
    rw [insertTodo_eq]
    split
    · rename_i hnone
      refine ⟨congrArg Except.ok hnone.symm, funext fun id => ?_⟩
      rw [rows_snoc, Function.update_apply]
      simp only [Todos.Change.seen, eq_comm]
    · rename_i hsome
      exact ⟨congrArg Except.ok (Bool.eq_false_iff.2 hsome).symm, rfl⟩
  | deleteTodo id =>
    show (t.deleteTodo s id).1 = _ ∧
      (t.deleteTodo s id).2.rows s.todos = Function.update (t.rows s.todos) id none
    rw [deleteTodo_eq]
    cases hfound : t.rows s.todos id with
    | none => exact ⟨rfl, (Function.update_eq_self_iff.2 hfound.symm).symm⟩
    | some todo =>
      refine ⟨rfl, funext fun i => ?_⟩
      rw [rows_snoc, Function.update_apply]
      simp only [Todos.Change.seen, eq_comm]
  | getTodo id => exact ⟨rfl, rfl⟩

/-- A change that inserts nothing over a todo that is found can be staged. -/
theorem Exact.snoc {todos : Todos} (h : t.Exact todos) {change : Todos.Change}
    (hc : ∀ todo, change = .insert todo → t.rows todos todo.id = none) :
    ({ t with changes := t.changes ++ [change] } : Staged).Exact todos := by
  have hstored : ((t.changes ++ [change]).foldl Todos.apply todos).get? =
      Rows.changed (t.rows todos) change := by
    rw [Todos.get?_foldl_apply, List.foldl_append, ← Todos.get?_foldl_apply, h]
    rfl
  refine hstored.trans (funext fun id => ?_)
  rw [rows_snoc]
  show _ = change.seen id (t.rows todos id)
  cases change with
  | insert todo =>
    show (if _ then _ else _ : Rows) id = _
    rw [hc todo rfl, Option.isNone_none, if_pos rfl, Function.update_apply]
    simp only [Todos.Change.seen, eq_comm]
  | remove removed =>
    show Function.update (t.rows todos) removed none id = _
    rw [Function.update_apply]
    simp only [Todos.Change.seen, eq_comm]

/-- Only what is not found is inserted, and so it is inserted in the end, too. -/
theorem Exact.answer (h : t.Exact s.todos) (c : Call) : (Staged.answer s c t).2.Exact s.todos := by
  cases c with
  | enqueue e =>
    show (t.enqueue s e).2.Exact s.todos
    rcases enqueue_cases s t e with he | ⟨_, he⟩
    all_goals rw [he]
    all_goals exact h
  | insertTodo todo =>
    show (t.insertTodo s todo).2.Exact s.todos
    rw [insertTodo_eq]
    split
    · rename_i hnone
      refine h.snoc fun inserted hinserted => ?_
      cases hinserted
      exact Option.isNone_iff_eq_none.1 hnone
    · exact h
  | deleteTodo id =>
    show (t.deleteTodo s id).2.Exact s.todos
    rw [deleteTodo_eq]
    cases t.rows s.todos id with
    | none => exact h
    | some todo => exact h.snoc fun _ hinserted => nomatch hinserted
  | getTodo id => exact h

end Staged

/-! ## units of work -/

theorem Todos.ext {a b : Todos} (h : a.items = b.items) : a = b := by
  cases a; cases b; cases h; rfl

instance : DecidableEq Todos := fun a b =>
  decidable_of_iff (a.items = b.items) ⟨Todos.ext, congrArg Todos.items⟩

section

variable {α : Type}

/-- what is to be said of a unit of work after so many of its turns, where `start` was stored before
them and `todos` is stored now -/
structure Served (work : Work (Except StoreError α)) (start : Todos) (turns : Nat) (p : Piece α)
    (todos : Todos) : Prop where
  follows : Follows work p.said p.work
  /-- Every turn is one call more, -/
  going : p.result = none → p.said.length = turns
  /-- until the work is done and over. -/
  ended : ∀ r, p.result = some r → p.said.length < turns ∧ ∃ outcome, p.work = .done outcome
  /-- Work that succeeds is committed, if only because it has stored no event. -/
  success : ∀ a, p.work = .done (.ok a) → p.result.isSome = true → insertedBy p.said = [] →
    p.result = some (.ok a)
  answered : Rows.AnswersAll start.get? p.said
  unchanged : (∀ a, p.result ≠ some (.ok a)) → todos = start
  committed : ∀ a, p.result = some (.ok a) → todos.get? = Rows.afterAll start.get? p.said

end

namespace Site

variable {α : Type}

/-- It is the turn of the unit of work `j`, or the todos stay as they are. -/
def Undisturbed (j : Nat) (s : Site α) (x : Step α) : Prop :=
  x.action.isTurnOf j = true ∨ (s.next x).world.stores.todos = s.world.stores.todos

instance (j : Nat) (s : Site α) (x : Step α) : Decidable (Undisturbed j s x) :=
  inferInstanceAs (Decidable (_ ∨ _))

/-- the unit of work `j` at some moment of a run -/
def Serving (j : Nat) (work : Work (Except StoreError α)) (start : Todos) (turns : Nat) (s : Site α) :
    Prop :=
  ∃ p, s.pieces j = some p ∧ Told p ∧ Served work start turns p s.world.stores.todos ∧
    (p.result = none →
      p.staged.Exact start ∧ p.staged.rows start = Rows.afterAll start.get? p.said)

namespace Serving

variable {j turns : Nat} {work : Work (Except StoreError α)} {start : Todos} {s : Site α}

theorem opened (hj : s.pieces j = none) (work : Work (Except StoreError α)) :
    Serving j work s.world.stores.todos 0 (s.openUnit j work) := by
  unfold openUnit
  rw [hj]
  exact ⟨.ofWork work, Function.update_self j _ _, ⟨rfl, rfl⟩,
    { follows := .nil work
      going := fun _ => rfl
      ended := nofun
      success := nofun
      answered := trivial
      unchanged := fun _ => rfl
      committed := nofun }, fun _ => ⟨rfl, rfl⟩⟩

/-- A call is answered. -/
theorem ask (h : Serving j work start turns s) {c : Call} {next : c.Answer → Work (Except StoreError α)}
    {staged : Staged} {said : List Exchange}
    (hp : s.pieces j = some ⟨.ask c next, staged, said, none⟩) :
    Serving j work start (turns + 1) (s.proceed j) := by
  obtain ⟨p, hp', htold, hserved, hstaged⟩ := h
  cases hp.symm.trans hp'
  obtain ⟨hexact, hrows⟩ := hstaged rfl
  have hrows : staged.rows start = Rows.afterAll start.get? said := hrows
  have hstart : s.world.stores.todos = start := hserved.unchanged nofun
  subst hstart
  obtain ⟨hanswers, hafter⟩ := Staged.answers_rows s.world.stores c staged
  rw [hrows] at hanswers hafter
  refine ⟨_, pieces_proceed_ask hp, htold.answer s.world.stores c, ?_, fun _ => ⟨?_, ?_⟩⟩
  · exact
      { follows := hserved.follows.snoc _
        going := fun _ => by
          show (said ++ [_]).length = _
          rw [List.length_append, hserved.going rfl]
          rfl
        ended := nofun
        success := fun _ _ hover => nomatch hover
        answered := hserved.answered.snoc hanswers
        unchanged := fun _ => by rw [proceed_ask hp]
        committed := nofun }
  · exact hexact.answer c
  · exact hafter.trans (Rows.afterAll_snoc _ said ⟨c, _⟩).symm

/-- The work is done, and its changes are made if it succeeds. -/
theorem finish (h : Serving j work start turns s) {outcome : Except StoreError α} {staged : Staged}
    {said : List Exchange} (hp : s.pieces j = some ⟨.done outcome, staged, said, none⟩) :
    Serving j work start (turns + 1) (s.proceed j) := by
  obtain ⟨p, hp', htold, hserved, hstaged⟩ := h
  cases hp.symm.trans hp'
  obtain ⟨hexact, hrows⟩ := hstaged rfl
  have hstart : s.world.stores.todos = start := hserved.unchanged nofun
  subst hstart
  have hturns : said.length < turns + 1 := Nat.lt_succ_of_le (Nat.le_of_eq (hserved.going rfl))
  -- what is left to see is the result, and what it made of the todos
  have hover (r : Except StoreError α) (hr : (s.world.finish staged outcome).1 = r)
      (hsuccess : ∀ a, outcome = .ok a → insertedBy said = [] → r = .ok a)
      (hunchanged : (∀ a, r ≠ .ok a) → (s.proceed j).world.stores.todos = s.world.stores.todos)
      (hcommitted : ∀ a, r = .ok a →
        (s.proceed j).world.stores.todos.get? = staged.rows s.world.stores.todos) :
      Serving j work s.world.stores.todos (turns + 1) (s.proceed j) := by
    refine ⟨_, pieces_proceed_done hp, htold, ?_, nofun⟩
    rw [hr]
    exact
      { follows := hserved.follows
        going := nofun
        ended := fun _ _ => ⟨hturns, outcome, rfl⟩
        success := fun a ha _ hnone => by
          injection ha with ha
          exact congrArg some (hsuccess a ha hnone)
        answered := hserved.answered
        unchanged := fun hno => hunchanged fun a ha => hno a (congrArg some ha)
        committed := fun a ha => (hcommitted a (Option.some.inj ha)).trans hrows }
  have hworld : (s.proceed j).world = (s.world.finish staged outcome).2 := by rw [proceed_done hp]
  cases outcome with
  | error e =>
    refine hover _ rfl nofun (fun _ => ?_) nofun
    rw [hworld, finish_error]
  | ok a =>
    cases hcon : staged.conflict? s.world.stores with
    | some key =>
      have hend := finish_conflict (a := a) hcon
      refine hover _ (congrArg Prod.fst hend) (fun _ _ hnone => ?_) (fun _ => ?_) nofun
      · obtain ⟨e, he, _⟩ := Staged.conflict?_eq_some hcon
        rw [show staged.events = insertedBy said from htold.1, hnone] at he
        exact absurd he List.not_mem_nil
      · rw [hworld, hend]
    | none =>
      have hend := finish_ok (a := a) hcon
      refine hover _ (congrArg Prod.fst hend) (fun a' ha' _ => ha') (fun hno => absurd rfl (hno a))
        fun _ _ => ?_
      rw [hworld, hend]
      exact hexact

theorem turn (h : Serving j work start turns s) : Serving j work start (turns + 1) (s.proceed j) := by
  obtain ⟨⟨rest, staged, said, result⟩, hp, htold, hserved, hstaged⟩ := id h
  cases result with
  | none =>
    cases rest with
    | ask c next => exact h.ask hp
    | done outcome => exact h.finish hp
  | some r =>
    rw [proceed_over hp rfl]
    refine ⟨_, hp, htold, ?_, nofun⟩
    exact
      { hserved with
        going := nofun
        ended := fun r hr => (hserved.ended r hr).imp_left Nat.lt_succ_of_lt }

/-- Others take their turns. -/
theorem others (h : Serving j work start turns s) {a : Action α} (ha : a.isTurnOf j = false)
    (htodos : (s.act a).world.stores.todos = s.world.stores.todos) :
    Serving j work start turns (s.act a) := by
  obtain ⟨p, hp, htold, hserved, hstaged⟩ := h
  have hpiece := pieces_act ha s
  rw [hp] at hpiece
  refine ⟨p, hpiece, htold, ?_, hstaged⟩
  rw [htodos]
  exact hserved

theorem step (h : Serving j work start turns s) {x : Step α} (hx : Undisturbed j s x) :
    Serving j work start (turns + if x.action.isTurnOf j then 1 else 0) (s.next x) := by
  have hat : Serving j work start turns (s.atTime x.start x.elapsed) := h
  obtain ⟨clock, elapsed, a⟩ := x
  cases ha : a.isTurnOf j with
  | false =>
    rw [if_neg Bool.false_ne_true]
    exact hat.others ha (hx.resolve_left (by rw [ha]; exact Bool.false_ne_true))
  | true =>
    rw [if_pos rfl]
    cases a with
    | proceed i =>
      obtain rfl : i = j := of_decide_eq_true ha
      exact hat.turn
    | _ => cases ha

theorem run (h : Serving j work start turns s) {xs : List (Step α)} (hxs : s.RunOk (Undisturbed j) xs) :
    Serving j work start (turns + xs.countP fun x => x.action.isTurnOf j) (s.run xs) := by
  induction xs generalizing s turns with
  | nil => exact h
  | cons x xs ih =>
    rw [List.countP_cons, Nat.add_comm (List.countP _ xs), ← Nat.add_assoc]
    exact ih (h.step hxs.1) hxs.2

end Serving

/-- **A unit of work is served as if its changes were made at once.**  While nobody else changes the
todos, and whatever else goes on: each of its calls is answered as on a plain map of the todos that were
stored when it was opened.  These stay as they are until the end.  If it succeeds then they are that map. -/
theorem as_if_stored (s : Site α) {j : Nat} (hj : s.pieces j = none) (work : Work (Except StoreError α))
    (xs : List (Step α)) (hxs : (s.openUnit j work).RunOk (Undisturbed j) xs) :
    ∃ p, ((s.openUnit j work).run xs).pieces j = some p ∧
      Served work s.world.stores.todos (xs.countP fun x => x.action.isTurnOf j) p
        ((s.openUnit j work).run xs).world.stores.todos := by
  have hserving := (Serving.opened hj work).run hxs
  rw [Nat.zero_add] at hserving
  obtain ⟨p, hp, _, hserved, _⟩ := hserving
  exact ⟨p, hp, hserved⟩

/-- A todo is deleted and stored again with another title, while an event is enqueued and another unit of
work is about to delete the second todo. -/
theorem as_if_stored_again :
    let todo (n : Nat) (title : String) : Todo := ⟨.ofNat n, title, false, .epoch⟩
    let stored : Todos := (Todos.empty.insert (todo 7 "old")).insert (todo 8 "other")
    let s : Site Unit := .ofWorld { (default : World) with stores := ⟨.empty, stored⟩ }
    let asking (cs : List Call) : Work (Except StoreError Unit) :=
      cs.foldr (fun c rest => .ask c fun _ => rest) (.done (.ok ()))
    let work := asking
      [.insertTodo (todo 7 "new"), .deleteTodo (.ofNat 7), .insertTodo (todo 7 "new"),
        .getTodo (.ofNat 7), .deleteTodo (.ofNat 9), .insertTodo (todo 9 "third")]
    let e := Event.create (.ofNat 1) "Todo" (.ofNat 7) "todos" "TODO_CREATED" .null .epoch
    let xs : List (Step Unit) :=
      [.proceed 0, .openUnit 1 (asking [.deleteTodo (.ofNat 8)]), .proceed 0, .proceed 1, .proceed 0,
        .enqueue e, .proceed 0, .proceed 0, .proceed 0, .proceed 0].map fun a => ⟨.epoch, 0, a⟩
    (s.pieces 0 = none ∧ (s.openUnit 0 work).RunOk (Undisturbed 0) xs ∧
        ((s.openUnit 0 work).run xs).world.stores.todos.items =
          [todo 8 "other", todo 7 "new", todo 9 "third"]) ∧
      ∃ p, ((s.openUnit 0 work).run xs).pieces 0 = some p ∧
        Served work stored 7 p ((s.openUnit 0 work).run xs).world.stores.todos := by
  intro todo stored s asking work e xs
  have hxs : (s.openUnit 0 work).RunOk (Undisturbed 0) xs := by decide +kernel
  exact ⟨⟨rfl, hxs, by decide +kernel⟩, as_if_stored s rfl work xs hxs⟩

end Site

end Outbox
