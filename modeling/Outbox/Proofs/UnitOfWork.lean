import Mathlib.Logic.Function.Iterate
import Outbox.Proofs.Origin
import Outbox.Proofs.Staging
import Outbox.Proofs.TodoMap

/-!
# A unit of work happens at once or not at all

* `Site.opened`, `Site.turns`   the work of a unit, and its turns in a run;
* `Follows`       what is left of work after some of its calls;
* `Ending`        what the last turn of a unit of work does;
* `Atomic`        no other turn changes a store;
* `Course`        a unit of work up to some moment of a run, and what every step makes of it;
* `alone`         units of work that are left alone come to what commands come to;
* `all_or_nothing`   every unit of work in every run is atomic.
-/

namespace Outbox

open Scenario (World)

/-! ## work and its calls -/

/-- `rest` is left of `work` once it made these calls and was answered so -/
inductive Follows {β : Type} : Work β → List Exchange → Work β → Prop where
  | nil (work : Work β) : Follows work [] work
  | cons {c : Call} {next : c.Answer → Work β} {answer : c.Answer} {said : List Exchange}
      {rest : Work β} (h : Follows (next answer) said rest) :
      Follows (.ask c next) (⟨c, answer⟩ :: said) rest

theorem Follows.snoc {β : Type} {work : Work β} {said : List Exchange} {c : Call}
    {next : c.Answer → Work β} (h : Follows work said (.ask c next)) (answer : c.Answer) :
    Follows work (said ++ [⟨c, answer⟩]) (next answer) := by
  generalize hrest : Program.ask c next = rest at h
  induction h with
  | nil work =>
    subst hrest
    exact .cons (.nil _)
  | cons _ ih => exact .cons (ih hrest)

/-- the events of the calls whose enqueue was answered with `inserted` -/
def insertedBy (said : List Exchange) : List Event := said.filterMap Exchange.event?

/-- the changes of the todos that the calls were told of -/
def changedBy (said : List Exchange) : List Todos.Change := said.filterMap Exchange.change?

namespace Site

variable {α : Type}

/-! ## turns -/

/-- the work of the unit `j`, once it is open -/
def opened (j : Nat) (xs : List (Step α)) : Option (Work (Except StoreError α)) :=
  xs.findSome? fun x => x.action.opens? j

/-- the sites before and after each turn of the unit of work `j` -/
def turns (j : Nat) : Site α → List (Step α) → List (Site α × Site α)
  | _, [] => []
  | s, x :: xs =>
    (if x.action.isTurnOf j then [(s.atTime x.start x.elapsed, s.next x)] else []) ++
      turns j (s.next x) xs

/-- a turn that leaves both stores as they are -/
def Stays (t : Site α × Site α) : Prop := t.2.world.stores = t.1.world.stores

/-- what the turn from `s` to `s'` does that ends the unit of work `j` with the result `r` -/
structure Ending (j : Nat) (p : Piece α) (r : Except StoreError α) (s s' : Site α) : Prop where
  /-- an error of the work itself comes out, or a failure to roll back after just this error -/
  failed : ∀ e, p.work = .done (.error e) →
    match s.world.rollbackFailure with
    | none => r = .error e
    | some reason => r = .error (.rollbackFailed e reason)
  /-- work that succeeds ends in a conflict just if a record has the key of a staged event by now -/
  conflict : ∀ a, p.work = .done (.ok a) →
    ((∃ key, r = .error (Staged.conflict key)) ↔
      ∃ e ∈ insertedBy p.said, ∃ key q, e.dedupeKey = some key ∧ q ∈ s.outbox.records ∧
        q.dedupeKey = some key)
  /-- there are no other errors, and none of them changes a store -/
  error : ∀ e, r = .error e →
    s'.world.stores = s.world.stores ∧
      ((∃ cause, p.work = .done (.error cause)) ∨
        ∃ a key, p.work = .done (.ok a) ∧ e = Staged.conflict key)
  /-- success stores what the calls were told of, one change after another, and changes nothing else -/
  ok : ∀ a, r = .ok a →
    p.work = .done (.ok a) ∧
      ∃ (outbox : Store) (todos : Todos),
        outbox.records = s.outbox.records ++ (insertedBy p.said).map Event.record ∧
          todos.get? = (changedBy p.said).foldl Rows.changed s.world.stores.todos.get? ∧
          s' =
            { s with
              world := { s.world with stores := { outbox, todos } }
              pieces := Function.update s.pieces j (some p)
              committed := s.committed ++ insertedBy p.said }

/-- what is to be said of the unit of work `j` and its turns `ts` so far -/
structure Atomic (j : Nat) (work : Work (Except StoreError α)) (p : Piece α)
    (ts : List (Site α × Site α)) : Prop where
  follows : Follows work p.said p.work
  /-- until the end, and for ever if it fails, a unit of work changes no store -/
  untouched : (∀ a, p.result ≠ some (.ok a)) → ∀ t ∈ ts, Stays t
  ended : ∀ r, p.result = some r →
    ∃ before t after, ts = before ++ t :: after ∧ (∀ u ∈ before ++ after, Stays u) ∧
      Ending j p r t.1 t.2

/-! ## one turn -/

/-- What was staged is what the calls were told of. -/
def Told (p : Piece α) : Prop :=
  p.staged.events = insertedBy p.said ∧ p.staged.changes = changedBy p.said

theorem Told.answer {work rest : Work (Except StoreError α)} {staged : Staged} {said : List Exchange}
    {r r' : Option (Except StoreError α)} (h : Told ⟨work, staged, said, r⟩) (s : Stores) (c : Call) :
    Told ⟨rest, (Staged.answer s c staged).2, said ++ [⟨c, (Staged.answer s c staged).1⟩], r'⟩ := by
  have hlast {β : Type} (f : Exchange → Option β) (x : Exchange) :
      (said ++ [x]).filterMap f = said.filterMap f ++ (f x).toList := by
    cases hx : f x <;> simp [hx]
  obtain ⟨he, hc⟩ := h
  have he : staged.events = insertedBy said := he
  have hc : staged.changes = changedBy said := hc
  constructor
  · show (Staged.answer s c staged).2.events = _
    rw [Staged.answer_events, he]
    exact (hlast _ _).symm
  · show (Staged.answer s c staged).2.changes = _
    rw [Staged.answer_changes, hc]
    exact (hlast _ _).symm

/-- Records with new ids come last. -/
theorem records_putAll {es : List Event} {σ : Store} (hn : (es.map Event.id).Nodup)
    (h : ∀ e ∈ es, σ.get? e.id = none) :
    (es.foldl (fun o e => o.put e.record) σ).records = σ.records ++ es.map Event.record := by
  induction es generalizing σ with
  | nil => exact (List.append_nil _).symm
  | cons e es ih =>
    rw [List.map_cons, List.nodup_cons] at hn
    have hput : (σ.put e.record).records = σ.records ++ [e.record] := by
      have hall : ∀ r ∈ σ.records, decide (r.id ≠ e.record.id) = true := fun r hr =>
        decide_eq_true (Store.get?_eq_none.1 (h e List.mem_cons_self) r hr)
      show σ.records.filter (·.id ≠ e.record.id) ++ [e.record] = _
      rw [List.filter_eq_self.2 hall]
    rw [List.foldl_cons, ih hn.2, hput, List.append_assoc]
    · rfl
    · intro e' he'
      rw [Store.get?_put, if_neg]
      · exact h e' (List.mem_cons_of_mem e he')
      · exact fun hid => hn.1 (List.mem_map.2 ⟨e', he', hid⟩)

/-- The events that a unit of work stores have ids that nothing is stored under. -/
theorem new_of_used {s : Site α} (hst : Stocked s) {es : List Event}
    (hn : (s.first ++ (s.committed ++ es).map Event.id).Nodup) :
    (es.map Event.id).Nodup ∧ ∀ e ∈ es, s.outbox.get? e.id = none := by
  rw [List.map_append, ← List.append_assoc, List.nodup_append] at hn
  refine ⟨hn.2.1, fun e he => ?_⟩
  cases hg : s.outbox.get? e.id with
  | none => rfl
  | some r => exact absurd rfl (hn.2.2 e.id (hst e.id r hg) e.id (List.mem_map_of_mem he))

theorem ending {j : Nat} {s : Site α} {outcome : Except StoreError α} {staged : Staged}
    {said : List Exchange} (h : s.pieces j = some ⟨.done outcome, staged, said, none⟩)
    (ht : Told ⟨.done outcome, staged, said, none⟩) (hst : Stocked s)
    (hids : (s.proceed j).used.Nodup) :
    Ending j ⟨.done outcome, staged, said, some (s.world.finish staged outcome).1⟩
      (s.world.finish staged outcome).1 s (s.proceed j) := by
  obtain ⟨he, hc⟩ := ht
  have he : staged.events = insertedBy said := he
  have hc : staged.changes = changedBy said := hc
  rw [proceed_done h] at hids ⊢
  cases outcome with
  | error e =>
    rw [finish_error]
    exact
      { failed := fun e' he' => by
          cases he'
          cases s.world.rollbackFailure <;> rfl
        conflict := nofun
        error := fun e' _ => ⟨rfl, Or.inl ⟨e, rfl⟩⟩
        ok := nofun }
  | ok a =>
    cases hcon : staged.conflict? s.world.stores with
    | some key =>
      rw [finish_conflict hcon]
      obtain ⟨ev, hev, hk, htaken⟩ := Staged.conflict?_eq_some hcon
      rw [he] at hev
      exact
        { failed := nofun
          conflict := fun _ _ =>
            ⟨fun _ => ⟨ev, hev, Store.keyTaken_eq_true.1 htaken⟩, fun _ => ⟨key, rfl⟩⟩
          error := fun e' he' => by
            injection he' with he'
            exact ⟨rfl, Or.inr ⟨a, key, rfl, he'.symm⟩⟩
          ok := nofun }
    | none =>
      rw [finish_ok hcon] at hids ⊢
      have hfree := Staged.conflict?_eq_none.1 hcon
      have hids : (s.first ++ (s.committed ++ staged.events).map Event.id).Nodup := hids
      obtain ⟨hn, hnew⟩ := new_of_used hst hids
      have hnone : ¬ ∃ e ∈ insertedBy said, ∃ key q, e.dedupeKey = some key ∧ q ∈ s.outbox.records ∧
          q.dedupeKey = some key := by
        rintro ⟨ev, hev, htaken⟩
        rw [← he] at hev
        exact hfree ev hev (Store.keyTaken_eq_true.2 htaken)
      refine
        { failed := nofun
          conflict := fun _ _ => ⟨nofun, fun htaken => absurd htaken hnone⟩
          error := nofun
          ok := fun a' ha' => ⟨?_, staged.events.foldl (fun o e => o.put e.record) s.outbox,
            staged.changes.foldl Todos.apply s.world.stores.todos, ?_, ?_, ?_⟩ }
      · injection ha' with ha'
        rw [ha']
      · rw [records_putAll hn hnew, ← he]
      · rw [Todos.get?_foldl_apply, ← hc]
      · rw [← he]
        rfl

/-- A unit of work that is left alone comes to what a command comes to. -/
theorem alone {j : Nat} (work : Work (Except StoreError α)) {s : Site α} {staged : Staged}
    {said : List Exchange} (h : s.pieces j = some ⟨work, staged, said, none⟩) :
    ∃ n, (Nat.iterate (proceed j) n s).world =
        (s.world.finish (work.run (Staged.answer s.world.stores) staged).2
          (work.run (Staged.answer s.world.stores) staged).1).2 ∧
      ∃ p, (Nat.iterate (proceed j) n s).pieces j = some p ∧
        p.result = some (s.world.finish (work.run (Staged.answer s.world.stores) staged).2
          (work.run (Staged.answer s.world.stores) staged).1).1 := by
  induction work generalizing s staged said with
  | done outcome =>
    refine ⟨1, ?_, _, pieces_proceed_done h, rfl⟩
    show (s.proceed j).world = _
    rw [proceed_done h]
    rfl
  | ask c next ih =>
    obtain ⟨n, hn⟩ := ih _ (pieces_proceed_ask h)
    have hw : (s.proceed j).world = s.world := by
      rw [proceed_ask h]
    rw [hw] at hn
    exact ⟨n + 1, hn⟩

/-! ## all turns -/

/-- the unit of work `j` at some moment of a run: what was opened so far, and the turns so far -/
structure Course (j : Nat) (s : Site α) (work : Option (Work (Except StoreError α)))
    (ts : List (Site α × Site α)) : Prop where
  closed : work = none → s.pieces j = none ∧ ∀ t ∈ ts, Stays t
  going : ∀ w, work = some w → ∃ p, s.pieces j = some p ∧ Told p ∧ Atomic j w p ts

namespace Course

variable {j : Nat} {s : Site α} {work : Option (Work (Except StoreError α))}
  {ts : List (Site α × Site α)}

/-- A turn that does nothing to the unit of work is none of its last ones. -/
theorem stay {w : Work (Except StoreError α)} {p : Piece α} (h : Atomic j w p ts)
    {t : Site α × Site α} (ht : Stays t) : Atomic j w p (ts ++ [t]) where
  follows := h.follows
  untouched := fun hp u hu => by
    rcases List.mem_append.1 hu with hu | hu
    · exact h.untouched hp u hu
    · rw [List.mem_singleton.1 hu]
      exact ht
  ended := fun r hr => by
    obtain ⟨before, u, after, rfl, hstay, hend⟩ := h.ended r hr
    refine ⟨before, u, after ++ [t], by simp, fun v hv => ?_, hend⟩
    rw [← List.append_assoc] at hv
    rcases List.mem_append.1 hv with hv | hv
    · exact hstay v hv
    · rw [List.mem_singleton.1 hv]
      exact ht

theorem turn (h : Course j s work ts) (hst : Stocked s) (hids : (s.proceed j).used.Nodup) :
    Course j (s.proceed j) work (ts ++ [(s, s.proceed j)]) := by
  cases work with
  | none =>
    obtain ⟨hp, hstay⟩ := h.closed rfl
    rw [proceed_none hp]
    have hall : ∀ t ∈ ts ++ [(s, s)], Stays t := by
      intro t ht
      rcases List.mem_append.1 ht with ht | ht
      · exact hstay t ht
      · rw [List.mem_singleton.1 ht]
        rfl
    exact ⟨fun _ => ⟨hp, hall⟩, nofun⟩
  | some w =>
    refine ⟨nofun, fun w' hw' => ?_⟩
    injection hw' with hw'
    subst hw'
    obtain ⟨⟨rest, staged, said, result⟩, hp, ht, ha⟩ := h.going w rfl
    cases result with
    | some r =>
      rw [proceed_over hp rfl]
      exact ⟨_, hp, ht, stay ha rfl⟩
    | none =>
      cases rest with
      | ask c next =>
        have hstays : Stays (s, s.proceed j) := by
          unfold Stays
          rw [proceed_ask hp]
        have huntouched := (stay ha hstays).untouched nofun
        exact ⟨_, pieces_proceed_ask hp, ht.answer s.world.stores c, ha.follows.snoc _,
          fun _ => huntouched, nofun⟩
      | done outcome =>
        have hend := ending hp ht hst hids
        have hbefore := ha.untouched nofun
        refine ⟨_, pieces_proceed_done hp, ht, ha.follows, ?_, ?_⟩
        · -- a turn that ends in an error changes no store
          intro hno t hmem
          rcases List.mem_append.1 hmem with hmem | hmem
          · exact hbefore t hmem
          · rw [List.mem_singleton.1 hmem]
            cases hres : (s.world.finish staged outcome).1 with
            | ok a => exact absurd (congrArg some hres) (hno a)
            | error e => exact (hend.error e hres).1
        · intro r hr
          injection hr with hr
          subst hr
          refine ⟨ts, (s, s.proceed j), [], rfl, ?_, hend⟩
          intro u hu
          rw [List.append_nil] at hu
          exact hbefore u hu

/-- Others take their turns. -/
theorem others (h : Course j s work ts) {a : Action α} (ha : a.isTurnOf j = false) :
    Course j (s.act a) (work.or (a.opens? j)) ts := by
  have hpieces := pieces_act ha s
  cases work with
  | some w =>
    refine ⟨nofun, fun w' hw' => ?_⟩
    injection hw' with hw'
    subst hw'
    obtain ⟨p, hp, ht, hat⟩ := h.going w rfl
    rw [hp] at hpieces
    exact ⟨p, hpieces, ht, hat⟩
  | none =>
    obtain ⟨hp, hstay⟩ := h.closed rfl
    rw [hp] at hpieces
    constructor
    · intro hn
      have hn : a.opens? j = none := hn
      rw [hn] at hpieces
      exact ⟨hpieces, hstay⟩
    · intro w hw
      have hw : a.opens? j = some w := hw
      rw [hw] at hpieces
      exact ⟨.ofWork w, hpieces, ⟨rfl, rfl⟩, .nil w, fun _ => hstay, nofun⟩

theorem step (h : Course j s work ts) (hst : Stocked s) {x : Step α} (hx : s.Fresh x) :
    Course j (s.next x) (work.or (x.action.opens? j))
      (ts ++ if x.action.isTurnOf j then [(s.atTime x.start x.elapsed, s.next x)] else []) := by
  have hat : Course j (s.atTime x.start x.elapsed) work ts := ⟨h.closed, h.going⟩
  obtain ⟨start, elapsed, a⟩ := x
  cases ha : a.isTurnOf j with
  | false =>
    rw [if_neg Bool.false_ne_true, List.append_nil]
    exact hat.others ha
  | true =>
    rw [if_pos rfl]
    cases a with
    | proceed i =>
      obtain rfl : i = j := of_decide_eq_true ha
      rw [show (Action.proceed i : Action α).opens? i = none from rfl, Option.or_none]
      exact hat.turn (s := s.atTime start elapsed) hst hx
    | _ => cases ha

theorem run (h : Course j s work ts) (hst : Stocked s) {xs : List (Step α)} (hxs : s.RunOk Fresh xs) :
    Course j (s.run xs) (work.or (opened j xs)) (ts ++ turns j s xs) := by
  induction xs generalizing s work ts with
  | nil =>
    rw [show opened j ([] : List (Step α)) = none from rfl, Option.or_none]
    exact (List.append_nil ts).symm ▸ h
  | cons x xs ih =>
    have hrun := ih (h.step hst hxs.1) (hst.next x) hxs.2
    rw [Option.or_assoc, List.append_assoc] at hrun
    have hopened : opened j (x :: xs) = (x.action.opens? j).or (opened j xs) := by
      unfold opened
      rw [List.findSome?_cons]
      cases x.action.opens? j <;> rfl
    rw [hopened]
    exact hrun

end Course

/-- **A unit of work is atomic.**  Relays, other units of work and all others act in any order, from
any stores on. -/
theorem all_or_nothing (w : World) (xs : List (Step α)) (hxs : (Site.ofWorld w).RunOk Fresh xs)
    {j : Nat} {work : Work (Except StoreError α)} (hj : opened j xs = some work) :
    ∃ p, ((Site.ofWorld w).run xs).pieces j = some p ∧
      Atomic j work p (turns j (Site.ofWorld w) xs) := by
  have hnew : Course j (Site.ofWorld w : Site α) none [] :=
    ⟨fun _ => ⟨rfl, fun t ht => absurd ht List.not_mem_nil⟩, nofun⟩
  obtain ⟨p, hp, _, ha⟩ := (hnew.run (Stocked.ofWorld w) hxs).going work hj
  exact ⟨p, hp, ha⟩

/-- Two units of work store a todo again, insert one of their own and stage one dedupe key; the first one
to end has it. -/
theorem all_or_nothing_raced :
    let todo (n : Nat) (title : String) : Todo := ⟨.ofNat n, title, false, .epoch⟩
    let w : World :=
      { (default : World) with
        stores := ⟨.empty, (Todos.empty.insert (todo 7 "old")).insert (todo 8 "other")⟩ }
    let e (n : Nat) : Event :=
      { Event.create (.ofNat n) "Todo" (.ofNat 7) "todos" "TODO_CREATED" .null .epoch with
        dedupeKey := some "todo:7:created" }
    let work (n : Nat) : Work (Except StoreError Unit) :=
      .ask (.deleteTodo (.ofNat 7)) fun _ => .ask (.insertTodo (todo 7 "new")) fun _ =>
        .ask (.insertTodo (todo (10 + n) "own")) fun _ => .ask (.enqueue (e n)) fun _ => .done (.ok ())
    let calls (n : Nat) : List (Action Unit) := .replicate 4 (.proceed n)
    let actions : List (Action Unit) :=
      .openUnit 1 (work 1) :: .openUnit 2 (work 2) :: calls 1 ++ calls 2 ++ [.proceed 2, .proceed 1]
    let xs : List (Step Unit) := actions.map fun a => ⟨.epoch, 0, a⟩
    ((Site.ofWorld w).RunOk Fresh xs ∧ (opened 1 xs = some (work 1) ∧ opened 2 xs = some (work 2)) ∧
        ((Site.ofWorld w).run xs).outbox.records.map Record.id = [.ofNat 2] ∧
        ((Site.ofWorld w).run xs).world.stores.todos.items =
          [todo 8 "other", todo 7 "new", todo 12 "own"] ∧
        (((Site.ofWorld w).run xs).pieces 1).bind Piece.result =
          some (.error (Staged.conflict "todo:7:created")) ∧
        (((Site.ofWorld w).run xs).pieces 2).bind Piece.result = some (.ok ())) ∧
      (∃ p, ((Site.ofWorld w).run xs).pieces 1 = some p ∧
        Atomic 1 (work 1) p (turns 1 (Site.ofWorld w) xs)) ∧
      ∃ p, ((Site.ofWorld w).run xs).pieces 2 = some p ∧
        Atomic 2 (work 2) p (turns 2 (Site.ofWorld w) xs) := by
  intro todo w e work calls actions xs
  have hxs : (Site.ofWorld w).RunOk Fresh xs := by decide +kernel
  refine ⟨⟨hxs, ⟨rfl, rfl⟩, ?_⟩, all_or_nothing w xs hxs rfl, all_or_nothing w xs hxs rfl⟩
  decide +kernel

end Site
end Outbox
