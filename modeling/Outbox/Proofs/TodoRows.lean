import Outbox.Proofs.TodoEvents
import Outbox.Proofs.UnitOfWork

/-!
# Todos and their events agree

Commands are units of work, and so many of them can be under way at once: each first stages its change of
the todos, then the event that tells of it, and in the end both are stored together.

* `Todo.IsCommand`      the work of the two commands;
* `Mirrors`             the stored todos are those that were created and not deleted, as the outbox tells;
* `RowStaged`, `EventStaged`, `Stage`   how far a command is, and what it has seen told;
* `Piece.revives`       a command is about to store a todo, without an event, that was deleted;
* `Site.Coherent`       todos, records and commands fit together, which every step keeps;
* `todos_told`          the todos and their events agree, in every run;
* `todo_revived`        unless a todo is stored again after its deletion.
-/

namespace Outbox

open Scenario (World)

/-! ## commands -/

/-- the work of a command, where all who create a todo under an id create the same one -/
inductive Todo.IsCommand (value : Uuid → Todo) : Work (Except StoreError Todo) → Prop where
  | creation (id eventId : Uuid) (now : Timestamp) : IsCommand value ((value id).creation eventId now)
  | deletion (id eventId : Uuid) (now : Timestamp) : IsCommand value (Todo.deletion id eventId now)

/-- What is opened is a command, and nothing else stores an event. -/
def Action.Commands (value : Uuid → Todo) : Action Todo → Prop
  | .openUnit _ work => Todo.IsCommand value work
  | .proceed _ => True
  | a => a.isProducing = false

/-- whether a todo is about to be stored, and no event, that was deleted as the outbox tells -/
def Piece.revives (σ : Store) : Piece Todo → Bool
  | ⟨.done (.ok _), ⟨[], [.insert t]⟩, _, none⟩ => σ.hasKey (t.dedupeKey .deleted)
  | _ => false

/-! ## what records tell -/

section
variable {value : Uuid → Todo} {σ σ' : Store} {todos : Todos} {id : Uuid}

/-- The todos are what the records tell. -/
structure Mirrors (value : Uuid → Todo) (σ : Store) (todos : Todos) : Prop where
  row : ∀ id t, todos.get? id = some t ↔
    t = value id ∧ σ.Tells (value id) .created ∧ ¬ σ.Tells (value id) .deleted
  /-- Nothing is deleted before it is created. -/
  order : ∀ id, σ.Tells (value id) .deleted → σ.Tells (value id) .created

/-- One thing more is told, unless it was told before. -/
def Learns (value : Uuid → Todo) (σ σ' : Store) (id : Uuid) (news : Todo.News) : Prop :=
  ∀ i n, σ'.Tells (value i) n ↔ σ.Tells (value i) n ∨ i = id ∧ n = news

namespace Mirrors

theorem congr (h : Mirrors value σ todos)
    (hsame : ∀ i n, σ'.Tells (value i) n ↔ σ.Tells (value i) n) : Mirrors value σ' todos where
  row := fun id t => by
    rw [hsame, hsame]
    exact h.row id t
  order := fun id => by
    rw [hsame, hsame]
    exact h.order id

theorem empty (value : Uuid → Todo) : Mirrors value .empty .empty where
  row := fun id _ => ⟨nofun, fun ⟨_, hcreated, _⟩ =>
    absurd hcreated (Store.not_tells_empty (value id) .created)⟩
  order := fun id hdeleted => absurd hdeleted (Store.not_tells_empty (value id) .deleted)

theorem created (hvalue : ∀ id, (value id).id = id) (h : Mirrors value σ todos)
    (hnot : ¬ σ.Tells (value id) .deleted) (hl : Learns value σ σ' id .created) :
    Mirrors value σ' (todos.insert (value id)) := by
  have hdeleted (i : Uuid) : σ'.Tells (value i) .deleted ↔ σ.Tells (value i) .deleted := by
    rw [hl i .deleted]
    simp
  refine ⟨fun i t => ?_, fun i hi => ?_⟩
  · rw [Todos.get?_insert, hvalue, hdeleted, hl i .created]
    by_cases hi : i = id
    · subst hi
      have hget : (todos.get? i).getD (value i) = value i := by
        cases hg : todos.get? i with
        | none => rfl
        | some u => exact ((h.row i u).1 hg).1
      rw [if_pos rfl, hget]
      simp [hnot, eq_comm]
    · rw [if_neg hi, h.row i t]
      simp [hi]
  · exact (hl i .created).2 (Or.inl (h.order i ((hdeleted i).1 hi)))

theorem deleted (h : Mirrors value σ todos) (htold : σ.Tells (value id) .created)
    (hl : Learns value σ σ' id .deleted) : Mirrors value σ' (todos.remove id) := by
  have hcreated (i : Uuid) : σ'.Tells (value i) .created ↔ σ.Tells (value i) .created := by
    rw [hl i .created]
    simp
  refine ⟨fun i t => ?_, fun i hi => ?_⟩
  · rw [Todos.get?_remove, hcreated, hl i .deleted]
    by_cases hi : i = id
    · simp [hi]
    · rw [if_neg hi, h.row i t]
      simp [hi]
  · rw [hcreated]
    rcases (hl i .deleted).1 hi with hi | ⟨rfl, _⟩
    · exact h.order i hi
    · exact htold

end Mirrors

/-! ## commands under way -/

/-- the change that a command has staged -/
inductive RowStaged (value : Uuid → Todo) (σ : Store) (id : Uuid) :
    Todo.News → List Todos.Change → Prop where
  | inserted : RowStaged value σ id .created [.insert (value id)]
  /-- The todo was stored already. -/
  | kept (h : σ.Tells (value id) .created) : RowStaged value σ id .created []
  | removed (h : σ.Tells (value id) .created) : RowStaged value σ id .deleted [.remove id]

/-- the event that a command has staged -/
inductive EventStaged (value : Uuid → Todo) (σ : Store) (id : Uuid) (news : Todo.News) :
    List Event → Prop where
  | staged (eventId : Uuid) (now : Timestamp) :
      EventStaged value σ id news [(value id).event news eventId now]
  /-- It was told already. -/
  | told (h : σ.Tells (value id) news) : EventStaged value σ id news []

/-- how far a command is -/
inductive Stage (value : Uuid → Todo) (σ : Store) : Piece Todo → Prop where
  | begun {work : Work (Except StoreError Todo)} (h : Todo.IsCommand value work) :
      Stage value σ (.ofWork work)
  | row {id : Uuid} {news : Todo.News} {changes : List Todos.Change}
      (h : RowStaged value σ id news changes) (eventId : Uuid) (now : Timestamp)
      (said : List Exchange) :
      Stage value σ ⟨(value id).telling news eventId now, ⟨[], changes⟩, said, none⟩
  | ready {id : Uuid} {news : Todo.News} {changes : List Todos.Change} {events : List Event}
      (h : RowStaged value σ id news changes) (he : EventStaged value σ id news events)
      (said : List Exchange) : Stage value σ ⟨.done (.ok (value id)), ⟨events, changes⟩, said, none⟩
  | failing (e : StoreError) (staged : Staged) (said : List Exchange) :
      Stage value σ ⟨.done (.error e), staged, said, none⟩
  | closed (p : Piece Todo) (h : p.result.isSome = true) : Stage value σ p

/-- What a command has seen told stays told. -/
theorem Stage.mono {p : Piece Todo} (h : Stage value σ p)
    (hmono : ∀ i n, σ.Tells (value i) n → σ'.Tells (value i) n) : Stage value σ' p := by
  have hrow {id : Uuid} {news : Todo.News} {changes : List Todos.Change}
      (h : RowStaged value σ id news changes) : RowStaged value σ' id news changes := by
    cases h with
    | inserted => exact .inserted
    | kept h => exact .kept (hmono _ _ h)
    | removed h => exact .removed (hmono _ _ h)
  cases h with
  | begun h => exact .begun h
  | row h eventId now said => exact .row (hrow h) eventId now said
  | ready h he said =>
    cases he with
    | staged eventId now => exact .ready (hrow h) (.staged eventId now) said
    | told ht => exact .ready (hrow h) (.told (hmono _ _ ht)) said
  | failing e staged said => exact .failing e staged said
  | closed p h => exact .closed p h

end

namespace Site

/-! ## sites -/

/-- whether a todo that was deleted is inserted again, by a command that tells of nothing -/
def revives (s : Site Todo) : Action Todo → Bool
  | .proceed j => (s.pieces j).any (·.revives s.outbox)
  | _ => false

structure Coherent (value : Uuid → Todo) (s : Site Todo) : Prop where
  only : s.outbox.TellsOnly value
  mirrors : Mirrors value s.outbox s.world.stores.todos
  stages : ∀ j p, s.pieces j = some p → Stage value s.outbox p

namespace Coherent

variable {value : Uuid → Todo} {s : Site Todo}

theorem new (value : Uuid → Todo) {w : World} (hw : w.stores.todos = .empty) :
    Coherent value (Site.new w) where
  only := .empty value
  mirrors := by
    show Mirrors value .empty w.stores.todos
    rw [hw]
    exact .empty value
  stages := fun _ p hp => absurd hp.symm (Option.some_ne_none p)

/-- A command goes on, and the stores stay as they are. -/
theorem turn (h : Coherent value s) {j : Nat} {p : Piece Todo}
    (hw : (s.proceed j).world.stores = s.world.stores) (hj : (s.proceed j).pieces j = some p)
    (hp : Stage value s.outbox p) : Coherent value (s.proceed j) := by
  have ho : (s.proceed j).outbox = s.outbox := congrArg Stores.outbox hw
  refine ⟨?_, ?_, fun k q hq => ?_⟩
  · rw [ho]
    exact h.only
  · rw [ho, hw]
    exact h.mirrors
  · rw [ho]
    by_cases hkj : k = j
    · subst hkj
      cases hj.symm.trans hq
      exact hp
    · exact h.stages k q ((pieces_proceed_ne hkj s).symm.trans hq)

theorem ask (h : Coherent value s) {j : Nat} {c : Call} {next : c.Answer → Work (Except StoreError Todo)}
    {staged : Staged} {said : List Exchange} (hold : s.pieces j = some ⟨.ask c next, staged, said, none⟩)
    (hp : ∀ said, Stage value s.outbox
      ⟨next (Staged.answer s.world.stores c staged).1, (Staged.answer s.world.stores c staged).2, said,
        none⟩) : Coherent value (s.proceed j) :=
  h.turn (by rw [proceed_ask hold]) (pieces_proceed_ask hold) (hp _)

/-! ### the first call -/

theorem create (hvalue : ∀ id, (value id).id = id) (h : Coherent value s) {j : Nat} {id eventId : Uuid}
    {now : Timestamp} (hold : s.pieces j = some (.ofWork ((value id).creation eventId now))) :
    Coherent value (s.proceed j) := by
  have hold : s.pieces j = some ⟨.ask (.insertTodo (value id)) _, .empty, [], none⟩ := hold
  refine h.ask hold fun said => ?_
  have hanswer : Staged.answer s.world.stores (.insertTodo (value id)) .empty =
      (.ok (Staged.empty.insertTodo s.world.stores (value id)).1,
        (Staged.empty.insertTodo s.world.stores (value id)).2) := rfl
  rw [hanswer, Staged.insertTodo_empty, hvalue]
  cases hg : s.world.stores.todos.get? id with
  | none => exact .row .inserted eventId now said
  | some t => exact .row (.kept ((h.mirrors.row id t).1 hg).2.1) eventId now said

theorem delete (h : Coherent value s) {j : Nat} {id eventId : Uuid} {now : Timestamp}
    (hold : s.pieces j = some (.ofWork (Todo.deletion id eventId now))) :
    Coherent value (s.proceed j) := by
  have hold : s.pieces j = some ⟨.ask (.deleteTodo id) _, .empty, [], none⟩ := hold
  refine h.ask hold fun said => ?_
  have hanswer : Staged.answer s.world.stores (.deleteTodo id) .empty =
      Staged.empty.deleteTodo s.world.stores id := rfl
  rw [hanswer, Staged.deleteTodo_empty]
  cases hg : s.world.stores.todos.get? id with
  | none => exact .failing _ _ said
  | some t =>
    obtain ⟨rfl, hcreated, _⟩ := (h.mirrors.row id t).1 hg
    exact .row (.removed hcreated) eventId now said

/-! ### the second call -/

theorem tell (hvalue : ∀ id, (value id).id = id) (h : Coherent value s) {j : Nat} {id eventId : Uuid}
    {now : Timestamp} {news : Todo.News} {changes : List Todos.Change} {said : List Exchange}
    (hrow : RowStaged value s.outbox id news changes)
    (hold : s.pieces j = some ⟨(value id).telling news eventId now, ⟨[], changes⟩, said, none⟩) :
    Coherent value (s.proceed j) := by
  have hold : s.pieces j =
      some ⟨.ask (.enqueue ((value id).event news eventId now)) _, ⟨[], changes⟩, said, none⟩ := hold
  refine h.ask hold fun said => ?_
  have hanswer : Staged.answer s.world.stores (.enqueue ((value id).event news eventId now))
        ⟨[], changes⟩ =
      (.ok ((⟨[], changes⟩ : Staged).enqueue s.world.stores ((value id).event news eventId now)).1,
        ((⟨[], changes⟩ : Staged).enqueue s.world.stores ((value id).event news eventId now)).2) := rfl
  rw [hanswer, Staged.enqueue_event]
  cases hkey : s.outbox.hasKey ((value id).dedupeKey news) with
  | true =>
    rw [if_pos (show s.world.stores.outbox.hasKey _ = true from hkey)]
    exact .ready hrow (.told ((h.only.hasKey_iff hvalue).1 hkey)) said
  | false =>
    rw [if_neg (by rw [show s.world.stores.outbox.hasKey _ = false from hkey]; decide)]
    exact .ready hrow (.staged eventId now) said

/-! ### the end -/

/-- What was staged is stored. -/
theorem stored (h : Coherent value s) {j : Nat} {a : Todo} {events : List Event}
    {changes : List Todos.Change} {said : List Exchange}
    (hold : s.pieces j = some ⟨.done (.ok a), ⟨events, changes⟩, said, none⟩)
    (hcon : Staged.conflict? s.world.stores ⟨events, changes⟩ = none)
    (honly : (events.foldl (fun o e => o.put e.record) s.outbox).TellsOnly value)
    (hmirrors : Mirrors value (events.foldl (fun o e => o.put e.record) s.outbox)
      (changes.foldl Todos.apply s.world.stores.todos))
    (hmono : ∀ i n, s.outbox.Tells (value i) n →
      (events.foldl (fun o e => o.put e.record) s.outbox).Tells (value i) n) :
    Coherent value (s.proceed j) := by
  have hs := proceed_done hold
  have hpiece := pieces_proceed_done hold
  rw [finish_ok hcon] at hs hpiece
  refine ⟨?_, ?_, fun k q hq => ?_⟩
  · rw [hs]
    exact honly
  · rw [hs]
    exact hmirrors
  · have ho : (s.proceed j).outbox = events.foldl (fun o e => o.put e.record) s.outbox := by rw [hs]; rfl
    rw [ho]
    by_cases hkj : k = j
    · subst hkj
      cases hpiece.symm.trans hq
      exact .closed _ rfl
    · exact (h.stages k q ((pieces_proceed_ne hkj s).symm.trans hq)).mono hmono

/-- A command that succeeds stores what it staged, unless its event was stored by another meanwhile. -/
theorem finish (hvalue : ∀ id, (value id).id = id) (h : Coherent value s) (hst : Stocked s) {j : Nat}
    (hids : (s.proceed j).used.Nodup) (hrevives : s.revives (.proceed j) = false) {id : Uuid}
    {news : Todo.News} {changes : List Todos.Change} {events : List Event} {said : List Exchange}
    (hrow : RowStaged value s.outbox id news changes) (he : EventStaged value s.outbox id news events)
    (hold : s.pieces j = some ⟨.done (.ok (value id)), ⟨events, changes⟩, said, none⟩) :
    Coherent value (s.proceed j) := by
  cases hcon : Staged.conflict? s.world.stores ⟨events, changes⟩ with
  | some key =>
    refine h.turn ?_ (pieces_proceed_done hold) (.closed _ rfl)
    rw [proceed_done hold, finish_conflict hcon]
  | none =>
  cases he with
  | told htold =>
    have hl : Learns value s.outbox s.outbox id news := by
      refine fun i n => ⟨Or.inl, ?_⟩
      rintro (ht | ⟨rfl, rfl⟩)
      · exact ht
      · exact htold
    refine h.stored hold hcon h.only ?_ fun _ _ ht => ht
    cases hrow with
    | inserted =>
      -- the todo is still there, or would come back
      have hnot : ¬ s.outbox.Tells (value id) .deleted := by
        intro hdeleted
        have hrevives : (s.pieces j).any (·.revives s.outbox) = false := hrevives
        rw [hold] at hrevives
        cases hdeleted.hasKey.symm.trans hrevives
      exact h.mirrors.created hvalue hnot hl
    | kept _ => exact h.mirrors
    | removed hcreated => exact h.mirrors.deleted hcreated hl
  | staged eventId now =>
    have hfree : ¬ s.outbox.hasKey ((value id).dedupeKey news) = true :=
      Staged.conflict?_eq_none.1 hcon _ List.mem_cons_self
    have hnew : s.outbox.get? eventId = none := by
      rw [proceed_done hold, finish_ok hcon] at hids
      exact (new_of_used hst hids).2 _ List.mem_cons_self
    have hl : Learns value s.outbox (s.outbox.put ((value id).event news eventId now).record) id news :=
      fun i n => Store.tells_put hvalue hnew
    refine h.stored hold hcon (h.only.put id news eventId now) ?_ fun i n ht => (hl i n).2 (Or.inl ht)
    cases hrow with
    | inserted =>
      have hnot : ¬ s.outbox.Tells (value id) .deleted := fun hdeleted =>
        hfree (h.mirrors.order id hdeleted).hasKey
      exact h.mirrors.created hvalue hnot hl
    | kept hcreated => exact absurd hcreated.hasKey hfree
    | removed hcreated => exact h.mirrors.deleted hcreated hl

theorem proceed (hvalue : ∀ id, (value id).id = id) (h : Coherent value s) (hst : Stocked s) {j : Nat}
    (hids : (s.proceed j).used.Nodup) (hrevives : s.revives (.proceed j) = false) :
    Coherent value (s.proceed j) := by
  cases hold : s.pieces j with
  | none =>
    rw [proceed_none hold]
    exact h
  | some p =>
  cases h.stages j p hold with
  | begun hc =>
    cases hc with
    | creation id eventId now => exact h.create hvalue hold
    | deletion id eventId now => exact h.delete hold
  | row hrow eventId now said => exact h.tell hvalue hrow hold
  | ready hrow he said => exact h.finish hvalue hst hids hrevives hrow he hold
  | failing e staged said =>
    refine h.turn ?_ (pieces_proceed_done hold) (.closed _ rfl)
    rw [proceed_done hold, finish_error]
  | closed p hp =>
    obtain ⟨r, hr⟩ := Option.isSome_iff_exists.1 hp
    rw [proceed_over hold hr]
    exact h

theorem act (hvalue : ∀ id, (value id).id = id) (h : Coherent value s) (hst : Stocked s)
    {a : Action Todo} (ha : a.Commands value) (hids : (s.act a).used.Nodup)
    (hkept : ∀ r ∈ s.outbox.records, ((s.act a).outbox.get? r.id).isSome = true)
    (hrevives : s.revives a = false) : Coherent value (s.act a) := by
  cases hprod : a.isProducing with
  | false =>
    have hfrom := act_from hprod s
    have hsame (t : Todo) (news : Todo.News) :
        (s.act a).outbox.Tells t news ↔ s.outbox.Tells t news := Store.tells_of_from hfrom hkept
    refine ⟨h.only.ofFrom hfrom, ?_, fun j p hp => ?_⟩
    · rw [act_todos hprod]
      exact h.mirrors.congr fun i n => hsame (value i) n
    · rw [(act_same hprod s).2.2] at hp
      exact (h.stages j p hp).mono fun i n => (hsame (value i) n).2
  | true =>
    cases a with
    | enqueue e => cases ha
    | openUnit j work =>
      obtain ⟨pieces, hs⟩ := openUnit_cases j work s
      have hpieces (k : Nat) := pieces_act (a := .openUnit j work) (j := k) rfl s
      rw [show s.act (.openUnit j work) = _ from hs] at hpieces ⊢
      refine ⟨h.only, h.mirrors, fun k p hp => ?_⟩
      rcases Option.or_eq_some_iff.1 ((hpieces k).symm.trans hp) with hp | ⟨_, hp⟩
      · exact h.stages k p hp
      · obtain ⟨opened, hopen, rfl⟩ := Option.map_eq_some_iff.1 hp
        have hopen : (if j = k then some work else none) = some opened := hopen
        obtain ⟨_, hwork⟩ := Option.ite_none_right_eq_some.1 hopen
        cases hwork
        exact .begun ha
    | proceed j => exact h.proceed hvalue hst hids hrevives
    | _ => cases hprod

end Coherent

/-! ## runs -/

/-- what is asked of a step: no id is used twice, and no record is removed -/
structure Retaining (s : Site Todo) (x : Step Todo) : Prop where
  fresh : s.Fresh x
  kept : ∀ r ∈ s.outbox.records, ((s.next x).outbox.get? r.id).isSome = true

/-- and besides, no deleted todo is inserted again -/
structure Orderly (s : Site Todo) (x : Step Todo) : Prop extends Retaining s x where
  final : s.revives x.action = false

instance (s : Site Todo) (x : Step Todo) : Decidable (Retaining s x) :=
  decidable_of_iff
    (s.Fresh x ∧ ∀ r ∈ s.outbox.records, ((s.next x).outbox.get? r.id).isSome = true)
    ⟨fun ⟨hf, hk⟩ => ⟨hf, hk⟩, fun h => ⟨h.fresh, h.kept⟩⟩

instance (s : Site Todo) (x : Step Todo) : Decidable (Orderly s x) :=
  decidable_of_iff (Retaining s x ∧ s.revives x.action = false)
    ⟨fun ⟨h, hf⟩ => ⟨h, hf⟩, fun h => ⟨h.toRetaining, h.final⟩⟩

theorem Coherent.next {value : Uuid → Todo} {s : Site Todo} {x : Step Todo}
    (hvalue : ∀ id, (value id).id = id) (h : Coherent value s) (hst : Stocked s)
    (ha : x.action.Commands value) (hx : Orderly s x) : Coherent value (s.next x) :=
  act (s := s.atTime x.start x.elapsed) hvalue ⟨h.only, h.mirrors, h.stages⟩ hst ha hx.fresh hx.kept
    hx.final

/-- **Todos and their events agree.**  Any number of commands are under way at once, on stores that were
empty at first, while relays deliver and keep what they deliver; all who create a todo under an id create
the same one.  At every moment the todos that are stored are just those that the outbox tells were created
and not deleted, as long as no command stores a todo again that was deleted. -/
theorem todos_told (value : Uuid → Todo) (hvalue : ∀ id, (value id).id = id) (w : World)
    (hw : w.stores.todos = .empty) (xs : List (Step Todo))
    (hcommands : ∀ x ∈ xs, x.action.Commands value) (hxs : (Site.new w).RunOk Orderly xs) (id : Uuid)
    (t : Todo) :
    ((Site.new w).run xs).world.stores.todos.get? id = some t ↔
      t = value id ∧ ((Site.new w).run xs).outbox.Tells (value id) .created ∧
        ¬ ((Site.new w).run xs).outbox.Tells (value id) .deleted := by
  have hok := hxs.combine (R := fun s x => Orderly s x ∧ x.action.Commands value)
    (fun _ _ hx ha => ⟨hx, ha⟩) (.of_forall hcommands)
  have hrun := run_keeps (I := fun s => Coherent value s ∧ Stocked s)
    (fun _ x ⟨h, hst⟩ ⟨hx, ha⟩ => ⟨h.next hvalue hst ha hx, hst.next x⟩)
    ⟨.new value hw, .ofWorld _⟩ hok
  exact hrun.1.mirrors.row id t

/-- Two commands create the same todo, and two delete it; one of each pair is told of nothing.  A relay
delivers meanwhile. -/
theorem todos_told_raced :
    let w : World := { (default : World) with lease := .ofSecs 60 }
    let value (id : Uuid) : Todo := ⟨id, "ship it", false, .epoch⟩
    let create (j n : Nat) : Action Todo := .openUnit j ((value (.ofNat n)).creation (.ofNat j) .epoch)
    let delete (j n : Nat) : Action Todo := .openUnit j (Todo.deletion (.ofNat n) (.ofNat j) .epoch)
    let xs : List (Step Todo) :=
      [create 1 7, create 2 7, .proceed 1, .proceed 2, .proceed 1, .proceed 2, .proceed 1, .proceed 2,
        .tick 0 .standard, .claim 0, create 3 8, .proceed 3, .proceed 3, .proceed 3, delete 4 7,
        delete 5 7, .proceed 4, .proceed 5, .proceed 4, .move 0 .start, .proceed 4, .conclude 0 0 true,
        .proceed 5, .proceed 5].map fun a => ⟨.epoch, 0, a⟩
    ((Site.new w).RunOk Orderly xs ∧ ((Site.new w).run xs).world.stores.todos.ids = [.ofNat 8] ∧
        ((Site.new w).run xs).outbox.records.map (fun r => (r.entityId, r.eventType, r.status)) =
          [(.ofNat 7, "TODO_CREATED", .processed), (.ofNat 8, "TODO_CREATED", .pending),
            (.ofNat 7, "TODO_DELETED", .pending)]) ∧
      ∀ id t, ((Site.new w).run xs).world.stores.todos.get? id = some t ↔
        t = value id ∧ ((Site.new w).run xs).outbox.Tells (value id) .created ∧
          ¬ ((Site.new w).run xs).outbox.Tells (value id) .deleted := by
  intro w value create delete xs
  have hxs : (Site.new w).RunOk Orderly xs := by decide +kernel
  have hcommands : ∀ x ∈ xs, x.action.Commands value := by
    have hcreate (j n : Nat) : (create j n).Commands value :=
      Todo.IsCommand.creation (.ofNat n) (.ofNat j) .epoch
    have hdelete (j n : Nat) : (delete j n).Commands value :=
      Todo.IsCommand.deletion (.ofNat n) (.ofNat j) .epoch
    have hproceed (j : Nat) : (Action.proceed j : Action Todo).Commands value := trivial
    have htick (config : Relay.Config) : (Action.tick 0 config : Action Todo).Commands value := rfl
    have hclaim : (Action.claim 0 : Action Todo).Commands value := rfl
    have hmove (m : Relay.Move) : (Action.move 0 m : Action Todo).Commands value := rfl
    have hconclude : (Action.conclude 0 0 true : Action Todo).Commands value := rfl
    simp [xs, hcreate, hdelete, hproceed, htick, hclaim, hmove, hconclude]
  exact ⟨⟨hxs, by decide +kernel, by decide +kernel⟩,
    todos_told value (fun _ => rfl) w rfl xs hcommands hxs⟩

/-- One command finds no todo, then another creates the todo, and the first finds that told already.  The
todo is deleted; when the first command ends, it stores the todo again and tells nobody. -/
theorem todo_revived :
    let w : World := default
    let t : Todo := ⟨.ofNat 7, "ship it", false, .epoch⟩
    let create (j : Nat) : Action Todo := .openUnit j (t.creation (.ofNat j) .epoch)
    let delete (j : Nat) : Action Todo := .openUnit j (Todo.deletion t.id (.ofNat j) .epoch)
    let xs : List (Step Todo) :=
      [create 1, create 2, .proceed 1, .proceed 2, .proceed 2, .proceed 2, .proceed 1, delete 3,
        .proceed 3, .proceed 3, .proceed 3, .proceed 1].map fun a => ⟨.epoch, 0, a⟩
    let s := (Site.new w).run xs
    (Site.new w).RunOk Retaining xs ∧ s.world.stores.todos.get? t.id = some t ∧
      s.outbox.records.map (fun r => (r.entityId, r.eventType, r.dedupeKey)) =
        [(t.id, "TODO_CREATED", some (t.dedupeKey .created)),
          (t.id, "TODO_DELETED", some (t.dedupeKey .deleted))] := by
  decide +kernel

end Site

end Outbox
