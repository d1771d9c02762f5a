import Outbox.Sql.Transaction

/-!
# What a transaction sends

The server may answer anything at all: `answer` is any machine, and every theorem is about all of them.

* `Program.talk`          the questions of a run with their answers;
* `Sql.Said`, `Sql.sent`  the same for a session, without what it writes into the log;
* `statementOf`           each call of a piece of work sends one statement;
* `Sql.Transacted`        what is to be said of a piece of work in a transaction;
* `Sql.Tells`             what a todo command has sent when it commits;
* `transaction_sends`     all pieces of work are transacted so, and all todo commands tell of the change.
-/

namespace Outbox

namespace Program

variable {Q Q' : Type} {R : Q → Type} {R' : Q' → Type} {α β σ : Type}

/-- what is asked in a run, and the answers -/
def talk (answer : (q : Q) → σ → R q × σ) (p : Program Q R α) (s : σ) : List ((q : Q) × R q) :=
  match p with
  | .done _ => []
  | .ask q next => ⟨q, (answer q s).1⟩ :: (next (answer q s).1).talk answer (answer q s).2

theorem talk_bind (answer : (q : Q) → σ → R q × σ) (p : Program Q R α) (f : α → Program Q R β)
    (s : σ) :
    (p.bind f).talk answer s =
      p.talk answer s ++ (f (p.run answer s).1).talk answer (p.run answer s).2 := by
  induction p generalizing s with
  | done a => rfl
  | ask q next ih => exact congrArg (⟨q, (answer q s).1⟩ :: ·) (ih (answer q s).1 (answer q s).2)

/-- What holds in every translation of a question holds in the translation of a program. -/
theorem talk_mapAsk {answer : (q : Q') → σ → R' q × σ} {f : (q : Q) → Program Q' R' (R q)}
    {P : (q : Q') × R' q → Prop} (hf : ∀ q s, ∀ x ∈ (f q).talk answer s, P x) (p : Program Q R α)
    (s : σ) : ∀ x ∈ (p.mapAsk f).talk answer s, P x := by
  induction p generalizing s with
  | done a => exact fun x hx => absurd hx List.not_mem_nil
  | ask q next ih =>
    intro x hx
    rw [mapAsk, talk_bind] at hx
    rcases List.mem_append.1 hx with hx | hx
    · exact hf q s x hx
    · exact ih _ _ x hx

end Program

namespace Sql

/-- one message to the server and its reply, or an entry for the log -/
abbrev Said : Type := (a : Ask) × a.Answer

namespace Said

def began (reply : Except String Unit) : Said := ⟨.begin, reply⟩

def committed (reply : Except String Unit) : Said := ⟨.commit, reply⟩

def rolledBack (reply : Except String Unit) : Said := ⟨.rollback, reply⟩

/-- a statement within the transaction -/
def replied (st : Statement) (reply : Except String Reply) : Said := ⟨.statement true st, reply⟩

def isMessage : Said → Bool
  | ⟨.log _, _⟩ => false
  | _ => true

def isEnd : Said → Bool
  | ⟨.commit, _⟩ => true
  | ⟨.rollback, _⟩ => true
  | _ => false

end Said

section

variable {α β σ : Type} (answer : (a : Ask) → σ → a.Answer × σ)

/-- the messages of a session and the replies, in their order -/
def sent (p : Session α) (s : σ) : List Said := (p.talk answer s).filter Said.isMessage

/-! ## what sessions send -/

theorem sent_done (a : α) (s : σ) : sent answer (.done a) s = [] := rfl

theorem sent_statement (st : Statement) (next : (Ask.statement true st).Answer → Session α)
    (s : σ) :
    sent answer (.ask (.statement true st) next) s =
      .replied st (answer (.statement true st) s).1 ::
        sent answer (next (answer (.statement true st) s).1) (answer (.statement true st) s).2 := rfl

theorem sent_bind (p : Session α) (f : α → Session β) (s : σ) :
    sent answer (p.bind f) s =
      sent answer p s ++ sent answer (f (p.run answer s).1) (p.run answer s).2 := by
  unfold sent
  rw [Program.talk_bind, List.filter_append]

/-- A statement that is followed by words for the log only is all that is sent.  Success means that the
server acknowledged it. -/
theorem attempt_follow (target what : String) (st : Statement)
    {f : Reply → Session (Except StoreError α)} (hf : ∀ r s, sent answer (f r) s = []) (s : σ) :
    sent answer ((attempt target what true st).follow f) s =
        [.replied st (answer (.statement true st) s).1] ∧
      ∀ a, (((attempt target what true st).follow f).run answer s).1 = .ok a →
        ∃ r, (answer (.statement true st) s).1 = .ok r ∧
          ((f r).run answer (answer (.statement true st) s).2).1 = .ok a := by
  simp only [attempt, Session.follow, Program.bind, sent_statement, Program.run_ask]
  rcases answer (.statement true st) s with ⟨reply, s'⟩
  cases reply with
  | error reason =>
    refine ⟨rfl, fun a ha => ?_⟩
    cases ha
  | ok r => exact ⟨congrArg (_ :: ·) (hf r s'), fun a ha => ⟨r, rfl, ha⟩⟩

/-! ## calls -/

/-- the statement behind a call -/
def statementOf : Call → Statement
  | .enqueue e => Records.insertEvent e
  | .insertTodo t => insertTodo t
  | .deleteTodo id => deleteTodo id
  | .getTodo id => getTodo id

theorem sent_ofCall (c : Call) (s : σ) :
    sent answer (ofCall c) s =
      [.replied (statementOf c) (answer (.statement true (statementOf c)) s).1] := by
  cases c with
  | enqueue e =>
    refine (attempt_follow answer _ _ (Records.insertEvent e) (fun r s => ?_) s).1
    split <;> rfl
  | insertTodo t => exact (attempt_follow answer _ _ (insertTodo t) (fun _ _ => rfl) s).1
  | deleteTodo id => exact (attempt_follow answer _ _ (deleteTodo id) (fun _ _ => rfl) s).1
  | getTodo id => exact (attempt_follow answer _ _ (getTodo id) (fun _ _ => rfl) s).1

variable {answer}

theorem enqueue_ok {e : Event} {s : σ} {told : Enqueued}
    (h : ((ofCall (.enqueue e)).run answer s).1 = Except.ok told) :
    ∃ r, (answer (.statement true (Records.insertEvent e)) s).1 = Except.ok r := by
  obtain ⟨r, hr, _⟩ := (attempt_follow answer _ _ (Records.insertEvent e)
    (fun r s => by split <;> rfl) s).2 told h
  exact ⟨r, hr⟩

theorem insertTodo_ok {t : Todo} {s : σ} {isNew : Bool}
    (h : ((ofCall (.insertTodo t)).run answer s).1 = Except.ok isNew) :
    ∃ r, (answer (.statement true (insertTodo t)) s).1 = Except.ok r := by
  obtain ⟨r, hr, _⟩ := (attempt_follow answer _ _ (insertTodo t) (fun _ _ => rfl) s).2 isNew h
  exact ⟨r, hr⟩

theorem deleteTodo_ok {id : Uuid} {s : σ} {t : Todo}
    (h : ((ofCall (.deleteTodo id)).run answer s).1 = Except.ok t) :
    ∃ r row rest, (answer (.statement true (deleteTodo id)) s).1 = Except.ok r ∧
      r.rows = row :: rest ∧ todoOfRow row = .ok t := by
  obtain ⟨r, hr, ht⟩ := (attempt_follow answer _ _ (deleteTodo id) (fun _ _ => rfl) s).2 t h
  rw [Program.run_done] at ht
  cases hrows : r.rows with
  | nil =>
    rw [hrows] at ht
    cases ht
  | cons row rest =>
    rw [hrows] at ht
    exact ⟨r, row, rest, hr, hrows, ht⟩

/-! ## work -/

theorem sent_work (work : Work α) (s : σ) :
    ∀ x ∈ sent answer (work.mapAsk ofCall) s, ∃ st reply, x = .replied st reply := by
  intro x hx
  obtain ⟨hx, hmessage⟩ := List.mem_filter.1 hx
  refine Program.talk_mapAsk (P := fun x : Said => x.isMessage = true → ∃ st reply, x = .replied st reply)
    (fun c s x hx hmessage => ?_) work s x hx hmessage
  have hsent : x ∈ sent answer (ofCall c) s := List.mem_filter.2 ⟨hx, hmessage⟩
  rw [sent_ofCall] at hsent
  exact ⟨_, _, List.mem_singleton.1 hsent⟩

/-- the word that ends a transaction -/
def ending (outcome : Except StoreError α) (reply : Except String Unit) : Said :=
  match outcome with
  | .ok _ => .committed reply
  | .error _ => .rolledBack reply

/-- what comes out of a transaction, when its last word is replied to so -/
def result : Except StoreError α → Except String Unit → Except StoreError α
  | .ok a, .ok () => .ok a
  | .ok _, .error reason => .error (.database reason)
  | .error e, .ok () => .error e
  | .error e, .error reason => .error (.rollbackFailed e reason)

theorem result_eq_ok {outcome : Except StoreError α} {reply : Except String Unit} {a : α}
    (h : result outcome reply = .ok a) : outcome = .ok a ∧ reply = .ok () := by
  cases outcome <;> cases reply <;> cases h
  exact ⟨rfl, rfl⟩

theorem finish_said (answer : (a : Ask) → σ → a.Answer × σ) (outcome : Except StoreError α) (s : σ) :
    ∃ reply, sent answer (finish outcome) s = [ending outcome reply] ∧
      ((finish outcome).run answer s).1 = result outcome reply := by
  cases outcome with
  | ok a =>
    refine ⟨(answer .commit s).1, ?_⟩
    unfold sent finish Program.talk Program.run
    rcases answer .commit s with ⟨_ | _, s'⟩ <;> exact ⟨rfl, rfl⟩
  | error e =>
    refine ⟨(answer .rollback s).1, ?_⟩
    unfold sent finish Program.talk Program.run
    rcases answer .rollback s with ⟨_ | _, s'⟩ <;> exact ⟨rfl, rfl⟩

/-- what the work within a transaction sends -/
def within (answer : (a : Ask) → σ → a.Answer × σ) (work : Work α) (s : σ) : List Said :=
  sent answer (work.mapAsk ofCall) (answer .begin s).2

/-- The transaction begins, and the work in it comes to this. -/
def Ends (answer : (a : Ask) → σ → a.Answer × σ) (work : Work α) (s : σ) (outcome : α) : Prop :=
  (answer .begin s).1 = Except.ok () ∧
    ((work.mapAsk ofCall).run answer (answer .begin s).2).1 = outcome

theorem execute_refused {work : Work (Except StoreError α)} {s : σ} {reason : String}
    (h : (answer .begin s).1 = Except.error reason) :
    sent answer (execute work) s = [.began (.error reason)] ∧
      ((execute work).run answer s).1 = .error (.database reason) := by
  unfold sent execute enclosed Program.bind Program.talk Program.run
  rcases hb : answer .begin s with ⟨reply, s'⟩
  rw [hb] at h
  subst h
  exact ⟨rfl, rfl⟩

/-- what `execute` goes on with once its transaction began -/
def begun (work : Work (Except StoreError α)) : Session (Except StoreError α) :=
  ((work.mapAsk ofCall).bind fun b => (finish b).bind fun outcome => .done (some b, outcome)).bind
    fun (_, outcome) => .done outcome

theorem execute_begun (work : Work (Except StoreError α)) {s : σ}
    (h : (answer .begin s).1 = Except.ok ()) :
    sent answer (execute work) s =
        .began (.ok ()) :: sent answer (begun work) (answer .begin s).2 ∧
      (execute work).run answer s = (begun work).run answer (answer .begin s).2 := by
  unfold begun sent execute enclosed
  rw [Program.bind, Program.talk, Program.run]
  rcases hb : answer .begin s with ⟨reply, s'⟩
  rw [hb] at h
  subst h
  exact ⟨rfl, rfl⟩

theorem execute_ends {work : Work (Except StoreError α)} {s : σ} {outcome : Except StoreError α}
    (h : Ends answer work s outcome) :
    ∃ reply,
      sent answer (execute work) s =
          .began (.ok ()) :: within answer work s ++ [ending outcome reply] ∧
        ((execute work).run answer s).1 = result outcome reply := by
  obtain ⟨hb, ho⟩ := h
  obtain ⟨hsent, hrun⟩ := execute_begun work hb
  obtain ⟨reply, hlast, hresult⟩ := finish_said answer outcome
    ((work.mapAsk ofCall).run answer (answer .begin s).2).2
  refine ⟨reply, ?_, ?_⟩
  · rw [hsent, begun, sent_bind, sent_bind, sent_bind, sent_done, sent_done, List.append_nil,
      List.append_nil, ho, hlast]
    rfl
  · rw [hrun, begun, Program.run_bind, Program.run_bind, Program.run_bind, ho]
    exact hresult

/-- A word that ends a transaction says what became of it. -/
theorem execute_end {work : Work (Except StoreError α)} {s : σ} {x : Said}
    (hx : x ∈ sent answer (execute work) s) (hend : x.isEnd = true) :
    ∃ outcome reply, Ends answer work s outcome ∧ x = ending outcome reply ∧
      sent answer (execute work) s = .began (.ok ()) :: within answer work s ++ [x] ∧
        ((execute work).run answer s).1 = result outcome reply := by
  rcases hb : ((answer .begin s).1 : Except String Unit) with reason | _
  · rw [(execute_refused hb).1] at hx
    cases List.mem_singleton.1 hx
    cases hend
  have hends : Ends answer work s _ := ⟨hb, rfl⟩
  obtain ⟨reply, hsent, hresult⟩ := execute_ends hends
  rw [hsent] at hx
  rcases List.mem_append.1 hx with hx | hx
  · rcases List.mem_cons.1 hx with rfl | hx
    · cases hend
    · obtain ⟨st, r, rfl⟩ := sent_work work _ x hx
      cases hend
  · cases List.mem_singleton.1 hx
    exact ⟨_, reply, hends, rfl, hsent, hresult⟩

/-- what is to be said of a piece of work in a transaction with a server in the state `s` -/
structure Transacted (answer : (a : Ask) → σ → a.Answer × σ) (work : Work (Except StoreError α))
    (s : σ) : Prop where
  /-- Nothing of the work is sent when the transaction does not begin. -/
  refused : ∀ reason, (answer .begin s).1 = Except.error reason →
    sent answer (execute work) s = [.began (.error reason)] ∧
      ((execute work).run answer s).1 = .error (.database reason)
  /-- Otherwise its statements lie between the begin and the one word that ends the transaction. -/
  between : (answer .begin s).1 = Except.ok () →
    (∀ x ∈ within answer work s, ∃ st reply, x = .replied st reply) ∧
      ∃ last, last.isEnd = true ∧
        sent answer (execute work) s = .began (.ok ()) :: within answer work s ++ [last]
  commits : (∃ reply, .committed reply ∈ sent answer (execute work) s) ↔
    ∃ a, Ends answer work s (.ok a)
  rollsBack : (∃ reply, .rolledBack reply ∈ sent answer (execute work) s) ↔
    ∃ e, Ends answer work s (.error e)
  ok : ∀ a, ((execute work).run answer s).1 = .ok a ↔
    Ends answer work s (.ok a) ∧ .committed (.ok ()) ∈ sent answer (execute work) s
  commitFailed : ∀ reason, .committed (.error reason) ∈ sent answer (execute work) s →
    ((execute work).run answer s).1 = .error (.database reason)
  rolledBack : ∀ e, Ends answer work s (.error e) →
    .rolledBack (.ok ()) ∈ sent answer (execute work) s → ((execute work).run answer s).1 = .error e
  rollbackFailed : ∀ e reason, Ends answer work s (.error e) →
    .rolledBack (.error reason) ∈ sent answer (execute work) s →
      ((execute work).run answer s).1 = .error (.rollbackFailed e reason)

theorem Ends.unique {work : Work α} {s : σ} {o o' : α} (h : Ends answer work s o)
    (h' : Ends answer work s o') : o = o' := h.2.symm.trans h'.2

theorem Ends.sends {work : Work (Except StoreError α)} {s : σ} {outcome : Except StoreError α}
    (h : Ends answer work s outcome) :
    ∃ reply, ending outcome reply ∈ sent answer (execute work) s ∧
      ((execute work).run answer s).1 = result outcome reply := by
  obtain ⟨reply, hsent, hresult⟩ := execute_ends h
  exact ⟨reply, hsent ▸ List.mem_append_right _ List.mem_cons_self, hresult⟩

theorem committed_mem {work : Work (Except StoreError α)} {s : σ} {reply : Except String Unit}
    (h : .committed reply ∈ sent answer (execute work) s) :
    ∃ a, Ends answer work s (.ok a) ∧
      sent answer (execute work) s = .began (.ok ()) :: within answer work s ++ [.committed reply] ∧
        ((execute work).run answer s).1 = result (.ok a) reply := by
  obtain ⟨outcome, r, ho, hx, hsent, hresult⟩ := execute_end h rfl
  cases outcome with
  | ok a =>
    cases hx
    exact ⟨a, ho, hsent, hresult⟩
  | error e => cases hx

theorem rolledBack_mem {work : Work (Except StoreError α)} {s : σ} {reply : Except String Unit}
    (h : .rolledBack reply ∈ sent answer (execute work) s) :
    ∃ e, Ends answer work s (.error e) ∧
      ((execute work).run answer s).1 = result (.error e) reply := by
  obtain ⟨outcome, r, ho, hx, _, hresult⟩ := execute_end h rfl
  cases outcome with
  | ok a => cases hx
  | error e =>
    cases hx
    exact ⟨e, ho, hresult⟩

theorem transacted (answer : (a : Ask) → σ → a.Answer × σ) (work : Work (Except StoreError α))
    (s : σ) : Transacted answer work s where
  refused := fun reason h => execute_refused h
  between := fun hb => by
    have hends : Ends answer work s _ := ⟨hb, rfl⟩
    obtain ⟨reply, hsent, _⟩ := execute_ends hends
    refine ⟨sent_work work _, _, ?_, hsent⟩
    unfold ending
    split <;> rfl
  commits := by
    constructor
    · rintro ⟨reply, h⟩
      obtain ⟨a, ha, _, _⟩ := committed_mem h
      exact ⟨a, ha⟩
    · rintro ⟨a, ha⟩
      obtain ⟨reply, h, _⟩ := ha.sends
      exact ⟨reply, h⟩
  rollsBack := by
    constructor
    · rintro ⟨reply, h⟩
      obtain ⟨e, he, _⟩ := rolledBack_mem h
      exact ⟨e, he⟩
    · rintro ⟨e, he⟩
      obtain ⟨reply, h, _⟩ := he.sends
      exact ⟨reply, h⟩
  ok := fun a => by
    constructor
    · intro h
      rcases hb : ((answer .begin s).1 : Except String Unit) with reason | _
      · rw [(execute_refused hb).2] at h
        cases h
      have hends : Ends answer work s _ := ⟨hb, rfl⟩
      obtain ⟨reply, hsent, hresult⟩ := hends.sends
      obtain ⟨ho, rfl⟩ := result_eq_ok (hresult.symm.trans h)
      rw [ho] at hsent
      exact ⟨⟨hb, ho⟩, hsent⟩
    · rintro ⟨ha, h⟩
      obtain ⟨b, hb, _, hresult⟩ := committed_mem h
      cases ha.unique hb
      exact hresult
  commitFailed := fun reason h => by
    obtain ⟨a, _, _, hresult⟩ := committed_mem h
    exact hresult
  rolledBack := fun e he h => by
    obtain ⟨e', he', hresult⟩ := rolledBack_mem h
    cases he.unique he'
    exact hresult
  rollbackFailed := fun e reason he h => by
    obtain ⟨e', he', hresult⟩ := rolledBack_mem h
    cases he.unique he'
    exact hresult

/-! ## todo commands -/

theorem sent_command (news : Todo.News) (work : Work (Except StoreError Todo)) (s : σ) :
    sent answer (command news work) s = sent answer (execute work) s := by
  unfold command Session.follow
  rw [sent_bind]
  cases ((execute work).run answer s).1 with
  | ok t => exact List.append_nil _
  | error e => exact List.append_nil _

theorem sent_ask (c : Call) (next : c.Answer → Work α) (s : σ) :
    sent answer (Program.mapAsk ofCall (.ask c next)) s =
      .replied (statementOf c) (answer (.statement true (statementOf c)) s).1 ::
        sent answer ((next ((ofCall c).run answer s).1).mapAsk ofCall)
          ((ofCall c).run answer s).2 := by
  rw [Program.mapAsk, sent_bind, sent_ofCall]
  rfl

/-- A todo is told of by one statement, which was acknowledged if all went well. -/
theorem telling_ok {news : Todo.News} {eventId : Uuid} {now : Timestamp} {t t' : Todo} {s : σ}
    (h : (((t.telling news eventId now).mapAsk ofCall).run answer s).1 = .ok t') :
    ∃ r, sent answer ((t.telling news eventId now).mapAsk ofCall) s =
      [.replied (Records.insertEvent (t.event news eventId now)) (.ok r)] := by
  unfold Todo.telling at h ⊢
  rw [sent_ask]
  rw [Program.mapAsk, Program.run_bind] at h
  rcases ha : ((ofCall (.enqueue (t.event news eventId now))).run answer s).1 with e | told
  · rw [ha] at h
    cases h
  · obtain ⟨r, hr⟩ := enqueue_ok ha
    refine ⟨r, ?_⟩
    exact congrArg (fun reply => [Said.replied _ reply]) hr

/-- what a todo command has sent when its transaction is committed: `change`, and then the event of the
todo that `changed` finds in the reply -/
def Tells (answer : (a : Ask) → σ → a.Answer × σ) (news : Todo.News) (change : Statement)
    (changed : Reply → Todo → Prop) (eventId : Uuid) (now : Timestamp)
    (work : Work (Except StoreError Todo)) (s : σ) : Prop :=
  ∀ ack, .committed ack ∈ sent answer (command news work) s →
    ∃ r t r', changed r t ∧
      sent answer (command news work) s =
        [.began (.ok ()), .replied change (.ok r),
          .replied (Records.insertEvent (t.event news eventId now)) (.ok r'), .committed ack]

/-- It is enough to look at the work, where it succeeds. -/
theorem tells_of_within {news : Todo.News} {change : Statement} {changed : Reply → Todo → Prop}
    {eventId : Uuid} {now : Timestamp} {work : Work (Except StoreError Todo)} {s : σ}
    (h : ∀ t', Ends answer work s (.ok t') → ∃ r t r', changed r t ∧
      within answer work s = [.replied change (.ok r),
        .replied (Records.insertEvent (t.event news eventId now)) (.ok r')]) :
    Tells answer news change changed eventId now work s := by
  intro ack hend
  rw [sent_command] at hend ⊢
  obtain ⟨t', ht', hsent, _⟩ := committed_mem hend
  obtain ⟨r, t, r', hchanged, hwithin⟩ := h t' ht'
  refine ⟨r, t, r', hchanged, ?_⟩
  rw [hsent, hwithin]
  rfl

theorem creation_tells (t : Todo) (eventId : Uuid) (now : Timestamp) (s : σ) :
    Tells answer .created (insertTodo t) (fun _ t' => t' = t) eventId now
      (t.creation eventId now) s := by
  refine tells_of_within fun t' ht' => ?_
  obtain ⟨_, h⟩ := ht'
  unfold within Todo.creation at *
  rw [sent_ask]
  rw [Program.mapAsk, Program.run_bind] at h
  rcases ha : ((ofCall (.insertTodo t)).run answer (answer .begin s).2).1 with e | isNew
  · rw [ha] at h
    cases h
  · obtain ⟨r, hr⟩ := insertTodo_ok ha
    rw [ha] at h
    obtain ⟨r', hr'⟩ := telling_ok h
    refine ⟨r, t, r', rfl, ?_⟩
    rw [hr']
    exact congrArg (fun reply => [Said.replied _ reply, _]) hr

theorem deletion_tells (id eventId : Uuid) (now : Timestamp) (s : σ) :
    Tells answer .deleted (deleteTodo id)
      (fun r t => ∃ row rest, r.rows = row :: rest ∧ todoOfRow row = .ok t) eventId now
      (Todo.deletion id eventId now) s := by
  refine tells_of_within fun t' ht' => ?_
  obtain ⟨_, h⟩ := ht'
  unfold within Todo.deletion at *
  rw [sent_ask]
  rw [Program.mapAsk, Program.run_bind] at h
  rcases ha : ((ofCall (.deleteTodo id)).run answer (answer .begin s).2).1 with e | t
  · rw [ha] at h
    cases h
  · obtain ⟨r, row, rest, hr, hrow, ht⟩ := deleteTodo_ok ha
    rw [ha] at h
    obtain ⟨r', hr'⟩ := telling_ok h
    refine ⟨r, t, r', ⟨row, rest, hrow, ht⟩, ?_⟩
    rw [hr']
    exact congrArg (fun reply => [Said.replied _ reply, _]) hr

/-- **A transaction sends what it should.**  For every piece of work and every server, which may answer
or fail as it likes: the statements of the work lie between one begin and one end, which is a commit just
if the work succeeded and a rollback just if it failed; what comes out is a success only if the commit was
acknowledged, and otherwise says what went wrong.  So a todo command commits only once its change of the
todo and the event of it were acknowledged. -/
theorem transaction_sends (answer : (a : Ask) → σ → a.Answer × σ) (s : σ) :
    (∀ work : Work (Except StoreError α), Transacted answer work s) ∧
      (∀ t eventId now, Tells answer .created (insertTodo t) (fun _ t' => t' = t) eventId now
        (t.creation eventId now) s) ∧
      ∀ id eventId now, Tells answer .deleted (deleteTodo id)
        (fun r t => ∃ row rest, r.rows = row :: rest ∧ todoOfRow row = .ok t) eventId now
        (Todo.deletion id eventId now) s :=
  ⟨fun work => transacted answer work s, fun t eventId now => creation_tells t eventId now s,
    fun id eventId now => deletion_tells id eventId now s⟩

end

end Sql
end Outbox
