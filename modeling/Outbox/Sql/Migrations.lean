import Outbox.Sql.Session

/-!
# Migrations

* `Migration`    a change of the database's tables, made once, in the order of the versions;
* `migrations`   all of them;
* `migrate`      makes them, each in a transaction of its own, up to the first that fails.
-/

namespace Outbox.Sql

structure Migration where
  version : Nat
  description : String
  text : String
  deriving Repr, Inhabited

def outboxTable : Migration where
  version := 20250101000001
  description := "create outbox events"
  text :=
    r"-- Transactional outbox: one row per notification waiting to reach the broker.
CREATE TABLE IF NOT EXISTS outbox_events (
    id UUID PRIMARY KEY,
    entity_type TEXT NOT NULL,
    entity_id UUID NOT NULL,
    topic TEXT NOT NULL,
    event_type TEXT NOT NULL,
    payload JSONB NOT NULL,
    status TEXT NOT NULL DEFAULT 'PENDING'
        CHECK (status IN ('PENDING', 'PROCESSED', 'FAILED')),
    retry_count INTEGER NOT NULL DEFAULT 0 CHECK (retry_count >= 0),
    max_retries INTEGER NOT NULL DEFAULT 5,
    last_error TEXT,
    dedupe_key TEXT,
    available_at TIMESTAMPTZ NOT NULL DEFAULT NOW(),
    processed_at TIMESTAMPTZ,
    created_at TIMESTAMPTZ NOT NULL
);

-- Enqueue idempotency: at most one row per non-null dedupe key
CREATE UNIQUE INDEX IF NOT EXISTS idx_outbox_events_dedupe_key
    ON outbox_events (dedupe_key)
    WHERE dedupe_key IS NOT NULL;

-- Relay claim query
CREATE INDEX IF NOT EXISTS idx_outbox_events_status_available
    ON outbox_events (status, available_at, created_at);
"

def todosTable : Migration where
  version := 20250101000002
  description := "create todos"
  text :=
    r"-- Sample domain table written alongside outbox events in one Unit of Work.
CREATE TABLE IF NOT EXISTS todos (
    id UUID PRIMARY KEY,
    title TEXT NOT NULL,
    completed BOOLEAN NOT NULL DEFAULT FALSE,
    created_at TIMESTAMPTZ NOT NULL
);
"

def migrations : List Migration := [outboxTable, todosTable]

def migrate : List Migration → Session (Except String Unit)
  | [] => .done (.ok ())
  | m :: rest =>
    .ask .begin fun
      | .error reason => .done (.error reason)
      | .ok () =>
        .ask (.statement true ⟨m.text, [], []⟩) fun
          | .error reason => .ask .rollback fun _ => .done (.error reason)
          | .ok _ =>
            .ask .commit fun
              | .error reason => .done (.error reason)
              | .ok () => migrate rest

end Outbox.Sql
