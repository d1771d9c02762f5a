import Outbox.Log
import Outbox.Store

/-!
# What a relay works with

A `Backend σ` is a store, a broker, clocks and a log, all of whose state is `σ`.  Nothing is assumed of
how they answer.
-/

namespace Outbox.Relay

structure Backend (σ : Type) where
  /-- nanoseconds on a clock that only goes forward -/
  now : σ → Nat
  /-- the time of day -/
  wall : σ → Timestamp
  /-- how long a claimed record is hidden from other claims -/
  lease : Duration
  claim : Nat → σ → Except StoreError (List Record) × σ
  write : Write → σ → Except StoreError Unit × σ
  purge : Timestamp → σ → Except StoreError Nat × σ
  /-- a publish begins -/
  call : Record → σ → σ
  /-- a publish ends within its time limit -/
  answer : Record → σ → Except PublishError Unit × σ
  log : Log.Entry → σ → σ

end Outbox.Relay
