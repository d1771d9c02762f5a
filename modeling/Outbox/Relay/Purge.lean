import Outbox.Relay.Batch

/-!
# Removing what was delivered long ago

* `purge`   removes processed records older than the retention, if there is one and time goes back that
            far; the number of records removed.
-/

namespace Outbox.Relay

variable {σ : Type}

def purge (b : Backend σ) (config : Config) (s : σ) : Except StoreError Nat × σ :=
  match config.retention with
  | none => (.ok 0, s)
  | some retention =>
    match (b.wall s).sub? retention with
    | none =>
      (.ok 0, b.log (entry .warn "retention out of range, skipping purge"
        [Log.text "retention" retention.text]) s)
    | some cutoff =>
      match b.purge cutoff s with
      | (.error e, s) => (.error e, s)
      | (.ok n, s) =>
        (.ok n,
          if 0 < n then b.log (entry .info "purged processed outbox events" [Log.count "purged" n]) s
          else s)

end Outbox.Relay
