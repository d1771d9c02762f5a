import Outbox.Error

/-!
# Rollbacks that failed

When a rollback fails, its reason is put around the error that led to it, and that may happen again and
again.

* `rollbacks`              why the rollbacks failed, the first of them first;
* `cause?`, `within?`      the error right inside, and the one so many levels further in;
* `foldl_rollbacks`        the root and the reasons make up the error;
* `message_eq`             its text, part by part;
* `getElem?_texts`         each text of the chain is that of the error at this level;
* `nothing_hidden`         what is told of the root and of each rollback.
-/

namespace Outbox.StoreError

def rollbacks : StoreError → List String
  | .rollbackFailed cause rollback => cause.rollbacks ++ [rollback]
  | _ => []

def cause? : StoreError → Option StoreError
  | .rollbackFailed cause _ => some cause
  | _ => none

def within? : Nat → StoreError → Option StoreError
  | 0, e => some e
  | k + 1, e => e.cause?.bind (within? k)

/-! ## the root

All inductions go from the inside outwards: an error that is no failed rollback is its own root, and has
neither reasons nor causes. -/

theorem root_ne_rollbackFailed (e cause : StoreError) (rollback : String) :
    e.root ≠ .rollbackFailed cause rollback := by
  induction e with
  | rollbackFailed inner _ ih => exact ih
  | _ => exact nofun

theorem foldl_rollbacks (e : StoreError) : e.rollbacks.foldl .rollbackFailed e.root = e := by
  induction e with
  | rollbackFailed cause rollback ih =>
    show (cause.rollbacks ++ [rollback]).foldl .rollbackFailed cause.root = _
    rw [List.foldl_append, ih]
    rfl
  | _ => rfl

theorem within?_length_rollbacks (e : StoreError) : e.within? e.rollbacks.length = some e.root := by
  induction e with
  | rollbackFailed cause rollback ih =>
    show within? (cause.rollbacks ++ [rollback]).length _ = _
    rw [List.length_append]
    exact ih
  | _ => rfl

/-! ## texts -/

theorem message_eq (e : StoreError) :
    e.message = e.root.message ++ String.join (e.rollbacks.map ("; rollback also failed: " ++ ·)) := by
  induction e with
  | rollbackFailed cause rollback ih =>
    have hlast : String.join ([rollback].map ("; rollback also failed: " ++ ·)) =
        "; rollback also failed: " ++ rollback := by
      rw [List.map_singleton, String.join_cons, String.join_nil, String.append_empty]
    show cause.message ++ "; rollback also failed: " ++ rollback =
      cause.root.message ++ String.join ((cause.rollbacks ++ [rollback]).map _)
    rw [List.map_append, String.join_append, hlast, ← String.append_assoc, ← ih, String.append_assoc]
  | _ => exact String.append_empty.symm

theorem length_causes (e : StoreError) : e.causes.length = e.rollbacks.length := by
  induction e with
  | rollbackFailed cause rollback ih =>
    show cause.causes.length + 1 = (cause.rollbacks ++ [rollback]).length
    rw [ih, List.length_append, List.length_singleton]
  | _ => rfl

theorem getElem?_texts (e : StoreError) (k : Nat) :
    (e.message :: e.causes)[k]? = (e.within? k).map message := by
  induction e generalizing k with
  | rollbackFailed cause rollback ih =>
    cases k with
    | zero => rfl
    | succ k => exact ih k
  | _ => cases k <;> rfl

/-- The chain ends at the root. -/
theorem getLast?_texts (e : StoreError) : (e.message :: e.causes).getLast? = some e.root.message := by
  rw [List.getLast?_eq_getElem?, List.length_cons, Nat.add_sub_cancel, getElem?_texts, length_causes,
    within?_length_rollbacks, Option.map_some]

/-- **A failed rollback hides nothing.**  However many rollbacks failed, there is a root, which is no failed
rollback, and the way inwards comes to it after just as many steps; the root and the reasons make up the
whole error.  The text is the text of the root, with each reason behind it in the order of the rollbacks.
The causes are as many as the rollbacks: each is the text of the next error further in, and the last one is
that of the root. -/
theorem nothing_hidden (e : StoreError) :
    (∀ cause rollback, e.root ≠ .rollbackFailed cause rollback) ∧
      e.within? e.rollbacks.length = some e.root ∧
      e.rollbacks.foldl .rollbackFailed e.root = e ∧
      e.message =
        e.root.message ++ String.join (e.rollbacks.map ("; rollback also failed: " ++ ·)) ∧
      e.causes.length = e.rollbacks.length ∧
      (∀ k, e.causes[k]? = (e.within? (k + 1)).map message) ∧
      (e.message :: e.causes).getLast? = some e.root.message :=
  ⟨e.root_ne_rollbackFailed, e.within?_length_rollbacks, e.foldl_rollbacks, e.message_eq, e.length_causes,
    fun k => e.getElem?_texts (k + 1), e.getLast?_texts⟩

/-- A todo was not there, and then two rollbacks failed. -/
example :
    let e : StoreError := .rollbackFailed (.rollbackFailed (.domain "todo not found") "timeout") "reset"
    e.root = .domain "todo not found" ∧ e.rollbacks = ["timeout", "reset"] ∧
      e.causes = ["domain error: todo not found; rollback also failed: timeout",
        "domain error: todo not found"] := by
  decide

end Outbox.StoreError
