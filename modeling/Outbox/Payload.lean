import Outbox.Json.Value

/-!
# Payloads before they have a JSON form

* `Payload`         what a producer hands over;
* `Payload.encode`  its JSON value, or why there is none.

Keys of maps become strings, numbers included; bytes cannot be keys.  Natural numbers must fit 64 bits.
-/

namespace Outbox

/-- A key of a map. -/
inductive Payload.Key where
  | text (s : String)
  | int (i : Int)
  | bytes (bs : List UInt8)

inductive Payload where
  | json (v : Json)
  | real (x : Float)
  | natural (n : Nat)
  | list (items : List Payload)
  | map (entries : List (Payload.Key × Payload))
  /-- data whose own encoder gives up -/
  | refused (reason : String)

namespace Payload

def Key.encode : Key → Except String String
  | .text s => .ok s
  | .int i => .ok (String.ofList (Decimal.intDigits i))
  | .bytes _ => .error "key must be a string"

mutual

def encode : Payload → Except String Json
  | .json v => .ok v
  | .real x => .ok (Json.real x)
  | .natural n => if n < UInt64.size then .ok (.int n) else .error "number out of range"
  | .list items => (encodeItems items).map Json.list
  | .map entries => (encodeEntries entries).map Json.ofMembers
  | .refused reason => .error reason

def encodeItems : List Payload → Except String (List Json)
  | [] => .ok []
  | p :: ps => do
    let v ← encode p
    let vs ← encodeItems ps
    .ok (v :: vs)

def encodeEntries : List (Key × Payload) → Except String (List (String × Json))
  | [] => .ok []
  | (k, p) :: ps => do
    let k ← k.encode
    let v ← encode p
    let rest ← encodeEntries ps
    .ok ((k, v) :: rest)

end

end Payload

end Outbox
