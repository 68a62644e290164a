import Vigil.Item.Basic
import Vigil.Probe.Attempt
import Vigil.Probe.Target

/-!
# The web probe

The web probe asks for a page. An answer is measured by its latency, its status
and, if it is known, the size of the page, under the keys `rtt`, `code` and
`size`. A status from 200 to 399 is a success; the script of the item may judge
otherwise. A request without an answer is a failure, whatever the script.

The outcome and what stands under these keys and under `error` follow from the
attempts alone: nothing measured before is left, unless the target cannot be
aimed at.
-/

namespace Vigil

/-- The answer of a server to a request. -/
structure WebAnswer where
  latency : Duration
  status : Nat
  /-- The octets of the page, if their number is known beforehand. -/
  size : Option Nat
deriving DecidableEq, Repr

/-- The milliseconds of a latency, by way of its seconds. -/
def Duration.latency (d : Duration) : Float :=
  (d.seconds.toFloat + (d.nanos % nanosPerSecond).toFloat / nanosPerSecond.toFloat) * 1000.0

/-- Why a request has no answer; each with a URL. -/
inductive WebError where
  /-- Nothing came back, in time or at all. -/
  | unanswered (url : String)
  /-- One redirect led to the next too often. -/
  | tooManyRedirects (url : String)
  /-- A redirect leads out of the web. -/
  | foreignRedirect (url : String)
deriving DecidableEq, Repr

def WebError.message (e : WebError) : String :=
  "HTTP request failed: " ++ match e with
    | unanswered url => "error sending request for url (" ++ url ++ ")"
    | tooManyRedirects url => "error following redirect for url (" ++ url ++ ")"
    | foreignRedirect url => "builder error for url (" ++ url ++ ")"

namespace WebProbe

/-- Whether a status stands for a success. -/
def succeeds (status : Nat) : Bool := decide (200 ≤ status ∧ status < 400)

/-- What an answer changes in the readings. -/
def answerEdits (a : WebAnswer) : List Edit :=
  [.set "rtt" (.number a.latency.latency), .set "code" (.text (toString a.status)),
    match a.size with
    | some n => .set "size" (.number n.toFloat)
    | none => .remove "size",
    if succeeds a.status then .remove Readings.errorKey
    else .set Readings.errorKey (.text ("HTTP status " ++ toString a.status))]

/-- What a failure changes in the readings. -/
def failureEdits (error : String) : List Edit :=
  [.remove "rtt", .remove "code", .remove "size", .set Readings.errorKey (.text error)]

/-- What the probe does after its attempts. -/
def conclude (script : String) : Except String WebAnswer → Program
  | .ok a => .edits (answerEdits a)
      (.finish (.judged script (if succeeds a.status then .pass else .fail)))
  | .error e => .edits (failureEdits e) (.finish (.outcome .fail))

variable {σ : Type}

/-- What the probe does for an item; `request` makes one attempt. A target that
cannot be aimed at leaves the measurements as they are. -/
def program (item : Settings) (request : Url → σ → Attempt WebAnswer × σ) (s : σ) : Program × σ :=
  match Target.web item.target with
  | .error e =>
    (.edit (.set Readings.errorKey (.text e.message)) (.finish (.outcome .indeterminate)), s)
  | .ok url =>
    let (trial, s) := Trial.run (request url) item.retry.toNat s
    (trial.program (conclude item.script trial.result), s)

end WebProbe

end Vigil
