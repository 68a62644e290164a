import Vigil.Probe.Web

/-!
# The connection probe

The connection probe opens a connection and closes it again. How long that took
stands under the key `rtt`. A connection is a success unless the script of the
item judges otherwise; without a connection the check is a failure.
-/

namespace Vigil

/-- Why there is no connection. -/
inductive ConnectionError where
  | timeout
  | refused
deriving DecidableEq, Repr

def ConnectionError.message : ConnectionError → String
  | timeout => "TCP connection timeout"
  | refused => "TCP connection failed: Connection refused (os error 111)"

namespace ConnectionProbe

/-- What the probe does after its attempts. -/
def conclude (script : String) : Except String Duration → Program
  | .ok latency => .edits [.set "rtt" (.number latency.latency), .remove Readings.errorKey]
      (.finish (.judged script .pass))
  | .error e => .edits [.remove "rtt", .set Readings.errorKey (.text e)]
      (.finish (.outcome .fail))

variable {σ : Type}

/-- What the probe does for an item; `connect` makes one attempt. -/
def program (item : Settings) (connect : String → Nat → σ → Attempt Duration × σ) (s : σ) :
    Program × σ :=
  match Target.socket item.target with
  | .error e =>
    (.edit (.set Readings.errorKey (.text e.message)) (.finish (.outcome .indeterminate)), s)
  | .ok (host, port) =>
    let (trial, s) := Trial.run (connect host port) item.retry.toNat s
    (trial.program (conclude item.script trial.result), s)

end ConnectionProbe

end Vigil
