import Mathlib.Algebra.GroupWithZero.Nat
import Vigil.Probe.Connection
import Vigil.Proofs.Check.Verdict

/-!
# What is measured anew

The readings of an item come into its check as the last one left them, and a script may look at
all of them. A probe owns the keys of what it measures and of its error: whatever its attempts
come to, it sets or removes what stands under each of them before a script is asked. So a check
does not depend on what stood there, and of two readings that agree outside of these keys it makes
the same.
-/

namespace Vigil

/-! ### Edits of single readings -/

namespace Edit

/-- The key whose reading is changed. -/
def key : Edit → String
  | set key _ => key
  | remove key => key

/-- What stands under the key afterwards. -/
def found : Edit → Option Reading
  | set _ r => some r
  | remove _ => none

theorem getElem?_apply (e : Edit) (m : Readings) (key : String) :
    (e.apply m)[key]? = if e.key = key then e.found else m[key]? := by
  by_cases h : e.key = key
  · cases e <;> simp_all [apply, Edit.key, found]
  · cases e <;> simp_all [apply, Edit.key, Std.ExtTreeMap.getElem?_insert,
      Std.ExtTreeMap.getElem?_erase]

/-- Edits that set or remove what was found, key by key, leave this under their keys. -/
theorem getElem?_foldl {found : String → Option Reading} {es : List Edit}
    (h : ∀ e ∈ es, e.found = found e.key) (m : Readings) (key : String) :
    (es.foldl apply m)[key]? = if key ∈ es.map Edit.key then found key else m[key]? := by
  induction es generalizing m with
  | nil => simp
  | cons e es ih =>
      obtain ⟨hfirst, hrest⟩ := List.forall_mem_cons.1 h
      rw [List.foldl_cons, ih hrest, getElem?_apply, List.map_cons]
      by_cases hlater : key ∈ es.map Edit.key
      · rw [if_pos hlater, if_pos (List.mem_cons_of_mem _ hlater)]
      · by_cases hown : e.key = key
        · rw [if_neg hlater, if_pos hown, if_pos (hown ▸ List.mem_cons_self), hfirst, hown]
        · have hnone : key ∉ e.key :: es.map Edit.key :=
            List.not_mem_cons_of_ne_of_not_mem (Ne.symm hown) hlater
          rw [if_neg hlater, if_neg hown, if_neg hnone]

end Edit

namespace Readings

/-- Readings that differ at most under some keys. -/
def AgreeOutside (owned : List String) (m n : Readings) : Prop :=
  ∀ key ∉ owned, m[key]? = n[key]?

/-- Only what was found is left under the owned keys, and under the others what stood there. -/
def Leaves (owned : List String) (found : String → Option Reading) (m left : Readings) : Prop :=
  ∀ key, left[key]? = if key ∈ owned then found key else m[key]?

variable {owned : List String} {found : String → Option Reading} {m n : Readings}

/-- It is enough that the edits are of the owned keys and set or remove what was found. -/
theorem leaves_foldl {es : List Edit} (hkeys : es.map Edit.key = owned)
    (hfound : ∀ e ∈ es, e.found = found e.key) (m : Readings) :
    Leaves owned found m (es.foldl Edit.apply m) :=
  fun key => hkeys ▸ Edit.getElem?_foldl hfound m key

/-- What stood under the owned keys does not matter for what is left. -/
theorem Leaves.eq {left other : Readings} (hleft : Leaves owned found m left)
    (hother : Leaves owned found n other) (h : AgreeOutside owned m n) : left = other := by
  refine Std.ExtTreeMap.ext_getElem? fun {key} => ?_
  rw [hleft key, hother key]
  split
  · rfl
  · next hkey => exact h key hkey

end Readings

/-! ### Attempts that are made -/

namespace Trial

variable {α σ : Type} {next : σ → Attempt α × σ} {s : σ}

/-- The attempt that comes after `k` others. -/
def attemptAt (next : σ → Attempt α × σ) : σ → Nat → Attempt α
  | s, 0 => (next s).1
  | s, k + 1 => attemptAt next (next s).2 k

/-- The state after `k` attempts. -/
def stateAfter (next : σ → Attempt α × σ) : σ → Nat → σ
  | s, 0 => s
  | s, k + 1 => stateAfter next (next s).2 k

/-- The trial that ends with the attempt after `k` others, and the state after it. -/
def upTo (next : σ → Attempt α × σ) (s : σ) (k : Nat) : Trial α × σ :=
  (⟨(List.range k).map (attemptAt next s), attemptAt next s k⟩, stateAfter next s (k + 1))

/-- A trial with one more failure before its attempts. -/
def cons (a : Attempt α) (r : Trial α × σ) : Trial α × σ :=
  ({ r.1 with failed := a :: r.1.failed }, r.2)

theorem attempts_upTo (k : Nat) :
    (upTo next s k).1.attempts = (List.range (k + 1)).map (attemptAt next s) := by
  rw [List.range_succ, List.map_append]
  rfl

theorem upTo_succ (next : σ → Attempt α × σ) (s : σ) (k : Nat) :
    upTo next s (k + 1) = cons (next s).1 (upTo next (next s).2 k) := by
  rw [upTo, List.range_succ_eq_map, List.map_cons, List.map_map]
  rfl

theorem run_succ (next : σ → Attempt α × σ) (retries : Nat) (s : σ) :
    run next (retries + 1) s =
      if (next s).1.result.isOk then upTo next s 0
      else cons (next s).1 (run next retries (next s).2) := rfl

/-- The attempts that are made end with the first success, or with the one that no other may
follow. -/
theorem run_eq_upTo {k retries : Nat} (hk : k ≤ retries)
    (hfailed : ∀ i < k, (attemptAt next s i).result.isOk = false)
    (hends : (attemptAt next s k).result.isOk = true ∨ k = retries) :
    run next retries s = upTo next s k := by
  induction retries generalizing s k with
  | zero =>
      obtain rfl : k = 0 := Nat.le_zero.1 hk
      rfl
  | succ retries ih =>
      rw [run_succ]
      by_cases hfirst : (next s).1.result.isOk = true
      · obtain rfl : k = 0 := by
          rcases Nat.eq_zero_or_pos k with hzero | hpos
          · exact hzero
          · exact absurd hfirst (Bool.eq_false_iff.1 (hfailed 0 hpos))
        rw [if_pos hfirst]
      · cases k with
        | zero =>
            rcases hends with hok | hlast
            · exact absurd hok hfirst
            · exact absurd hlast (Nat.succ_ne_zero _).symm
        | succ k =>
            rw [if_neg hfirst, upTo_succ, ih (Nat.le_of_succ_le_succ hk)
              (fun i hi => hfailed (i + 1) (Nat.succ_lt_succ hi))
              (hends.imp_right Nat.succ.inj)]

/-- The last attempt is the first success, or the one that no other may follow. -/
theorem last_run {k retries : Nat} (hk : k ≤ retries)
    (hfailed : ∀ i < k, (attemptAt next s i).result.isOk = false)
    (hends : (attemptAt next s k).result.isOk = true ∨ k = retries) :
    (run next retries s).1.last = attemptAt next s k := by
  rw [run_eq_upTo hk hfailed hends, upTo]

/-- How long the attempts took together. -/
def time (t : Trial α) : Nat := (t.attempts.map fun a => a.duration.nanos).sum

end Trial

/-! ### Programs that end -/

namespace Program

/-- With time enough, a check that starts with some readings comes to an outcome and leaves some
readings. -/
def EndsWith (p : Program) (m : Readings) (v : Outcome × Readings) : Prop :=
  ∃ needed : Nat, ∀ budget : Duration, needed ≤ budget.nanos →
    p.conclude budget m = .finished v.1 v.2

/-- A check that starts with some readings and may take as long as `moment` comes to an outcome
and leaves some readings. -/
def EndsBy (p : Program) (m : Readings) (moment : Nat) (v : Outcome × Readings) : Prop :=
  ∀ budget : Duration, moment ≤ budget.nanos → p.conclude budget m = .finished v.1 v.2

theorem EndsBy.endsWith {p : Program} {m : Readings} {moment : Nat} {v : Outcome × Readings}
    (h : p.EndsBy m moment v) : p.EndsWith m v :=
  ⟨moment, h⟩

theorem run_edits (total : Duration) (budget : Nat) (m : Readings) (es : List Edit)
    (rest : Program) :
    (edits es rest).run total budget m = rest.run total budget (es.foldl Edit.apply m) := by
  induction es generalizing m with
  | nil => rfl
  | cons e es ih => exact ih (e.apply m)

/-- What comes after some attempts starts when they have taken their time. -/
theorem run_sleeps {α : Type} (total : Duration) (m : Readings) (rest : Program)
    {as : List (Attempt α)} {budget : Nat}
    (h : (as.map fun a => a.duration.nanos).sum ≤ budget) :
    (as.foldr (fun a p => sleep a.duration p) rest).run total budget m =
      rest.run total (budget - (as.map fun a => a.duration.nanos).sum) m := by
  induction as generalizing budget with
  | nil => rfl
  | cons a as ih =>
      rw [List.map_cons, List.sum_cons] at h ⊢
      rw [List.foldr_cons, run, if_pos (by omega), ih (by omega), Nat.sub_sub]

/-- A probe that makes its attempts, edits the readings and is done comes to an end with its last
attempt. -/
theorem endsBy_trial {α : Type} (t : Trial α) (es : List Edit) {e : Ending} {m : Readings}
    {v : Outcome × Readings}
    (hv : e.conclude (es.foldl Edit.apply m) = .finished v.1 v.2) :
    (t.program (edits es (finish e))).EndsBy m t.time v := by
  intro budget henough
  rw [conclude, Trial.program, run_sleeps budget m _ henough, run_edits]
  exact hv

end Program

/-! ### Probes that measure -/

/-- What a probe measures. -/
structure Gauge (α : Type) where
  /-- The keys of the measurements. The text of a failure has a key of its own. -/
  measured : List String
  /-- What stands under the keys of the probe after an answer. -/
  found : α → String → Option Reading
  /-- The outcome that an answer stands for, unless a script decides. -/
  given : α → Outcome

namespace Gauge

variable {α σ : Type}

/-- The keys that the probe sets or removes. -/
def owned (g : Gauge α) : List String := g.measured ++ [Readings.errorKey]

/-- What stands under the keys of a probe after a failure: the text of the failure. -/
def foundNothing (error key : String) : Option Reading :=
  if key = Readings.errorKey then some (.text error) else none

/-- The check of a probe whose attempts are made one after another from a state. -/
structure Decides (g : Gauge α) (script : String) (retries : Nat) (next : σ → Attempt α × σ)
    (s : σ) (p : Program) : Prop where
  /-- What stood under the keys of the probe does not matter. -/
  same : ∀ m n, Readings.AgreeOutside g.owned m n → ∃ v, p.EndsWith m v ∧ p.EndsWith n v
  /-- The first success decides, and the script, which is shown what it found. -/
  answered : ∀ k a, k ≤ retries → (∀ i < k, (Trial.attemptAt next s i).result.isOk = false) →
    (Trial.attemptAt next s k).result = .ok a →
      ∀ m, ∃ left, Readings.Leaves g.owned (g.found a) m left ∧
        p.EndsWith m (Script.ruling script (g.given a) left)
  /-- Without a success the check has failed, whatever the script, and nothing measured is left. -/
  failed : ∀ e, (∀ i < retries, (Trial.attemptAt next s i).result.isOk = false) →
    (Trial.attemptAt next s retries).result = .error e →
      ∀ m, ∃ left, Readings.Leaves g.owned (foundNothing e) m left ∧ p.EndsWith m (.fail, left)

section

variable {g : Gauge α} {script : String} {answerEdits : α → List Edit}
  {failureEdits : String → List Edit} {conclude : Except String α → Program}
  (hok : ∀ a, conclude (.ok a) = .edits (answerEdits a) (.finish (.judged script (g.given a))))
  (herror : ∀ e, conclude (.error e) = .edits (failureEdits e) (.finish (.outcome .fail)))

include hok in
theorem endsBy_of_ok {t : Trial α} {a : α} (h : t.result = .ok a) (m : Readings) :
    (t.program (conclude t.result)).EndsBy m t.time
      (Script.ruling script (g.given a) ((answerEdits a).foldl Edit.apply m)) := by
  rw [h, hok, ← Script.judge_eq]
  exact Program.endsBy_trial t _ rfl

include herror in
theorem endsBy_of_error {t : Trial α} {e : String} (h : t.result = .error e) (m : Readings) :
    (t.program (conclude t.result)).EndsBy m t.time
      (.fail, (failureEdits e).foldl Edit.apply m) := by
  rw [h, herror]
  exact Program.endsBy_trial t _ rfl

include hok herror in
/-- It is enough that the edits after an answer and after a failure leave what was found. -/
theorem decides_trial {retries : Nat} {next : σ → Attempt α × σ} {s : σ}
    (hanswer : ∀ a m, Readings.Leaves g.owned (g.found a) m ((answerEdits a).foldl Edit.apply m))
    (hfailure : ∀ e m,
      Readings.Leaves g.owned (foundNothing e) m ((failureEdits e).foldl Edit.apply m)) :
    g.Decides script retries next s
      ((Trial.run next retries s).1.program (conclude (Trial.run next retries s).1.result)) where
  same m n hagree := by
    cases hresult : (Trial.run next retries s).1.result with
    | ok a =>
        have hleft := (hanswer a m).eq (hanswer a n) hagree
        rw [← hresult]
        exact ⟨_, (endsBy_of_ok hok hresult m).endsWith,
          hleft ▸ (endsBy_of_ok hok hresult n).endsWith⟩
    | error e =>
        have hleft := (hfailure e m).eq (hfailure e n) hagree
        rw [← hresult]
        exact ⟨_, (endsBy_of_error herror hresult m).endsWith,
          hleft ▸ (endsBy_of_error herror hresult n).endsWith⟩
  answered k a hk hbefore hfirst m := by
    have hlast := Trial.last_run hk hbefore (.inl (by rw [hfirst]; rfl))
    have hresult : (Trial.run next retries s).1.result = .ok a := by
      rw [Trial.result, hlast, hfirst]
    exact ⟨_, hanswer a m, (endsBy_of_ok hok hresult m).endsWith⟩
  failed e hbefore hfinal m := by
    have hlast := Trial.last_run (Nat.le_refl _) hbefore (.inr rfl)
    have hresult : (Trial.run next retries s).1.result = .error e := by
      rw [Trial.result, hlast, hfinal]
    exact ⟨_, hfailure e m, (endsBy_of_error herror hresult m).endsWith⟩

end

end Gauge

/-! ### The two probes -/

/-- What the web probe measures: the latency in milliseconds, the status, and the size of the page
if it is known. -/
def WebProbe.gauge : Gauge WebAnswer where
  measured := ["rtt", "code", "size"]
  found a key :=
    if key = "rtt" then some (.number a.latency.latency)
    else if key = "code" then some (.text (toString a.status))
    else if key = "size" then a.size.map fun n => .number n.toFloat
    else if 200 ≤ a.status ∧ a.status < 400 then none
    else some (.text ("HTTP status " ++ toString a.status))
  given a := if 200 ≤ a.status ∧ a.status < 400 then .pass else .fail

/-- What the connection probe measures: the latency in milliseconds. -/
def ConnectionProbe.gauge : Gauge Duration where
  measured := ["rtt"]
  found latency key := if key = "rtt" then some (.number latency.latency) else none
  given _ := .pass

theorem WebProbe.leaves_answerEdits (a : WebAnswer) (m : Readings) :
    Readings.Leaves gauge.owned (gauge.found a) m ((answerEdits a).foldl Edit.apply m) := by
  rcases a with ⟨latency, status, _ | size⟩ <;> by_cases h : 200 ≤ status ∧ status < 400 <;>
    refine Readings.leaves_foldl ?_ ?_ m <;>
    simp [answerEdits, succeeds, h, Edit.key, Edit.found, gauge, Gauge.owned, Readings.errorKey]

theorem WebProbe.leaves_failureEdits (e : String) (m : Readings) :
    Readings.Leaves gauge.owned (Gauge.foundNothing e) m ((failureEdits e).foldl Edit.apply m) := by
  refine Readings.leaves_foldl rfl ?_ m
  simp [failureEdits, Edit.key, Edit.found, Gauge.foundNothing, Readings.errorKey]

theorem ConnectionProbe.leaves_answerEdits (latency : Duration) (m : Readings) :
    Readings.Leaves gauge.owned (gauge.found latency) m
      ([.set "rtt" (.number latency.latency), .remove Readings.errorKey].foldl Edit.apply m) := by
  refine Readings.leaves_foldl rfl ?_ m
  simp [gauge, Edit.key, Edit.found, Readings.errorKey]

theorem ConnectionProbe.leaves_failureEdits (e : String) (m : Readings) :
    Readings.Leaves gauge.owned (Gauge.foundNothing e) m
      ([.remove "rtt", .set Readings.errorKey (.text e)].foldl Edit.apply m) := by
  refine Readings.leaves_foldl rfl ?_ m
  simp [Edit.key, Edit.found, Gauge.foundNothing, Readings.errorKey]

/-- A check of either probe whose target can be aimed at never sees what an earlier one measured. -/
theorem decides_by_attempts {web socket : Settings} {url : Url} {host : String} {port : Nat}
    (hweb : Target.web web.target = .ok url)
    (hsocket : Target.socket socket.target = .ok (host, port)) {σ : Type} :
    (∀ (request : Url → σ → Attempt WebAnswer × σ) (s : σ),
      WebProbe.gauge.Decides web.script web.retry.toNat (request url) s
        (WebProbe.program web request s).1) ∧
    ∀ (connect : String → Nat → σ → Attempt Duration × σ) (s : σ),
      ConnectionProbe.gauge.Decides socket.script socket.retry.toNat (connect host port) s
        (ConnectionProbe.program socket connect s).1 := by
  constructor
  · intro request s
    rw [WebProbe.program, hweb]
    refine Gauge.decides_trial (fun a => ?_) (fun _ => rfl) WebProbe.leaves_answerEdits
      WebProbe.leaves_failureEdits
    simp [WebProbe.conclude, WebProbe.gauge, WebProbe.succeeds]
  · intro connect s
    rw [ConnectionProbe.program, hsocket]
    exact Gauge.decides_trial (fun _ => rfl) (fun _ => rfl) ConnectionProbe.leaves_answerEdits
      ConnectionProbe.leaves_failureEdits

namespace Sample

/-- A page of the machine itself, which is asked for twice at most. -/
def page (script : String) : Settings :=
  { Settings.standard ⟨2⟩ "page" "http" "http://[::1]/" with script }

def port : Settings := { Settings.standard ⟨2⟩ "port" "tcp" "h:1" with script := "true" }

def url : Url :=
  ⟨false, "", "", .ipv6 ⟨[0, 0, 0, 0, 0, 0, 0, 1], rfl⟩, none, [""], none, none⟩

/-- The page is out of service. -/
def answer : WebAnswer := ⟨.ofMillis 12, 503, none⟩

/-- The second attempt has an answer, and no other. -/
def request (_ : Url) (made : Nat) : Attempt WebAnswer × Nat :=
  (⟨.ofMillis 3, if made = 1 then .ok answer else .error "no answer"⟩, made + 1)

/-- No attempt has an answer. -/
def refuse (_ : String) (_ made : Nat) : Attempt Duration × Nat :=
  (⟨.ofMillis 3, .error ("refused " ++ toString made)⟩, made + 1)

/-- What earlier checks have left. -/
def stale : Readings :=
  [.set "rtt" (.number 7.0), .set "code" (.text "200"), .set "size" (.number 5.0),
    .set "error" (.text "old"), .set "note" (.text "kept")].foldl Edit.apply .empty

/-- What the answer leaves for a script. -/
def fresh : Readings :=
  [.set "rtt" (.number 12.0), .set "code" (.text "503"), .remove "size",
    .set "error" (.text "HTTP status 503")].foldl Edit.apply stale

theorem eq_fresh {left : Readings}
    (h : Readings.Leaves WebProbe.gauge.owned (WebProbe.gauge.found answer) stale left) :
    left = fresh := by
  have hlatency : answer.latency.latency = 12.0 := by decide +kernel
  have hedits : (WebProbe.answerEdits answer).foldl Edit.apply stale = fresh := by
    rw [fresh, ← hlatency]
    rfl
  rw [← hedits]
  exact h.eq (WebProbe.leaves_answerEdits answer stale) fun _ _ => rfl

end Sample

/-- A page answers at the second attempt. A script is shown what was found, and an old size is gone
for it. A port that does not answer at all has failed, whatever the script. -/
theorem decides_by_attempts_sample :
    let check (script : String) := (WebProbe.program (Sample.page script) Sample.request 0).1
    Target.web (Sample.page "").target = .ok Sample.url ∧
      Target.socket Sample.port.target = .ok ("h", 1) ∧
      (check "").EndsWith Sample.stale (.fail, Sample.fresh) ∧
      (check "code == 503").EndsWith Sample.stale (.pass, Sample.fresh.erase "error") ∧
      (check "code == 200").EndsWith Sample.stale (.fail, Sample.fresh) ∧
      (check "size < 10").EndsWith Sample.stale
        (.indeterminate, Sample.fresh.insert "error" (.text "script: unknown variable: size")) ∧
      ∃ left, (ConnectionProbe.program Sample.port Sample.refuse 0).1.EndsWith Sample.stale
        (.fail, left) ∧ left["rtt"]? = none ∧ left["error"]? = some (.text "refused 1") := by
  intro check
  have htarget : Target.web "http://[::1]/" = .ok Sample.url := rfl
  have hsocket : Target.socket Sample.port.target = .ok ("h", 1) := rfl
  have hretry : 1 ≤ (1 : UInt32).toNat := by decide
  have hanswered (script : String) :
      (check script).EndsWith Sample.stale (Script.ruling script .fail Sample.fresh) := by
    obtain ⟨hpage, -⟩ :=
      @decides_by_attempts (Sample.page script) Sample.port Sample.url "h" 1 htarget hsocket Nat
    obtain ⟨left, hleft, hends⟩ :=
      (hpage Sample.request 0).answered 1 Sample.answer hretry (by decide) rfl Sample.stale
    exact Sample.eq_fresh hleft ▸ hends
  obtain ⟨-, hport⟩ :=
    @decides_by_attempts (Sample.page "") Sample.port Sample.url "h" 1 htarget hsocket Nat
  obtain ⟨left, hleft, hends⟩ :=
    (hport Sample.refuse 0).failed "refused 1" (by decide) rfl Sample.stale
  have hblank : Script.ruling "" .fail Sample.fresh = (.fail, Sample.fresh) := if_pos (by simp)
  have htrue : Script.evaluate Sample.fresh "code == 503" = .ok true := rfl
  have hfalse : Script.evaluate Sample.fresh "code == 200" = .ok false := rfl
  have hgone : Script.evaluate Sample.fresh "size < 10" = .error (.unknownVariable "size") :=
    rfl
  refine ⟨htarget, hsocket, hblank ▸ hanswered "", ?_, ?_, ?_, left, hends, hleft "rtt",
    hleft "error"⟩
  · have hpass : Script.ruling "code == 503" .fail Sample.fresh =
        (.pass, Sample.fresh.erase "error") := by
      rw [Script.ruling, if_neg (by decide), htrue]
    exact hpass ▸ hanswered _
  · have hfail : Script.ruling "code == 200" .fail Sample.fresh = (.fail, Sample.fresh) := by
      rw [Script.ruling, if_neg (by decide), hfalse]
    exact hfail ▸ hanswered _
  · have hbroken : Script.ruling "size < 10" .fail Sample.fresh =
        (.indeterminate,
          Sample.fresh.insert "error" (.text "script: unknown variable: size")) := by
      rw [Script.ruling, if_neg (by decide), hgone]
      rfl
    exact hbroken ▸ hanswered _

end Vigil
