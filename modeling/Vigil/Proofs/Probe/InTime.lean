import Mathlib.Algebra.Group.Action.Defs
import Mathlib.Algebra.Order.BigOperators.Group.List
import Mathlib.Algebra.Order.Ring.Nat
import Vigil.Proofs.Check.BenchDispatch
import Vigil.Proofs.Probe.Remeasure
import Vigil.Proofs.Scheduler.Tick
import Vigil.Simulation.Network

/-!
# Checks that end in time

Each attempt of a check has a timeout, and the check as a whole has a budget. The budget is the
time of all the attempts that may be made, and a grace on top (`Settings.nanos_budget?`). As no
more attempts are made than that, a check whose attempts keep their timeout ends before its budget
does, with the grace to spare, and is not cut off (`ends_in_time`): a probe that is always there
comes to an outcome of its own, however slow its target is.
-/

namespace Vigil

/-! ### The time of the attempts -/

namespace Trial

variable {α σ : Type} {next : σ → Attempt α × σ} {s : σ}

/-- Some attempts are made, at most as many as may be. -/
theorem exists_run_eq_upTo (next : σ → Attempt α × σ) (retries : Nat) (s : σ) :
    ∃ k ≤ retries, run next retries s = upTo next s k := by
  induction retries generalizing s with
  | zero => exact ⟨0, Nat.le_refl _, rfl⟩
  | succ retries ih =>
      rw [run_succ]
      split
      · exact ⟨0, Nat.zero_le _, rfl⟩
      · obtain ⟨k, hk, hrun⟩ := ih (next s).2
        exact ⟨k + 1, Nat.succ_le_succ hk, by rw [upTo_succ, hrun]⟩

/-- Every attempt that might be made takes as long as a limit at most. -/
def WithinLimit (limit : Duration) (next : σ → Attempt α × σ) (s : σ) : Prop :=
  ∀ i, (attemptAt next s i).duration.nanos ≤ limit.nanos

theorem time_upTo_le {limit : Duration} (h : WithinLimit limit next s) (k : Nat) :
    (upTo next s k).1.time ≤ (k + 1) * limit.nanos := by
  have hsum := List.sum_le_card_nsmul
    ((upTo next s k).1.attempts.map fun a => a.duration.nanos) limit.nanos
  simp only [attempts_upTo, List.map_map, List.length_map, List.length_range, smul_eq_mul,
    List.forall_mem_map, Function.comp_apply] at hsum
  rw [time, attempts_upTo, List.map_map]
  exact hsum fun i _ => h i

/-- It is enough that each attempt keeps the limit in some states, and leaves such a state. -/
theorem withinLimit_of_kept {P : σ → Prop} {limit : Duration}
    (hstep : ∀ s, P s → (next s).1.duration.nanos ≤ limit.nanos ∧ P (next s).2) (hs : P s) :
    WithinLimit limit next s := by
  intro i
  induction i generalizing s with
  | zero => exact (hstep s hs).1
  | succ i ih => exact ih (hstep s hs).2

end Trial

theorem Duration.eq_of_plus? {d e r : Duration} (h : d.plus? e = some r) :
    ⟨d.nanos + e.nanos⟩ = r := by
  simp only [plus?] at h
  split at h
  · exact Option.some.inj h
  · cases h

namespace Settings

variable {settings : Settings} {grace budget : Duration}

/-- A budget is the timeouts of all attempts that may be made, and the grace. -/
theorem nanos_budget? (h : settings.budget? grace = some budget) :
    (settings.retry.toNat + 1) * settings.timeout.nanos + grace.nanos = budget.nanos := by
  unfold budget? at h
  split at h
  · obtain ⟨all, hall, hplus⟩ := Option.bind_eq_some_iff.1 h
    rw [← Duration.eq_of_plus? hplus, ← Duration.eq_of_times? hall, Nat.mul_comm]
  · cases h

end Settings

/-- What a check makes of its attempts in its budget. -/
structure Trial.FitsBudget {α σ : Type} (settings : Settings) (grace budget : Duration)
    (next : σ → Attempt α × σ) (s : σ) : Prop where
  /-- The first success ends the attempts, if it may be made. -/
  succeeded : ∀ k ≤ settings.retry.toNat,
    (∀ i < k, (attemptAt next s i).result.isOk = false) →
      (attemptAt next s k).result.isOk = true →
        run next settings.retry.toNat s = upTo next s k
  /-- Without one all attempts are made that may be. -/
  failed : (∀ i ≤ settings.retry.toNat, (attemptAt next s i).result.isOk = false) →
    run next settings.retry.toNat s = upTo next s settings.retry.toNat
  /-- The attempts together leave the grace of the budget. -/
  spare : (run next settings.retry.toNat s).1.time + grace.nanos ≤ budget.nanos

theorem Trial.fitsBudget {α σ : Type} {settings : Settings} {grace budget : Duration}
    (hbudget : settings.budget? grace = some budget) {next : σ → Attempt α × σ} {s : σ}
    (h : WithinLimit settings.timeout next s) : FitsBudget settings grace budget next s where
  succeeded k hk hfailed hok := run_eq_upTo hk hfailed (.inl hok)
  failed hfailed := run_eq_upTo (Nat.le_refl _) (fun i hi => hfailed i (Nat.le_of_lt hi)) (.inr rfl)
  spare := by
    obtain ⟨k, hk, hrun⟩ := exists_run_eq_upTo next settings.retry.toNat s
    have htime : (upTo next s k).1.time ≤ (settings.retry.toNat + 1) * settings.timeout.nanos :=
      (time_upTo_le h k).trans (Nat.mul_le_mul_right _ (Nat.succ_le_succ hk))
    have hsum := Settings.nanos_budget? hbudget
    rw [hrun]
    omega

/-! ### Checks that are not cut off -/

/-- The sleeps of a check that was not cut off are no longer than its budget. -/
theorem Program.inReach_of_run {total : Duration} {budget : Nat} {m : Readings} {p : Program}
    {o : Outcome} {left : Readings} (hbudget : budget / nanosPerSecond < Duration.timerLimit)
    (h : p.run total budget m = .finished o left) : p.InReach := by
  induction p generalizing budget m with
  | finish e => trivial
  | edit e rest ih => exact ih hbudget h
  | sleep d rest ih =>
      rw [run] at h
      split at h
      · next hle =>
        have hsleep : d.seconds ≤ budget / nanosPerSecond := Nat.div_le_div_right hle
        have hrest : (budget - d.nanos) / nanosPerSecond ≤ budget / nanosPerSecond :=
          Nat.div_le_div_right (Nat.sub_le _ _)
        exact ⟨by omega, ih (by omega) h⟩
      · cases h
  | await rest => trivial

/-- The check of an item comes to an outcome of its own in its budget, with the grace to spare,
and its dispatch goes on with it. -/
structure EndsInTime (grace budget : Duration) (item : Item) (p : Program) (moment : Nat)
    (v : Outcome × Readings) : Prop where
  spare : moment + grace.nanos ≤ budget.nanos
  /-- The outcome and the readings are those of every check that has the time. -/
  ends : p.EndsBy item.progress.readings moment v
  dispatch : ∀ {σ : Type} [Store σ] [Directory σ] [Exporter σ] (now : Time) (s : Shared σ),
    Task.dispatch grace item (some p) now s =
      ((Task.direct item).conclude (.finished v.1 v.2) now).record now s
  reports : ∀ {σ : Type} [Store σ] [Directory σ] [Exporter σ] (now : Time) (s : Shared σ),
    ∃ report, (Task.dispatch grace item (some p) now s).1.phase = .over (some report) ∧
      report.item = item.id ∧ report.outcome = v.1
  /-- On a bench where nothing else goes on it is the same, as far as the timers there reach. -/
  bench : ∀ {σ ω : Type} [Store σ] [Directory σ] [Listing σ] (b : Bench σ ω),
    b.timing.budgetGrace = grace → b.program? item = some p → b.actors = [] → b.loop = .absent →
      b.permits.contains item.id = false → p.waits + 1 < Bench.rounds →
        budget.seconds < Duration.timerLimit →
          ∃ report, (b.dispatch item).1 = some report ∧ report.outcome = v.1

theorem endsInTime_of_endsBy {grace budget : Duration} {item : Item} {p : Program} {moment : Nat}
    {v : Outcome × Readings} (hbudget : item.settings.budget? grace = some budget)
    (hspare : moment + grace.nanos ≤ budget.nanos)
    (hends : p.EndsBy item.progress.readings moment v) :
    EndsInTime grace budget item p moment v := by
  have hconclude : p.conclude budget item.progress.readings = .finished v.1 v.2 :=
    hends budget (Nat.le_of_add_right_le hspare)
  have hreports : ∀ {σ : Type} [Store σ] [Directory σ] [Exporter σ] (now : Time) (s : Shared σ),
      ∃ report, (Task.dispatch grace item (some p) now s).1.phase = .over (some report) ∧
        report.item = item.id ∧ report.outcome = v.1 := by
    intro σ _ _ _ now s
    rw [Task.dispatch_some hbudget, hconclude]
    exact ⟨(Dispatch.conclude item (.finished v.1 v.2)).2, rfl, rfl, rfl⟩
  refine ⟨hspare, hends, fun now s => ?_, hreports, ?_⟩
  · rw [Task.dispatch_some hbudget, hconclude]
  · rintro σ ω _ _ _ b rfl hprogram hactors hloop hgate hwaits hlimit
    have hreach : ∀ q, b.program? item = some q → q.InReach ∧ q.waits + 1 < Bench.rounds := by
      rintro q hq
      obtain rfl : p = q := Option.some.inj (hprogram.symm.trans hq)
      exact ⟨Program.inReach_of_run hlimit hconclude, hwaits⟩
    have hlimits : ∀ d, item.settings.budget? b.timing.budgetGrace = some d →
        d.seconds < Duration.timerLimit := by
      rintro d hd
      exact Option.some.inj (hbudget.symm.trans hd) ▸ hlimit
    obtain ⟨report, hphase, -, houtcome⟩ := hreports b.wall b.shared
    obtain ⟨hover, -⟩ := Bench.dispatch_alone hactors hloop hgate hreach hlimits
    rw [hprogram, hphase] at hover
    exact ⟨report, (Phase.over.inj hover).symm, houtcome⟩

/-- A target that cannot be aimed at takes no time. -/
theorem endsBy_unaimed (m : Readings) (error : String) :
    (Program.edit (.set Readings.errorKey (.text error)) (.finish (.outcome .indeterminate))).EndsBy
      m 0 (.indeterminate, m.insert Readings.errorKey (.text error)) :=
  fun _ _ => rfl

/-- Whatever its attempts come to, the probe comes to an outcome with the last of them. -/
theorem WebProbe.exists_endsBy (script : String) (t : Trial WebAnswer) (m : Readings) :
    ∃ v, (t.program (conclude script t.result)).EndsBy m t.time v := by
  cases t.result with
  | ok a => exact ⟨Script.judge script _ _, Program.endsBy_trial t _ rfl⟩
  | error e => exact ⟨(.fail, _), Program.endsBy_trial t _ rfl⟩

theorem ConnectionProbe.exists_endsBy (script : String) (t : Trial Duration) (m : Readings) :
    ∃ v, (t.program (conclude script t.result)).EndsBy m t.time v := by
  cases t.result with
  | ok latency => exact ⟨Script.judge script _ _, Program.endsBy_trial t _ rfl⟩
  | error e => exact ⟨(.fail, _), Program.endsBy_trial t _ rfl⟩

section

variable {grace budget : Duration} {item : Item}
  (hbudget : item.settings.budget? grace = some budget) {σ : Type}

include hbudget

theorem endsInTime_unaimed (error : String) :
    ∃ moment v, EndsInTime grace budget item
      (.edit (.set Readings.errorKey (.text error)) (.finish (.outcome .indeterminate)))
      moment v := by
  have hsum := Settings.nanos_budget? hbudget
  exact ⟨_, _, endsInTime_of_endsBy hbudget (by omega) (endsBy_unaimed _ error)⟩

theorem WebProbe.exists_endsInTime (request : Url → σ → Attempt WebAnswer × σ) (s : σ)
    (h : ∀ url, Target.web item.settings.target = .ok url →
      Trial.WithinLimit item.settings.timeout (request url) s) :
    ∃ moment v, EndsInTime grace budget item (program item.settings request s).1 moment v := by
  rw [program]
  split
  · next e _ => exact endsInTime_unaimed hbudget e.message
  · next url hurl =>
    obtain ⟨v, hends⟩ := exists_endsBy item.settings.script
      (Trial.run (request url) item.settings.retry.toNat s).1 item.progress.readings
    exact ⟨_, v, endsInTime_of_endsBy hbudget (Trial.fitsBudget hbudget (h url hurl)).spare hends⟩

theorem ConnectionProbe.exists_endsInTime (connect : String → Nat → σ → Attempt Duration × σ)
    (s : σ) (h : ∀ host port, Target.socket item.settings.target = .ok (host, port) →
      Trial.WithinLimit item.settings.timeout (connect host port) s) :
    ∃ moment v, EndsInTime grace budget item (program item.settings connect s).1 moment v := by
  rw [program]
  split
  · next e _ => exact endsInTime_unaimed hbudget e.message
  · next host port htarget =>
    obtain ⟨v, hends⟩ := exists_endsBy item.settings.script
      (Trial.run (connect host port) item.settings.retry.toNat s).1 item.progress.readings
    exact ⟨_, v, endsInTime_of_endsBy hbudget
      (Trial.fitsBudget hbudget (h host port htarget)).spare hends⟩

end

/-! ### The limits of attempts on a network -/

namespace Network

/-- An attempt that keeps its limit, after which answers take as long as before. -/
def KeepsLimit {α : Type} (limit : Duration) (n : Network) (r : Attempt α × Network) : Prop :=
  r.1.duration.nanos ≤ limit.nanos ∧ r.2.latency = n.latency

/-- A request comes to an end, or it is sent on with one redirect less. -/
theorem request_cases {limit : Duration} (first url : Url) (user : Option String)
    (redirects : Nat) {n : Network} (hlatency : n.latency.nanos ≤ limit.nanos) :
    KeepsLimit limit n (request limit first redirects url user n) ∨
      ∃ left next user' m, redirects = left + 1 ∧ m.latency = n.latency ∧
        request limit first redirects url user n = request limit first left next user' m := by
  rw [request]
  split
  · exact .inl ⟨Nat.zero_le _, rfl⟩
  split
  · exact .inl ⟨Nat.le_refl _, rfl⟩
  split
  · exact .inl ⟨Nat.zero_le _, rfl⟩
  split
  · exact .inl ⟨hlatency, rfl⟩
  · exact .inl ⟨Nat.le_refl _, rfl⟩
  -- Of the answers, only a redirect that may be followed is not the end.
  split
  · exact .inl ⟨Nat.le_refl _, rfl⟩
  split
  · exact .inl ⟨hlatency, rfl⟩
  split
  · exact .inl ⟨hlatency, rfl⟩
  · exact .inl ⟨hlatency, rfl⟩
  split
  · exact .inl ⟨hlatency, rfl⟩
  · next left => exact .inr ⟨left, _, _, n.serve ⟨url.pathText, user⟩, rfl, rfl, rfl⟩

theorem keepsLimit_request {limit : Duration} (first url : Url) (user : Option String)
    (redirects : Nat) {n : Network} (hlatency : n.latency.nanos ≤ limit.nanos) :
    KeepsLimit limit n (request limit first redirects url user n) := by
  induction redirects generalizing url user n with
  | zero =>
      rcases request_cases first url user 0 hlatency with hover | ⟨left, -, -, -, hleft, -⟩
      · exact hover
      · exact absurd hleft (Nat.succ_ne_zero left).symm
  | succ redirects ih =>
      rcases request_cases first url user (redirects + 1) hlatency with
        hover | ⟨left, next, user', m, hleft, hsame, heq⟩
      · exact hover
      · obtain rfl : redirects = left := Nat.succ.inj hleft
        obtain ⟨hduration, hafter⟩ := ih next user' (n := m) (hsame ▸ hlatency)
        rw [heq]
        exact ⟨hduration, hafter.trans hsame⟩

theorem keepsLimit_connect {limit : Duration} (host : String) (port : Nat) {n : Network}
    (hlatency : n.latency.nanos ≤ limit.nanos) :
    KeepsLimit limit n (connect limit host port n) := by
  unfold connect
  dsimp only
  split
  · exact ⟨Nat.zero_le _, rfl⟩
  split
  · exact ⟨Nat.le_refl _, rfl⟩
  · exact ⟨hlatency, rfl⟩

theorem withinLimit_of_keepsLimit {α : Type} {limit : Duration} {n : Network}
    {next : Network → Attempt α × Network}
    (h : ∀ n : Network, n.latency.nanos ≤ limit.nanos → KeepsLimit limit n (next n))
    (hlatency : n.latency.nanos ≤ limit.nanos) : Trial.WithinLimit limit next n :=
  Trial.withinLimit_of_kept (P := fun n => n.latency.nanos ≤ limit.nanos)
    (fun m hm => ⟨(h m hm).1, (h m hm).2.symm ▸ hm⟩) hlatency

end Network

/-! ### Built-in probes -/

/-- What the budget of an item is enough for. -/
structure KeepsBudget (grace budget : Duration) (item : Item) : Prop where
  /-- Whatever comes of its attempts, a check makes those up to the first success, or all that it
  may, and has the grace left. -/
  attempts : ∀ {α σ : Type} (next : σ → Attempt α × σ) (s : σ),
    Trial.WithinLimit item.settings.timeout next s →
      Trial.FitsBudget item.settings grace budget next s
  web : ∀ {σ : Type} (request : Url → σ → Attempt WebAnswer × σ) (s : σ),
    (∀ url, Target.web item.settings.target = .ok url →
      Trial.WithinLimit item.settings.timeout (request url) s) →
        ∃ moment v, EndsInTime grace budget item (WebProbe.program item.settings request s).1
          moment v
  connection : ∀ {σ : Type} (connect : String → Nat → σ → Attempt Duration × σ) (s : σ),
    (∀ host port, Target.socket item.settings.target = .ok (host, port) →
      Trial.WithinLimit item.settings.timeout (connect host port) s) →
        ∃ moment v, EndsInTime grace budget item
          (ConnectionProbe.program item.settings connect s).1 moment v
  /-- On a network whose answers come within the timeout, attempts without an answer end with it. -/
  network : ∀ n : Network, n.latency.nanos ≤ item.settings.timeout.nanos → ∀ probe,
    ∃ moment v, EndsInTime grace budget item (n.program probe item.settings).1 moment v

/-- The checks of an item whose budget is in range are not cut off by it. -/
theorem ends_in_time {grace budget : Duration} {item : Item}
    (hbudget : item.settings.budget? grace = some budget) : KeepsBudget grace budget item where
  attempts _ _ := Trial.fitsBudget hbudget
  web := WebProbe.exists_endsInTime hbudget
  connection := ConnectionProbe.exists_endsInTime hbudget
  network n hlatency probe := by
    cases probe with
    | http =>
        refine WebProbe.exists_endsInTime hbudget _ n fun url _ => ?_
        exact Network.withinLimit_of_keepsLimit
          (fun m hm => Network.keepsLimit_request url url _ _ hm) hlatency
    | tcp =>
        refine ConnectionProbe.exists_endsInTime hbudget _ n fun host port _ => ?_
        exact Network.withinLimit_of_keepsLimit
          (fun m hm => Network.keepsLimit_connect host port hm) hlatency

/-- A timeout of zero counts as a second. Without a grace, three connections that are neither
accepted nor refused take all of the budget, and the check has failed at its very end. -/
theorem ends_in_time_sample :
    let settings : Settings :=
      { Settings.standard ⟨2⟩ "port" "tcp" "localhost:1" with timeoutSeconds := 0, retry := 2 }
    let item : Item := ⟨⟨1⟩, settings, .fresh .epoch⟩
    let n : Network := { Network.start 1 [] .zero with full := true }
    let budget : Duration := .ofSeconds 3
    settings.budget? .zero = some budget ∧
      (Trial.run (Network.connect settings.timeout "localhost" 1) 2 n).1.time = budget.nanos ∧
        KeepsBudget .zero budget item ∧
          ∃ moment v, EndsInTime .zero budget item (n.program .tcp settings).1 moment v := by
  intro settings item n budget
  have hbudget : item.settings.budget? .zero = some budget := by decide +kernel
  have hkeeps := ends_in_time hbudget
  exact ⟨hbudget, by decide +kernel, hkeeps, hkeeps.network n (by decide) .tcp⟩

end Vigil
