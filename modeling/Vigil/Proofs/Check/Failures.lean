import Vigil.Proofs.Check.Effect
import Vigil.Proofs.Store.Steady

/-!
# Dispatches among failures

A dispatch attempts each of its effects whether or not those before it failed. To say
so, the world is watched: every call that an effect makes is written down with what it
hands over, and any choice of the calls may be made to fail. Two runs of a dispatch
beside each other, one of them among failures, give the same report and make the same
calls; only the name of a node that could not be looked up is missing in an event.
-/

namespace Vigil

/-! ### Watched worlds -/

/-- A call that a dispatch makes, with what it hands over. -/
inductive SinkCall where
  | nodeName (node : Uuid)
  | appendEvent (e : Event)
  | markChanged (node : Uuid)
  | appendHistory (r : HistoryRecord)
  | accept (x : Snapshot)
  | update (i : Item)

def SinkCall.isNodeName : SinkCall → Bool
  | nodeName _ => true
  | _ => false

def SinkCall.isUpdate : SinkCall → Bool
  | update _ => true
  | _ => false

/-- The same call without the name of a subject that was looked up. Only the events of
polling name a subject by its node. -/
def SinkCall.unnamed : SinkCall → SinkCall
  | appendEvent e =>
    if e.category = Event.polling then appendEvent { e with subjectName := "" } else appendEvent e
  | c => c

/-- A world whose calls are written down, and in which some of them are to fail. -/
structure Watched (σ : Type) where
  world : σ
  /-- Whether a call is to fail, by its number. -/
  fails : Nat → Bool
  /-- The calls so far, the oldest first, and whether each was answered. -/
  calls : List (SinkCall × Bool)

namespace Watched

variable {σ α ε : Type}

/-- Nothing has been called yet. -/
def start (world : σ) (fails : Nat → Bool) : Watched σ := ⟨world, fails, []⟩

/-- Makes a call, which fails with an error if it is to. -/
def make (c : SinkCall) (error : ε) (a : σ → Except ε α × σ) (s : Watched σ) :
    Except ε α × Watched σ :=
  if s.fails s.calls.length then (.error error, { s with calls := s.calls ++ [(c, false)] })
  else
    let (r, world) := a s.world
    (r, { s with world, calls := s.calls ++ [(c, r.isOk)] })

/-- A call of the store or the directory behind. -/
def ask (c : SinkCall) (a : Access σ α) : Access (Watched σ) α :=
  make c (.unavailable "injected") a

/-- An operation that no dispatch makes. -/
def behind (a : Access σ α) : Access (Watched σ) α :=
  a.zoom Watched.world fun world s => { s with world }

instance [Store σ] : Store (Watched σ) where
  get? id := behind (Store.get? id)
  items := behind Store.items
  update i := ask (.update i) (Store.update i)
  reschedule id nextDue lastRun := behind (Store.reschedule id nextDue lastRun)
  save i := behind (Store.save i)
  delete id := behind (Store.delete id)
  appendHistory r := ask (.appendHistory r) (Store.appendHistory r)
  history id limit := behind (Store.history id limit)
  appendEvent e := ask (.appendEvent e) (Store.appendEvent e)
  recentEvents limit := behind (Store.recentEvents limit)
  purgeBefore history events := behind (Store.purgeBefore history events)

instance [Directory σ] : Directory (Watched σ) where
  nodeName? node := ask (.nodeName node) (Directory.nodeName? node)
  markChanged node now := ask (.markChanged node) (Directory.markChanged node now)

instance [Exporter σ] : Exporter (Watched σ) where
  accept x := make (.accept x) .missing (Exporter.accept x)

end Watched

namespace Watched

variable {σ α ε : Type} {c : SinkCall} {error : ε} {a : σ → Except ε α × σ} {s : Watched σ}

/-- A call is written down with whether it was answered. -/
theorem calls_make : (make c error a s).2.calls = s.calls ++ [(c, (make c error a s).1.isOk)] := by
  unfold make
  split <;> rfl

/-- A call that is answered is answered by the world behind. -/
theorem fst_make_of_isOk (h : (make c error a s).1.isOk = true) :
    (make c error a s).1 = (a s.world).1 := by
  unfold make at h ⊢
  split at h
  · cases h
  · next hfails => rw [if_neg hfails]

/-- A call makes of the world behind what it makes of it alone, or it is made to fail. -/
theorem world_make (c : SinkCall) (error : ε) (a : σ → Except ε α × σ) (s : Watched σ) :
    (make c error a s).2.world = s.world ∨
    make c error a s =
      ((a s.world).1,
        { s with world := (a s.world).2, calls := s.calls ++ [(c, (a s.world).1.isOk)] }) := by
  unfold make
  split
  · exact Or.inl rfl
  · exact Or.inr rfl

/-- The choice of the calls that fail stays. -/
theorem fails_make : (make c error a s).2.fails = s.fails := by
  unfold make
  split <;> rfl

/-- Without a call that is to fail, the world behind answers. -/
theorem fst_make_of_not_fails (h : s.fails = fun _ => false) :
    (make c error a s).1 = (a s.world).1 := by
  unfold make
  rw [h, if_neg Bool.false_ne_true]

/-- Whether there is a call of a kind that has failed. -/
def failed (p : SinkCall → Bool) (s : Watched σ) : Bool := s.calls.any fun c => p c.1 && !c.2

/-- What was called, answered or not. -/
def called (s : Watched σ) : List SinkCall := s.calls.map Prod.fst

end Watched

/-- The name of a node as a dispatch finds it; it is empty if it cannot be looked up. -/
def Directory.nameIn {σ : Type} [Directory σ] (w : σ) (node : Uuid) : String :=
  match ((Directory.nodeName? node : Access σ _) w).1 with
  | .ok name => name.getD ""
  | .error _ => ""

theorem SameLookups.nameIn_eq {σ : Type} [Store σ] [Directory σ] {s t : σ} (h : SameLookups s t)
    (node : Uuid) : Directory.nameIn t node = Directory.nameIn s node := by
  unfold Directory.nameIn
  rw [h.nodeName?]

/-! ### The calls of an effect -/

namespace Effect

/-- The call that an effect makes at a time, after a name was found. -/
def call (now : Time) (found : String) : Effect → SinkCall
  | findNode node => .nodeName node
  | logEvent category level subject name message =>
    .appendEvent ⟨now, category, level, subject, name.getD found, message⟩
  | markNode node => .markChanged node
  | keepHistory r => .appendHistory r
  | handOver x => .accept x
  | persist i => .update i

def isFindNode : Effect → Bool
  | findNode _ => true
  | _ => false

def isPersist : Effect → Bool
  | persist _ => true
  | _ => false

/-- Whether the call of an effect is the same whatever name was found. -/
def isNamed : Effect → Bool
  | logEvent _ _ _ none _ => false
  | _ => true

theorem call_of_isNamed {now : Time} {e : Effect} (h : e.isNamed = true) (name other : String) :
    e.call now name = e.call now other := by
  cases e with
  | logEvent category level subject given message =>
      cases given with
      | none => cases h
      | some given => rfl
  | findNode node => rfl
  | markNode node => rfl
  | keepHistory r => rfl
  | handOver x => rfl
  | persist i => rfl

section

variable {σ : Type} [Store σ] [Directory σ] [Exporter σ]
variable {now : Time} {found : String} {e : Effect} {s : σ}

omit [Store σ] [Directory σ] [Exporter σ] in
theorem eq_of_ofAccess_ok {a : Access σ Unit} {name : String} {t : σ}
    (h : ofAccess found a s = (.ok name, t)) : name = found := by
  unfold ofAccess at h
  split at h <;> cases h
  rfl

/-- A name is found by looking it up only. -/
theorem fst_perform_of_not_find (h : e.isFindNode = false) : (e.perform now found s).1 = found := by
  unfold perform
  split
  · next name t heq =>
    cases e with
    | findNode node => cases h
    | handOver x =>
        simp only [attempt] at heq
        split at heq <;> cases heq
        rfl
    | logEvent category level subject given message => exact eq_of_ofAccess_ok heq
    | markNode node => exact eq_of_ofAccess_ok heq
    | keepHistory r => exact eq_of_ofAccess_ok heq
    | persist i => exact eq_of_ofAccess_ok heq
  · rfl

end

section

variable {σ : Type} [Store σ] [Directory σ] [Exporter σ]
variable {now : Time} {found : String} {e : Effect} {s : Watched σ}

omit [Store σ] [Directory σ] [Exporter σ] in
theorem ofAccess_ask (found : String) (c : SinkCall) (a : Access σ Unit) (s : Watched σ) :
    (ofAccess found (Watched.ask c a) s).2 = (Watched.make c (.unavailable "injected") a s).2 ∧
      (ofAccess found (Watched.ask c a) s).1.isOk =
        (Watched.make c (StoreError.unavailable "injected") a s).1.isOk :=
  ⟨snd_ofAccess found _ s, isOk_ofAccess found _ s⟩

/-- An effect makes its call, and no other. What is found in the world behind stays, but
for an item that is written. -/
theorem attempt_made [SteadyWorld σ] (now : Time) (found : String) (e : Effect) (s : Watched σ) :
    ∃ (α ε : Type) (error : ε) (a : σ → Except ε α × σ),
      (e.attempt now found s).2 = (Watched.make (e.call now found) error a s).2 ∧
      (e.attempt now found s).1.isOk = (Watched.make (e.call now found) error a s).1.isOk ∧
      (e.isPersist = false ∨ (a s.world).1.isOk = false → SameLookups s.world (a s.world).2) := by
  cases e with
  | findNode node =>
      refine ⟨_, _, .unavailable "injected", (Directory.nodeName? node : Access σ _), ?_, ?_,
        fun _ => SteadyStore.nodeName? node s.world⟩
      · rw [snd_attempt_findNode]
        rfl
      · rw [isOk_attempt_findNode]
        rfl
  | logEvent category level subject name message =>
      obtain ⟨hstate, hok⟩ := ofAccess_ask found _ (Store.appendEvent
        ⟨now, category, level, subject, name.getD found, message⟩ : Access σ Unit) s
      exact ⟨_, _, _, _, hstate, hok, fun _ => SteadyStore.appendEvent _ s.world⟩
  | markNode node =>
      obtain ⟨hstate, hok⟩ := ofAccess_ask found (.markChanged node)
        (Directory.markChanged node now : Access σ Unit) s
      exact ⟨_, _, _, _, hstate, hok, fun _ => SteadyStore.markChanged node now s.world⟩
  | keepHistory r =>
      obtain ⟨hstate, hok⟩ := ofAccess_ask found (.appendHistory r)
        (Store.appendHistory r : Access σ Unit) s
      exact ⟨_, _, _, _, hstate, hok, fun _ => SteadyStore.appendHistory r s.world⟩
  | handOver x =>
      refine ⟨_, _, FileError.missing, Exporter.accept x, ?_, ?_,
        fun _ => SteadyWorld.accept x s.world⟩
      · rw [snd_attempt_handOver]
        rfl
      · rw [isOk_attempt_handOver]
        rfl
  | persist i =>
      obtain ⟨hstate, hok⟩ := ofAccess_ask found (.update i)
        (Store.update i : Access σ Unit) s
      refine ⟨_, _, _, _, hstate, hok, ?_⟩
      intro h
      have herror : ((Store.update i : Access σ _) s.world).1.isOk = false := by
        simpa only [isPersist, Bool.true_eq_false, false_or] using h
      cases hr : ((Store.update i : Access σ _) s.world).1 with
      | ok x => rw [hr] at herror; cases herror
      | error e => exact SteadyStore.update_of_error (Prod.ext hr rfl)

/-- The call is written down, with whether it was answered. -/
theorem calls_attempt [SteadyWorld σ] (now : Time) (found : String) (e : Effect) (s : Watched σ) :
    (e.attempt now found s).2.calls =
      s.calls ++ [(e.call now found, (e.attempt now found s).1.isOk)] := by
  obtain ⟨α, ε, error, a, hstate, hok, -⟩ := attempt_made now found e s
  rw [hstate, hok]
  exact Watched.calls_make

/-- The choice of the calls that fail stays. -/
theorem fails_attempt [SteadyWorld σ] (now : Time) (found : String) (e : Effect) (s : Watched σ) :
    (e.attempt now found s).2.fails = s.fails := by
  obtain ⟨α, ε, error, a, hstate, -, -⟩ := attempt_made now found e s
  rw [hstate]
  exact Watched.fails_make

/-- What is found stays unless an item is written. -/
theorem sameLookups_attempt [SteadyWorld σ]
    (h : e.isPersist = false ∨ (e.attempt now found s).1.isOk = false) :
    SameLookups s.world (e.attempt now found s).2.world := by
  obtain ⟨α, ε, error, a, hstate, hok, hsame⟩ := attempt_made now found e s
  rw [hstate]
  rw [hok] at h
  rcases Watched.world_make (e.call now found) error a s with hworld | hcall
  · rw [hworld]
    exact .refl s.world
  · rw [hcall] at h ⊢
    exact hsame h

/-- The name that is found by looking it up is the one in the world behind, if the call is
answered; else the name so far stays. -/
theorem fst_perform_findNode (node : Uuid) (now : Time) (found : String) (s : Watched σ) :
    ((findNode node).perform now found s).1 =
      if ((findNode node).attempt now found s).1.isOk then Directory.nameIn s.world node
      else found := by
  have hanswer (h : ((Directory.nodeName? node : Access (Watched σ) _) s).1.isOk = true) :
      ((Directory.nodeName? node : Access (Watched σ) _) s).1 =
        ((Directory.nodeName? node : Access σ _) s.world).1 := Watched.fst_make_of_isOk h
  rw [isOk_attempt_findNode]
  unfold perform
  simp only [attempt]
  cases hr : (Directory.nodeName? node : Access (Watched σ) _) s with
  | mk r t =>
    rw [hr] at hanswer
    cases r with
    | ok name =>
        unfold Directory.nameIn
        rw [← hanswer rfl]
        rfl
    | error e => rfl

/-- Without a call that is to fail, the name that is found is the one in the world behind;
an error there gives no name. -/
theorem fst_perform_findNode_of_not_fails (node : Uuid) (now : Time)
    (hs : s.fails = fun _ => false) :
    ((findNode node).perform now "" s).1 = Directory.nameIn s.world node := by
  have hanswer : ((Directory.nodeName? node : Access (Watched σ) _) s).1 =
      ((Directory.nodeName? node : Access σ _) s.world).1 := Watched.fst_make_of_not_fails hs
  rw [fst_perform_findNode, isOk_attempt_findNode, hanswer]
  unfold Directory.nameIn
  cases ((Directory.nodeName? node : Access σ _) s.world).1 with
  | ok name => rfl
  | error e => rfl

theorem called_perform [SteadyWorld σ] (now : Time) (found : String) (e : Effect)
    (s : Watched σ) : (e.perform now found s).2.called = s.called ++ [e.call now found] := by
  rw [Watched.called, snd_perform, calls_attempt, List.map_append]
  rfl

theorem failed_perform [SteadyWorld σ] (p : SinkCall → Bool) (now : Time) (found : String)
    (e : Effect) (s : Watched σ) :
    (e.perform now found s).2.failed p =
      (s.failed p || (p (e.call now found) && !(e.attempt now found s).1.isOk)) := by
  rw [Watched.failed, snd_perform, calls_attempt, List.any_append, List.any_cons, List.any_nil,
    Bool.or_false]
  rfl

end

/-! ### Effects one after another -/

section

variable {σ : Type} [Store σ] [Directory σ] [Exporter σ]
variable {now : Time} {found : String} {es : List Effect}

/-- A run of effects that look no name up goes on with the name so far, and makes the
call of each effect. -/
theorem performAll_of_not_find [SteadyWorld σ] (now : Time) (found : String) (s : Watched σ)
    (h : ∀ e ∈ es, e.isFindNode = false) :
    (performAll now found s es).1 = found ∧
      (performAll now found s es).2.called = s.called ++ es.map (call now found) := by
  induction es generalizing s with
  | nil => exact ⟨rfl, (List.append_nil _).symm⟩
  | cons e es ih =>
      have hname : (e.perform now found s).1 = found :=
        fst_perform_of_not_find (h e List.mem_cons_self)
      obtain ⟨hfst, hcalled⟩ := ih (e.perform now found s).2
        fun later hmem => h later (List.mem_cons_of_mem e hmem)
      rw [performAll_cons, hname]
      refine ⟨hfst, ?_⟩
      rw [hcalled, called_perform, List.append_assoc, List.map_cons, List.singleton_append]

/-- A run of effects that make no call of a kind leaves those that have failed. -/
theorem failed_performAll [SteadyWorld σ] (now : Time) {p : SinkCall → Bool}
    (h : ∀ e ∈ es, ∀ name, p (e.call now name) = false) (found : String) (s : Watched σ) :
    (performAll now found s es).2.failed p = s.failed p := by
  induction es generalizing found s with
  | nil => rfl
  | cons e es ih =>
      rw [performAll_cons, ih fun later hmem => h later (List.mem_cons_of_mem e hmem),
        failed_perform, h e List.mem_cons_self, Bool.false_and, Bool.or_false]

theorem fails_performAll [SteadyWorld σ] (now : Time) (found : String) (s : Watched σ)
    (es : List Effect) : (performAll now found s es).2.fails = s.fails := by
  induction es generalizing found s with
  | nil => rfl
  | cons e es ih => rw [performAll_cons, ih, snd_perform, fails_attempt]

/-- What is found stays through effects that write no item. -/
theorem sameLookups_performAll [SteadyWorld σ] (now : Time)
    (h : ∀ e ∈ es, e.isPersist = false) (found : String) (s : Watched σ) :
    SameLookups s.world (performAll now found s es).2.world := by
  induction es generalizing found s with
  | nil => exact .refl s.world
  | cons e es ih =>
      have hfirst : SameLookups s.world (e.perform now found s).2.world := by
        rw [snd_perform]
        exact sameLookups_attempt (Or.inl (h e List.mem_cons_self))
      rw [performAll_cons]
      exact hfirst.trans (ih (fun later hmem => h later (List.mem_cons_of_mem e hmem)) _ _)

theorem isNodeName_call {e : Effect} (h : e.isFindNode = false) (now : Time) (name : String) :
    (e.call now name).isNodeName = false := by
  cases e <;> first | rfl | cases h

theorem isUpdate_call {e : Effect} (h : e.isPersist = false) (now : Time) (name : String) :
    (e.call now name).isUpdate = false := by
  cases e <;> first | rfl | cases h

variable [SteadyWorld σ] {w : σ} {fails : Nat → Bool}

/-- What is called, by a run of effects that came to its end, with a name in the calls that is
the one of a node, or empty if the node was looked up in vain. -/
structure CallsWith (now : Time) (es : List Effect) (node : Uuid) (w : σ) (fails : Nat → Bool)
    (t : Watched σ) (name : String) : Prop where
  called : t.called = es.map (call now name)
  eq_empty : t.failed SinkCall.isNodeName = true → name = ""
  eq_nameIn : t.failed SinkCall.isNodeName = false ∨ fails = (fun _ => false) →
    name = Directory.nameIn w node

/-- If no name is looked up and none is used, the calls are as good as made with any name. -/
theorem callsWith_of_isNamed (h : ∀ e ∈ es, e.isFindNode = false ∧ e.isNamed = true)
    (node : Uuid) :
    CallsWith now es node w fails (performAll now "" (Watched.start w fails) es).2
      (Directory.nameIn w node) := by
  have hfailed := failed_performAll now
    (fun e he name => isNodeName_call (h e he).1 now name) "" (Watched.start w fails)
  refine ⟨?_, ?_, fun _ => rfl⟩
  · rw [(performAll_of_not_find now "" _ fun e he => (h e he).1).2]
    exact List.map_congr_left fun e he => call_of_isNamed (h e he).2 _ _
  · intro hlost
    rw [hfailed] at hlost
    cases hlost

/-- If a name is looked up once, the calls after it bear this name, and those before it none. -/
theorem callsWith_findNode {before after : List Effect}
    (hbefore : ∀ e ∈ before, (e.isFindNode = false ∧ e.isPersist = false) ∧ e.isNamed = true)
    (hafter : ∀ e ∈ after, e.isFindNode = false) (node : Uuid) :
    ∃ name, CallsWith now (before ++ findNode node :: after) node w fails
      (performAll now "" (Watched.start w fails) (before ++ findNode node :: after)).2 name := by
  obtain ⟨hname, hcalled⟩ := performAll_of_not_find now ""
    (Watched.start w fails) fun e he => (hbefore e he).1.1
  have hfailed := failed_performAll now
    (fun e he name => isNodeName_call (hbefore e he).1.1 now name) "" (Watched.start w fails)
  have hsame := sameLookups_performAll now (fun e he => (hbefore e he).1.2) ""
    (Watched.start w fails)
  have hfails := fails_performAll now "" (Watched.start w fails) before
  rw [performAll_append, performAll_cons, hname]
  generalize (performAll now "" (Watched.start w fails) before).2 = s at *
  have hfound := fst_perform_findNode node now "" s
  have hlost : (performAll now ((findNode node).perform now "" s).1
      ((findNode node).perform now "" s).2 after).2.failed SinkCall.isNodeName =
        !((findNode node).attempt now "" s).1.isOk := by
    rw [failed_performAll now fun e he name => isNodeName_call (hafter e he) now name,
      failed_perform, hfailed]
    rfl
  refine ⟨((findNode node).perform now "" s).1, ?_, ?_, ?_⟩
  · rw [(performAll_of_not_find now _ _ hafter).2, called_perform, hcalled, List.map_append,
      List.map_congr_left fun e he =>
        call_of_isNamed (hbefore e he).2 "" ((findNode node).perform now "" s).1,
      List.append_assoc]
    rfl
  · intro h
    rw [hlost] at h
    rw [hfound, if_neg (by simpa using h)]
  · rintro (h | h)
    · rw [hlost] at h
      rw [hfound, if_pos (by simpa using h), hsame.nameIn_eq]
      rfl
    · rw [fst_perform_findNode_of_not_fails _ _ (hfails.trans h), hsame.nameIn_eq]
      rfl

end

end Effect

/-! ### The effects of a dispatch -/

namespace Dispatch

/-- The effects of a transition are none, or they start with the search for a name. -/
theorem announceEffects_cases (item : Item) (t : Option Transition) :
    announceEffects item t = [] ∨ ∃ later, announceEffects item t =
      .findNode item.settings.node :: later ∧
        ∀ e ∈ later, e.isFindNode = false ∧ e.isPersist = false := by
  cases t with
  | none => exact Or.inl rfl
  | some t =>
      unfold announceEffects
      by_cases h : t.announced = true
      · refine Or.inr ⟨_, if_pos h, ?_⟩
        simp [Effect.isFindNode, Effect.isPersist]
      · exact Or.inl (if_neg h)

/-- The effects before the last one write no item. A name is looked up at most once, and
only the effects after that depend on it. -/
theorem settle_cases (item : Item) (c : Conclusion) (now : Time) :
    ∃ before after : List Effect,
      (∀ e ∈ before ++ after, e.isFindNode = false ∧ e.isPersist = false) ∧
      (∀ e ∈ before, e.isNamed = true) ∧
      ((∀ e ∈ after, e.isNamed = true) ∧ (settle item c now).2 =
          before ++ (after ++ [.persist (conclude item c).1]) ∨
        (settle item c now).2 = before ++
          (.findNode item.settings.node :: (after ++ [.persist (conclude item c).1]))) := by
  have hcrash : ∀ e ∈ crashEffects item c,
      (e.isFindNode = false ∧ e.isPersist = false) ∧ e.isNamed = true := by
    cases c <;> simp [crashEffects, Effect.isFindNode, Effect.isPersist, Effect.isNamed]
  have hrecord (after : Item) (changed : Bool) (time : Time) :
      ∀ e ∈ recordEffects after changed time,
        (e.isFindNode = false ∧ e.isPersist = false) ∧ e.isNamed = true := by
    unfold recordEffects
    split <;> split <;> simp [Effect.isFindNode, Effect.isPersist, Effect.isNamed]
  rw [settle_snd]
  specialize hrecord (conclude item c).1 (conclude item c).2.transition.isSome
    (item.progress.lastRun.getD now)
  generalize recordEffects _ _ _ = records at hrecord
  rcases announceEffects_cases (conclude item c).1 (conclude item c).2.transition with
    hquiet | ⟨later, hannounce, hlater⟩
  · refine ⟨crashEffects item c, records, ?_, fun e he => (hcrash e he).2, Or.inl ⟨?_, ?_⟩⟩
    · intro e he
      rcases List.mem_append.1 he with he | he
      · exact (hcrash e he).1
      · exact (hrecord e he).1
    · exact fun e he => (hrecord e he).2
    · rw [hquiet, List.append_nil, List.append_assoc]
  · refine ⟨crashEffects item c, later ++ records, ?_, fun e he => (hcrash e he).2, Or.inr ?_⟩
    · intro e he
      rcases List.mem_append.1 he with he | he
      · exact (hcrash e he).1
      · rcases List.mem_append.1 he with he | he
        · exact hlater e he
        · exact (hrecord e he).1
    · rw [hannounce]
      simp only [List.append_assoc, List.cons_append]
      rfl

/-- An event of a dispatch that bears no name of its own is one of polling. -/
theorem unnamed_call {item : Item} {c : Conclusion} {now time : Time} {e : Effect}
    (he : e ∈ (settle item c now).2) (name : String) :
    (e.call time name).unnamed = e.call time "" := by
  cases e with
  | logEvent category level subject given message =>
      rw [settle_snd] at he
      simp only [List.mem_append, List.mem_singleton, or_assoc] at he
      rcases he with he | he | he | he
      · cases c <;> simp [crashEffects] at he
        obtain ⟨rfl, -, -, rfl, -⟩ := he
        rfl
      · unfold announceEffects at he
        split at he
        · cases he
        · split at he
          · simp at he
            obtain ⟨rfl, -, -, rfl, -⟩ := he
            rfl
          · cases he
      · unfold recordEffects at he
        simp at he
      · cases he
  | findNode node => rfl
  | markNode node => rfl
  | keepHistory r => rfl
  | handOver x => rfl
  | persist i => rfl

/-! ### Two dispatches beside each other -/

section

open Effect

variable {σ : Type} [Store σ] [Directory σ] [Exporter σ] [SteadyWorld σ]

/-- A dispatch makes the call of each of its effects, with a name in them. -/
theorem callsWith_finish (item : Item) (c : Conclusion) (now : Time) (w : σ)
    (fails : Nat → Bool) :
    ∃ name, CallsWith now (settle item c now).2 item.settings.node w fails
      (finish item c now (Watched.start w fails)).2 name := by
  obtain ⟨before, after, hquiet, hnamed, hsettle⟩ := settle_cases item c now
  have hbefore : ∀ e ∈ before, (e.isFindNode = false ∧ e.isPersist = false) ∧ e.isNamed = true :=
    fun e he => ⟨hquiet e (List.mem_append_left after he), hnamed e he⟩
  have hafter : ∀ e ∈ after ++ [.persist (conclude item c).1], e.isFindNode = false := by
    intro e he
    rcases List.mem_append.1 he with he | he
    · exact (hquiet e (List.mem_append_right before he)).1
    · rw [List.mem_singleton.1 he]
      rfl
  simp only [finish]
  rcases hsettle with ⟨hlater, heq⟩ | heq
  · rw [heq]
    refine ⟨_, callsWith_of_isNamed ?_ item.settings.node⟩
    intro e he
    rcases List.mem_append.1 he with he | he
    · exact ⟨(hbefore e he).1.1, (hbefore e he).2⟩
    · refine ⟨hafter e he, ?_⟩
      rcases List.mem_append.1 he with he | he
      · exact hlater e he
      · rw [List.mem_singleton.1 he]
        rfl
  · rw [heq]
    exact callsWith_findNode hbefore hafter item.settings.node

/-- The item is written last, and nothing before that writes one. -/
theorem exists_settle_eq (item : Item) (c : Conclusion) (now : Time) :
    ∃ quiet : List Effect, (∀ e ∈ quiet, e.isPersist = false) ∧
      (settle item c now).2 = quiet ++ [.persist (conclude item c).1] := by
  obtain ⟨before, after, hquiet, -, hsettle⟩ := settle_cases item c now
  rcases hsettle with ⟨-, heq⟩ | heq
  · refine ⟨before ++ after, fun e he => (hquiet e he).2, ?_⟩
    rw [heq, List.append_assoc]
  · refine ⟨before ++ .findNode item.settings.node :: after, ?_, ?_⟩
    · intro e he
      rcases List.mem_append.1 he with he | he
      · exact (hquiet e (List.mem_append_left after he)).2
      · rcases List.mem_cons.1 he with rfl | he
        · rfl
        · exact (hquiet e (List.mem_append_right before he)).2
    · rw [heq, List.append_assoc, List.cons_append]

/-- If the item could not be written, all is found as before. -/
theorem sameLookups_finish (item : Item) (c : Conclusion) (now : Time) (w : σ)
    (fails : Nat → Bool)
    (h : (finish item c now (Watched.start w fails)).2.failed SinkCall.isUpdate = true) :
    SameLookups w (finish item c now (Watched.start w fails)).2.world := by
  obtain ⟨quiet, hquiet, heq⟩ := exists_settle_eq item c now
  have hfailed := failed_performAll now
    (fun e he name => isUpdate_call (hquiet e he) now name) "" (Watched.start w fails)
  have hsame := sameLookups_performAll now hquiet "" (Watched.start w fails)
  simp only [finish] at h ⊢
  rw [heq, performAll_append, performAll_cons, performAll_nil] at h ⊢
  refine hsame.trans ?_
  rw [failed_perform, hfailed] at h
  rw [snd_perform]
  have hlost := (Bool.and_eq_true_iff.1 ((Bool.false_or _).symm.trans h)).2
  exact sameLookups_attempt (Or.inr (by simpa using hlost))

/-- Whatever calls fail, a dispatch gives the report that it gives without failures. It makes
the same calls, each with what it hands over without failures, and last hands over the same
item; the events only lack the name of the node if this could not be looked up. If the item
cannot be written, every stored item is as it was. -/
theorem finish_among_failures (item : Item) (c : Conclusion) (now : Time) (w : σ)
    (fails : Nat → Bool) :
    let calm := finish item c now (Watched.start w fun _ => false)
    let troubled := finish item c now (Watched.start w fails)
    troubled.1 = calm.1 ∧
      troubled.2.called = (if troubled.2.failed SinkCall.isNodeName then
        calm.2.called.map SinkCall.unnamed else calm.2.called) ∧
      (∃ i, calm.2.called.getLast? = some (.update i) ∧
        troubled.2.called.getLast? = some (.update i)) ∧
      (troubled.2.failed SinkCall.isUpdate = true → ∀ id,
        ((Store.get? id : Access σ _) troubled.2.world).1 =
          ((Store.get? id : Access σ _) w).1) := by
  intro calm troubled
  obtain ⟨name, hcalm⟩ := callsWith_finish item c now w fun _ => false
  obtain ⟨found, htroubled⟩ := callsWith_finish item c now w fails
  refine ⟨rfl, ?_, ?_, ?_⟩
  · rw [hcalm.called, htroubled.called, hcalm.eq_nameIn (Or.inr rfl)]
    cases h : troubled.2.failed SinkCall.isNodeName with
    | true =>
        rw [htroubled.eq_empty h, if_pos rfl, List.map_map]
        exact List.map_congr_left fun e he => (unnamed_call he _).symm
    | false => rw [htroubled.eq_nameIn (Or.inl h), if_neg Bool.false_ne_true]
  · obtain ⟨quiet, -, heq⟩ := exists_settle_eq item c now
    refine ⟨(conclude item c).1, ?_, ?_⟩
    · rw [hcalm.called, heq, List.map_append]
      exact List.getLast?_concat
    · rw [htroubled.called, heq, List.map_append]
      exact List.getLast?_concat
  · intro h id
    exact (sameLookups_finish item c now w fails h).get? id

/-- The check of an item crashes, and of its seven calls only the first is answered. The item
stays as it was stored. -/
theorem finish_among_failures_sample :
    SteadyWorld (World MemoryStore) ∧
      let item := { Sample.item with
        settings := { Sample.item.settings with logMode := .always }
        progress := { Sample.item.progress with state := .normal } }
      let w : World MemoryStore := .start (MemoryStore.empty.put item) .empty .keeping
      let troubled := finish item (.crashed "division by zero" .empty) .epoch
        (Watched.start w fun n => n != 0)
      troubled.2.called.length = 7 ∧ troubled.2.failed SinkCall.isUpdate = true ∧
        ((Store.get? item.id : Access (World MemoryStore) _) troubled.2.world).1 =
          ((Store.get? item.id : Access (World MemoryStore) _) w).1 := by
  refine ⟨inferInstance, ?_⟩
  intro item w troubled
  have hlost : troubled.2.failed SinkCall.isUpdate = true := by decide +kernel
  refine ⟨by decide +kernel, hlost, ?_⟩
  exact (finish_among_failures item (.crashed "division by zero" .empty) .epoch w
    fun n => n != 0).2.2.2 hlost item.id

end

end Dispatch

end Vigil
