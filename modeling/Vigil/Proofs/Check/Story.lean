import Vigil.Proofs.Check.Effect
import Vigil.Proofs.Polling.Lane

/-!
# The story of an item

One dispatch after another leaves its traces in four places: the events, the history,
what the exporter was offered, and the mark on the node. Each trace is read off the
states that are stored before and after the dispatch, so the traces of a run tell how
the stored state has changed. Effects only add to a world (`World.Adds`); what a dispatch
adds is found from the list of its effects.
-/

namespace Vigil

/-- An event but for its time and the name of its subject. -/
structure Notice where
  category : String
  level : String
  subject : Uuid
  message : String
deriving DecidableEq

def Event.notice (e : Event) : Notice := ⟨e.category, e.level, e.subject, e.message⟩

/-! ### What effects add -/

namespace Effect

def notice? : Effect → Option Notice
  | logEvent category level subject _ message => some ⟨category, level, subject, message⟩
  | _ => none

def record? : Effect → Option HistoryRecord
  | keepHistory r => some r
  | _ => none

def snapshot? : Effect → Option Snapshot
  | handOver x => some x
  | _ => none

def marked? : Effect → Option Uuid
  | markNode node => some node
  | _ => none

end Effect

namespace World

def notices (w : World MemoryStore) : List Notice := w.store.inner.eventLog.map Event.notice

def records (w : World MemoryStore) : List HistoryRecord := w.store.inner.records

def node? (w : World MemoryStore) (id : Uuid) : Option Node := w.store.inner.nodes[id]?

/-- The store does not fail, and there is an exporter. -/
structure Able (w : World MemoryStore) : Prop extends w.Healthy where
  exporter : w.exporter ≠ .absent

/-- A node with the mark of a time, if it is marked. -/
def mark (now : Time) (marked : Bool) (node : Node) : Node :=
  if marked then { node with changedAt := some now } else node

/-- An item as it is stored after another one was written. -/
def overwrite (id : Uuid) (stored : Option Item) (written : Item) : Option Item :=
  if written.id = id then stored.map fun i => { i with progress := written.progress } else stored

/-- The second world is the first one with what effects at a time have added. -/
structure Adds (now : Time) (es : List Effect) (w v : World MemoryStore) : Prop where
  notices : v.notices = w.notices ++ es.filterMap Effect.notice?
  records : v.records = w.records ++ es.filterMap Effect.record?
  snapshots : v.snapshots = w.snapshots ++ es.filterMap Effect.snapshot?
  node? : ∀ id, v.node? id =
    (w.node? id).map (mark now ((es.filterMap Effect.marked?).contains id))
  item? : ∀ id, v.item? id = (es.filterMap Effect.written?).foldl (overwrite id) (w.item? id)
  able : v.Able

variable {now : Time} {found : String} {u v w : World MemoryStore} {es later : List Effect}

theorem mark_false (now : Time) : mark now false = id := by
  funext node
  exact if_neg Bool.false_ne_true

theorem node?_unmarked (w : World MemoryStore) (now : Time) (id : Uuid) :
    w.node? id = (w.node? id).map (mark now false) := by
  rw [mark_false, Option.map_id, id_eq]

theorem mark_mark (now : Time) (p q : Bool) (node : Node) :
    mark now q (mark now p node) = mark now (p || q) node := by
  cases p <;> cases q <;> rfl

namespace Adds

theorem nil (h : w.Able) : Adds now [] w w where
  notices := (List.append_nil _).symm
  records := (List.append_nil _).symm
  snapshots := (List.append_nil _).symm
  node? := node?_unmarked w now
  item? := fun _ => rfl
  able := h

theorem append (h : Adds now es w v) (hlater : Adds now later v u) :
    Adds now (es ++ later) w u where
  notices := by rw [hlater.notices, h.notices, List.filterMap_append, List.append_assoc]
  records := by rw [hlater.records, h.records, List.filterMap_append, List.append_assoc]
  snapshots := by rw [hlater.snapshots, h.snapshots, List.filterMap_append, List.append_assoc]
  node? := by
    intro id
    rw [hlater.node?, h.node?, Option.map_map, List.filterMap_append, List.contains_append]
    congr 1
    funext node
    exact mark_mark now _ _ node
  item? := by
    intro id
    rw [hlater.item?, h.item?, List.filterMap_append, List.foldl_append]
  able := hlater.able

end Adds

/-- A call that is made and answered. -/
theorem call_of_able (hw : w.Able) {α : Type} {a : α} {s : MemoryStore} (c : StoreCall)
    {f : MemoryStore → Except StoreError (α × MemoryStore)} (hf : f w.store.inner = .ok (a, s)) :
    call c (MemoryStore.whenOn f) w = (.ok a, w.withInner s) := by
  rw [call_of_not_fails (hw.fails c), MemoryStore.whenOn_of_ok hw.switchedOff hf]

/-- An exporter that is there is offered the snapshot, whether or not it takes it. -/
theorem accept_of_present (x : Snapshot) (h : w.exporter ≠ .absent) :
    (Exporter.accept x w).2.store = w.store ∧
      (Exporter.accept x w).2.snapshots = w.snapshots ++ [x] ∧
      (Exporter.accept x w).2.exporter = w.exporter := by
  simp only [Exporter.accept]
  split
  · next habsent => exact absurd habsent h
  · exact ⟨rfl, rfl, rfl⟩
  · exact ⟨rfl, rfl, rfl⟩
  · split <;> exact ⟨rfl, rfl, rfl⟩

/-- A mark is set on the node if it is known, and on no other. -/
theorem adds_markChanged (hw : w.Able) (now : Time) (node : Uuid) :
    Adds now [.markNode node] w
      ((Directory.markChanged node now : Access (World MemoryStore) _) w).2 := by
  have hcall : (Directory.markChanged node now : Access (World MemoryStore) _) w =
      call (.markChanged node) (Directory.markChanged node now)
        { w with marked := w.marked ++ [node] } := by
    change call (.markChanged node) _ (if w.store.fails (.markChanged node) then w else _) = _
    rw [hw.fails, if_neg Bool.false_ne_true]
  obtain ⟨nodes, hstep, hnodes⟩ : ∃ nodes : Std.ExtTreeMap Uuid Node,
      (Directory.markChanged node now : Access MemoryStore _) w.store.inner =
        (.ok (), { w.store.inner with nodes }) ∧
      ∀ id, nodes[id]? = (w.store.inner.nodes[id]?).map (mark now ([node].contains id)) := by
    cases hnode : w.store.inner.nodes[node]? with
    | none =>
        refine ⟨_, MemoryStore.whenOn_of_ok hw.switchedOff (by rw [hnode]), ?_⟩
        intro id
        by_cases hid : id = node
        · rw [hid, hnode]
          rfl
        · rw [List.contains_eq_any_beq, List.any_cons, beq_false_of_ne hid]
          exact node?_unmarked w now id
    | some n =>
        refine ⟨_, MemoryStore.whenOn_of_ok hw.switchedOff (by rw [hnode]), ?_⟩
        intro id
        rw [Std.ExtTreeMap.getElem?_insert, List.contains_eq_any_beq, List.any_cons]
        by_cases hid : id = node
        · rw [if_pos (Std.LawfulEqOrd.compare_eq_iff_eq.2 hid.symm), hid, hnode, beq_self_eq_true]
          rfl
        · rw [if_neg fun heq => hid (Std.LawfulEqOrd.compare_eq_iff_eq.1 heq).symm,
            beq_false_of_ne hid]
          exact node?_unmarked w now id
  have hfails : ({ w with marked := w.marked ++ [node] } : World MemoryStore).store.fails
      (.markChanged node) = false := hw.fails _
  rw [hcall, call_of_not_fails hfails, hstep]
  exact {
    notices := (List.append_nil _).symm
    records := (List.append_nil _).symm
    snapshots := (List.append_nil _).symm
    node? := hnodes
    item? := fun _ => rfl
    able := ⟨⟨hw.fails, hw.switchedOff⟩, hw.exporter⟩ }

theorem adds_update (hw : w.Able) (now : Time) (i : Item) :
    Adds now [.persist i] w ((Store.update i : Access (World MemoryStore) _) w).2 := by
  change Adds now [.persist i] w
    (call (.update i.id) (MemoryStore.modifyItem i.id fun _ => i.progress) w).2
  rw [call_of_not_fails (hw.fails _)]
  obtain ⟨s, hstep, hitems⟩ : ∃ s : MemoryStore,
      (MemoryStore.modifyItem i.id (fun _ => i.progress) w.store.inner).2 =
        { w.store.inner with itemMap := s.itemMap, keyed := s.keyed } ∧
      ∀ id, s.itemMap[id]? = overwrite id w.store.inner.itemMap[id]? i := by
    unfold MemoryStore.modifyItem
    cases hitem : w.store.inner.itemMap[i.id]? with
    | none =>
        rw [MemoryStore.whenOn_of_error hw.switchedOff (by rw [hitem])]
        refine ⟨w.store.inner, rfl, ?_⟩
        intro id
        unfold overwrite
        split
        · next hid => rw [← hid, hitem]; rfl
        · rfl
    | some stored =>
        rw [MemoryStore.whenOn_of_ok hw.switchedOff (by rw [hitem])]
        refine ⟨w.store.inner.put { stored with progress := i.progress }, rfl, ?_⟩
        intro id
        have hid : stored.id = i.id := w.store.inner.keyed hitem
        unfold overwrite
        by_cases h : i.id = id
        · rw [if_pos h, ← h, hitem]
          refine MemoryStore.getElem?_put_of_eq ?_ _
          exact hid
        · rw [if_neg h]
          refine MemoryStore.getElem?_put_of_ne ?_ _
          exact fun heq => h (hid.symm.trans heq)
  rw [hstep]
  exact {
    notices := (List.append_nil _).symm
    records := (List.append_nil _).symm
    snapshots := (List.append_nil _).symm
    node? := node?_unmarked w now
    item? := hitems
    able := ⟨⟨hw.fails, hw.switchedOff⟩, hw.exporter⟩ }

theorem adds_perform (hw : w.Able) (now : Time) (found : String) (e : Effect) :
    Adds now [e] w (e.perform now found w).2 := by
  rw [Effect.snd_perform]
  cases e with
  | findNode node =>
      have hcall : (Directory.nodeName? node : Access (World MemoryStore) _) w = _ :=
        call_of_able hw (.nodeName node) rfl
      rw [Effect.snd_attempt_findNode, hcall]
      exact {
        notices := (List.append_nil _).symm
        records := (List.append_nil _).symm
        snapshots := (List.append_nil _).symm
        node? := node?_unmarked w now
        item? := fun _ => rfl
        able := hw }
  | logEvent category level subject name message =>
      have hcall : (Store.appendEvent ⟨now, category, level, subject, name.getD found, message⟩ :
          Access (World MemoryStore) _) w = _ := call_of_able hw (.appendEvent subject) rfl
      simp only [Effect.attempt, Effect.snd_ofAccess]
      rw [hcall]
      exact {
        notices := List.map_append
        records := (List.append_nil _).symm
        snapshots := (List.append_nil _).symm
        node? := node?_unmarked w now
        item? := fun _ => rfl
        able := ⟨⟨hw.fails, hw.switchedOff⟩, hw.exporter⟩ }
  | markNode node =>
      simp only [Effect.attempt, Effect.snd_ofAccess]
      exact adds_markChanged hw now node
  | keepHistory r =>
      have hcall : (Store.appendHistory r : Access (World MemoryStore) _) w = _ :=
        call_of_able hw (.appendHistory r.item) rfl
      simp only [Effect.attempt, Effect.snd_ofAccess]
      rw [hcall]
      exact {
        notices := (List.append_nil _).symm
        records := rfl
        snapshots := (List.append_nil _).symm
        node? := node?_unmarked w now
        item? := fun _ => rfl
        able := ⟨⟨hw.fails, hw.switchedOff⟩, hw.exporter⟩ }
  | handOver x =>
      rw [Effect.snd_attempt_handOver]
      obtain ⟨hstore, hsnapshots, hexporter⟩ := accept_of_present x hw.exporter
      exact {
        notices := by rw [notices, hstore]; exact (List.append_nil _).symm
        records := by rw [records, hstore]; exact (List.append_nil _).symm
        snapshots := hsnapshots
        node? := by
          intro id
          rw [node?, hstore]
          exact node?_unmarked w now id
        item? := by
          intro id
          rw [item?, hstore]
          rfl
        able := ⟨⟨by rw [hstore]; exact hw.fails, by rw [hstore]; exact hw.switchedOff⟩,
          by rw [hexporter]; exact hw.exporter⟩ }
  | persist i =>
      simp only [Effect.attempt, Effect.snd_ofAccess]
      exact adds_update hw now i

/-- Effects add one after another. -/
theorem adds_performAll (hw : w.Able) (now : Time) (found : String) (es : List Effect) :
    Adds now es w (Effect.performAll now found w es).2 := by
  induction es generalizing found w with
  | nil => exact .nil hw
  | cons e es ih =>
      have hfirst := adds_perform hw now found e
      rw [Effect.performAll_cons]
      exact hfirst.append (ih hfirst.able _)

end World

/-! ### Turns -/

/-- One dispatch of an item in a world, with the item as it is stored before and after. The
records of the dispatch bear the time `scheduled`. -/
structure Turn where
  before : World MemoryStore
  after : World MemoryStore
  stored : Item
  persisted : Item
  conclusion : Conclusion
  scheduled : Time
  ended : Time

namespace Turn

/-- From the state that is stored before to the one after. -/
def transition (t : Turn) : Transition := ⟨t.stored.progress.state, t.persisted.progress.state⟩

def isChange (t : Turn) : Bool := t.transition.before != t.transition.after

/-- A change is announced unless it is the first success of an item nothing was known about. -/
def isAnnounced (t : Turn) : Bool :=
  t.isChange && !(t.transition.before == .unknown && t.transition.after == .normal)

/-- The text of the event: the item with its probe, the two states, and the error if there is one
among the readings. -/
def message (t : Turn) : String :=
  t.persisted.settings.name ++ " " ++ t.persisted.settings.probe ++ ": " ++
    t.stored.progress.state.word ++ " -> " ++ t.persisted.progress.state.word ++
    match t.persisted.progress.readings["error"]? with
    | some (.text error) => " (" ++ error ++ ")"
    | _ => ""

/-- The event of polling that the turn is told by. -/
def notice? (t : Turn) : Option Notice :=
  if t.isAnnounced then
    some ⟨"polling", t.persisted.progress.state.word, t.persisted.id, t.message⟩
  else none

/-- The event that tells of a crash. -/
def crash? (t : Turn) : Option Notice :=
  match t.conclusion with
  | .crashed message _ =>
    some ⟨"system", "error", t.persisted.id,
      "Probe " ++ t.persisted.settings.probe ++ " crashed: " ++ message⟩
  | _ => none

/-- The row of the history that the log mode asks for. -/
def record? (t : Turn) : Option HistoryRecord :=
  let record : HistoryRecord :=
    ⟨t.persisted.id, t.scheduled, t.persisted.progress.state, t.persisted.progress.readings⟩
  match t.persisted.settings.logMode with
  | .none => none
  | .always => some record
  | .ai => some record
  | .onChange => if t.isChange then some record else none

/-- The snapshot that the log mode offers to the exporter. -/
def snapshot? (t : Turn) : Option Snapshot :=
  let snapshot : Snapshot :=
    { item := t.persisted.id
      node := t.persisted.settings.node
      name := t.persisted.settings.name
      probe := t.persisted.settings.probe
      logMode := t.persisted.settings.logMode
      time := t.scheduled
      state := t.persisted.progress.state
      readings := t.persisted.progress.readings }
  match t.persisted.settings.logMode with
  | .none => none
  | .always => some snapshot
  | .ai => some snapshot
  | .onChange => none

end Turn

/-- Others leave an item and its traces alone: they may write its times, and anything about
other items and nodes. -/
structure LeavesAlone (id : Uuid) (w v : World MemoryStore) : Prop where
  item? : ∀ i, w.item? id = some i → ∃ j, v.item? id = some j ∧ j.SameFindings i
  notices : v.notices.filter (·.subject == id) = w.notices.filter (·.subject == id)
  records : v.records.filter (·.item == id) = w.records.filter (·.item == id)
  snapshots : v.snapshots.filter (·.item == id) = w.snapshots.filter (·.item == id)

/-- A run from one world to another with completed dispatches of an item, its turns. Each works
on a copy of the stored item that may have other times, while the store does not fail and there
is an exporter. In between others leave the item alone. -/
inductive Story (id : Uuid) (w : World MemoryStore) : List Turn → World MemoryStore → Prop where
  | start : Story id w [] w
  | others {ts : List Turn} {v u : World MemoryStore} :
      Story id w ts v → LeavesAlone id v u → Story id w ts u
  | dispatch {ts : List Turn} {v : World MemoryStore} {item stored persisted : Item}
      (c : Conclusion) (ended : Time) :
      Story id w ts v → v.Able → v.item? id = some stored → item.id = id →
      item.SameFindings stored → (Dispatch.finish item c ended v).2.item? id = some persisted →
      Story id w
        (ts ++ [⟨v, (Dispatch.finish item c ended v).2, stored, persisted, c,
          item.progress.lastRun.getD ended, ended⟩])
        (Dispatch.finish item c ended v).2

/-! ### One turn -/

namespace Dispatch

/-- A dispatch reports a transition exactly when the state has changed. -/
theorem transition_conclude (item : Item) (c : Conclusion) :
    (conclude item c).2.transition =
      if item.progress.state = (conclude item c).1.progress.state then none
      else some ⟨item.progress.state, (conclude item c).1.progress.state⟩ := by
  have hstate : (conclude item c).1.progress.state =
      (item.progress.state.apply (interpret item c).1 item.settings.level).1 := rfl
  have htransition : (conclude item c).2.transition =
      (item.progress.state.apply (interpret item c).1 item.settings.level).2 := rfl
  rw [hstate, htransition]
  by_cases heq : item.progress.state =
      (item.progress.state.apply (interpret item c).1 item.settings.level).1
  · rw [if_pos heq]
    refine Option.eq_none_iff_forall_ne_some.2 ?_
    intro t ht
    exact (HealthState.apply_snd_eq_some_iff.1 ht).2 heq.symm
  · rw [if_neg heq]
    exact HealthState.apply_snd_eq_some_iff.2 ⟨rfl, fun h => heq h.symm⟩

end Dispatch

namespace Turn

variable {item stored : Item} {c : Conclusion} {ended : Time} {v : World MemoryStore}

/-- The turn of a copy of the stored item. -/
def ofDispatch (v : World MemoryStore) (item stored : Item) (c : Conclusion) (ended : Time) :
    Turn :=
  ⟨v, (Dispatch.finish item c ended v).2, stored, (Dispatch.conclude item c).1, c,
    item.progress.lastRun.getD ended, ended⟩

/-- The copy says the same about the item as what is stored. -/
theorem transition_ofDispatch (h : item.SameFindings stored) :
    (ofDispatch v item stored c ended).transition =
      ⟨item.progress.state, (Dispatch.conclude item c).1.progress.state⟩ := by
  rw [h.state]
  rfl

/-- The event of a transition says what has become of the stored item. -/
theorem announcement_eq (v : World MemoryStore) (item stored : Item) (c : Conclusion)
    (ended : Time) :
    Dispatch.announcement (Dispatch.conclude item c).1 (ofDispatch v item stored c ended).transition
      = (ofDispatch v item stored c ended).message := by
  have hreadings : (ofDispatch v item stored c ended).persisted.progress.readings =
      (Dispatch.conclude item c).1.progress.readings := rfl
  unfold Dispatch.announcement message
  rw [hreadings, Readings.error?, Readings.text?, Readings.errorKey]
  rcases (Dispatch.conclude item c).1.progress.readings["error"]? with _ | _ | _ <;> rfl

theorem reported_eq (v : World MemoryStore) (c : Conclusion) (ended : Time)
    (h : item.SameFindings stored) :
    (Dispatch.conclude item c).2.transition =
      if (ofDispatch v item stored c ended).isChange then
        some (ofDispatch v item stored c ended).transition else none := by
  rw [Dispatch.transition_conclude, isChange, transition_ofDispatch h]
  by_cases heq : item.progress.state = (Dispatch.conclude item c).1.progress.state
  · rw [if_pos heq, heq]
    simp
  · rw [if_neg heq]
    simp [heq]

/-- The effects of a dispatch, by what its turn says. -/
theorem settle_eq (h : item.SameFindings stored) :
    (Dispatch.settle item c ended).2 = Dispatch.crashEffects item c ++
      (if (ofDispatch v item stored c ended).isAnnounced then
        [.findNode item.settings.node,
          .logEvent Event.polling (ofDispatch v item stored c ended).transition.after.word item.id
            none (ofDispatch v item stored c ended).message,
          .markNode item.settings.node]
      else []) ++
      Dispatch.recordEffects (Dispatch.conclude item c).1
        (ofDispatch v item stored c ended).isChange (item.progress.lastRun.getD ended) ++
      [.persist (Dispatch.conclude item c).1] := by
  rw [Dispatch.settle_snd, reported_eq v c ended h, isAnnounced, ← announcement_eq]
  cases (ofDispatch v item stored c ended).isChange <;> rfl

/-- A part of the effects has nothing to say in a place. -/
theorem filterMap_recordEffects {α : Type} {f : Effect → Option α}
    (hkeep : ∀ r, f (.keepHistory r) = none) (hhand : ∀ x, f (.handOver x) = none) (i : Item)
    (changed : Bool) (time : Time) :
    (Dispatch.recordEffects i changed time).filterMap f = [] := by
  unfold Dispatch.recordEffects
  split <;> split <;> simp [hkeep, hhand]

theorem filterMap_crashEffects {α : Type} {f : Effect → Option α}
    (hlog : ∀ category level subject name message,
      f (.logEvent category level subject name message) = none) :
    (Dispatch.crashEffects item c).filterMap f = [] := by
  cases c with
  | crashed message m => simp [Dispatch.crashEffects, hlog]
  | _ => rfl

theorem filterMap_announced {α : Type} {f : Effect → Option α} {es : List Effect}
    (announced : Bool) (h : es.filterMap f = []) :
    (if announced then es else []).filterMap f = [] := by
  cases announced with
  | true => exact h
  | false => rfl

theorem notices_settle (h : item.SameFindings stored) :
    (Dispatch.settle item c ended).2.filterMap Effect.notice? =
      (ofDispatch v item stored c ended).crash?.toList ++
        (ofDispatch v item stored c ended).notice?.toList := by
  have hcrash : (Dispatch.crashEffects item c).filterMap Effect.notice? =
      (ofDispatch v item stored c ended).crash?.toList := by
    cases c <;> rfl
  rw [settle_eq (v := v) h, notice?]
  simp only [List.filterMap_append, hcrash,
    filterMap_recordEffects (f := Effect.notice?) (fun _ => rfl) fun _ => rfl]
  cases (ofDispatch v item stored c ended).isAnnounced with
  | true => exact List.append_nil _ |>.trans (List.append_nil _)
  | false => exact List.append_nil _ |>.trans (List.append_nil _)

theorem marked_settle (h : item.SameFindings stored) :
    (Dispatch.settle item c ended).2.filterMap Effect.marked? =
      if (ofDispatch v item stored c ended).isAnnounced then [item.settings.node] else [] := by
  rw [settle_eq (v := v) h]
  simp only [List.filterMap_append,
    filterMap_crashEffects (f := Effect.marked?) fun _ _ _ _ _ => rfl,
    filterMap_recordEffects (f := Effect.marked?) (fun _ => rfl) fun _ => rfl]
  cases (ofDispatch v item stored c ended).isAnnounced <;> rfl

/-- The history row is kept as the log mode says, whatever is announced. -/
theorem records_settle (h : item.SameFindings stored) :
    (Dispatch.settle item c ended).2.filterMap Effect.record? =
      (ofDispatch v item stored c ended).record?.toList := by
  have hrecord (i : Item) (changed : Bool) (time : Time) :
      (Dispatch.recordEffects i changed time).filterMap Effect.record? =
        if i.settings.logMode.records changed then
          [⟨i.id, time, i.progress.state, i.progress.readings⟩] else [] := by
    unfold Dispatch.recordEffects
    split <;> split <;> rfl
  rw [settle_eq (v := v) h]
  simp only [List.filterMap_append, hrecord,
    filterMap_crashEffects (f := Effect.record?) fun _ _ _ _ _ => rfl]
  rw [filterMap_announced _ rfl]
  unfold record?
  generalize (ofDispatch v item stored c ended).isChange = changed
  change _ = (match (Dispatch.conclude item c).1.settings.logMode with
    | .none => none
    | .always => some _
    | .ai => some _
    | .onChange => if changed then some _ else none).toList
  cases (Dispatch.conclude item c).1.settings.logMode <;> cases changed <;> rfl

theorem snapshots_settle (h : item.SameFindings stored) :
    (Dispatch.settle item c ended).2.filterMap Effect.snapshot? =
      (ofDispatch v item stored c ended).snapshot?.toList := by
  have hrecord (i : Item) (changed : Bool) (time : Time) :
      (Dispatch.recordEffects i changed time).filterMap Effect.snapshot? =
        if i.settings.logMode.exports then [.ofItem i time] else [] := by
    unfold Dispatch.recordEffects
    split <;> split <;> rfl
  rw [settle_eq (v := v) h]
  simp only [List.filterMap_append, hrecord,
    filterMap_crashEffects (f := Effect.snapshot?) fun _ _ _ _ _ => rfl]
  rw [filterMap_announced _ rfl]
  unfold snapshot?
  change _ = (match (Dispatch.conclude item c).1.settings.logMode with
    | .none => none
    | .always => some _
    | .ai => some _
    | .onChange => none).toList
  cases (Dispatch.conclude item c).1.settings.logMode <;> rfl

theorem adds_finish (item : Item) (c : Conclusion) (ended : Time) (hv : v.Able) :
    World.Adds ended (Dispatch.settle item c ended).2 v (Dispatch.finish item c ended v).2 :=
  World.adds_performAll hv ended "" _

/-- What is stored after a dispatch is the item as the check leaves it. -/
theorem item?_finish (c : Conclusion) (ended : Time) (hv : v.Able) {id : Uuid}
    (hstored : v.item? id = some stored) (hid : item.id = id) (h : item.SameFindings stored) :
    (Dispatch.finish item c ended v).2.item? id = some (Dispatch.conclude item c).1 := by
  have hafter : (Dispatch.conclude item c).1.id = id := hid
  have hsame : stored.id = item.id := (World.id_of_item? hstored).trans hid.symm
  rw [(adds_finish item c ended hv).item?, Dispatch.writes_settle, hstored, List.foldl_cons,
    List.foldl_nil, World.overwrite, if_pos hafter, Option.map_some]
  rw [hsame, ← h.settings]
  rfl

end Turn

/-! ### Stories -/

namespace Story

/-- The state that turns have reached from a saved item on. -/
def reached (saved : Item) (ts : List Turn) : HealthState :=
  ((ts.getLast?.map (·.persisted)).getD saved).progress.state

/-- The traces that a world has of an item. -/
def noticesOf (id : Uuid) (category : String) (w : World MemoryStore) : List Notice :=
  w.notices.filter fun n => n.category == category && n.subject == id

def recordsOf (id : Uuid) (w : World MemoryStore) : List HistoryRecord :=
  w.records.filter (·.item == id)

def snapshotsOf (id : Uuid) (w : World MemoryStore) : List Snapshot :=
  w.snapshots.filter (·.item == id)

/-- The traces tell the turns of an item from `saved` on. Each turn starts at the state that
those before it have reached. One event of polling tells of each change that is announced, one
event of the system of each crash, and the node is marked in the turns with an announced change
only. History and snapshots are added as the log mode says. -/
structure Told (id : Uuid) (saved : Item) (w : World MemoryStore) (ts : List Turn)
    (v : World MemoryStore) : Prop where
  settings : ∀ t ∈ ts, t.persisted.id = id ∧ t.persisted.settings = saved.settings
  states : ∀ earlier t later, ts = earlier ++ t :: later →
    t.transition.before = reached saved earlier
  stored : ∃ i, v.item? id = some i ∧ i.id = id ∧ i.settings = saved.settings ∧
    i.progress.state = reached saved ts
  polling : noticesOf id Event.polling v =
    noticesOf id Event.polling w ++ ts.filterMap Turn.notice?
  system : noticesOf id Event.system v = noticesOf id Event.system w ++ ts.filterMap Turn.crash?
  marks : ∀ t ∈ ts, ∀ node, t.after.node? node =
    (t.before.node? node).map
      (World.mark t.ended (t.isAnnounced && node == saved.settings.node))
  history : recordsOf id v = recordsOf id w ++ ts.filterMap Turn.record?
  snapshots : snapshotsOf id v = snapshotsOf id w ++ ts.filterMap Turn.snapshot?

section

variable {id : Uuid} {saved : Item} {u v w : World MemoryStore} {ts : List Turn}

theorem reached_concat (saved : Item) (ts : List Turn) (t : Turn) :
    reached saved (ts ++ [t]) = t.persisted.progress.state := by
  rw [reached, List.getLast?_concat]
  rfl

theorem told_start (hsaved : w.item? id = some saved) : Told id saved w [] w where
  settings := fun t ht => absurd ht List.not_mem_nil
  states := by
    intro earlier t later h
    cases earlier <;> cases h
  stored := ⟨saved, hsaved, World.id_of_item? hsaved, rfl, rfl⟩
  polling := (List.append_nil _).symm
  system := (List.append_nil _).symm
  marks := fun t ht => absurd ht List.not_mem_nil
  history := (List.append_nil _).symm
  snapshots := (List.append_nil _).symm

/-- What others do is no part of the story. -/
theorem Told.others (h : Told id saved w ts v) (hothers : LeavesAlone id v u) :
    Told id saved w ts u := by
  have hnotices (category : String) : noticesOf id category u = noticesOf id category v := by
    unfold noticesOf
    rw [← List.filter_filter, ← List.filter_filter, hothers.notices]
  refine ⟨h.settings, h.states, ?_, ?_, ?_, h.marks, ?_, ?_⟩
  · obtain ⟨i, hi, hid, hsettings, hstate⟩ := h.stored
    obtain ⟨j, hj, hfindings⟩ := hothers.item? i hi
    exact ⟨j, hj, World.id_of_item? hj, hfindings.settings.trans hsettings,
      hfindings.state.trans hstate⟩
  · rw [hnotices, h.polling]
  · rw [hnotices, h.system]
  · exact hothers.records.trans h.history
  · exact hothers.snapshots.trans h.snapshots

theorem filter_toList {o : Option Notice} {kind : String} {id : Uuid}
    (h : ∀ n ∈ o, n.category = kind ∧ n.subject = id) (category : String) :
    o.toList.filter (fun n => n.category == category && n.subject == id) =
      if kind = category then o.toList else [] := by
  cases o with
  | none => split <;> rfl
  | some n =>
      obtain ⟨rfl, rfl⟩ := h n rfl
      by_cases heq : n.category = category
      · rw [if_pos heq]
        simp [heq]
      · rw [if_neg heq]
        simp [heq]

/-- The events of a turn are about its item. -/
theorem of_mem_notice? {t : Turn} : ∀ n ∈ t.notice?,
    n.category = Event.polling ∧ n.subject = t.persisted.id := by
  intro n hn
  unfold Turn.notice? at hn
  split at hn
  · cases hn
    exact ⟨rfl, rfl⟩
  · cases hn

theorem of_mem_crash? {t : Turn} : ∀ n ∈ t.crash?,
    n.category = Event.system ∧ n.subject = t.persisted.id := by
  intro n hn
  unfold Turn.crash? at hn
  split at hn
  · cases hn
    exact ⟨rfl, rfl⟩
  · cases hn

theorem of_mem_record? {t : Turn} : ∀ r ∈ t.record?, r.item = t.persisted.id := by
  intro r hr
  unfold Turn.record? at hr
  split at hr
  · cases hr
  · cases hr
    rfl
  · cases hr
    rfl
  · split at hr <;> cases hr
    rfl

theorem of_mem_snapshot? {t : Turn} : ∀ x ∈ t.snapshot?, x.item = t.persisted.id := by
  intro x hx
  unfold Turn.snapshot? at hx
  split at hx <;> cases hx <;> rfl

theorem filterMap_concat_toList {α β : Type} (f : α → Option β) (l : List α) (a : α) :
    (l ++ [a]).filterMap f = l.filterMap f ++ (f a).toList := by
  rw [List.filterMap_append, filterMap_cons_toList, List.filterMap_nil, List.append_nil]

theorem filter_toList_eq_self {α : Type} {o : Option α} {p : α → Bool}
    (h : ∀ a ∈ o, p a = true) : o.toList.filter p = o.toList :=
  List.filter_eq_self.2 fun a ha => h a (Option.mem_toList.1 ha)

/-- One more turn starts at the state that those before it have reached. -/
theorem states_concat {t : Turn}
    (h : ∀ earlier t later, ts = earlier ++ t :: later →
      t.transition.before = reached saved earlier)
    (ht : t.transition.before = reached saved ts) :
    ∀ earlier t' later, ts ++ [t] = earlier ++ t' :: later →
      t'.transition.before = reached saved earlier := by
  intro earlier t' later heq
  rcases List.eq_nil_or_concat later with rfl | ⟨later, last, rfl⟩
  · obtain ⟨rfl, hlast⟩ := List.append_inj' heq rfl
    cases hlast
    exact ht
  · rw [List.concat_eq_append, ← List.cons_append, ← List.append_assoc] at heq
    obtain ⟨rfl, -⟩ := List.append_inj' heq rfl
    exact h earlier t' later rfl

/-- A dispatch adds its turn to the story. -/
theorem Told.dispatch (h : Told id saved w ts v) {item stored : Item} (c : Conclusion)
    (ended : Time) (hv : v.Able) (hstored : v.item? id = some stored) (hid : item.id = id)
    (hfindings : item.SameFindings stored) :
    Told id saved w (ts ++ [Turn.ofDispatch v item stored c ended])
      (Dispatch.finish item c ended v).2 := by
  obtain ⟨i, hi, -, hsettings, hstate⟩ := h.stored
  obtain rfl : stored = i := Option.some.inj (hstored.symm.trans hi)
  have hadds := Turn.adds_finish item c ended hv
  have hpersisted := Turn.item?_finish c ended hv hstored hid hfindings
  have hid' : (Turn.ofDispatch v item stored c ended).persisted.id = id := hid
  have hsettings' : (Turn.ofDispatch v item stored c ended).persisted.settings = saved.settings :=
    hfindings.settings.trans hsettings
  have hnotices (category : String) : noticesOf id category (Dispatch.finish item c ended v).2 =
      noticesOf id category v ++
        ((if Event.system = category then (Turn.ofDispatch v item stored c ended).crash?.toList
          else []) ++
        if Event.polling = category then (Turn.ofDispatch v item stored c ended).notice?.toList
          else []) := by
    rw [noticesOf, hadds.notices, Turn.notices_settle (v := v) hfindings, List.filter_append,
      List.filter_append, filter_toList (hid' ▸ of_mem_crash?),
      filter_toList (hid' ▸ of_mem_notice?)]
    rfl
  have hreached := reached_concat saved ts (Turn.ofDispatch v item stored c ended)
  refine ⟨?_, states_concat h.states hstate, ⟨_, hpersisted, hid, hsettings', hreached.symm⟩,
    ?_, ?_, ?_, ?_, ?_⟩
  · exact List.forall_mem_append.2 ⟨h.settings, List.forall_mem_singleton.2 ⟨hid', hsettings'⟩⟩
  · rw [hnotices, h.polling, filterMap_concat_toList, List.append_assoc]
    rfl
  · rw [hnotices, h.system, filterMap_concat_toList, List.append_assoc]
    rw [if_pos rfl, if_neg (by decide), List.append_nil]
  · refine List.forall_mem_append.2 ⟨h.marks, List.forall_mem_singleton.2 fun node => ?_⟩
    change (Dispatch.finish item c ended v).2.node? node = _
    have hnode : item.settings.node = saved.settings.node := congrArg Settings.node hsettings'
    rw [hadds.node?, Turn.marked_settle (v := v) hfindings, hnode]
    cases (Turn.ofDispatch v item stored c ended).isAnnounced with
    | true =>
        rw [if_pos rfl, List.contains_eq_any_beq, List.any_cons, List.any_nil, Bool.or_false,
          Bool.true_and]
        rfl
    | false => rfl
  · have hown : (Turn.ofDispatch v item stored c ended).record?.toList.filter (·.item == id) =
        (Turn.ofDispatch v item stored c ended).record?.toList :=
      filter_toList_eq_self fun r hr => beq_iff_eq.2 ((of_mem_record? r hr).trans hid')
    rw [recordsOf, hadds.records, Turn.records_settle (v := v) hfindings, List.filter_append, hown,
      filterMap_concat_toList, ← List.append_assoc, ← h.history]
    rfl
  · have hown : (Turn.ofDispatch v item stored c ended).snapshot?.toList.filter (·.item == id) =
        (Turn.ofDispatch v item stored c ended).snapshot?.toList :=
      filter_toList_eq_self fun x hx => beq_iff_eq.2 ((of_mem_snapshot? x hx).trans hid')
    rw [snapshotsOf, hadds.snapshots, Turn.snapshots_settle (v := v) hfindings, List.filter_append,
      hown, filterMap_concat_toList, ← List.append_assoc, ← h.snapshots]
    rfl

end

/-- The traces of an item tell its story. -/
theorem told {id : Uuid} {saved : Item} {w v : World MemoryStore} {ts : List Turn}
    (hsaved : w.item? id = some saved) (h : Story id w ts v) : Told id saved w ts v := by
  induction h with
  | start => exact told_start hsaved
  | others _ hothers ih => exact ih.others hothers
  | dispatch c ended _ hv hstored hid hfindings hpersisted ih =>
      rw [Turn.item?_finish c ended hv hstored hid hfindings] at hpersisted
      cases hpersisted
      exact ih.dispatch c ended hv hstored hid hfindings

end Story

namespace Sample

/-- The item with records of all its checks. -/
def storied : Item :=
  { item with settings := { item.settings with logMode := .always } }

end Sample

namespace Story

/-- An item nothing is known about fails, and then its probe crashes. Both turns are announced and
recorded, and the second one has an event of the system too. -/
theorem told_sample :
    let id := Sample.storied.id
    let w : World MemoryStore := .start (MemoryStore.empty.put Sample.storied) .empty .keeping
    ∃ ts v, w.item? id = some Sample.storied ∧ Told id Sample.storied w ts v ∧
      ts.map Turn.isAnnounced = [true, true] ∧
      noticesOf id "polling" v =
        [⟨"polling", "low", id, "web http: unknown -> low"⟩,
          ⟨"polling", "unknown", id,
            "web http: low -> unknown (probe panicked: division by zero)"⟩] ∧
      noticesOf id "system" v =
        [⟨"system", "error", id, "Probe http crashed: division by zero"⟩] ∧
      (recordsOf id v).map (·.state) = [.failing .low, .unknown] ∧
      (snapshotsOf id v).map (fun x => (x.name, x.state, x.readings.error?)) =
        [("web", .failing .low, none),
          ("web", .unknown, some "probe panicked: division by zero")] := by
  intro id w
  let failed := (Dispatch.conclude Sample.storied (.finished .fail .empty)).1
  let v := (Dispatch.finish Sample.storied (.finished .fail .empty) .epoch w).2
  have hw : w.Able := ⟨⟨fun _ => rfl, rfl⟩, by decide⟩
  have hsaved : w.item? id = some Sample.storied := MemoryStore.getElem?_put_of_eq rfl _
  have hfailed : v.item? id = some failed := Turn.item?_finish _ _ hw hsaved rfl (.refl _)
  have hv : v.Able := (Turn.adds_finish _ _ _ hw).able
  have hfirst : Story id w _ v :=
    .dispatch (.finished .fail .empty) .epoch .start hw hsaved rfl (.refl _) hfailed
  have hid : failed.id = id := rfl
  have hsecond := hfirst.dispatch (.crashed "division by zero" .empty) .epoch hv hfailed hid
    (.refl failed) (Turn.item?_finish _ _ hv hfailed hid (.refl failed))
  exact ⟨_, _, hsaved, told hsaved hsecond, by decide +kernel⟩

end Story

end Vigil
