import Mathlib.Data.List.FinRange
import Vigil.Proofs.Except
import Vigil.Proofs.Record.Line

/-!
# Concurrent exports

Several checks export their snapshots at the same time. Each export takes a lock, opens the file,
writes its line in parts of any lengths and gives the lock back; the steps of different exports
come in any order. The file has the lines of the exports in the order in which they took the lock,
and every snapshot is read back from its line (`exports_read_back`).
-/

namespace Vigil.ResultFile

/-! ### Exports one after another -/

/-- Appends snapshots one after another. -/
def appendAll (path : String) (xs : List Snapshot) (t : FileTree) : Except FileError FileTree :=
  xs.foldlM (fun t x => append path x t) t

variable {path : String} {t u : FileTree} {x : Snapshot} {xs : List Snapshot}

theorem appendAll_concat (h : appendAll path xs t = .ok u) :
    appendAll path (xs ++ [x]) t = append path x u := by
  rw [appendAll, List.foldlM_append, ← appendAll, h]
  exact bind_pure (append path x u)

/-- Lines that are appended one after another are appended as one. -/
theorem append_flatMap_of_appendAll (h : appendAll path xs t = .ok u) (hne : xs ≠ []) :
    t.append path (xs.flatMap lineOctets) = .ok u := by
  induction xs generalizing t with
  | nil => exact absurd rfl hne
  | cons x xs ih =>
      obtain ⟨v, hfirst, hrest⟩ := Except.ok_of_bind (List.foldlM_cons.symm.trans h)
      have hline : t.append path (lineOctets x) = .ok v := hfirst
      cases xs with
      | nil =>
          cases hrest
          rw [List.flatMap_singleton, hline]
      | cons y ys =>
          rw [List.flatMap_cons, ← FileTree.append_append hline]
          exact ih hrest (List.cons_ne_nil y ys)

/-! ### Steps of exports -/

/-- Where an export is. -/
inductive Stage where
  /-- The line is composed, and the lock is not taken. -/
  | waiting
  /-- The lock is taken, and the file is not open. -/
  | locked
  /-- The file is open, and these octets of the line are still to be written. -/
  | writing (left : List UInt8)
  /-- The line is written, and the lock is given back. -/
  | returned
deriving DecidableEq

/-- The exports of some snapshots that run at the same time. -/
structure Exports (n : ℕ) where
  files : FileTree
  stage : Fin n → Stage
  /-- The export that holds the lock. -/
  holder : Option (Fin n)
  /-- The exports that took the lock, in this order. -/
  taken : List (Fin n)

/-- A step of one of the exports. -/
inductive Action (n : ℕ) where
  | take (i : Fin n)
  | openFile (i : Fin n)
  | write (i : Fin n) (count : ℕ)
  | giveBack (i : Fin n)

variable {n : ℕ}

/-- Before any export. -/
def Exports.start (t : FileTree) : Exports n := ⟨t, fun _ => .waiting, none, []⟩

/-- What a step leads to, if it can be made. Only taking the lock heeds who holds it; a file that is
opened comes to be if it is not there. -/
def Exports.step? (path : String) (calls : Fin n → Snapshot) (s : Exports n) :
    Action n → Option (Exports n)
  | .take i =>
      if s.stage i = .waiting ∧ s.holder = none then
        some { s with
          stage := Function.update s.stage i .locked
          holder := some i
          taken := s.taken ++ [i] }
      else none
  | .openFile i =>
      if s.stage i = .locked then
        (s.files.append path []).toOption.map fun files =>
          { s with files, stage := Function.update s.stage i (.writing (lineOctets (calls i))) }
      else none
  | .write i count =>
      match s.stage i with
      | .writing left =>
          (s.files.append path (left.take count)).toOption.map fun files =>
            { s with files, stage := Function.update s.stage i (.writing (left.drop count)) }
      | _ => none
  | .giveBack i =>
      if s.stage i = .writing [] then
        some { s with stage := Function.update s.stage i .returned, holder := none }
      else none

/-- What steps lead to, if they can be made. -/
def Exports.run? (path : String) (calls : Fin n → Snapshot) (actions : List (Action n))
    (s : Exports n) : Option (Exports n) :=
  actions.foldlM (Exports.step? path calls) s

/-! ### What the file holds meanwhile -/

/-- The lines that are in the file: those of all exports that took the lock, but of the holder's
line only what it has written. -/
inductive Filled (path : String) (calls : Fin n → Snapshot) (t : FileTree) (s : Exports n) :
    Prop where
  | free (hholder : s.holder = none) (hfiles : appendAll path (s.taken.map calls) t = .ok s.files)
  | locked {i : Fin n} {earlier : List (Fin n)} (hholder : s.holder = some i)
      (hstage : s.stage i = .locked) (htaken : s.taken = earlier ++ [i])
      (hfiles : appendAll path (earlier.map calls) t = .ok s.files)
  | writing {i : Fin n} {earlier : List (Fin n)} {u : FileTree} {written left : List UInt8}
      (hholder : s.holder = some i) (hstage : s.stage i = .writing left)
      (htaken : s.taken = earlier ++ [i])
      (hearlier : appendAll path (earlier.map calls) t = .ok u)
      (hline : written ++ left = lineOctets (calls i))
      (hfiles : u.append path written = .ok s.files)

/-- What holds of exports at any time. -/
structure Sound (path : String) (calls : Fin n → Snapshot) (t : FileTree) (s : Exports n) :
    Prop where
  nodup : s.taken.Nodup
  mem_taken : ∀ i, i ∈ s.taken ↔ s.stage i ≠ .waiting
  holder : ∀ i, s.stage i ≠ .waiting → s.stage i ≠ .returned → s.holder = some i
  filled : Filled path calls t s

variable {calls : Fin n → Snapshot} {s r : Exports n}

theorem sound_start (path : String) (calls : Fin n → Snapshot) (t : FileTree) :
    Sound path calls t (Exports.start t) where
  nodup := List.nodup_nil
  mem_taken _ := iff_of_false List.not_mem_nil fun h => h rfl
  holder _ h := absurd rfl h
  filled := .free rfl rfl

namespace Sound

/-- Exports that have begun have taken the lock. -/
theorem mem_taken_update (h : Sound path calls t s) {i : Fin n} {e : Stage}
    (hi : s.stage i ≠ .waiting) (he : e ≠ .waiting) (j : Fin n) :
    j ∈ s.taken ↔ Function.update s.stage i e j ≠ .waiting := by
  by_cases hj : j = i
  · subst hj
    rw [Function.update_self]
    exact iff_of_true ((h.mem_taken j).2 hi) he
  · rw [Function.update_of_ne hj]
    exact h.mem_taken j

theorem holder_of_locked (h : Sound path calls t s) {i : Fin n} (hstage : s.stage i = .locked) :
    s.holder = some i :=
  h.holder i (by simp [hstage]) (by simp [hstage])

theorem holder_of_writing (h : Sound path calls t s) {i : Fin n} {left : List UInt8}
    (hstage : s.stage i = .writing left) : s.holder = some i :=
  h.holder i (by simp [hstage]) (by simp [hstage])

theorem files_of_free (h : Sound path calls t s) (hholder : s.holder = none) :
    appendAll path (s.taken.map calls) t = .ok s.files := by
  cases h.filled with
  | free _ hfiles => exact hfiles
  | locked hsome => cases hholder.symm.trans hsome
  | writing hsome => cases hholder.symm.trans hsome

/-- An export that has not opened the file follows all others that took the lock. -/
theorem files_of_locked (h : Sound path calls t s) {i : Fin n} (hstage : s.stage i = .locked) :
    ∃ earlier, s.taken = earlier ++ [i] ∧ appendAll path (earlier.map calls) t = .ok s.files := by
  have hholder := h.holder_of_locked hstage
  cases h.filled with
  | free hnone => cases hnone.symm.trans hholder
  | locked hsome _ htaken hfiles =>
      cases hholder.symm.trans hsome
      exact ⟨_, htaken, hfiles⟩
  | writing hsome hwriting =>
      cases hholder.symm.trans hsome
      cases hstage.symm.trans hwriting

/-- An export that writes follows all others that took the lock, and has written the front of its
line. -/
theorem files_of_writing (h : Sound path calls t s) {i : Fin n} {left : List UInt8}
    (hstage : s.stage i = .writing left) :
    ∃ earlier u written, s.taken = earlier ++ [i] ∧
      appendAll path (earlier.map calls) t = .ok u ∧ written ++ left = lineOctets (calls i) ∧
      u.append path written = .ok s.files := by
  have hholder := h.holder_of_writing hstage
  cases h.filled with
  | free hnone => cases hnone.symm.trans hholder
  | locked hsome hlocked =>
      cases hholder.symm.trans hsome
      cases hstage.symm.trans hlocked
  | writing hsome hwriting htaken hearlier hline hfiles =>
      cases hholder.symm.trans hsome
      cases hstage.symm.trans hwriting
      exact ⟨_, _, _, htaken, hearlier, hline, hfiles⟩

theorem take (h : Sound path calls t s) {i : Fin n} (hstage : s.stage i = .waiting)
    (hholder : s.holder = none) :
    Sound path calls t { s with
      stage := Function.update s.stage i .locked
      holder := some i
      taken := s.taken ++ [i] } where
  nodup := by
    have hnot : i ∉ s.taken := fun hi => (h.mem_taken i).1 hi hstage
    exact List.nodup_append.2 ⟨h.nodup, List.nodup_singleton i, by
      rintro j hj k hk rfl
      exact hnot (List.mem_singleton.1 hk ▸ hj)⟩
  mem_taken j := by
    rw [List.mem_append, List.mem_singleton]
    by_cases hj : j = i
    · subst hj
      simp
    · simp [h.mem_taken j, hj]
  holder j hwaiting hreturned := by
    by_cases hj : j = i
    · rw [hj]
    · simp only [Function.update_of_ne hj] at hwaiting hreturned
      cases hholder.symm.trans (h.holder j hwaiting hreturned)
  filled := .locked rfl (Function.update_self i _ _) rfl (h.files_of_free hholder)

/-- The holder of the lock goes on. -/
theorem proceed (h : Sound path calls t s) {i : Fin n} {e : Stage} {files : FileTree}
    (hholder : s.holder = some i) (hi : s.stage i ≠ .waiting) (he : e ≠ .waiting)
    (hfilled : Filled path calls t { s with files, stage := Function.update s.stage i e }) :
    Sound path calls t { s with files, stage := Function.update s.stage i e } where
  nodup := h.nodup
  mem_taken := h.mem_taken_update hi he
  holder j hwaiting hreturned := by
    by_cases hj : j = i
    · rw [hj]
      exact hholder
    · simp only [Function.update_of_ne hj] at hwaiting hreturned
      exact h.holder j hwaiting hreturned
  filled := hfilled

theorem openFile (h : Sound path calls t s) {i : Fin n} {files : FileTree}
    (hstage : s.stage i = .locked) (happend : s.files.append path [] = .ok files) :
    Sound path calls t
      { s with files, stage := Function.update s.stage i (.writing (lineOctets (calls i))) } := by
  obtain ⟨earlier, htaken, hfiles⟩ := h.files_of_locked hstage
  have hholder := h.holder_of_locked hstage
  refine h.proceed hholder (by simp [hstage]) (by simp) ?_
  exact .writing hholder (Function.update_self i _ _) htaken hfiles (List.nil_append _) happend

theorem write (h : Sound path calls t s) {i : Fin n} {left : List UInt8} {files : FileTree}
    (count : ℕ) (hstage : s.stage i = .writing left)
    (happend : s.files.append path (left.take count) = .ok files) :
    Sound path calls t
      { s with files, stage := Function.update s.stage i (.writing (left.drop count)) } := by
  obtain ⟨earlier, u, written, htaken, hearlier, hline, hfiles⟩ := h.files_of_writing hstage
  have hline' : (written ++ left.take count) ++ left.drop count = lineOctets (calls i) := by
    rw [List.append_assoc, List.take_append_drop, hline]
  have hfiles' : u.append path (written ++ left.take count) = .ok files := by
    rw [← FileTree.append_append hfiles, happend]
  have hholder := h.holder_of_writing hstage
  refine h.proceed hholder (by simp [hstage]) (by simp) ?_
  exact .writing hholder (Function.update_self i _ _) htaken hearlier hline' hfiles'

theorem giveBack (h : Sound path calls t s) {i : Fin n} (hstage : s.stage i = .writing []) :
    Sound path calls t
      { s with stage := Function.update s.stage i .returned, holder := none } where
  nodup := h.nodup
  mem_taken := h.mem_taken_update (by simp [hstage]) (by simp)
  holder j hwaiting hreturned := by
    by_cases hj : j = i
    · subst hj
      exact absurd (Function.update_self j _ _) hreturned
    · simp only [Function.update_of_ne hj] at hwaiting hreturned
      cases (h.holder_of_writing hstage).symm.trans (h.holder j hwaiting hreturned)
      exact absurd rfl hj
  filled := by
    obtain ⟨earlier, u, written, htaken, hearlier, hline, hfiles⟩ := h.files_of_writing hstage
    rw [List.append_nil] at hline
    refine .free rfl ?_
    rw [htaken, List.map_append, List.map_singleton, appendAll_concat hearlier, append,
      ← lineOctets, ← hline, hfiles]

theorem step (h : Sound path calls t s) {a : Action n} (hstep : s.step? path calls a = some r) :
    Sound path calls t r := by
  cases a with
  | take i =>
      obtain ⟨⟨hstage, hholder⟩, hr⟩ := Option.ite_none_right_eq_some.1 hstep
      cases hr
      exact h.take hstage hholder
  | openFile i =>
      obtain ⟨hstage, hr⟩ := Option.ite_none_right_eq_some.1 hstep
      obtain ⟨files, hfiles, rfl⟩ := Option.map_eq_some_iff.1 hr
      exact h.openFile hstage (Except.eq_ok_of_toOption hfiles)
  | write i count =>
      cases hstage : s.stage i with
      | writing left =>
          simp only [Exports.step?, hstage] at hstep
          obtain ⟨files, hfiles, rfl⟩ := Option.map_eq_some_iff.1 hstep
          exact h.write count hstage (Except.eq_ok_of_toOption hfiles)
      | _ =>
          simp only [Exports.step?, hstage] at hstep
          cases hstep
  | giveBack i =>
      obtain ⟨hstage, hr⟩ := Option.ite_none_right_eq_some.1 hstep
      cases hr
      exact h.giveBack hstage

theorem run (h : Sound path calls t s) {actions : List (Action n)}
    (hrun : s.run? path calls actions = some r) : Sound path calls t r := by
  induction actions generalizing s with
  | nil =>
      cases hrun
      exact h
  | cons a actions ih =>
      obtain ⟨next, hstep, hrest⟩ := Option.bind_eq_some_iff.1 hrun
      exact ih (h.step hstep) hrest

end Sound

/-! ### Exports come to their end -/

namespace Exports

theorem run?_cons {a : Action n} {actions : List (Action n)} (h : s.step? path calls a = some r) :
    s.run? path calls (a :: actions) = r.run? path calls actions := by
  rw [run?, List.foldlM_cons, h]
  rfl

theorem run?_append {first second : List (Action n)} (h : s.run? path calls first = some r) :
    s.run? path calls (first ++ second) = r.run? path calls second := by
  rw [run?, List.foldlM_append, ← run?, h]
  rfl

theorem step?_take {i : Fin n} (hstage : s.stage i = .waiting) (hholder : s.holder = none) :
    s.step? path calls (.take i) = some { s with
      stage := Function.update s.stage i .locked
      holder := some i
      taken := s.taken ++ [i] } :=
  if_pos ⟨hstage, hholder⟩

theorem step?_openFile {i : Fin n} {files : FileTree} (hstage : s.stage i = .locked)
    (h : s.files.append path [] = .ok files) :
    s.step? path calls (.openFile i) = some { s with
      files, stage := Function.update s.stage i (.writing (lineOctets (calls i))) } := by
  rw [step?, if_pos hstage, h]
  rfl

theorem step?_write {i : Fin n} {left : List UInt8} {count : ℕ} {files : FileTree}
    (hstage : s.stage i = .writing left) (h : s.files.append path (left.take count) = .ok files) :
    s.step? path calls (.write i count) = some { s with
      files, stage := Function.update s.stage i (.writing (left.drop count)) } := by
  simp only [step?, hstage, h]
  rfl

theorem step?_giveBack {i : Fin n} (hstage : s.stage i = .writing []) :
    s.step? path calls (.giveBack i) = some { s with
      stage := Function.update s.stage i .returned, holder := none } :=
  if_pos hstage

/-- The export can return, with the lock free and the others where they are. -/
def CanReturn (path : String) (calls : Fin n → Snapshot) (s : Exports n) (i : Fin n) : Prop :=
  ∃ actions r, s.run? path calls actions = some r ∧ r.holder = none ∧
    r.stage = Function.update s.stage i .returned

theorem CanReturn.of_step {i : Fin n} {a : Action n} {e : Stage} {next : Exports n}
    (hstep : s.step? path calls a = some next) (hstage : next.stage = Function.update s.stage i e)
    (h : CanReturn path calls next i) : CanReturn path calls s i := by
  obtain ⟨actions, r, hrun, hfree, hreturned⟩ := h
  refine ⟨a :: actions, r, (run?_cons hstep).trans hrun, hfree, ?_⟩
  rw [hreturned, hstage, Function.update_idem]

end Exports

open Exports

theorem placeOfFile_of_appendAll {place : Place} (hplace : t.placeOfFile path = .ok place)
    (h : appendAll path xs t = .ok u) : u.placeOfFile path = .ok place := by
  induction xs generalizing t with
  | nil =>
      cases h
      exact hplace
  | cons x xs ih =>
      obtain ⟨v, hfirst, hrest⟩ := Except.ok_of_bind (List.foldlM_cons.symm.trans h)
      exact ih (FileTree.placeOfFile_of_append hplace hfirst) hrest

namespace Sound

variable {place : Place}

/-- The path leads to the place of the file at any time. -/
theorem placeOfFile (h : Sound path calls t s) (hplace : t.placeOfFile path = .ok place) :
    s.files.placeOfFile path = .ok place := by
  cases h.filled with
  | free _ hfiles => exact placeOfFile_of_appendAll hplace hfiles
  | locked _ _ _ hfiles => exact placeOfFile_of_appendAll hplace hfiles
  | writing _ _ _ hearlier _ hfiles =>
      exact FileTree.placeOfFile_of_append (placeOfFile_of_appendAll hplace hearlier) hfiles

/-- An export that writes can return. -/
theorem canReturn_of_writing (h : Sound path calls t s) (hplace : t.placeOfFile path = .ok place)
    {i : Fin n} {left : List UInt8} (hstage : s.stage i = .writing left) :
    CanReturn path calls s i := by
  have hfiles := FileTree.append_of_placeOfFile (h.placeOfFile hplace) (left.take left.length)
  have hwrite : s.step? path calls (.write i left.length) = _ := step?_write hstage hfiles
  refine .of_step hwrite rfl ⟨[.giveBack i], _, run?_cons (step?_giveBack ?_), rfl, rfl⟩
  exact (Function.update_self i _ _).trans (by rw [List.drop_length])

/-- An export that has the lock can return. -/
theorem canReturn_of_locked (h : Sound path calls t s) (hplace : t.placeOfFile path = .ok place)
    {i : Fin n} (hstage : s.stage i = .locked) : CanReturn path calls s i := by
  have hfiles := FileTree.append_of_placeOfFile (h.placeOfFile hplace) []
  exact .of_step (step?_openFile hstage hfiles) rfl
    ((h.openFile hstage hfiles).canReturn_of_writing hplace (Function.update_self i _ _))

/-- An export that waits can return if the lock is free. -/
theorem canReturn_of_waiting (h : Sound path calls t s) (hplace : t.placeOfFile path = .ok place)
    {i : Fin n} (hstage : s.stage i = .waiting) (hholder : s.holder = none) :
    CanReturn path calls s i :=
  .of_step (step?_take hstage hholder) rfl
    ((h.take hstage hholder).canReturn_of_locked hplace (Function.update_self i _ _))

/-- Once the lock is free, any exports can return one after another. -/
theorem exists_run_of_free (h : Sound path calls t s) (hplace : t.placeOfFile path = .ok place)
    (hholder : s.holder = none) (is : List (Fin n)) :
    ∃ actions r, s.run? path calls actions = some r ∧
      ∀ i, i ∈ is ∨ s.stage i = .returned → r.stage i = .returned := by
  induction is generalizing s with
  | nil => exact ⟨[], s, rfl, fun i hi => hi.resolve_left List.not_mem_nil⟩
  | cons i is ih =>
      by_cases hi : s.stage i = .returned
      · obtain ⟨actions, r, hrun, hreturned⟩ := ih h hholder
        refine ⟨actions, r, hrun, fun j hj => hreturned j ?_⟩
        rcases hj with hj | hj
        · rcases List.mem_cons.1 hj with rfl | hj
          · exact .inr hi
          · exact .inl hj
        · exact .inr hj
      · have hwaiting : s.stage i = .waiting := by
          by_contra hnot
          cases hholder.symm.trans (h.holder i hnot hi)
        obtain ⟨first, next, hfirst, hfree, hstage⟩ :=
          h.canReturn_of_waiting hplace hwaiting hholder
        obtain ⟨rest, r, hrest, hreturned⟩ := ih (h.run hfirst) hfree
        refine ⟨first ++ rest, r, (run?_append hfirst).trans hrest, fun j hj => ?_⟩
        refine hreturned j (or_iff_not_imp_left.2 fun hnot => ?_)
        rw [hstage]
        by_cases hji : j = i
        · rw [hji, Function.update_self]
        · rw [Function.update_of_ne hji]
          exact hj.resolve_left fun hmem => hnot ((List.mem_cons.1 hmem).resolve_left hji)

/-- No order of steps keeps the exports from coming to their end. -/
theorem exists_run_returned (h : Sound path calls t s) (hplace : t.placeOfFile path = .ok place) :
    ∃ actions r, s.run? path calls actions = some r ∧ ∀ i, r.stage i = .returned := by
  have hfree : ∃ first next, s.run? path calls first = some next ∧ next.holder = none := by
    cases h.filled with
    | free hholder => exact ⟨[], s, rfl, hholder⟩
    | locked _ hstage =>
        obtain ⟨first, next, hfirst, hholder, -⟩ := h.canReturn_of_locked hplace hstage
        exact ⟨first, next, hfirst, hholder⟩
    | writing _ hstage =>
        obtain ⟨first, next, hfirst, hholder, -⟩ := h.canReturn_of_writing hplace hstage
        exact ⟨first, next, hfirst, hholder⟩
  obtain ⟨first, next, hfirst, hholder⟩ := hfree
  obtain ⟨rest, r, hrest, hreturned⟩ :=
    (h.run hfirst).exists_run_of_free hplace hholder (List.finRange n)
  exact ⟨first ++ rest, r, (run?_append hfirst).trans hrest,
    fun i => hreturned i (.inl (List.mem_finRange i))⟩

/-- Every export that has returned took the lock, once. -/
theorem taken_perm (h : Sound path calls t s) (hreturned : ∀ i, s.stage i = .returned) :
    s.taken.Perm (List.finRange n) := by
  refine (List.perm_ext_iff_of_nodup h.nodup (List.nodup_finRange n)).2 fun i => ?_
  refine iff_of_true ((h.mem_taken i).2 ?_) (List.mem_finRange i)
  simp [hreturned i]

/-- Exports that have returned leave what they would have left one after another. -/
theorem appendAll_taken (h : Sound path calls t s) (hreturned : ∀ i, s.stage i = .returned) :
    appendAll path (s.taken.map calls) t = .ok s.files := by
  cases h.filled with
  | free _ hfiles => exact hfiles
  | locked _ hstage => cases (hreturned _).symm.trans hstage
  | writing _ hstage => cases (hreturned _).symm.trans hstage

end Sound

/-! ### What is read back -/

/-- Whatever order the steps of exports to a file that was not there come in, the exports can come
to their end. The file then has one line for each export, in the order in which they took the lock,
as if they had been made one after another. Each line has one line end, which is its last octet, so
the file comes apart at the line ends into one document for each export, and the snapshots are read
from the documents as they were. -/
theorem exports_read_back {n : ℕ} {path : String} {calls : Fin n → Snapshot} {t : FileTree}
    {place : Place} (hplace : t.placeOfFile path = .ok place) (habsent : t.contains path = false)
    (hback : ∀ i, (calls i).ReadBack) {actions : List (Action n)} {s : Exports n}
    (hrun : (Exports.start t).run? path calls actions = some s) :
    (∃ more r, s.run? path calls more = some r ∧ ∀ i, r.stage i = .returned) ∧
      ((∀ i, s.stage i = .returned) →
        s.taken.Perm (List.finRange n) ∧
        appendAll path (s.taken.map calls) t = .ok s.files ∧
        (∀ x, ∃ front, lineOctets x = front ++ [lineEnd] ∧ lineEnd ∉ front) ∧
        ∃ file documents,
          file = s.taken.flatMap (fun i => lineOctets (calls i)) ∧
          (n ≠ 0 → s.files.read path = .ok file) ∧
          file.splitOn lineEnd = documents ++ [[]] ∧
          documents.length = n ∧
          documents.map snapshot? = s.taken.map fun i => some (calls i)) := by
  have hsound := (sound_start path calls t).run hrun
  refine ⟨hsound.exists_run_returned hplace, fun hreturned => ?_⟩
  have hperm := hsound.taken_perm hreturned
  have hfiles := hsound.appendAll_taken hreturned
  have hlength : (s.taken.map calls).length = n := by
    rw [List.length_map, hperm.length_eq, List.length_finRange]
  have hlines : s.taken.flatMap (fun i => lineOctets (calls i)) =
      (s.taken.map calls).flatMap lineOctets := by
    rw [List.flatMap_map]
  refine ⟨hperm, hfiles, fun x => ⟨document x, lineOctets_eq x, lineEnd_not_mem_document x⟩, _,
    (s.taken.map calls).map document, rfl, fun hn => ?_, ?_, ?_, ?_⟩
  · have hne : s.taken.map calls ≠ [] := List.length_pos_iff.1 (by omega)
    rw [hlines]
    exact FileTree.read_of_append habsent (append_flatMap_of_appendAll hfiles hne)
  · rw [hlines]
    exact splitOn_lines _
  · rw [List.length_map, hlength]
  · rw [List.map_map, List.map_map]
    exact List.map_congr_left fun i _ => snapshot?_document (hback i)

namespace Sample

/-- A snapshot with line ends in its texts. -/
def snapshot (name : String) : Snapshot where
  item := ⟨1⟩
  node := ⟨2⟩
  name := name
  probe := "http"
  logMode := .ai
  time := ⟨1717000000, 5, by decide, by decide, by decide⟩
  state := .normal
  readings := (Readings.empty.insert "body\n\"ü" (.text "a\nb")).insert "rtt" (.number 42)

def snapshots (i : Fin 2) : Snapshot := snapshot (if i = 0 then "web\n" else "\x7b\x7d")

/-- The second export takes the lock first, and writes its line in two parts. -/
def actions : List (Action 2) :=
  [.take 1, .openFile 1, .write 1 5, .write 1 1000, .giveBack 1,
    .take 0, .openFile 0, .write 0 1000, .giveBack 0]

end Sample

theorem exports_read_back_sample :
    ∃ s, (start .empty).run? "results.jsonl" Sample.snapshots Sample.actions = some s ∧
      s.taken = [1, 0] ∧
      ∃ file documents, s.files.read "results.jsonl" = .ok file ∧
        file.splitOn lineEnd = documents ++ [[]] ∧ documents.length = 2 ∧
        documents.map snapshot? = [some (Sample.snapshots 1), some (Sample.snapshots 0)] := by
  have hplace : FileTree.empty.placeOfFile "results.jsonl" = .ok ["results.jsonl"] :=
    Except.eq_ok_of_toOption (by decide +kernel)
  have hback : ∀ i, (Sample.snapshots i).ReadBack := fun i =>
    ⟨by decide +revert +kernel, by decide +revert +kernel⟩
  have hend : ((start .empty).run? "results.jsonl" Sample.snapshots Sample.actions).map
      (fun s => (s.stage 0, s.stage 1, s.taken)) = some (.returned, .returned, [1, 0]) := by
    decide +kernel
  obtain ⟨s, hrun, hs⟩ := Option.map_eq_some_iff.1 hend
  simp only [Prod.mk.injEq] at hs
  obtain ⟨hfirst, hsecond, htaken⟩ := hs
  obtain ⟨-, hdone⟩ := exports_read_back hplace (by decide +kernel) hback hrun
  obtain ⟨-, -, -, file, documents, -, hread, hsplit, hlength, hdocuments⟩ :=
    hdone (Fin.forall_fin_two.2 ⟨hfirst, hsecond⟩)
  rw [htaken] at hdocuments
  exact ⟨s, hrun, htaken, file, documents, hread (by decide), hsplit, hlength, hdocuments⟩

end Vigil.ResultFile
