import Vigil.Proofs.Store.World

/-!
# Effects on a state

What an effect does to a state is what its one call does, whether or not the call is
answered. The name that an attempt gives matters to later effects only.
-/

namespace Vigil

namespace Effect

variable {σ : Type} [Store σ] [Directory σ] [Exporter σ]

omit [Store σ] [Directory σ] [Exporter σ] in
theorem isOk_ofAccess (found : String) (a : Access σ Unit) (s : σ) :
    (ofAccess found a s).1.isOk = (a s).1.isOk := by
  unfold ofAccess
  split
  · next h =>
    rw [h]
    rfl
  · next h =>
    rw [h]
    rfl

theorem snd_attempt_findNode (node : Uuid) (now : Time) (found : String)
    (s : σ) : ((findNode node).attempt now found s).2 =
      ((Directory.nodeName? node : Access σ _) s).2 := by
  simp only [attempt]
  split
  · next h => rw [h]
  · next h => rw [h]

theorem isOk_attempt_findNode (node : Uuid) (now : Time) (found : String) (s : σ) :
    ((findNode node).attempt now found s).1.isOk =
      ((Directory.nodeName? node : Access σ _) s).1.isOk := by
  simp only [attempt]
  split
  · next h => rw [h]; rfl
  · next h => rw [h]; rfl

theorem snd_attempt_handOver (x : Snapshot) (now : Time) (found : String) (s : σ) :
    ((handOver x).attempt now found s).2 = (Exporter.accept x s).2 := by
  simp only [attempt]
  split
  · next h => rw [h]
  · next h => rw [h]

theorem isOk_attempt_handOver (x : Snapshot) (now : Time) (found : String) (s : σ) :
    ((handOver x).attempt now found s).1.isOk = (Exporter.accept x s).1.isOk := by
  simp only [attempt]
  split
  · next h => rw [h]; rfl
  · next h => rw [h]; rfl

theorem snd_perform (now : Time) (found : String) (s : σ) (e : Effect) :
    (e.perform now found s).2 = (e.attempt now found s).2 := by
  unfold perform
  split
  · next h => rw [h]
  · next h => rw [h]

theorem performAll_append (now : Time) (found : String) (s : σ) (es later : List Effect) :
    performAll now found s (es ++ later) =
      performAll now (performAll now found s es).1 (performAll now found s es).2 later := by
  induction es generalizing found s with
  | nil => rfl
  | cons e es ih =>
      rw [List.cons_append, performAll_cons, ih]
      rfl

end Effect

namespace Dispatch

theorem settle_snd (item : Item) (c : Conclusion) (now : Time) :
    (settle item c now).2 = crashEffects item c ++
      announceEffects (conclude item c).1 (conclude item c).2.transition ++
      recordEffects (conclude item c).1 (conclude item c).2.transition.isSome
        (item.progress.lastRun.getD now) ++ [.persist (conclude item c).1] := rfl

end Dispatch

end Vigil
