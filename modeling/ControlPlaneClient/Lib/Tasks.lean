import Mathlib

/-!
# Tasks in a list

A system with any number of tasks keeps one entry a task, and a step of the `i`-th task replaces its
entry. What the tasks hold is read off their entries by a partial function: a step of one task leaves
what the others hold, before it and after it, as it is.
-/

namespace Tasks

variable {P D : Type*}

/-- What the tasks hold, with the share of the `i`-th one in its place. -/
lemma filterMap_set_split {tasks : List P} {i : ℕ} {p : P} (h : tasks[i]? = some p)
    (f : P → Option D) :
    ∃ xs ys, tasks.filterMap f = xs ++ (f p).toList ++ ys ∧
      ∀ p', (tasks.set i p').filterMap f = xs ++ (f p').toList ++ ys := by
  obtain ⟨hi, rfl⟩ := List.getElem?_eq_some_iff.mp h
  refine ⟨(tasks.take i).filterMap f, (tasks.drop (i + 1)).filterMap f, ?_, ?_⟩
  · have hsplit : tasks = tasks.take i ++ tasks[i] :: tasks.drop (i + 1) := by
      rw [← List.drop_eq_getElem_cons hi, List.take_append_drop]
    conv_lhs => rw [hsplit, List.filterMap_append, List.filterMap_cons]
    cases f tasks[i] <;> simp
  · intro p'
    rw [List.set_eq_take_append_cons_drop, if_pos hi, List.filterMap_append, List.filterMap_cons]
    cases f p' <;> simp

end Tasks
