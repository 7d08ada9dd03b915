import ControlPlaneClient.Lib.FileSystem

/-!
# Programs over files, with faults

The interpretation of a program in which each operation may fail, and the process may be gone at
any point. A write truncates the file and then extends it, so one that fails or is cut off leaves a
part of its content, or leaves the file alone when it did not get that far. A rename happens or it
does not. The question whether a path exists is answered truthfully.

`Survives` is a logic of pre- and postconditions for it: the postcondition holds when the program
returns, and the crash condition whenever the process is gone. `Holds` is the same for fallible
programs, where a failure has to meet the crash condition too. `Maintains` says that a program keeps
an invariant of the disk whatever happens.
-/

namespace FileSystem

/-- What happens to one operation. `written` is how much a write has written, if anything. -/
inductive Answer
  | ok
  | fails (written : Option ℕ)
  /-- The process is gone. -/
  | crash (written : Option ℕ)
  deriving DecidableEq

/-- The files, and the renames that were performed. -/
structure Disk (Path : Type) where
  files   : Files Path
  renames : List (Path × Path)

variable {Path α β : Type} [DecidableEq Path]

namespace Disk

def put (d : Disk Path) (p : Path) (content : List UInt8) : Disk Path :=
  { d with files := Function.update d.files p (some content) }

/-- A write of `content` that got as far as `written`. -/
def cut (d : Disk Path) (p : Path) (content : List UInt8) : Option ℕ → Disk Path
  | none   => d
  | some n => d.put p (content.take n)

def move (d : Disk Path) (src dst : Path) (content : List UInt8) : Disk Path :=
  ⟨Function.update (Function.update d.files dst (some content)) src none, d.renames ++ [(src, dst)]⟩

def remove (d : Disk Path) (p : Path) : Disk Path :=
  { d with files := Function.update d.files p none }

@[simp] lemma put_self (d : Disk Path) (p : Path) (content : List UInt8) :
    (d.put p content).files p = some content := Function.update_self ..

@[simp] lemma put_of_ne (d : Disk Path) {p q : Path} (h : q ≠ p) (content : List UInt8) :
    (d.put p content).files q = d.files q := Function.update_of_ne h ..

@[simp] lemma put_renames (d : Disk Path) (p : Path) (content : List UInt8) :
    (d.put p content).renames = d.renames := rfl

lemma move_dst (d : Disk Path) {src dst : Path} (h : dst ≠ src) (content : List UInt8) :
    (d.move src dst content).files dst = some content := by
  simp only [move, Function.update_of_ne h, Function.update_self]

lemma move_of_ne (d : Disk Path) {src dst p : Path} (hsrc : p ≠ src) (hdst : p ≠ dst)
    (content : List UInt8) : (d.move src dst content).files p = d.files p := by
  simp only [move, Function.update_of_ne hsrc, Function.update_of_ne hdst]

lemma remove_of_ne (d : Disk Path) {p q : Path} (h : q ≠ p) :
    (d.remove p).files q = d.files q := Function.update_of_ne h ..

end Disk

/-- The answer to the next operation. Past the last one the process is gone. -/
def nextAnswer : List Answer → Answer × List Answer
  | []      => (.crash none, [])
  | a :: as => (a, as)

/-- What a program returns, with the answers it has not used, and what it leaves on disk. It
returns nothing when the process is gone. -/
def runFaulty : Prog Path α → List Answer → Disk Path → Option (α × List Answer) × Disk Path
  | .done a, as, d => (some (a, as), d)
  | .probe p k, as, d =>
    match nextAnswer as with
    | (.ok, as) | (.fails _, as) => runFaulty (k (d.files p).isSome) as d
    | (.crash _, _)              => (none, d)
  | .read p k, as, d =>
    match nextAnswer as with
    | (.ok, as)      => runFaulty (k (d.files p)) as d
    | (.fails _, as) => runFaulty (k none) as d
    | (.crash _, _)  => (none, d)
  | .write p b k, as, d =>
    match nextAnswer as with
    | (.ok, as)            => runFaulty (k true) as (d.put p b)
    | (.fails written, as) => runFaulty (k false) as (d.cut p b written)
    | (.crash written, _)  => (none, d.cut p b written)
  | .setPermissions p k, as, d =>
    match nextAnswer as with
    | (.ok, as)      => runFaulty (k (d.files p).isSome) as d
    | (.fails _, as) => runFaulty (k false) as d
    | (.crash _, _)  => (none, d)
  | .rename src dst k, as, d =>
    match nextAnswer as with
    | (.ok, as) =>
      match d.files src with
      | some b => runFaulty (k true) as (d.move src dst b)
      | none   => runFaulty (k false) as d
    | (.fails _, as) => runFaulty (k false) as d
    | (.crash _, _)  => (none, d)
  | .removeFile p k, as, d =>
    match nextAnswer as with
    | (.ok, as)      => runFaulty (k (d.files p).isSome) as (d.remove p)
    | (.fails _, as) => runFaulty (k false) as d
    | (.crash _, _)  => (none, d)
  | .createDirAll k, as, d =>
    match nextAnswer as with
    | (.ok, as)      => runFaulty (k true) as d
    | (.fails _, as) => runFaulty (k false) as d
    | (.crash _, _)  => (none, d)

/-- One program after another. -/
lemma runFaulty_bind (x : Prog Path α) (f : α → Prog Path β) (as : List Answer) (d : Disk Path) :
    runFaulty (x.bind f) as d = match runFaulty x as d with
      | (some (a, as'), d') => runFaulty (f a) as' d'
      | (none, d')          => (none, d') := by
  induction x generalizing as d with
  | done a => rfl
  | rename src dst k ih =>
    simp only [Prog.bind, runFaulty]
    rcases nextAnswer as with ⟨_ | _ | _, as'⟩
    · cases d.files src with
      | some b => exact ih true as' _
      | none => exact ih false as' d
    · exact ih false as' d
    · rfl
  | probe p k ih | read p k ih | write p b k ih | setPermissions p k ih | removeFile p k ih
  | createDirAll k ih =>
    simp only [Prog.bind, runFaulty]
    rcases nextAnswer as with ⟨_ | _ | _, as'⟩
    · exact ih _ as' _
    · exact ih _ as' _
    · rfl

/-- A result that is made without further operations. -/
lemma runFaulty_bind_pure (x : Prog Path α) (f : α → β) (as : List Answer) (d : Disk Path) :
    runFaulty (x >>= fun a => pure (f a)) as d =
      ((runFaulty x as d).1.map (Prod.map f id), (runFaulty x as d).2) := by
  change runFaulty (x.bind fun a => .done (f a)) as d = _
  rw [runFaulty_bind]
  generalize runFaulty x as d = out
  match out with
  | (some (a, as'), d') => rfl
  | (none, d') => rfl

lemma exists_of_bind_pure {x : Prog Path α} {f : α → β} {as as' : List Answer} {d : Disk Path}
    {b : β} (h : (runFaulty (x >>= fun a => pure (f a)) as d).1 = some (b, as')) :
    ∃ a, (runFaulty x as d).1 = some (a, as') ∧ f a = b := by
  rw [runFaulty_bind_pure] at h
  obtain ⟨⟨a, as''⟩, ha, hb⟩ := Option.map_eq_some_iff.mp h
  cases hb
  exact ⟨a, ha, rfl⟩

/-! ### Programs that survive -/

/-- The program has returned with `Q`, or is gone with `C`. -/
def Outcome (Q : α → Disk Path → Prop) (C : Disk Path → Prop) :
    Option (α × List Answer) × Disk Path → Prop
  | (some (a, _), d) => Q a d
  | (none, d)        => C d

/-- Under any faults the program returns with `Q`, or is gone with `C`. -/
def Survives (x : Prog Path α) (d : Disk Path) (Q : α → Disk Path → Prop) (C : Disk Path → Prop) :
    Prop :=
  ∀ as, Outcome Q C (runFaulty x as d)

section Prog

variable {x : Prog Path α} {d : Disk Path} {Q : α → Disk Path → Prop} {C : Disk Path → Prop}

lemma Survives.mono {Q' : α → Disk Path → Prop} {C' : Disk Path → Prop} (h : Survives x d Q C)
    (hQ : ∀ a d', Q a d' → Q' a d') (hC : ∀ d', C d' → C' d') : Survives x d Q' C' := by
  intro as
  have has := h as
  generalize runFaulty x as d = out at has ⊢
  match out with
  | (some (a, _), d') => exact hQ a d' has
  | (none, d') => exact hC d' has

lemma survives_bind {f : α → Prog Path β} {Q : β → Disk Path → Prop}
    (h : Survives x d (fun a d' => Survives (f a) d' Q C) C) : Survives (x >>= f) d Q C := by
  intro as
  have has := h as
  change Outcome Q C (runFaulty (x.bind f) as d)
  rw [runFaulty_bind]
  generalize runFaulty x as d = out at has ⊢
  match out with
  | (some (a, as'), d') => exact has as'
  | (none, d') => exact has

end Prog

/-- Whatever becomes of its operations, what the program returns has `Q`. -/
def Returns (x : Prog Path α) (Q : α → Prop) : Prop :=
  ∀ as d r, (runFaulty x as d).1 = some r → Q r.1

section Returns

variable {x : Prog Path α} {Q : β → Prop}

lemma returns_pure {b : β} (h : Q b) : Returns (pure b : Prog Path β) Q := by
  intro as d r hr
  cases hr
  exact h

/-- Only the program that comes last returns. -/
lemma returns_bind {f : α → Prog Path β} (h : ∀ a, Returns (f a) Q) : Returns (x >>= f) Q := by
  intro as d r hr
  change (runFaulty (x.bind f) as d).1 = some r at hr
  rw [runFaulty_bind] at hr
  generalize runFaulty x as d = out at hr
  match out with
  | (some (a, as'), d') => exact h a as' d' r hr
  | (none, d') => cases hr

/-- What one program returns with `P` becomes a result with `Q`. -/
lemma Returns.map {P : α → Prop} {f : α → β} (hx : Returns x P) (h : ∀ a, P a → Q (f a)) :
    Returns (x >>= fun a => pure (f a)) Q := by
  intro as d r hr
  obtain ⟨a, ha, hfa⟩ := exists_of_bind_pure hr
  rw [← hfa]
  exact h a (hx as d _ ha)

end Returns

/-! ### Fallible programs -/

/-- Under any faults the program succeeds with `Q`, or fails or is gone with `I`. -/
def Holds (x : FileM Path α) (d : Disk Path) (Q : α → Disk Path → Prop) (I : Disk Path → Prop) :
    Prop :=
  Survives x.run d (fun r d' => r.elim (I d') fun a => Q a d') I

section FileM

variable {x : FileM Path α} {d : Disk Path} {Q : α → Disk Path → Prop} {I : Disk Path → Prop}
  {p src dst : Path} {b : List UInt8}

lemma Holds.mono {Q' : α → Disk Path → Prop} {I' : Disk Path → Prop} (h : Holds x d Q I)
    (hQ : ∀ a d', Q a d' → Q' a d') (hI : ∀ d', I d' → I' d') : Holds x d Q' I' := by
  refine Survives.mono h ?_ hI
  intro r d' hr
  cases r with
  | none => exact hI d' hr
  | some a => exact hQ a d' hr

lemma holds_pure {a : α} (h : Q a d) : Holds (pure a : FileM Path α) d Q I := fun _ => h

lemma holds_failure (h : I d) : Holds (failure : FileM Path α) d Q I := fun _ => h

lemma holds_bind {f : α → FileM Path β} {Q : β → Disk Path → Prop}
    (h : Holds x d (fun a d' => Holds (f a) d' Q I) I) : Holds (x >>= f) d Q I := by
  refine survives_bind (Survives.mono h ?_ fun _ => id)
  intro r d' hr
  cases r with
  | none => exact fun _ => hr
  | some a => exact hr

/-- A failure is a result for `attempt`. -/
lemma holds_attempt {Q : Option α → Disk Path → Prop} {J : Disk Path → Prop}
    (h : Holds x d (fun a d' => Q (some a) d') J) (hQ : ∀ d', J d' → Q none d')
    (hI : ∀ d', J d' → I d') : Holds (attempt x) d Q I := by
  refine survives_bind (Survives.mono h ?_ hI)
  intro r d' hr
  cases r with
  | none => exact fun _ => hQ d' hr
  | some a => exact fun _ => hr

lemma holds_pathExists {Q : Bool → Disk Path → Prop} (hI : I d) (h : Q (d.files p).isSome d) :
    Holds (pathExists p) d Q I := by
  intro as
  simp only [pathExists, OptionT.run, OptionT.mk, runFaulty]
  rcases nextAnswer as with ⟨_ | _ | _, as'⟩
  · exact h
  · exact h
  · exact hI

lemma holds_read {Q : List UInt8 → Disk Path → Prop} (hI : I d)
    (h : ∀ b, d.files p = some b → Q b d) : Holds (read p) d Q I := by
  intro as
  simp only [read, OptionT.run, OptionT.mk, runFaulty]
  rcases nextAnswer as with ⟨_ | _ | _, as'⟩
  · cases hb : d.files p with
    | none => exact hI
    | some b => exact h b hb
  · exact hI
  · exact hI

lemma holds_write {Q : Unit → Disk Path → Prop} (hI : I d) (hcut : ∀ n, I (d.put p (b.take n)))
    (h : Q () (d.put p b)) : Holds (write p b) d Q I := by
  have hpart : ∀ written, I (d.cut p b written) := by
    intro written
    cases written with
    | none => exact hI
    | some n => exact hcut n
  intro as
  simp only [write, OptionT.run, OptionT.mk, runFaulty]
  rcases nextAnswer as with ⟨_ | _ | _, as'⟩
  · exact h
  · exact hpart _
  · exact hpart _

lemma holds_setPermissions {Q : Unit → Disk Path → Prop} (hI : I d) (h : Q () d) :
    Holds (setPermissions p) d Q I := by
  intro as
  simp only [setPermissions, OptionT.run, OptionT.mk, runFaulty]
  rcases nextAnswer as with ⟨_ | _ | _, as'⟩
  · cases (d.files p).isSome with
    | true => exact h
    | false => exact hI
  · exact hI
  · exact hI

lemma holds_rename {Q : Unit → Disk Path → Prop} (hI : I d)
    (h : ∀ b, d.files src = some b → Q () (d.move src dst b)) : Holds (rename src dst) d Q I := by
  intro as
  simp only [rename, OptionT.run, OptionT.mk, runFaulty]
  rcases nextAnswer as with ⟨_ | _ | _, as'⟩
  · cases hb : d.files src with
    | some b => exact h b hb
    | none => exact hI
  · exact hI
  · exact hI

lemma holds_createDirAll {Q : Unit → Disk Path → Prop} (hI : I d) (h : Q () d) :
    Holds (createDirAll : FileM Path Unit) d Q I := by
  intro as
  simp only [createDirAll, OptionT.run, OptionT.mk, runFaulty]
  rcases nextAnswer as with ⟨_ | _ | _, as'⟩
  · exact h
  · exact hI
  · exact hI

/-- What holds on success as well as on failure holds of the disk in any case. -/
lemma Holds.disk (h : Holds x d (fun _ => I) I) (as : List Answer) :
    I (runFaulty x.run as d).2 := by
  have has := h as
  generalize runFaulty x.run as d = out at has ⊢
  match out with
  | (some (some a, _), d') => exact has
  | (some (none, _), d') => exact has
  | (none, d') => exact has

end FileM

/-! ### Programs with an invariant -/

/-- Whatever becomes of its operations, the program keeps `I`. -/
def Maintains (I : Disk Path → Prop) (x : Prog Path α) : Prop :=
  ∀ d, I d → ∀ as, I (runFaulty x as d).2

section Maintains

variable {I : Disk Path → Prop} {p src dst : Path}

lemma Holds.maintains {x : FileM Path α} (h : ∀ d, I d → Holds x d (fun _ => I) I) :
    Maintains I x.run := fun d hd as => (h d hd).disk as

lemma maintains_pure (a : α) : Maintains I (pure a : Prog Path α) := fun _ hd _ => hd

/-- What one program establishes and the next one keeps. -/
lemma runFaulty_bind_disk {x : Prog Path α} {f : α → Prog Path β} {as : List Answer}
    {d : Disk Path} (hx : I (runFaulty x as d).2) (hf : ∀ a, Maintains I (f a)) :
    I (runFaulty (x >>= f) as d).2 := by
  change I (runFaulty (x.bind f) as d).2
  rw [runFaulty_bind]
  generalize runFaulty x as d = out at hx ⊢
  match out with
  | (some (a, as'), d') => exact hf a d' hx as'
  | (none, d') => exact hx

lemma maintains_bind {x : Prog Path α} {f : α → Prog Path β} (hx : Maintains I x)
    (hf : ∀ a, Maintains I (f a)) : Maintains I (x >>= f) :=
  fun d hd as => runFaulty_bind_disk (hx d hd as) hf

lemma maintains_run_pure (a : α) : Maintains I (pure a : FileM Path α).run := maintains_pure _

lemma maintains_run_failure : Maintains I (failure : FileM Path α).run := maintains_pure _

lemma maintains_run_bind {x : FileM Path α} {f : α → FileM Path β} (hx : Maintains I x.run)
    (hf : ∀ a, Maintains I (f a).run) : Maintains I (x >>= f).run := by
  refine maintains_bind hx ?_
  intro r
  cases r with
  | none => exact maintains_pure none
  | some a => exact hf a

lemma maintains_attempt {x : FileM Path α} (hx : Maintains I x.run) : Maintains I (attempt x).run :=
  maintains_bind hx fun r => maintains_pure (some r)

lemma maintains_pathExists : Maintains I (pathExists p).run :=
  Holds.maintains fun _ hd => holds_pathExists hd hd

lemma maintains_read : Maintains I (read p).run :=
  Holds.maintains fun _ hd => holds_read hd fun _ _ => hd

lemma maintains_setPermissions : Maintains I (setPermissions p).run :=
  Holds.maintains fun _ hd => holds_setPermissions hd hd

lemma maintains_createDirAll : Maintains I (createDirAll : FileM Path Unit).run :=
  Holds.maintains fun _ hd => holds_createDirAll hd hd

lemma maintains_write {b : List UInt8} (h : ∀ d content, I d → I (d.put p content)) :
    Maintains I (write p b).run :=
  Holds.maintains fun d hd => holds_write hd (fun _ => h d _ hd) (h d b hd)

lemma maintains_removeFile (h : ∀ d, I d → I (d.remove p)) : Maintains I (removeFile p).run := by
  intro d hd as
  simp only [removeFile, OptionT.run, OptionT.mk, runFaulty]
  rcases nextAnswer as with ⟨_ | _ | _, as'⟩
  · exact h d hd
  · exact hd
  · exact hd

lemma maintains_rename (h : ∀ d content, I d → I (d.move src dst content)) :
    Maintains I (rename src dst).run :=
  Holds.maintains fun d hd => holds_rename hd fun b _ => h d b hd

end Maintains

end FileSystem
