import Mathlib

/-!
# Programs over files

A program that touches files is a tree of file operations, each of which continues with its
answer. The tree is what the source text fixes; what the operations answer is left to the
interpretation. `run` is the interpretation in which every operation that can succeed does.

`FileM` adds the early return of fallible code: an operation that fails ends the computation.
-/

namespace FileSystem

/-- The contents of the files. A missing file has none. -/
abbrev Files (Path : Type) := Path → Option (List UInt8)

inductive Prog (Path : Type) (α : Type) : Type
  | done (a : α)
  | probe (p : Path) (k : Bool → Prog Path α)
  /-- Read a whole file; `none` when that fails. -/
  | read (p : Path) (k : Option (List UInt8) → Prog Path α)
  /-- Create or truncate a file and write it. The answer says whether that succeeded, here and in
  the operations below. -/
  | write (p : Path) (content : List UInt8) (k : Bool → Prog Path α)
  | setPermissions (p : Path) (k : Bool → Prog Path α)
  | rename (src dst : Path) (k : Bool → Prog Path α)
  | removeFile (p : Path) (k : Bool → Prog Path α)
  | createDirAll (k : Bool → Prog Path α)

variable {Path α β : Type}

def Prog.bind : Prog Path α → (α → Prog Path β) → Prog Path β
  | .done a, f             => f a
  | .probe p k, f         => .probe p fun r => (k r).bind f
  | .read p k, f           => .read p fun r => (k r).bind f
  | .write p b k, f        => .write p b fun r => (k r).bind f
  | .setPermissions p k, f => .setPermissions p fun r => (k r).bind f
  | .rename p q k, f       => .rename p q fun r => (k r).bind f
  | .removeFile p k, f     => .removeFile p fun r => (k r).bind f
  | .createDirAll k, f     => .createDirAll fun r => (k r).bind f

instance : Monad (Prog Path) where
  pure := .done
  bind := .bind

/-- Fallible programs. -/
abbrev FileM (Path : Type) := OptionT (Prog Path)

/-- Go on when the operation succeeded. -/
def ensure (ok : Bool) : Prog Path (Option Unit) := .done (if ok then some () else none)

def pathExists (p : Path) : FileM Path Bool := .mk (.probe p fun r => .done (some r))

def read (p : Path) : FileM Path (List UInt8) := .mk (.read p .done)

def write (p : Path) (content : List UInt8) : FileM Path Unit := .mk (.write p content ensure)

def setPermissions (p : Path) : FileM Path Unit := .mk (.setPermissions p ensure)

def rename (src dst : Path) : FileM Path Unit := .mk (.rename src dst ensure)

def removeFile (p : Path) : FileM Path Unit := .mk (.removeFile p ensure)

def createDirAll : FileM Path Unit := .mk (.createDirAll ensure)

/-- Run `x` and go on with its result, or with `none` when it fails. -/
def attempt (x : FileM Path α) : FileM Path (Option α) := .mk (x.run.bind fun r => .done (some r))

/-! ### The interpretation in which operations succeed -/

variable [DecidableEq Path]

def run : Prog Path α → Files Path → α × Files Path
  | .done a, fs             => (a, fs)
  | .probe p k, fs         => run (k (fs p).isSome) fs
  | .read p k, fs           => run (k (fs p)) fs
  | .write p b k, fs        => run (k true) (Function.update fs p (some b))
  | .setPermissions p k, fs => run (k (fs p).isSome) fs
  | .rename p q k, fs       =>
    match fs p with
    | some b => run (k true) (Function.update (Function.update fs q (some b)) p none)
    | none   => run (k false) fs
  | .removeFile p k, fs     => run (k (fs p).isSome) (Function.update fs p none)
  | .createDirAll k, fs     => run (k true) fs

lemma run_bind (x : Prog Path α) (f : α → Prog Path β) (fs : Files Path) :
    run (x.bind f) fs = run (f (run x fs).1) (run x fs).2 := by
  induction x generalizing fs with
  | done a => rfl
  | rename p q k ih =>
    simp only [Prog.bind, run]
    split
    · exact ih _ _
    · exact ih _ _
  | probe p k ih | read p k ih | write p b k ih | setPermissions p k ih | removeFile p k ih
  | createDirAll k ih => exact ih _ _

lemma run_bind_eq (x : Prog Path α) (f : α → Prog Path β) (fs : Files Path) :
    run (x >>= f) fs = run (f (run x fs).1) (run x fs).2 := run_bind x f fs

@[simp] lemma run_pure (a : α) (fs : Files Path) : run (pure a : Prog Path α) fs = (a, fs) := rfl

/-- The result and the files after a fallible program. -/
def eval (x : FileM Path α) (fs : Files Path) : Option α × Files Path := run x.run fs

@[simp] lemma eval_pure (a : α) (fs : Files Path) :
    eval (pure a : FileM Path α) fs = (some a, fs) := rfl

@[simp] lemma eval_failure (fs : Files Path) :
    eval (failure : FileM Path α) fs = (none, fs) := rfl

lemma eval_bind (x : FileM Path α) (f : α → FileM Path β) (fs : Files Path) :
    eval (x >>= f) fs = match eval x fs with
      | (some a, fs') => eval (f a) fs'
      | (none, fs')   => (none, fs') := by
  have h : eval (x >>= f) fs = run (x.run.bind fun r => match r with
      | some a => (f a).run
      | none   => .done none) fs := rfl
  rw [h, run_bind, eval]
  cases hx : run x.run fs with
  | mk r fs' => cases r <;> rfl

/-- The program goes on past an operation that succeeds. -/
lemma eval_bind_of_some {x : FileM Path α} {f : α → FileM Path β} {fs fs' : Files Path} {a : α}
    (h : eval x fs = (some a, fs')) : eval (x >>= f) fs = eval (f a) fs' := by
  rw [eval_bind, h]

@[simp] lemma eval_pathExists (p : Path) (fs : Files Path) :
    eval (pathExists p) fs = (some (fs p).isSome, fs) := rfl

@[simp] lemma eval_read (p : Path) (fs : Files Path) : eval (read p) fs = (fs p, fs) := rfl

@[simp] lemma eval_write (p : Path) (b : List UInt8) (fs : Files Path) :
    eval (write p b) fs = (some (), Function.update fs p (some b)) := rfl

@[simp] lemma eval_createDirAll (fs : Files Path) :
    eval (createDirAll : FileM Path Unit) fs = (some (), fs) := rfl

lemma eval_setPermissions {p : Path} {fs : Files Path} (h : (fs p).isSome = true) :
    eval (setPermissions p) fs = (some (), fs) := by
  simp [eval, setPermissions, run, ensure, h, OptionT.run, OptionT.mk]

lemma eval_rename {p q : Path} {fs : Files Path} {b : List UInt8} (h : fs p = some b) :
    eval (rename p q) fs =
      (some (), Function.update (Function.update fs q (some b)) p none) := by
  simp [eval, rename, run, ensure, h, OptionT.run, OptionT.mk]

@[simp] lemma eval_attempt (x : FileM Path α) (fs : Files Path) :
    eval (attempt x) fs = (some (eval x fs).1, (eval x fs).2) := by
  have h : eval (attempt x) fs = run (x.run.bind fun r => .done (some r)) fs := rfl
  rw [h, run_bind]
  rfl

/-- The write to a temporary file that is then renamed over the file proper. -/
lemma eval_write_rename {p tmp : Path} (hne : p ≠ tmp) (b : List UInt8) (fs : Files Path) :
    Function.update (Function.update (Function.update fs tmp (some b)) p (some b)) tmp none =
      Function.update (Function.update fs p (some b)) tmp none := by
  rw [Function.update_comm hne, Function.update_idem, Function.update_comm hne]

end FileSystem
