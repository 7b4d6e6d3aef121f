import Linting.Runner

/-! Running files in parallel. Workers take files in any order and share the index of the first
failure known so far, so that files behind it need not be analyzed. Each step of a worker is atomic;
steps of different workers interleave in any way. -/

namespace Linting.Parallel

variable {ε β : Type}

/-- How far the work on one file has come. -/
inductive Slot (ε β : Type)
  | untaken
  | taken
  | admitted
  | failing (error : ε)
  | announced (error : ε)
  | skipped
  | stored (outcome : Except ε β)

/-- Whether there is nothing left to do for a file. -/
def Slot.isDone : Slot ε β → Bool
  | skipped => true
  | stored _ => true
  | _ => false

/-- What the workers share: a slot for each file, the first failure announced so far, and the
files analyzed, the latest first. -/
structure Pool (ε β : Type) where
  slots : Array (Slot ε β)
  firstFailure : Option Nat
  analyzed : List Nat

namespace Pool

def start (count : Nat) : Pool ε β := ⟨.replicate count .untaken, none, []⟩

/-- Whether a failure is known in front of file `i`. -/
def isBehindFailure (pool : Pool ε β) (i : Nat) : Bool := pool.firstFailure.any (· < i)

/-- Whether the workers have no step left. -/
def isDone (pool : Pool ε β) : Bool := pool.slots.all Slot.isDone

def setSlot (pool : Pool ε β) (i : Nat) (slot : Slot ε β) : Pool ε β :=
  { pool with slots := pool.slots.setIfInBounds i slot }

/-- The next atomic step of the work on file `i`: to take it, to look at the first failure, to
analyze the file, to announce that it failed, and to store the outcome. -/
def step (analyze : Nat → Except ε β) (i : Nat) (pool : Pool ε β) : Pool ε β :=
  match pool.slots[i]? with
  | some .untaken => pool.setSlot i .taken
  | some .taken => pool.setSlot i (if pool.isBehindFailure i then .skipped else .admitted)
  | some .admitted =>
    let pool := { pool with analyzed := i :: pool.analyzed }
    match analyze i with
    | .ok value => pool.setSlot i (.stored (.ok value))
    | .error e => pool.setSlot i (.failing e)
  | some (.failing e) =>
    { pool.setSlot i (.announced e) with
      firstFailure := some (match pool.firstFailure with
        | some j => min i j
        | none => i) }
  | some (.announced e) => pool.setSlot i (.stored (.error e))
  | _ => pool

/-- Lets the workers make the steps of a schedule, each named by its file. -/
def runSchedule (analyze : Nat → Except ε β) (schedule : List Nat) (pool : Pool ε β) : Pool ε β :=
  schedule.foldl (fun pool i => pool.step analyze i) pool

end Pool

/-- Puts the outcomes of all slots together: the first error, or everything found. -/
def collect : List (Slot ε (List β)) → Except ε (List β)
  | [] => .ok []
  | .stored (.error e) :: _ => .error e
  | .stored (.ok found) :: rest => (collect rest).map (found ++ ·)
  | _ :: rest => collect rest

/-- A schedule of one worker that finishes each file before it takes the next. -/
def oneWorker (count : Nat) : List Nat := (List.range count).flatMap (List.replicate 5)

end Linting.Parallel

namespace Linting.Runner

open Parallel

/-- What there is to find in the `i`-th file. -/
def analyze (r : Runner) (files : List Path) (i : Nat) : Except RunError (List Lint) :=
  match files[i]? with
  | some file => (r.lintFile file).2
  | none => .ok []

/-- The pool after the steps of a schedule. -/
def pool (r : Runner) (files : List Path) (schedule : List Nat) : Pool RunError (List Lint) :=
  (Pool.start files.length).runSchedule (r.analyze files) schedule

/-- Like `run`, with workers that follow a schedule. -/
def runScheduled (r : Runner) (files : List Path) (schedule : List Nat) :
    Except RunError Report :=
  match r.refusal? files with
  | some e => .error e
  | none => (collect (r.pool files schedule).slots.toList).map (r.report files)

def runParallel (r : Runner) (files : List Path) : Except RunError Report :=
  r.runScheduled files (oneWorker files.length)

end Linting.Runner
