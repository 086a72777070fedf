import ClusterProvision.Failure
import ClusterProvision.Log
import ClusterProvision.Readiness

/-!
# `ClusterProvision.Timed`: work that takes time

A piece of work starts at some time and runs its course: it makes calls, writes log
entries, and ends at some time, done, failed or with a panic. Times are milliseconds and
delays are exact. One piece of work follows another when the first is done; a failure or
a panic ends the whole.
-/

set_option autoImplicit false

namespace ClusterProvision

/-- Something that happens between a node's task and its provider. -/
inductive Event where
  | called (call : Call)
  | succeeded (call : Call)
  deriving DecidableEq, Repr

/-- How a piece of work ends. -/
inductive Ending (α : Type) where
  | done (a : α)
  | failed (failure : Failure)
  | panicked
  deriving DecidableEq, Repr

/-- What a piece of work did: its events with their times, its log, and its end. -/
structure Course (α : Type) where
  events : List (Nat × Event)
  logs : List Log
  finish : Nat
  ending : Ending α
  deriving DecidableEq, Repr

/-- The calls of a course, with their times. -/
def Course.calls {α : Type} (course : Course α) : List (Nat × Call) :=
  course.events.filterMap fun (time, event) =>
    match event with
    | .called call => some (time, call)
    | .succeeded _ => none

/-- A piece of work: its course from each time at which it may start. -/
def Timed (α : Type) := Nat → Course α

namespace Timed

variable {α β : Type}

/-- Work that is done at once. -/
def done (a : α) : Timed α := fun now => ⟨[], [], now, .done a⟩

/-- Work that follows other work. -/
def next (work : Timed α) (more : α → Timed β) : Timed β := fun now =>
  let first := work now
  match first.ending with
  | .done a =>
    let second := more a first.finish
    ⟨first.events ++ second.events, first.logs ++ second.logs, second.finish, second.ending⟩
  | .failed failure => ⟨first.events, first.logs, first.finish, .failed failure⟩
  | .panicked => ⟨first.events, first.logs, first.finish, .panicked⟩

instance : Monad Timed where
  pure := done
  bind := next

section
variable {work : Timed α} {now : Nat}

theorem bind_of_done {a : α} (h : (work now).ending = .done a) (more : α → Timed β) :
    (work >>= more) now =
      let second := more a (work now).finish
      ⟨(work now).events ++ second.events, (work now).logs ++ second.logs, second.finish,
        second.ending⟩ := by
  show next work more now = _
  simp only [next, h]

theorem bind_of_failed {failure : Failure} (h : (work now).ending = .failed failure)
    (more : α → Timed β) :
    (work >>= more) now =
      ⟨(work now).events, (work now).logs, (work now).finish, .failed failure⟩ := by
  show next work more now = _
  simp only [next, h]

theorem bind_of_panicked (h : (work now).ending = .panicked) (more : α → Timed β) :
    (work >>= more) now =
      ⟨(work now).events, (work now).logs, (work now).finish, .panicked⟩ := by
  show next work more now = _
  simp only [next, h]

end

/-- Work that fails at once. -/
def fail (failure : Failure) : Timed α := fun now => ⟨[], [], now, .failed failure⟩

/-- Writes a log entry. -/
def log (entry : Log) : Timed Unit := fun now => ⟨[], [entry], now, .done ()⟩

/-- Makes a call and waits for its end. A call that fails leaves it to the caller what to
make of that. -/
def call (c : Call) (reply : Reply) : Timed (Except ErrorChain Unit) := fun now =>
  let finish := now + reply.delay
  match reply.outcome with
  | .success => ⟨[(now, .called c), (finish, .succeeded c)], [], finish, .done (.ok ())⟩
  | .failure source => ⟨[(now, .called c)], [], finish, .done (.error source)⟩
  | .panic => ⟨[(now, .called c)], [], finish, .panicked⟩

/-- Waits until a node is ready, for at most `timeout`. -/
def awaitReady (probing : Probing) (timeout interval : Nat) : Timed Bool := fun now =>
  let wait := Readiness.wait probing now (now + timeout) interval
  ⟨wait.probes.map fun probe => (probe.start, .called .probe), [], wait.finish, .done wait.ready⟩

end Timed
end ClusterProvision
