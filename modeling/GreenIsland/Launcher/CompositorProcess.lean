import Mathlib.Logic.Function.Basic
import GreenIsland.Lib.Run

/-! Supervision of the compositor (`CompositorProcess`).

`start` makes a process and a watcher for its socket, `stop` terminates the
process and waits for it, and an error of the process is answered by a new start
after 3 seconds, as long as retries are left.

`stop` is two steps: the call up to `waitForFinished`, and what follows when that
returns.  In between only signals of the process waited for are delivered, as
they are when `waitForFinished` emits them.  A process that was given up lives,
and emits signals, until its deferred deletion; it is deleted when its child is
gone, since its destructor kills the child and waits.

`step` is `none` when a null pointer is dereferenced.  Along a run none is, at
most one child runs, nothing is started after `stop` but by an explicit `start`,
and there are at most 5 respawns, if and only if every event meets `OpOk`
(`supervised_iff`).  The condition is on the events alone: it is read on a `Record` of
what was called and signalled, which does not look at the members (`Told` says that
the two agree).  The bound on the respawns never fails (`Inv.respawns_le`); the
others do since `stop` does not know of a pending respawn, nulls the members before
it waits and leaves the signals of the process connected. -/

namespace GreenIsland.Launcher

/-! ## Model -/

/-- What became of the child of a `QProcess`. -/
inductive ChildState
  /-- it was started and may run -/
  | running
  /-- its crash was signalled, the end of the process is about to be -/
  | crashed
  | ended
deriving DecidableEq, Repr

/-- A `QProcess`. -/
structure Process where
  /-- it was not destroyed yet -/
  isAlive : Bool
  state : ChildState
  /-- `finished` is connected to `processFinished` -/
  finishedConnected : Bool
  /-- `deleteLater` was called -/
  deleteLater : Bool
deriving DecidableEq, Repr

inductive ProcessError
  | failedToStart
  | crashed
  | timedout
  | readError
  | writeError
  | unknownError
deriving DecidableEq, Repr

/-- What becomes of the child that an error is about. -/
def ProcessError.childState : ProcessError → ChildState
  | .failedToStart => .ended
  | .crashed => .crashed
  | _ => .running

inductive ExitStatus
  | normalExit
  | crashExit
deriving DecidableEq, Repr

inductive CompositorSignal
  | started
  | stopped
  | finished
  /-- `QCoreApplication::quit` was called -/
  | quit
deriving DecidableEq, Repr

/-- The processes are numbered in the order of their creation; a watcher has the
number of the process it was made with. -/
structure CompositorProcess where
  process : Option Nat
  watcher : Option Nat
  retries : Int
  socketName : String
  /-- the expiries of the respawn timer that are outstanding -/
  timers : Nat
  processes : Nat → Process
  /-- the watchers that are connected to `socketAvailable` -/
  listening : List Nat
  /-- the number of the next process -/
  next : Nat
  /-- the process that `stop` waits for -/
  waiting : Option Nat
  signals : List CompositorSignal
  /-- `stop` was called and `start` was not called after it -/
  isStopped : Bool
  /-- the processes that the timer started -/
  respawns : Nat

namespace CompositorProcess

def init (socketName : String) : CompositorProcess where
  process := none
  watcher := none
  retries := 5
  socketName := socketName
  timers := 0
  processes := fun _ => ⟨false, .ended, false, false⟩
  listening := []
  next := 0
  waiting := none
  signals := []
  isStopped := false
  respawns := 0

def emit (s : CompositorProcess) (signal : CompositorSignal) : CompositorProcess :=
  { s with signals := s.signals ++ [signal] }

def setProcess (s : CompositorProcess) (n : Nat) (f : Process → Process) : CompositorProcess :=
  { s with processes := Function.update s.processes n (f (s.processes n)) }

def start (s : CompositorProcess) : CompositorProcess :=
  match s.process with
  | some _ => s
  | none =>
    { s with
      process := some s.next
      watcher := some s.next
      processes := Function.update s.processes s.next ⟨true, .running, true, false⟩
      listening := s.listening ++ [s.next]
      next := s.next + 1 }

/-- `stop`, up to `waitForFinished`. -/
def stop (s : CompositorProcess) : Option CompositorProcess :=
  match s.process with
  | none => some s
  | some n =>
    s.watcher.map fun watcher =>
      { s with listening := s.listening.erase watcher, watcher := none, waiting := some n }

/-- `m_process->deleteLater()`, after which the pointer is nulled. -/
def giveUp (s : CompositorProcess) : Option CompositorProcess :=
  s.process.map fun n =>
    { s.setProcess n fun p => { p with deleteLater := true } with process := none }

/-- `stop`, when `waitForFinished` has returned.  A process that did not finish is
killed, through the same pointer. -/
def waited (s : CompositorProcess) : Option CompositorProcess :=
  s.giveUp.map fun s => { s with waiting := none }.emit .stopped

/-- Whether the process will be respawned. -/
def respawn (s : CompositorProcess) : Option (Bool × CompositorProcess) :=
  if s.retries < 1 then some (false, s)
  else
    match s.process, s.watcher with
    | some n, some watcher =>
      let s := s.setProcess n fun p => { p with finishedConnected := false }
      let s := { s with
        retries := s.retries - 1
        listening := s.listening.erase watcher
        watcher := none }
      s.giveUp.map fun s => (true, { s with timers := s.timers + 1 })
    | _, _ => none

def processError (s : CompositorProcess) : Option CompositorProcess :=
  match s.process with
  | none => none
  | some _ => s.respawn.map fun r => if r.1 then r.2 else r.2.emit .quit

def processFinished (s : CompositorProcess) (exitCode : Int) (status : ExitStatus) :
    Option CompositorProcess :=
  if exitCode = 0 then (s.emit .finished).giveUp
  else if status = .normalExit then (s.emit .stopped).giveUp
  else some s

/-- `exists` says whether the socket is there. -/
def socketAvailable (s : CompositorProcess) (socketExists : Bool) : Option CompositorProcess :=
  if s.socketName = "" then some s
  else if socketExists = false then some s
  else
    s.watcher.map fun watcher => { s with listening := s.listening.erase watcher }.emit .started

inductive Op
  | start
  | stop
  | waited (result : Bool)
  /-- the respawn timer expires -/
  | timeout
  /-- process `n` emits `error` -/
  | error (n : Nat) (error : ProcessError)
  /-- process `n` emits `finished` -/
  | finished (n : Nat) (exitCode : Int) (status : ExitStatus)
  /-- watcher `n` emits `directoryChanged` -/
  | directoryChanged (n : Nat) (socketExists : Bool)
  /-- process `n` is deleted -/
  | deleted (n : Nat)
deriving DecidableEq, Repr

/-- The signals of process `n` are delivered now. -/
def Delivers (s : CompositorProcess) (n : Nat) : Prop :=
  (s.processes n).isAlive = true ∧ (s.waiting = none ∨ s.waiting = some n)

instance (s : CompositorProcess) (n : Nat) : Decidable (s.Delivers n) :=
  inferInstanceAs (Decidable (_ ∧ _))

/-- What can happen.  `waitForFinished` says whether the process has ended. -/
def Deliverable (s : CompositorProcess) : Op → Prop
  | .start => s.waiting = none
  | .stop => s.waiting = none
  | .waited result =>
    s.waiting ≠ none ∧ ∀ n ∈ s.waiting, result = true → (s.processes n).state = .ended
  | .timeout => s.waiting = none ∧ 0 < s.timers
  | .error n _ => s.Delivers n ∧ (s.processes n).state = .running
  | .finished n _ .normalExit => s.Delivers n ∧ (s.processes n).state = .running
  | .finished n _ .crashExit => s.Delivers n ∧ (s.processes n).state = .crashed
  | .directoryChanged n _ => s.waiting = none ∧ n ∈ s.listening
  | .deleted n => s.waiting = none ∧ (s.processes n).isAlive = true ∧
      (s.processes n).deleteLater = true ∧ (s.processes n).state = .ended

instance (s : CompositorProcess) (op : Op) : Decidable (s.Deliverable op) := by
  rcases op with _ | _ | _ | _ | _ | ⟨_, _, _ | _⟩ | _ | _ <;> unfold Deliverable <;> infer_instance

def handle (s : CompositorProcess) : Op → Option CompositorProcess
  | .start => some { s.start with isStopped := false }
  | .stop => { s with isStopped := true }.stop
  | .waited _ => s.waited
  | .timeout =>
    some { s.start with
      timers := s.timers - 1
      respawns := s.respawns + if s.process = none then 1 else 0 }
  | .error n error => (s.setProcess n fun p => { p with state := error.childState }).processError
  | .finished n exitCode status =>
    let s' := s.setProcess n fun p => { p with state := .ended }
    if (s.processes n).finishedConnected then s'.processFinished exitCode status else some s'
  | .directoryChanged _ socketExists => s.socketAvailable socketExists
  | .deleted n => some (s.setProcess n fun p => { p with isAlive := false })

def step (s : CompositorProcess) (op : Op) : Option CompositorProcess :=
  if s.Deliverable op then s.handle op else some s

/-! ## What is to be kept -/

def Running (s : CompositorProcess) (n : Nat) : Prop := (s.processes n).state = .running

/-- What a step owes. -/
structure Supervised (s : CompositorProcess) (op : Op) (s' : CompositorProcess) : Prop where
  single : ∀ m n, s'.Running m → s'.Running n → m = n
  /-- a process is made by `start`, or while `stop` was not called -/
  wanted : s'.next ≠ s.next → op = .start ∨ s.isStopped = false
  respawns_le : s'.respawns ≤ 5

/-! ## The record of the events -/

/-- What is known from the events alone: what was called and what the processes
signalled. -/
structure Record where
  /-- the processes that were started -/
  started : Nat
  /-- the process started last, until `stop` returns, an error is answered by a respawn
  or a process is reported to end by itself -/
  current : Option Nat
  /-- no `stop` of a current process and no respawn came after the last start of one -/
  isWatched : Bool
  /-- the errors that were answered by a respawn -/
  retried : Nat
  /-- the end of the process is listened for: it was started and was not the current one
  when an error was answered -/
  reports : Nat → Bool
  /-- what the processes signalled of their children -/
  children : Nat → ChildState
  /-- `stop` of a current process has not returned -/
  isStopping : Bool
  /-- `stop` was called and `start` was not called after it -/
  isStopped : Bool

namespace Record

def init : Record where
  started := 0
  current := none
  isWatched := false
  retried := 0
  reports := fun _ => false
  children := fun _ => .ended
  isStopping := false
  isStopped := false

/-- A start; there is nothing to start while a process is current. -/
def start (r : Record) : Record :=
  match r.current with
  | some _ => r
  | none =>
    { r with
      started := r.started + 1
      current := some r.started
      isWatched := true
      reports := Function.update r.reports r.started true
      children := Function.update r.children r.started .running }

/-- The process was reported to end by itself. -/
def Ends (exitCode : Int) (status : ExitStatus) : Prop :=
  exitCode = 0 ∨ status = .normalExit

instance (exitCode : Int) (status : ExitStatus) : Decidable (Ends exitCode status) :=
  inferInstanceAs (Decidable (_ ∨ _))

def stop (r : Record) : Record :=
  match r.current with
  | none => r
  | some _ => { r with isWatched := false, isStopping := true }

/-- A respawn is promised for each of the first 5 errors. -/
def error (r : Record) : Record :=
  if 5 ≤ r.retried then r
  else
    match r.current with
    | none => r
    | some n =>
      { r with
        current := none
        isWatched := false
        retried := r.retried + 1
        reports := Function.update r.reports n false }

def finished (r : Record) (exitCode : Int) (status : ExitStatus) : Record :=
  if Ends exitCode status then { r with current := none } else r

/-- One more event. -/
def note (r : Record) : Op → Record
  | .start => { r.start with isStopped := false }
  | .stop => { r with isStopped := true }.stop
  | .waited _ => { r with current := none, isStopping := false }
  | .timeout => r.start
  | .error n error => { r with children := Function.update r.children n error.childState }.error
  | .finished n exitCode status =>
    let r' := { r with children := Function.update r.children n .ended }
    if r.reports n then r'.finished exitCode status else r'
  | .directoryChanged _ _ => r
  | .deleted _ => r

/-- The events that come when they should. -/
def EventOk (r : Record) (socketName : String) : Op → Prop
  | .start => r.current = none → ∀ n, r.children n ≠ .running
  | .timeout => r.current = none → (∀ n, r.children n ≠ .running) ∧ r.isStopped = false
  | .waited _ => r.current ≠ none
  | .error _ _ => r.current ≠ none ∧ (r.isStopping = true → 5 ≤ r.retried)
  | .finished n exitCode status => r.reports n = true → Ends exitCode status → r.current ≠ none
  | .directoryChanged _ socketExists =>
    socketName ≠ "" → socketExists = true → r.isWatched = true
  | _ => True

end Record

/-- What can happen goes on record. -/
def note (s : CompositorProcess) (r : Record) (op : Op) : Record :=
  if s.Deliverable op then r.note op else r

/-- **When a step does what it should.** -/
def OpOk (x : CompositorProcess × Record) (op : Op) : Prop :=
  x.1.Deliverable op → x.2.EventOk x.1.socketName op

/-! ## The condition on the members -/

/-- `Record.EventOk`, as the members have it. -/
def MembersOk (s : CompositorProcess) : Op → Prop
  | .start => s.process = none → ∀ n, ¬ s.Running n
  | .timeout => s.process = none → (∀ n, ¬ s.Running n) ∧ s.isStopped = false
  | .waited _ => s.process ≠ none
  | .error _ _ => s.process ≠ none ∧ (s.waiting ≠ none → s.retries < 1)
  | .finished n exitCode status => (s.processes n).finishedConnected = true →
      exitCode = 0 ∨ status = .normalExit → s.process ≠ none
  | .directoryChanged _ socketExists => s.socketName ≠ "" → socketExists = true → s.watcher ≠ none
  | _ => True

def StateOk (s : CompositorProcess) (op : Op) : Prop := s.Deliverable op → s.MembersOk op

/-! ## The invariant -/

/-- There is a watcher with the process, except while `stop` waits. -/
def Watched (s : CompositorProcess) : Prop :=
  (s.waiting = none → s.process ≠ none → s.watcher ≠ none) ∧ (s.waiting ≠ none → s.watcher = none)

structure Inv (s : CompositorProcess) : Prop where
  retries_nonneg : 0 ≤ s.retries
  budget : s.respawns + s.timers + s.retries ≤ 5
  watched : Watched s
  fresh : ∀ n, s.Running n → n < s.next
  single : ∀ m n, s.Running m → s.Running n → m = n

theorem inv_init (socketName : String) : Inv (init socketName) where
  retries_nonneg := Int.natCast_nonneg 5
  budget := Int.le_refl 5
  watched := ⟨fun _ h => absurd rfl h, fun h => absurd rfl h⟩
  fresh _ h := by cases h
  single _ _ h := by cases h

section
variable {s s' s'' : CompositorProcess} {n : Nat}

theorem Inv.respawns_le (h : Inv s) : s.respawns ≤ 5 := by
  have hretries := h.retries_nonneg
  have hbudget := h.budget
  omega

/-- No child was started and no respawn was gained. -/
structure Calm (s s' : CompositorProcess) : Prop where
  running : ∀ n, s'.Running n → s.Running n
  next : s'.next = s.next
  respawns : s'.respawns = s.respawns
  retries_nonneg : 0 ≤ s.retries → 0 ≤ s'.retries
  budget : s'.timers + s'.retries ≤ s.timers + s.retries

theorem Calm.of_same (hprocesses : s'.processes = s.processes) (hnext : s'.next = s.next)
    (hrespawns : s'.respawns = s.respawns) (htimers : s'.timers = s.timers)
    (hretries : s'.retries = s.retries) : Calm s s' where
  running n hn := by
    unfold Running at hn ⊢
    rwa [← hprocesses]
  next := hnext
  respawns := hrespawns
  retries_nonneg hnonneg := hretries ▸ hnonneg
  budget := by omega

theorem Calm.trans (h : Calm s s') (h' : Calm s' s'') : Calm s s'' where
  running n hn := h.running n (h'.running n hn)
  next := h'.next.trans h.next
  respawns := h'.respawns.trans h.respawns
  retries_nonneg hnonneg := h'.retries_nonneg (h.retries_nonneg hnonneg)
  budget := Int.le_trans h'.budget h.budget

theorem calm_setProcess (f : Process → Process)
    (hf : (f (s.processes n)).state = .running → (s.processes n).state = .running) :
    Calm s (s.setProcess n f) where
  running m hm := by
    by_cases hmn : m = n
    · subst hmn
      refine hf ?_
      have hself : (s.setProcess m f).processes m = f (s.processes m) := Function.update_self ..
      rw [← hself]
      exact hm
    · have hother : (s.setProcess n f).processes m = s.processes m := Function.update_of_ne hmn ..
      unfold Running at hm ⊢
      rwa [← hother]
  next := rfl
  respawns := rfl
  retries_nonneg := id
  budget := Int.le_refl _

/-- Calm steps keep what there is to keep. -/
theorem Inv.calm (h : Inv s) (op : Op) (hcalm : Calm s s') (hwatched : Watched s') :
    Supervised s op s' ∧ Inv s' := by
  have hinv : Inv s' := by
    refine ⟨hcalm.retries_nonneg h.retries_nonneg, ?_, hwatched, fun n hn => ?_,
      fun m n hm hn => h.single m n (hcalm.running m hm) (hcalm.running n hn)⟩
    · have hbudget := h.budget
      have hsame := hcalm.budget
      rw [hcalm.respawns]
      omega
    · rw [hcalm.next]
      exact h.fresh n (hcalm.running n hn)
  exact ⟨⟨hinv.single, fun hnext => absurd hcalm.next hnext, hinv.respawns_le⟩, hinv⟩

/-! ## The handlers -/

/-- A handler returns, calmly, if and only if `ok`. -/
def Settles (s : CompositorProcess) (result : Option CompositorProcess) (ok : Prop) : Prop :=
  (result = none ∧ ¬ ok) ∨ ∃ s', result = some s' ∧ ok ∧ Calm s s' ∧ Watched s'

theorem Settles.of_some (hcalm : Calm s s') (hwatched : Watched s') : Settles s (some s') True :=
  Or.inr ⟨s', rfl, trivial, hcalm, hwatched⟩

theorem Settles.of_calm {result : Option CompositorProcess} {ok : Prop} (hcalm : Calm s s')
    (h : Settles s' result ok) : Settles s result ok := by
  refine h.imp_right ?_
  rintro ⟨s'', hresult, hok, hcalm', hwatched⟩
  exact ⟨s'', hresult, hok, hcalm.trans hcalm', hwatched⟩

theorem settles_giveUp (h : Watched s) : Settles s s.giveUp (s.process ≠ none) := by
  unfold giveUp
  cases hprocess : s.process with
  | none => exact Or.inl ⟨rfl, fun hne => hne rfl⟩
  | some n =>
    have hset : Calm s (s.setProcess n fun p => { p with deleteLater := true }) := calm_setProcess _ id
    refine Or.inr ⟨_, rfl, Option.some_ne_none n, hset.trans (.of_same rfl rfl rfl rfl rfl), ?_⟩
    exact ⟨fun _ hne => absurd rfl hne, h.2⟩

theorem settles_stop (h : Watched s) (hwaiting : s.waiting = none) : Settles s s.stop True := by
  unfold stop
  cases hprocess : s.process with
  | none => exact .of_some (.of_same rfl rfl rfl rfl rfl) h
  | some n =>
    have hwatcher : s.watcher ≠ none := h.1 hwaiting (by simp [hprocess])
    cases hw : s.watcher with
    | none => exact absurd hw hwatcher
    | some watcher =>
      refine .of_some (.of_same rfl rfl rfl rfl rfl) ⟨fun hnone => ?_, fun _ => rfl⟩
      cases hnone

theorem settles_waited (hwatched : Watched s) : Settles s s.waited (s.process ≠ none) := by
  unfold waited
  rcases settles_giveUp hwatched with ⟨hnone, hnot⟩ | ⟨s', hs', hok, hcalm, -⟩
  · rw [hnone]
    exact Or.inl ⟨rfl, hnot⟩
  · have hprocess : s'.process = none := by
      unfold giveUp at hs'
      obtain ⟨n, -, rfl⟩ := Option.map_eq_some_iff.1 hs'
      rfl
    rw [hs']
    refine Or.inr ⟨_, rfl, hok, hcalm.trans (.of_same rfl rfl rfl rfl rfl), ?_⟩
    exact ⟨fun _ hne => absurd hprocess hne, fun hne => absurd rfl hne⟩

theorem settles_processError (h : Watched s) :
    Settles s s.processError (s.process ≠ none ∧ (s.waiting ≠ none → s.retries < 1)) := by
  unfold processError respawn
  cases hprocess : s.process with
  | none => exact Or.inl ⟨rfl, fun hok => hok.1 rfl⟩
  | some n =>
    by_cases hretries : s.retries < 1
    · rw [if_pos hretries]
      exact Or.inr ⟨_, rfl, ⟨Option.some_ne_none n, fun _ => hretries⟩, .of_same rfl rfl rfl rfl rfl, h⟩
    · rw [if_neg hretries]
      cases hw : s.watcher with
      | none =>
        refine Or.inl ⟨rfl, fun hok => hretries (hok.2 fun hwaiting => ?_)⟩
        exact h.1 hwaiting (by simp [hprocess]) hw
      | some watcher =>
        have hwaiting : s.waiting = none := by
          by_contra hne
          rw [h.2 hne] at hw
          cases hw
        let s₁ := s.setProcess n fun p => { p with finishedConnected := false }
        let s₂ : CompositorProcess := { s₁ with
          retries := s.retries - 1
          listening := s.listening.erase watcher
          watcher := none }
        let s₃ := s₂.setProcess n fun p => { p with deleteLater := true }
        have hgive : s₂.giveUp = some { s₃ with process := none } := by
          unfold giveUp
          rw [show s₂.process = some n from hprocess]
          rfl
        show Settles s ((s₂.giveUp.map fun s => (true, { s with timers := s.timers + 1 })).map _) _
        rw [hgive]
        have h₁ : Calm s s₁ := calm_setProcess _ id
        have h₃ : Calm s₂ s₃ := calm_setProcess _ id
        refine Or.inr ⟨_, rfl, ⟨Option.some_ne_none n, fun hne => absurd hwaiting hne⟩, ?_, ?_⟩
        · refine ⟨fun m hm => h₁.running m (h₃.running m hm), rfl, rfl, fun _ => ?_, ?_⟩
          · show 0 ≤ s.retries - 1
            omega
          · show ((s.timers + 1 : Nat) : Int) + (s.retries - 1) ≤ s.timers + s.retries
            omega
        · exact ⟨fun _ hne => absurd rfl hne, fun hne => absurd hwaiting hne⟩

theorem settles_processFinished (h : Watched s) (exitCode : Int) (status : ExitStatus) :
    Settles s (s.processFinished exitCode status)
      (exitCode = 0 ∨ status = .normalExit → s.process ≠ none) := by
  have hgiveUp : ∀ signal, Settles s (s.emit signal).giveUp (s.process ≠ none) := by
    intro signal
    have hemit : Calm s (s.emit signal) := .of_same rfl rfl rfl rfl rfl
    exact .of_calm hemit (settles_giveUp h)
  unfold processFinished
  split
  · next hcode =>
    rw [forall_prop_of_true (Or.inl hcode)]
    exact hgiveUp _
  · next hcode =>
    split
    · next hstatus =>
      rw [forall_prop_of_true (Or.inr hstatus)]
      exact hgiveUp _
    · next hstatus =>
      refine Or.inr ⟨s, rfl, fun hexit => ?_, .of_same rfl rfl rfl rfl rfl, h⟩
      exact absurd hexit (not_or.2 ⟨hcode, hstatus⟩)

theorem settles_socketAvailable (h : Watched s) (hwaiting : s.waiting = none) (socketExists : Bool) :
    Settles s (s.socketAvailable socketExists)
      (s.socketName ≠ "" → socketExists = true → s.watcher ≠ none) := by
  have hsame : Calm s s := .of_same rfl rfl rfl rfl rfl
  unfold socketAvailable
  split
  · next hname => exact Or.inr ⟨s, rfl, fun hne => absurd hname hne, hsame, h⟩
  · next hname =>
    split
    · next hexists =>
      refine Or.inr ⟨s, rfl, fun _ htrue => ?_, hsame, h⟩
      rw [hexists] at htrue
      cases htrue
    · next hexists =>
      cases hw : s.watcher with
      | none => exact Or.inl ⟨rfl, fun hok => hok hname (Bool.not_eq_false _ ▸ hexists) rfl⟩
      | some watcher =>
        refine Or.inr ⟨_, rfl, fun _ _ => Option.some_ne_none _, .of_same rfl rfl rfl rfl rfl, ?_⟩
        exact ⟨fun _ _ => by simp [emit], fun hne => absurd hwaiting hne⟩

/-! ## One step -/

/-- A start: the rest is left alone if there is a process. -/
theorem start_of_process (hprocess : s.process ≠ none) : s.start = s := by
  unfold start
  cases h : s.process with
  | none => exact absurd h hprocess
  | some n => rfl

theorem start_of_none (hprocess : s.process = none) :
    s.start = { s with
      process := some s.next
      watcher := some s.next
      processes := Function.update s.processes s.next ⟨true, .running, true, false⟩
      listening := s.listening ++ [s.next]
      next := s.next + 1 } := by
  unfold start
  rw [hprocess]

theorem running_start_iff (hprocess : s.process = none) (m : Nat) :
    s.start.Running m ↔ m = s.next ∨ m ≠ s.next ∧ s.Running m := by
  rw [start_of_none hprocess]
  show (Function.update s.processes s.next _ m).state = .running ↔ _
  by_cases hm : m = s.next
  · subst hm
    rw [Function.update_self]
    exact iff_of_true rfl (Or.inl rfl)
  · rw [Function.update_of_ne hm]
    exact ⟨fun hrunning => Or.inr ⟨hm, hrunning⟩, fun h => (h.resolve_left hm).2⟩

/-- **One child at a time.** -/
theorem Inv.single_start_iff (h : Inv s) (hprocess : s.process = none) :
    (∀ m n, s.start.Running m → s.start.Running n → m = n) ↔ ∀ n, ¬ s.Running n := by
  constructor
  · intro hsingle n hn
    have hlt := h.fresh n hn
    have hne : n ≠ s.next := by omega
    refine hne (hsingle n s.next ?_ ?_)
    · exact (running_start_iff hprocess n).2 (Or.inr ⟨hne, hn⟩)
    · exact (running_start_iff hprocess s.next).2 (Or.inl rfl)
  · intro hnone m n hm hn
    have hm' := ((running_start_iff hprocess m).1 hm).resolve_right fun h => hnone m h.2
    have hn' := ((running_start_iff hprocess n).1 hn).resolve_right fun h => hnone n h.2
    rw [hm', hn']

/-- A process was made, and a respawn was paid for if it was one. -/
theorem Inv.started (h : Inv s) (hprocess : s.process = none) (hnone : ∀ n, ¬ s.Running n)
    (hrunning : ∀ m, s'.Running m ↔ s.start.Running m) (hnext : s'.next = s.next + 1)
    (hretries : s'.retries = s.retries)
    (hbudget : s'.respawns + s'.timers = s.respawns + s.timers) (hwatched : Watched s') : Inv s' where
  retries_nonneg := hretries ▸ h.retries_nonneg
  budget := by
    have hle := h.budget
    rw [hretries]
    omega
  watched := hwatched
  fresh n hn := by
    rcases (running_start_iff hprocess n).1 ((hrunning n).1 hn) with rfl | ⟨-, hn⟩
    · omega
    · exact absurd hn (hnone n)
  single m n hm hn :=
    (h.single_start_iff hprocess).2 hnone m n ((hrunning m).1 hm) ((hrunning n).1 hn)

/-- A step whose handler settles. -/
theorem Inv.decides {op : Op} {ok : Prop} (h : Inv s) (hdeliverable : s.Deliverable op)
    (hsettles : Settles s (s.handle op) ok) (hok : s.MembersOk op ↔ ok) :
    Run.Decides step Supervised StateOk Inv s op := by
  have hstep : s.step op = s.handle op := if_pos hdeliverable
  have hopOk : s.StateOk op ↔ ok := (forall_prop_of_true hdeliverable).trans hok
  unfold Run.Decides
  rw [hstep, hopOk]
  rcases hsettles with hfault | ⟨s', hs', htrue, hcalm, hwatched⟩
  · exact Or.inl hfault
  · obtain ⟨hsupervised, hinv⟩ := h.calm op hcalm hwatched
    exact Or.inr ⟨s', hs', iff_of_true hsupervised htrue, fun _ => hinv⟩

theorem Inv.decides_start (h : Inv s) (hdeliverable : s.Deliverable .start) :
    Run.Decides step Supervised StateOk Inv s .start := by
  by_cases hprocess : s.process = none
  · have hstep : s.step .start = some { s.start with isStopped := false } := if_pos hdeliverable
    refine Or.inr ⟨_, hstep, ⟨fun hsupervised _ _ => ?_, fun hok => ?_⟩, fun hok => ?_⟩
    · exact (h.single_start_iff hprocess).1 hsupervised.single
    · refine ⟨(h.single_start_iff hprocess).2 (hok hdeliverable hprocess), fun _ => Or.inl rfl, ?_⟩
      rw [start_of_none hprocess]
      exact h.respawns_le
    · refine h.started hprocess (hok hdeliverable hprocess) (fun _ => Iff.rfl) ?_ ?_ ?_ ?_
      all_goals rw [start_of_none hprocess]
      exact ⟨fun _ _ => Option.some_ne_none _, fun hne => absurd hdeliverable hne⟩
  · have hsettles : Settles s (s.handle .start) True := by
      show Settles s (some { s.start with isStopped := false }) True
      rw [start_of_process hprocess]
      exact .of_some (.of_same rfl rfl rfl rfl rfl) h.watched
    exact h.decides hdeliverable hsettles (iff_true_intro fun hnone => absurd hnone hprocess)

/-- The timer starts the compositor again. -/
theorem Inv.decides_respawn (h : Inv s) (hdeliverable : s.Deliverable .timeout)
    (hprocess : s.process = none) : Run.Decides step Supervised StateOk Inv s .timeout := by
  obtain ⟨hwaiting, htimers⟩ := hdeliverable
  let s' : CompositorProcess := { s.start with
    timers := s.timers - 1
    respawns := s.respawns + 1 }
  have hstep : s.step .timeout = some s' := by
    refine (if_pos ⟨hwaiting, htimers⟩).trans ?_
    show some { s.start with
      timers := s.timers - 1
      respawns := s.respawns + if s.process = none then 1 else 0 } = some s'
    rw [if_pos hprocess]
  have hretries := h.retries_nonneg
  have hbudget := h.budget
  refine Or.inr ⟨s', hstep, ⟨fun hsupervised _ _ => ⟨?_, ?_⟩, fun hok => ?_⟩, fun hok => ?_⟩
  · exact (h.single_start_iff hprocess).1 hsupervised.single
  · have hnext : s'.next ≠ s.next := by
      show s.start.next ≠ s.next
      rw [start_of_none hprocess]
      exact Nat.succ_ne_self _
    exact (hsupervised.wanted hnext).resolve_left (by rintro ⟨⟩)
  · obtain ⟨hnone, hstopped⟩ := hok ⟨hwaiting, htimers⟩ hprocess
    refine ⟨(h.single_start_iff hprocess).2 hnone, fun _ => Or.inr hstopped, ?_⟩
    show s.respawns + 1 ≤ 5
    omega
  · obtain ⟨hnone, -⟩ := hok ⟨hwaiting, htimers⟩ hprocess
    refine h.started hprocess hnone (fun _ => Iff.rfl) ?_ ?_ ?_ ?_
    · show s.start.next = _
      rw [start_of_none hprocess]
    · show s.start.retries = _
      rw [start_of_none hprocess]
    · show s.respawns + 1 + (s.timers - 1) = _
      omega
    · refine ⟨fun _ _ => ?_, fun hne => ?_⟩
      · show s.start.watcher ≠ none
        rw [start_of_none hprocess]
        exact Option.some_ne_none _
      · replace hne : s.start.waiting ≠ none := hne
        rw [start_of_none hprocess] at hne
        exact absurd hwaiting hne

/-- The timer finds the process there. -/
theorem settles_timeout (h : Watched s) (hprocess : s.process ≠ none) :
    Settles s (s.handle .timeout) True := by
  show Settles s (some { s.start with
    timers := s.timers - 1
    respawns := s.respawns + if s.process = none then 1 else 0 }) True
  rw [start_of_process hprocess, if_neg hprocess]
  refine .of_some ⟨fun _ hn => hn, rfl, rfl, id, ?_⟩ h
  show ((s.timers - 1 : Nat) : Int) + s.retries ≤ s.timers + s.retries
  omega

theorem Inv.decides_timeout (h : Inv s) (hdeliverable : s.Deliverable .timeout) :
    Run.Decides step Supervised StateOk Inv s .timeout := by
  by_cases hprocess : s.process = none
  · exact h.decides_respawn hdeliverable hprocess
  · exact h.decides hdeliverable (settles_timeout h.watched hprocess)
      (iff_true_intro fun hnone => absurd hnone hprocess)

/-- **One step.** -/
theorem Inv.decides_step (h : Inv s) (op : Op) : Run.Decides step Supervised StateOk Inv s op := by
  by_cases hdeliverable : s.Deliverable op
  · cases op with
    | start => exact h.decides_start hdeliverable
    | timeout => exact h.decides_timeout hdeliverable
    | stop =>
      have hcalled : Calm s { s with isStopped := true } := .of_same rfl rfl rfl rfl rfl
      exact h.decides hdeliverable (.of_calm hcalled (settles_stop h.watched hdeliverable)) Iff.rfl
    | waited result => exact h.decides hdeliverable (settles_waited h.watched) Iff.rfl
    | error n error =>
      have hset : Calm s (s.setProcess n fun p => { p with state := error.childState }) :=
        calm_setProcess _ fun _ => hdeliverable.2
      exact h.decides hdeliverable (.of_calm hset (settles_processError h.watched)) Iff.rfl
    | finished n exitCode status =>
      have hset : Calm s (s.setProcess n fun p => { p with state := .ended }) :=
        calm_setProcess _ (by rintro ⟨⟩)
      by_cases hconnected : (s.processes n).finishedConnected = true
      · refine h.decides hdeliverable (.of_calm hset ?_) (forall_prop_of_true hconnected)
        show Settles _ (if _ then _ else _) _
        rw [if_pos hconnected]
        have hwatched : Watched (s.setProcess n fun p => { p with state := .ended }) := h.watched
        exact settles_processFinished hwatched exitCode status
      · have hsettles : Settles s (s.handle (.finished n exitCode status)) True := by
          show Settles _ (if _ then _ else _) _
          rw [if_neg hconnected]
          exact .of_some hset h.watched
        exact h.decides hdeliverable hsettles (iff_true_intro fun hc => absurd hc hconnected)
    | directoryChanged n socketExists =>
      have hsettles := settles_socketAvailable h.watched hdeliverable.1 socketExists
      exact h.decides hdeliverable hsettles Iff.rfl
    | deleted n =>
      have hset : Calm s (s.setProcess n fun p => { p with isAlive := false }) := calm_setProcess _ id
      exact h.decides hdeliverable (.of_some hset h.watched) Iff.rfl
  · have hstep : s.step op = some s := if_neg hdeliverable
    refine Run.decides_good hstep ?_ (fun hd => absurd hd hdeliverable) h
    exact ⟨h.single, fun hnext => absurd rfl hnext, h.respawns_le⟩

end

/-! ## The record and the members -/

/-- The members agree with the record. -/
structure Told (s : CompositorProcess) (r : Record) : Prop where
  next : s.next = r.started
  process : s.process = r.current
  watcher : s.watcher.isSome = r.isWatched
  retries : s.retries + r.retried = 5
  connected : ∀ n, (s.processes n).finishedConnected = r.reports n
  state : ∀ n, (s.processes n).state = r.children n
  waiting : s.waiting.isSome = r.isStopping
  isStopped : s.isStopped = r.isStopped

theorem told_init (socketName : String) : Told (init socketName) Record.init where
  next := rfl
  process := rfl
  watcher := rfl
  retries := rfl
  connected _ := rfl
  state _ := rfl
  waiting := rfl
  isStopped := rfl

section
variable {s s' : CompositorProcess} {r : Record} {n : Nat}

theorem Told.running_iff (h : Told s r) (n : Nat) : s.Running n ↔ r.children n = .running := by
  unfold Running
  rw [h.state]

theorem Told.watcher_iff (h : Told s r) : s.watcher ≠ none ↔ r.isWatched = true := by
  rw [← h.watcher, Option.isSome_iff_ne_none]

theorem Told.waiting_iff (h : Told s r) : s.waiting ≠ none ↔ r.isStopping = true := by
  rw [← h.waiting, Option.isSome_iff_ne_none]

theorem Told.retries_iff (h : Told s r) : s.retries < 1 ↔ 5 ≤ r.retried := by
  have hretries := h.retries
  omega

theorem Told.membersOk_iff (h : Told s r) (op : Op) :
    s.MembersOk op ↔ r.EventOk s.socketName op := by
  have hnone : (∀ n, ¬ s.Running n) ↔ ∀ n, r.children n ≠ .running :=
    forall_congr' fun n => not_congr (h.running_iff n)
  cases op with
  | start =>
    show (s.process = none → ∀ n, ¬ s.Running n) ↔ _
    rw [h.process, hnone]
    exact Iff.rfl
  | timeout =>
    show (s.process = none → (∀ n, ¬ s.Running n) ∧ s.isStopped = false) ↔ _
    rw [h.process, hnone, h.isStopped]
    exact Iff.rfl
  | waited result =>
    show s.process ≠ none ↔ _
    rw [h.process]
    exact Iff.rfl
  | error n error =>
    show (s.process ≠ none ∧ (s.waiting ≠ none → s.retries < 1)) ↔ _
    rw [h.process, h.waiting_iff, h.retries_iff]
    exact Iff.rfl
  | finished n exitCode status =>
    show ((s.processes n).finishedConnected = true → _ → s.process ≠ none) ↔ _
    rw [h.process, h.connected]
    exact Iff.rfl
  | directoryChanged n socketExists =>
    show (s.socketName ≠ "" → socketExists = true → s.watcher ≠ none) ↔ _
    rw [h.watcher_iff]
    exact Iff.rfl
  | stop => exact Iff.rfl
  | deleted n => exact Iff.rfl

theorem Told.opOk_iff (h : Told s r) (op : Op) : s.StateOk op ↔ OpOk (s, r) op :=
  imp_congr_right fun _ => h.membersOk_iff op

/-- A process that changes, and what the record tells of it with it. -/
theorem Told.update (h : Told s r) (f : Process → Process) {connected : Bool} {state : ChildState}
    (hconnected : (f (s.processes n)).finishedConnected = connected)
    (hstate : (f (s.processes n)).state = state) :
    Told (s.setProcess n f) { r with
      reports := Function.update r.reports n connected
      children := Function.update r.children n state } := by
  refine { h with connected := fun m => ?_, state := fun m => ?_ }
  · show (Function.update s.processes n _ m).finishedConnected = Function.update r.reports n _ m
    by_cases hm : m = n
    · subst hm
      rw [Function.update_self, Function.update_self]
      exact hconnected
    · rw [Function.update_of_ne hm, Function.update_of_ne hm]
      exact h.connected m
  · show (Function.update s.processes n _ m).state = Function.update r.children n _ m
    by_cases hm : m = n
    · subst hm
      rw [Function.update_self, Function.update_self]
      exact hstate
    · rw [Function.update_of_ne hm, Function.update_of_ne hm]
      exact h.state m

/-- The record does not tell whether a process is deleted. -/
theorem Told.setProcess (h : Told s r) (f : Process → Process)
    (hconnected : (f (s.processes n)).finishedConnected = (s.processes n).finishedConnected)
    (hstate : (f (s.processes n)).state = (s.processes n).state) : Told (s.setProcess n f) r := by
  have hupdate := h.update f hconnected hstate
  rwa [h.connected, h.state, Function.update_eq_self, Function.update_eq_self] at hupdate

/-- A child is signalled to be in another state. -/
theorem Told.setState (h : Told s r) (n : Nat) (state : ChildState) :
    Told (s.setProcess n fun p => { p with state := state })
      { r with children := Function.update r.children n state } := by
  have hupdate := h.update (n := n) (fun p => { p with state := state }) (h.connected n) rfl
  rwa [Function.update_eq_self] at hupdate

/-- An error was answered: the end of process `n` is not listened for any more. -/
theorem Told.disconnect (h : Told s r) (n : Nat) :
    Told (s.setProcess n fun p => { p with finishedConnected := false })
      { r with reports := Function.update r.reports n false } := by
  have hupdate := h.update (n := n) (fun p => { p with finishedConnected := false }) rfl (h.state n)
  rwa [Function.update_eq_self] at hupdate

theorem Told.start (h : Told s r) : Told s.start r.start := by
  by_cases hprocess : s.process = none
  · have hcurrent : r.current = none := h.process.symm.trans hprocess
    have hmade := h.update (n := s.next) (fun _ => ⟨true, .running, true, false⟩) rfl rfl
    rw [start_of_none hprocess]
    unfold Record.start
    rw [hcurrent]
    rw [h.next] at hmade ⊢
    exact { hmade with next := rfl, process := rfl, watcher := rfl }
  · obtain ⟨n, hn⟩ := Option.ne_none_iff_exists'.1 hprocess
    have hcurrent : r.current = some n := h.process.symm.trans hn
    rw [start_of_process hprocess]
    unfold Record.start
    rw [hcurrent]
    exact h

theorem Told.stop (h : Told s r) (hstop : s.stop = some s') : Told s' r.stop := by
  unfold CompositorProcess.stop at hstop
  unfold Record.stop
  cases hprocess : s.process with
  | none =>
    have hcurrent : r.current = none := h.process.symm.trans hprocess
    rw [hprocess] at hstop
    rw [hcurrent]
    obtain rfl := Option.some.inj hstop
    exact h
  | some n =>
    have hcurrent : r.current = some n := h.process.symm.trans hprocess
    rw [hprocess] at hstop
    rw [hcurrent]
    obtain ⟨watcher, -, rfl⟩ := Option.map_eq_some_iff.1 hstop
    exact { h with process := rfl, watcher := rfl, waiting := rfl }

theorem Told.giveUp (h : Told s r) (hgive : s.giveUp = some s') :
    Told s' { r with current := none } := by
  unfold CompositorProcess.giveUp at hgive
  obtain ⟨n, -, rfl⟩ := Option.map_eq_some_iff.1 hgive
  exact { h.setProcess (fun p => { p with deleteLater := true }) rfl rfl with process := rfl }

theorem Told.waited (h : Told s r) (hwaited : s.waited = some s') :
    Told s' { r with current := none, isStopping := false } := by
  unfold CompositorProcess.waited at hwaited
  obtain ⟨s₁, hs₁, rfl⟩ := Option.map_eq_some_iff.1 hwaited
  exact { h.giveUp hs₁ with waiting := rfl }

theorem Told.respawn (h : Told s r) {answer : Bool} (hrespawn : s.respawn = some (answer, s')) :
    Told s' r.error := by
  unfold CompositorProcess.respawn at hrespawn
  unfold Record.error
  by_cases hretries : s.retries < 1
  · rw [if_pos hretries] at hrespawn
    obtain ⟨-, rfl⟩ := Prod.mk.inj (Option.some.inj hrespawn)
    rw [if_pos (h.retries_iff.1 hretries)]
    exact h
  · rw [if_neg hretries] at hrespawn
    rw [if_neg (mt h.retries_iff.2 hretries)]
    split at hrespawn
    · next n watcher hprocess hwatcher =>
      have hcurrent : r.current = some n := h.process.symm.trans hprocess
      rw [hcurrent]
      obtain ⟨s₂, hs₂, heq⟩ := Option.map_eq_some_iff.1 hrespawn
      obtain ⟨-, rfl⟩ := Prod.mk.inj heq
      have hretries₁ : s.retries - 1 + (r.retried + 1 : Nat) = 5 := by
        have hsum := h.retries
        omega
      have h₁ : Told
          { s.setProcess n fun p => { p with finishedConnected := false } with
            retries := s.retries - 1
            listening := s.listening.erase watcher
            watcher := none }
          { r with
            isWatched := false
            retried := r.retried + 1
            reports := Function.update r.reports n false } :=
        { h.disconnect n with watcher := rfl, retries := hretries₁ }
      exact { h₁.giveUp hs₂ with }
    · cases hrespawn

theorem Told.processError (h : Told s r) (herror : s.processError = some s') : Told s' r.error := by
  unfold CompositorProcess.processError at herror
  split at herror
  · cases herror
  · obtain ⟨⟨answer, s₁⟩, hs₁, rfl⟩ := Option.map_eq_some_iff.1 herror
    have hrespawn := h.respawn hs₁
    cases answer with
    | true => exact hrespawn
    | false => exact { hrespawn with }

theorem Told.processFinished (h : Told s r) {exitCode : Int} {status : ExitStatus}
    (hfinished : s.processFinished exitCode status = some s') :
    Told s' (r.finished exitCode status) := by
  unfold CompositorProcess.processFinished at hfinished
  unfold Record.finished
  split at hfinished
  · next hcode =>
    rw [if_pos (show Record.Ends exitCode status from Or.inl hcode)]
    exact Told.giveUp (s := s.emit .finished) { h with } hfinished
  · next hcode =>
    split at hfinished
    · next hstatus =>
      rw [if_pos (show Record.Ends exitCode status from Or.inr hstatus)]
      exact Told.giveUp (s := s.emit .stopped) { h with } hfinished
    · next hstatus =>
      rw [if_neg (show ¬ Record.Ends exitCode status from not_or.2 ⟨hcode, hstatus⟩)]
      obtain rfl := Option.some.inj hfinished
      exact h

theorem Told.socketAvailable (h : Told s r) {socketExists : Bool}
    (havailable : s.socketAvailable socketExists = some s') : Told s' r := by
  unfold CompositorProcess.socketAvailable at havailable
  split at havailable
  · obtain rfl := Option.some.inj havailable
    exact h
  · split at havailable
    · obtain rfl := Option.some.inj havailable
      exact h
    · obtain ⟨watcher, -, rfl⟩ := Option.map_eq_some_iff.1 havailable
      exact { h with }

theorem Told.handle (h : Told s r) (op : Op) (hhandle : s.handle op = some s') :
    Told s' (r.note op) := by
  cases op with
  | start =>
    obtain rfl := Option.some.inj hhandle
    exact { h.start with isStopped := rfl }
  | stop =>
    have hcalled : Told { s with isStopped := true } { r with isStopped := true } :=
      { h with isStopped := rfl }
    exact hcalled.stop hhandle
  | waited result => exact h.waited hhandle
  | timeout =>
    obtain rfl := Option.some.inj hhandle
    exact { h.start with }
  | error n error => exact (h.setState n error.childState).processError hhandle
  | finished n exitCode status =>
    have hended := h.setState n .ended
    replace hhandle : (if (s.processes n).finishedConnected then _ else _) = some s' := hhandle
    show Told s' (if r.reports n then _ else _)
    rw [h.connected] at hhandle
    split at hhandle
    · next hreports =>
      rw [if_pos hreports]
      exact hended.processFinished hhandle
    · next hreports =>
      rw [if_neg hreports]
      obtain rfl := Option.some.inj hhandle
      exact hended
  | directoryChanged n socketExists => exact h.socketAvailable hhandle
  | deleted n =>
    obtain rfl := Option.some.inj hhandle
    exact h.setProcess _ rfl rfl

/-- **The members keep to the record.** -/
theorem Told.step (h : Told s r) (op : Op) (hstep : s.step op = some s') :
    Told s' (s.note r op) := by
  unfold CompositorProcess.step at hstep
  unfold CompositorProcess.note
  by_cases hdeliverable : s.Deliverable op
  · rw [if_pos hdeliverable] at hstep ⊢
    exact h.handle op hstep
  · rw [if_neg hdeliverable] at hstep ⊢
    obtain rfl := Option.some.inj hstep
    exact h

end

/-! ## Results -/

/-- **Supervision over whole runs.** -/
theorem supervised_iff (socketName : String) (ops : List Op) :
    Run.Along step Supervised (init socketName) ops ↔
      Run.Meets (Run.recorded step note) OpOk (init socketName, Record.init) ops := by
  rw [Run.along_iff_of_decides (fun _ op h => h.decides_step op) ops _ (inv_init socketName)]
  exact Run.meets_recorded (T := Told) (fun _ _ op h => h.opOk_iff op)
    (fun _ _ op _ h hstep => h.step op hstep) ops _ _ (told_init socketName)

/-- `stop` while a respawn is pending: the compositor is started nevertheless. -/
theorem started_after_stop :
    ¬ Run.Along step Supervised (init "greenisland-seat0")
      [.start, .error 0 .failedToStart, .stop, .timeout] := by
  rintro ⟨s₁, h₁, -, s₂, h₂, -, s₃, h₃, -, s₄, h₄, ⟨-, hwanted, -⟩, -⟩
  obtain rfl := Option.some.inj h₁
  obtain rfl := Option.some.inj h₂
  obtain rfl := Option.some.inj h₃
  obtain rfl := Option.some.inj h₄
  rcases hwanted (by decide) with hstart | hstopped
  · cases hstart
  · exact absurd hstopped (by decide)

end CompositorProcess

end GreenIsland.Launcher
