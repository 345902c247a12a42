import Mathlib.Data.Set.Finite.Basic
import Mathlib.Logic.Function.Iterate
import Mathlib.Order.Interval.Finset.Nat
import GreenIsland.Lib.While

/-! The search for an X display (`XWaylandServer::setup`).

`setup` goes through the display numbers from 0 on.  For each one it makes a lock
file, binds an abstract socket and a socket with a path, and it stops at the first
display for which all of that works, or something fails that is not a matter of the
display.  A lock file that another process left is removed, and the display is not
tried again; if it cannot be removed, it is tried again.

The files and the answers of the system are given by display (`System`, `Machine`);
nothing else changes them while the call runs, and there are no 2^31 displays.
A turn that comes to a lock file that is stale and cannot be removed changes
nothing, and is repeated for ever.  Otherwise the search ends, after one turn for
each display, if only finitely many displays have a lock file or a bound abstract
socket (`search_ends_iff`). -/

namespace GreenIsland.XWayland

/-! ## Model -/

/-- What the code tells from other errors. -/
inductive Errno
  | eaddrinuse
  | esrch
  | other
deriving DecidableEq, Repr

/-- A lock file, and what this process may do with it. -/
structure LockFile where
  content : List UInt8
  /-- the file belongs to the user -/
  owned : Bool
  writable : Bool
  readable : Bool
  removable : Bool
deriving DecidableEq, Repr

/-- The path of a socket. -/
structure SocketPath where
  own : Bool
  removable : Bool
deriving DecidableEq, Repr

/-- How system calls end, by the display that they are made for, `none` and `true` being
success; and `trimmed().toInt()` of Qt. -/
structure System where
  applicationPid : Nat
  privileged : Bool
  toInt : List UInt8 → Option Int
  kill : Int → Option Errno
  /-- a lock file that is not there can be made -/
  create : Nat → Bool
  /-- the pid goes into the file's buffer -/
  write : Nat → Bool
  /-- how many bytes of the buffer reach the file when it is closed -/
  flushed : Nat → Nat
  abstractSocket : Nat → Bool
  abstractBind : Nat → Option Errno
  abstractListen : Nat → Bool
  unixSocket : Nat → Bool
  unixBind : Nat → Bool
  unixListen : Nat → Bool

/-- Files by display; open descriptors and socket notifiers, newest first. -/
structure Machine where
  locks : Nat → Option LockFile
  paths : Nat → Option SocketPath
  descriptors : List Nat
  notifiers : List Nat
  /-- the number of descriptors that were opened -/
  opened : Nat
  /-- the displays whose lock file was opened for writing -/
  written : List Nat

/-- The name of a lock file is returned, or an empty one with the given status. -/
inductive LockStatus
  | created
  | failed
  | eexist
  | eagain
deriving DecidableEq

namespace LockFile

/-- Reading is allowed, nothing else: only a privileged process can write then. -/
def setPermissions (sys : System) (lock : LockFile) : LockFile :=
  if lock.owned || sys.privileged then { lock with writable := sys.privileged, readable := true }
  else lock

/-- `open(WriteOnly)` makes the file, or cuts it off. -/
def openWriteOnly (sys : System) : Option LockFile → LockFile
  | none => ⟨[], true, sys.privileged, true, true⟩
  | some lock => { lock with content := [] }

/-- The process whose id is in the file, if it is a number, and not running. -/
def isStale (sys : System) (lock : LockFile) : Bool :=
  match sys.toInt lock.content with
  | some pid => sys.kill pid == some .esrch
  | none => false

end LockFile

/-- `sprintf("%10lld\n", applicationPid)` -/
def System.pidString (sys : System) : List UInt8 :=
  let digits := toString sys.applicationPid
  (("".pushn ' ' (10 - digits.length)) ++ digits ++ "\n").toUTF8.toList

/-- What of it is in the lock file after `close`. -/
def System.flushedPid (sys : System) (display : Nat) : List UInt8 :=
  sys.pidString.take (sys.flushed display)

namespace Machine

def setLock (m : Machine) (display : Nat) (lock : Option LockFile) : Machine :=
  { m with locks := Function.update m.locks display lock }

def unlinkLock (m : Machine) (display : Nat) : Machine :=
  match m.locks display with
  | some lock => if lock.removable then m.setLock display none else m
  | none => m

def socket (m : Machine) : Machine :=
  { m with descriptors := m.opened :: m.descriptors, opened := m.opened + 1 }

def close (m : Machine) (fd : Nat) : Machine := { m with descriptors := m.descriptors.erase fd }

/-- `close(m_abstractFd)`, which is -1 if there is none -/
def closeFd (m : Machine) : Except Errno Nat → Machine
  | .ok fd => m.close fd
  | .error _ => m

def notify (m : Machine) (fd : Nat) : Machine := { m with notifiers := fd :: m.notifiers }

def unlinkPath (m : Machine) (display : Nat) : Machine :=
  match m.paths display with
  | some path =>
    if path.removable then { m with paths := Function.update m.paths display none } else m
  | none => m

def bindPath (m : Machine) (display : Nat) : Machine :=
  { m with paths := Function.update m.paths display (some ⟨true, true⟩) }

end Machine

/-- The pid is written to a file that was opened; what cannot be written is removed.
Whether `close` gets the buffer into the file is not looked at. -/
def writeLock (sys : System) (m : Machine) (display : Nat) : Machine × LockStatus :=
  let lock := (LockFile.openWriteOnly sys (m.locks display)).setPermissions sys
  let m := { m.setLock display (some lock) with written := m.written ++ [display] }
  if sys.write display then
    (m.setLock display (some { lock with content := sys.flushedPid display }), .created)
  else (m.unlinkLock display, .failed)

def createLockFile (sys : System) (m : Machine) (display : Nat) : Machine × LockStatus :=
  match m.locks display with
  | none => if sys.create display then writeLock sys m display else (m, .failed)
  | some lock =>
    if lock.writable then writeLock sys m display
    else if !lock.readable || (lock.content.take 11).length != 11 then (m, .eexist)
    else
      match sys.toInt lock.content with
      | none => (m, .eexist)
      | some pid =>
        if sys.kill pid = some .esrch then
          -- a file that was removed counts as one that exists, one that was not as gone
          if lock.removable then (m.setLock display none, .eexist) else (m, .eagain)
        else (m, .eexist)

def bindToAbstractSocket (sys : System) (m : Machine) (display : Nat) :
    Machine × Except Errno Nat :=
  if sys.abstractSocket display then
    let fd := m.opened
    let m := m.socket
    match sys.abstractBind display with
    | some errno => (m.close fd, .error errno)
    | none =>
      if sys.abstractListen display then (m.notify fd, .ok fd) else (m.close fd, .error .other)
  else (m, .error .other)

def bindToUnixSocket (sys : System) (m : Machine) (display : Nat) : Machine × Option Nat :=
  if sys.unixSocket display then
    let fd := m.opened
    let m := m.socket.unlinkPath display
    if (m.paths display).isNone && sys.unixBind display then
      let m := m.bindPath display
      if sys.unixListen display then (m.notify fd, some fd)
      else ((m.unlinkPath display).close fd, none)
    else (m.close fd, none)
  else (m, none)

/-- The loop of `setup`, with the value that it returns. -/
structure Search where
  display : Nat
  machine : Machine
  result : Option Bool

namespace Search

def start (m : Machine) : Search := ⟨0, { m with written := [] }, none⟩

/-- The rest of a turn, when the abstract socket was bound or failed otherwise. -/
def turnBound (sys : System) (s : Search) (m : Machine) (abstractFd : Except Errno Nat) : Search :=
  match bindToUnixSocket sys m s.display with
  | (m, none) =>
    { s with machine := (m.unlinkLock s.display).closeFd abstractFd, result := some false }
  | (m, some _) => { s with machine := m, result := some true }

/-- The rest of a turn, when there is a lock file. -/
def turnLocked (sys : System) (s : Search) (m : Machine) : Search :=
  match bindToAbstractSocket sys m s.display with
  | (m, .error .eaddrinuse) =>
    { s with machine := m.unlinkLock s.display, display := s.display + 1 }
  | (m, abstractFd) => turnBound sys s m abstractFd

/-- The body of the loop. -/
def turn (sys : System) (s : Search) : Search :=
  match createLockFile sys s.machine s.display with
  | (m, .eagain) => { s with machine := m }
  | (m, .eexist) => { s with machine := m, display := s.display + 1 }
  | (m, .failed) => { s with machine := m, result := some false }
  | (m, .created) => turnLocked sys s m

def going (s : Search) : Bool := s.result.isNone

/-- `setup` returns, having come to the state `s`. -/
def SetUp (sys : System) (m : Machine) (s : Search) : Prop :=
  While.Returns going (turn sys) (start m) s

end Search

/-! ## What is owed -/

/-- The search ends, and no display is tried twice. -/
def Search.Ends (sys : System) (m : Machine) : Prop :=
  ∃ fuel s, While.run Search.going (Search.turn sys) fuel (Search.start m) = some s ∧
    ((While.turns Search.going (Search.turn sys) fuel (Search.start m)).map (·.display)).Nodup

/-- A display with a lock file or a bound abstract socket. -/
def Busy (sys : System) (m : Machine) (display : Nat) : Prop :=
  m.locks display ≠ none ∨ sys.abstractBind display = some .eaddrinuse

/-- Its lock file can be opened for writing. -/
def Opens (sys : System) (m : Machine) (display : Nat) : Prop :=
  match m.locks display with
  | none => sys.create display = true
  | some lock => lock.writable = true

instance (sys : System) (m : Machine) (display : Nat) : Decidable (Opens sys m display) := by
  unfold Opens
  split <;> infer_instance

/-- Its lock file can be read, but not be written or removed, and its process is gone. -/
def Stuck (sys : System) (m : Machine) (display : Nat) : Prop :=
  ∃ lock, m.locks display = some lock ∧ lock.writable = false ∧ lock.readable = true ∧
    11 ≤ lock.content.length ∧ lock.isStale sys = true ∧ lock.removable = false

/-- Another process has its abstract socket. -/
def InUse (sys : System) (display : Nat) : Prop :=
  sys.abstractSocket display = true ∧ sys.abstractBind display = some .eaddrinuse

/-- The abstract socket of the display is bound, and listened to. -/
def AbstractBinds (sys : System) (display : Nat) : Prop :=
  sys.abstractSocket display = true ∧ sys.abstractBind display = none ∧
    sys.abstractListen display = true

/-- So is the socket with a path, after the path was unlinked. -/
def UnixBinds (sys : System) (m : Machine) (display : Nat) : Prop :=
  sys.unixSocket display = true ∧ (∀ path, m.paths display = some path → path.removable = true) ∧
    sys.unixBind display = true ∧ sys.unixListen display = true

/-- The search goes on to the next display. -/
def Passed (sys : System) (m : Machine) (display : Nat) : Prop :=
  if Opens sys m display then sys.write display = true ∧ InUse sys display
  else m.locks display ≠ none ∧ ¬ Stuck sys m display

/-- The search ends at the display. -/
def Stops (sys : System) (m : Machine) (display : Nat) : Prop :=
  ¬ Passed sys m display ∧ ¬ Stuck sys m display

/-- The display is taken, if the search comes to it. -/
def Succeeds (sys : System) (m : Machine) (display : Nat) : Prop :=
  Opens sys m display ∧ sys.write display = true ∧ ¬ InUse sys display ∧ UnixBinds sys m display

/-- The search comes to a display. -/
def Reached (sys : System) (m : Machine) (display : Nat) : Prop :=
  ∀ d < display, Passed sys m d

/-! ## Lock files -/

section
variable {sys : System} {m m' : Machine} {display : Nat}

theorem opens_congr (sys : System) (h : m.locks display = m'.locks display) :
    Opens sys m display ↔ Opens sys m' display := by
  unfold Opens
  rw [h]

theorem stuck_congr (h : m.locks display = m'.locks display) :
    Stuck sys m display ↔ Stuck sys m' display := by
  unfold Stuck
  rw [h]

theorem passed_congr (h : m.locks display = m'.locks display) :
    Passed sys m display ↔ Passed sys m' display := by
  unfold Passed
  rw [h, stuck_congr h]
  simp only [opens_congr sys h]

theorem locks_setLock (m : Machine) (display : Nat) (lock : Option LockFile) :
    (m.setLock display lock).locks display = lock := Function.update_self _ _ _

theorem locks_setLock_ne {k : Nat} (h : k ≠ display) (m : Machine) (lock : Option LockFile) :
    (m.setLock display lock).locks k = m.locks k := Function.update_of_ne h _ _

/-- The file that was opened can be removed if the old one could. -/
theorem removable_opened (sys : System) (lock : Option LockFile) :
    ((LockFile.openWriteOnly sys lock).setPermissions sys).removable = true ↔
      ∀ old, lock = some old → old.removable = true := by
  have hkeep : ∀ l : LockFile, (l.setPermissions sys).removable = l.removable := by
    intro l
    unfold LockFile.setPermissions
    split <;> rfl
  rw [hkeep]
  cases lock with
  | none => simp [LockFile.openWriteOnly]
  | some old => simp [LockFile.openWriteOnly]

/-- Nothing but one lock file changes when it is unlinked. -/
theorem unlinkLock_eq (m : Machine) (display : Nat) :
    m.unlinkLock display = m ∨ m.unlinkLock display = m.setLock display none := by
  unfold Machine.unlinkLock
  split
  · split
    · exact Or.inr rfl
    · exact Or.inl rfl
  · exact Or.inl rfl

theorem unlinkLock_locks {lock : LockFile} (h : m.locks display = some lock) :
    (m.unlinkLock display).locks display = none ↔ lock.removable = true := by
  unfold Machine.unlinkLock
  rw [h]
  dsimp only
  by_cases hr : lock.removable = true
  · rw [if_pos hr, locks_setLock]
    simp [hr]
  · rw [if_neg hr, h]
    simp [hr]

theorem unlinkLock_locks_ne {k : Nat} (h : k ≠ display) (m : Machine) :
    (m.unlinkLock display).locks k = m.locks k := by
  rcases unlinkLock_eq m display with heq | heq <;> rw [heq]
  exact locks_setLock_ne h m none

@[simp] theorem unlinkLock_paths (m : Machine) (display : Nat) :
    (m.unlinkLock display).paths = m.paths := by
  rcases unlinkLock_eq m display with heq | heq <;> rw [heq]
  rfl

@[simp] theorem unlinkLock_descriptors (m : Machine) (display : Nat) :
    (m.unlinkLock display).descriptors = m.descriptors := by
  rcases unlinkLock_eq m display with heq | heq <;> rw [heq]
  rfl

@[simp] theorem unlinkLock_notifiers (m : Machine) (display : Nat) :
    (m.unlinkLock display).notifiers = m.notifiers := by
  rcases unlinkLock_eq m display with heq | heq <;> rw [heq]
  rfl

@[simp] theorem unlinkLock_written (m : Machine) (display : Nat) :
    (m.unlinkLock display).written = m.written := by
  rcases unlinkLock_eq m display with heq | heq <;> rw [heq]
  rfl

/-- Closing does nothing to files and notifiers. -/
theorem closeFd_keeps (m : Machine) (fd : Except Errno Nat) :
    (m.closeFd fd).locks = m.locks ∧ (m.closeFd fd).paths = m.paths ∧
      (m.closeFd fd).notifiers = m.notifiers ∧ (m.closeFd fd).written = m.written := by
  cases fd with
  | ok fd => exact ⟨rfl, rfl, rfl, rfl⟩
  | error errno => exact ⟨rfl, rfl, rfl, rfl⟩

theorem closeFd_descriptors {fd : Except Errno Nat} (h : m.descriptors = m'.descriptors) :
    (m.closeFd fd).descriptors = (m'.closeFd fd).descriptors := by
  cases fd with
  | ok fd => exact congrArg (fun l => l.erase fd) h
  | error errno => exact h

theorem createLockFile_of_opens (h : Opens sys m display) :
    createLockFile sys m display = writeLock sys m display := by
  unfold createLockFile
  unfold Opens at h
  split
  · next hlock =>
    rw [hlock] at h
    exact if_pos h
  · next lock hlock =>
    rw [hlock] at h
    exact if_pos h

theorem createLockFile_of_stuck (h : Stuck sys m display) :
    createLockFile sys m display = (m, .eagain) := by
  obtain ⟨lock, hlock, hwritable, hreadable, hlength, hstale, hremovable⟩ := h
  have htake : (lock.content.take 11).length = 11 := by
    rw [List.length_take]
    omega
  unfold createLockFile
  rw [hlock]
  simp only [hwritable, Bool.false_eq_true, if_false, hreadable, htake]
  unfold LockFile.isStale at hstale
  split at hstale
  · next pid hpid =>
    rw [hpid]
    simp only [beq_iff_eq] at hstale
    simp [hstale, hremovable]
  · cases hstale

/-- A lock file that is not opened for writing is left, or removed because it is stale. -/
theorem createLockFile_of_closed {lock : LockFile} (hlock : m.locks display = some lock)
    (hclosed : ¬ Opens sys m display) (hstuck : ¬ Stuck sys m display) :
    createLockFile sys m display = (m, .eexist) ∨
      lock.isStale sys = true ∧
        createLockFile sys m display = (m.setLock display none, .eexist) := by
  have hwritable : lock.writable = false := by
    unfold Opens at hclosed
    rw [hlock] at hclosed
    exact Bool.eq_false_iff.2 hclosed
  unfold createLockFile
  rw [hlock]
  simp only [hwritable, Bool.false_eq_true, if_false]
  split
  · exact Or.inl rfl
  · next hread =>
    split
    · exact Or.inl rfl
    · next pid hpid =>
      by_cases hkill : sys.kill pid = some .esrch
      · have hstale : lock.isStale sys = true := by
          unfold LockFile.isStale
          rw [hpid]
          exact beq_iff_eq.2 hkill
        refine Or.inr ⟨hstale, ?_⟩
        rw [if_pos hkill, if_pos]
        by_contra hremovable
        have hkept : lock.readable = true ∧ 11 ≤ lock.content.length := by simpa using hread
        exact hstuck ⟨lock, hlock, hwritable, hkept.1, hkept.2, hstale, Bool.eq_false_iff.2 hremovable⟩
      · rw [if_neg hkill]
        exact Or.inl rfl

/-! ## One turn -/

/-- What the search changes when it goes on to the next display. -/
structure Moves (sys : System) (m : Machine) (display : Nat) (m' : Machine) : Prop where
  locks : ∀ k, k ≠ display → m'.locks k = m.locks k
  paths : m'.paths = m.paths
  descriptors : m'.descriptors = m.descriptors
  notifiers : m'.notifiers = m.notifiers
  written : m'.written = if Opens sys m display then m.written ++ [display] else m.written
  left : Opens sys m display →
    (m'.locks display = none ↔ ∀ lock, m.locks display = some lock → lock.removable = true)
  kept : ¬ Opens sys m display → ∀ lock, m.locks display = some lock →
    lock.isStale sys = false → m'.locks display = some lock

/-- The machine when a lock file was written. -/
def locked (sys : System) (m : Machine) (display : Nat) : Machine :=
  { m.setLock display (some { (LockFile.openWriteOnly sys (m.locks display)).setPermissions sys with
      content := sys.flushedPid display }) with written := m.written ++ [display] }

theorem writeLock_of_write (h : sys.write display = true) :
    writeLock sys m display = (locked sys m display, .created) := by
  unfold writeLock locked Machine.setLock
  simp only [h, if_true, Function.update_idem]

/-- The abstract socket is bound already. -/
theorem bindToAbstractSocket_inUse (h : InUse sys display) :
    bindToAbstractSocket sys m display =
      ({ m with opened := m.opened + 1 }, .error .eaddrinuse) := by
  unfold bindToAbstractSocket Machine.socket Machine.close
  rw [h.1, if_pos rfl, h.2]
  simp

theorem locked_locks_ne {k : Nat} (h : k ≠ display) : (locked sys m display).locks k = m.locks k :=
  locks_setLock_ne h m _

/-- What was locked is given up: the file is gone if the old one could be removed. -/
theorem unlink_locked_iff {n : Machine} (hn : n.locks = (locked sys m display).locks) :
    (n.unlinkLock display).locks display = none ↔
      ∀ lock, m.locks display = some lock → lock.removable = true := by
  have hlock : n.locks display = some
      { (LockFile.openWriteOnly sys (m.locks display)).setPermissions sys with
        content := sys.flushedPid display } := by
    rw [hn]
    exact locks_setLock m display _
  exact (unlinkLock_locks hlock).trans (removable_opened sys (m.locks display))

theorem moves_of_opens (opened : Nat) (h : Opens sys m display) :
    Moves sys m display
      (Machine.unlinkLock { locked sys m display with opened := opened } display) where
  locks _ hk := (unlinkLock_locks_ne hk _).trans (locked_locks_ne hk)
  paths := unlinkLock_paths _ _
  descriptors := unlinkLock_descriptors _ _
  notifiers := unlinkLock_notifiers _ _
  written := (unlinkLock_written _ _).trans (if_pos h).symm
  left _ := unlink_locked_iff rfl
  kept hclosed := absurd h hclosed

/-! ## Sockets -/

/-- Nothing changes but descriptors and notifiers. -/
structure SameFiles (m m' : Machine) : Prop where
  locks : m'.locks = m.locks
  paths : m'.paths = m.paths
  written : m'.written = m.written

/-- What is left of the abstract socket after `close` is its notifier. -/
theorem bindToAbstractSocket_spec (hinUse : ¬ InUse sys display) :
    ∃ m' fd, bindToAbstractSocket sys m display = (m', fd) ∧ fd ≠ .error .eaddrinuse ∧
      SameFiles m m' ∧ (m'.closeFd fd).descriptors = m.descriptors ∧
        (m'.notifiers = m.notifiers ↔ ¬ AbstractBinds sys display) := by
  have hclose : (m.socket.close m.opened).descriptors = m.descriptors := by
    unfold Machine.socket Machine.close
    simp
  unfold bindToAbstractSocket
  split
  swap
  · next hsocket =>
    refine ⟨m, .error .other, rfl, nofun, ⟨rfl, rfl, rfl⟩, rfl, iff_of_true rfl ?_⟩
    exact fun h => hsocket h.1
  next hsocket =>
  cases hbind : sys.abstractBind display with
  | some errno =>
    refine ⟨_, .error errno, rfl, ?_, ⟨rfl, rfl, rfl⟩, hclose, iff_of_true rfl ?_⟩
    · rintro ⟨⟩
      exact hinUse ⟨hsocket, hbind⟩
    · exact fun h => nomatch hbind.symm.trans h.2.1
  | none =>
    dsimp only
    by_cases hlisten : sys.abstractListen display = true
    · rw [if_pos hlisten]
      refine ⟨_, _, rfl, nofun, ⟨rfl, rfl, rfl⟩, hclose, iff_of_false (fun h => ?_) ?_⟩
      · have hlength := congrArg List.length h
        exact absurd hlength (Nat.succ_ne_self _)
      · exact fun h => h ⟨hsocket, hbind, hlisten⟩
    · rw [if_neg hlisten]
      exact ⟨_, _, rfl, nofun, ⟨rfl, rfl, rfl⟩, hclose, iff_of_true rfl fun h => hlisten h.2.2⟩

@[simp] theorem unlinkPath_locks (m : Machine) (display : Nat) :
    (m.unlinkPath display).locks = m.locks := by
  unfold Machine.unlinkPath
  split
  · split <;> rfl
  · rfl

@[simp] theorem unlinkPath_descriptors (m : Machine) (display : Nat) :
    (m.unlinkPath display).descriptors = m.descriptors := by
  unfold Machine.unlinkPath
  split
  · split <;> rfl
  · rfl

@[simp] theorem unlinkPath_notifiers (m : Machine) (display : Nat) :
    (m.unlinkPath display).notifiers = m.notifiers := by
  unfold Machine.unlinkPath
  split
  · split <;> rfl
  · rfl

@[simp] theorem unlinkPath_written (m : Machine) (display : Nat) :
    (m.unlinkPath display).written = m.written := by
  unfold Machine.unlinkPath
  split
  · split <;> rfl
  · rfl

/-- A path that is unlinked is gone if it can be removed; others stay. -/
theorem unlinkPath_paths (m : Machine) (display : Nat) :
    ((m.unlinkPath display).paths display = none ↔
        ∀ path, m.paths display = some path → path.removable = true) ∧
      ∀ k, (m.unlinkPath display).paths k = none ∨ (m.unlinkPath display).paths k = m.paths k := by
  unfold Machine.unlinkPath
  cases hpath : m.paths display with
  | none => simp [hpath]
  | some path =>
    dsimp only
    by_cases hr : path.removable = true
    · rw [if_pos hr]
      refine ⟨by simp [hr], fun k => ?_⟩
      by_cases hk : k = display
      · subst hk
        exact Or.inl (Function.update_self _ _ _)
      · exact Or.inr (Function.update_of_ne hk _ _)
    · rw [if_neg hr]
      simp [hpath, hr]

/-- A path of our own is gone after it was unlinked. -/
theorem unlink_bindPath_paths (m : Machine) (display k : Nat) :
    ((m.bindPath display).unlinkPath display).paths k = none ∨
      ((m.bindPath display).unlinkPath display).paths k = m.paths k := by
  obtain ⟨hfree, hpaths⟩ := unlinkPath_paths (m.bindPath display) display
  by_cases hk : k = display
  · subst hk
    refine Or.inl (hfree.2 fun path hpath => ?_)
    obtain rfl := Option.some.inj ((Function.update_self k _ m.paths).symm.trans hpath)
    rfl
  · refine (hpaths k).imp_right fun h => h.trans ?_
    exact Function.update_of_ne hk _ _

theorem bindToUnixSocket_binds (h : UnixBinds sys m display) :
    ∃ m' fd, bindToUnixSocket sys m display = (m', some fd) ∧ m'.locks = m.locks ∧
      m'.written = m.written := by
  obtain ⟨hsocket, hpath, hbind, hlisten⟩ := h
  have hnone : (m.socket.unlinkPath display).paths display = none :=
    (unlinkPath_paths m.socket display).1.2 hpath
  unfold bindToUnixSocket
  rw [hsocket, if_pos rfl]
  simp only [hnone, Option.isNone_none, hbind, Bool.and_self, if_true, hlisten]
  exact ⟨_, _, rfl, unlinkPath_locks m.socket display, unlinkPath_written m.socket display⟩

theorem unixBinds_congr (h : m'.paths = m.paths) :
    UnixBinds sys m' display ↔ UnixBinds sys m display := by
  unfold UnixBinds
  rw [h]

theorem bindToUnixSocket_fails (h : ¬ UnixBinds sys m display) :
    ∃ m', bindToUnixSocket sys m display = (m', none) ∧ m'.locks = m.locks ∧
      m'.written = m.written ∧ m'.descriptors = m.descriptors ∧ m'.notifiers = m.notifiers ∧
        ∀ k, m'.paths k = none ∨ m'.paths k = m.paths k := by
  obtain ⟨hfree, hpaths⟩ := unlinkPath_paths m.socket display
  have hclose : m.socket.descriptors.erase m.opened = m.descriptors := List.erase_cons_head _ _
  unfold bindToUnixSocket
  split
  swap
  · exact ⟨m, rfl, rfl, rfl, rfl, rfl, fun _ => Or.inr rfl⟩
  next hsocket =>
  dsimp only
  split
  · next hbind =>
    have hlisten : ¬ sys.unixListen display = true := by
      intro hlisten
      rw [Bool.and_eq_true, Option.isNone_iff_eq_none] at hbind
      exact h ⟨hsocket, hfree.1 hbind.1, hbind.2, hlisten⟩
    rw [if_neg hlisten]
    refine ⟨_, rfl, ?_, ?_, ?_, ?_, fun k => ?_⟩
    · simp [Machine.close, Machine.bindPath, Machine.socket]
    · simp [Machine.close, Machine.bindPath, Machine.socket]
    · simp [Machine.close, Machine.bindPath, hclose]
    · simp [Machine.close, Machine.bindPath, Machine.socket]
    · rcases unlink_bindPath_paths (m.socket.unlinkPath display) display k with hnone | hsame
      · exact Or.inl hnone
      · exact (hpaths k).imp hsame.trans hsame.trans
  · refine ⟨_, rfl, ?_, ?_, ?_, ?_, hpaths⟩
    · simp [Machine.close, Machine.socket]
    · simp [Machine.close, Machine.socket]
    · simp [Machine.close, hclose]
    · simp [Machine.close, Machine.socket]

namespace Search

variable {s : Search}

theorem turn_of_stuck (h : Stuck sys s.machine s.display) : s.turn sys = s := by
  unfold turn
  rw [createLockFile_of_stuck h]

/-- **A display that is passed.** -/
theorem turn_of_passed (h : Passed sys s.machine s.display) :
    ∃ m', s.turn sys = ⟨s.display + 1, m', s.result⟩ ∧ Moves sys s.machine s.display m' := by
  unfold Passed at h
  by_cases hopens : Opens sys s.machine s.display
  · rw [if_pos hopens] at h
    obtain ⟨hwrite, hinUse⟩ := h
    refine ⟨_, ?_, moves_of_opens (s.machine.opened + 1) hopens⟩
    unfold turn
    rw [createLockFile_of_opens hopens, writeLock_of_write hwrite]
    dsimp only
    unfold turnLocked
    rw [bindToAbstractSocket_inUse hinUse]
    rfl
  · rw [if_neg hopens] at h
    obtain ⟨hne, hstuck⟩ := h
    obtain ⟨lock, hlock⟩ := Option.ne_none_iff_exists'.1 hne
    unfold turn
    rcases createLockFile_of_closed hlock hopens hstuck with heq | ⟨hstale, heq⟩
    · rw [heq]
      refine ⟨s.machine, rfl, fun k _ => rfl, rfl, rfl, rfl, (if_neg hopens).symm,
        fun h => absurd h hopens, fun _ lock h _ => h⟩
    · rw [heq]
      refine ⟨_, rfl, fun k hk => locks_setLock_ne hk _ _, rfl, rfl, rfl, (if_neg hopens).symm,
        fun h => absurd h hopens, ?_⟩
      intro _ lock' hlock' hlive
      obtain rfl := Option.some.inj (hlock.symm.trans hlock')
      exact absurd (hstale.symm.trans hlive) (by decide)

/-- What the search leaves when it ends at a display. -/
structure Stopped (sys : System) (m : Machine) (display : Nat) (m' : Machine) (b : Bool) : Prop where
  result : b = true ↔ Succeeds sys m display
  locks : ∀ k, k ≠ display → m'.locks k = m.locks k
  written : m'.written = if Opens sys m display then m.written ++ [display] else m.written
  closed : ¬ Opens sys m display → m'.locks display = m.locks display
  pid : b = true → ∃ lock, m'.locks display = some lock ∧ lock.content = sys.flushedPid display
  left : b = false → Opens sys m display →
    (m'.locks display = none ↔ ∀ lock, m.locks display = some lock → lock.removable = true)
  paths : b = false → ∀ k, m'.paths k = none ∨ m'.paths k = m.paths k
  descriptors : b = false → m'.descriptors = m.descriptors
  notifiers : b = false → (m'.notifiers = m.notifiers ↔
    ¬ (Opens sys m display ∧ sys.write display = true ∧ AbstractBinds sys display))

/-- No lock file is there, and none can be made. -/
theorem stopped_closed (hopens : ¬ Opens sys m display) :
    Stopped sys m display m false where
  result := iff_of_false Bool.false_ne_true fun h => hopens h.1
  locks _ _ := rfl
  written := (if_neg hopens).symm
  closed _ := rfl
  pid h := by cases h
  left _ h := absurd h hopens
  paths _ _ := Or.inr rfl
  descriptors _ := rfl
  notifiers _ := iff_of_true rfl fun h => hopens h.1

/-- The pid cannot be written. -/
theorem stopped_unwritten (hopens : Opens sys m display) (hwrite : ¬ sys.write display = true) :
    ∃ m', writeLock sys m display = (m', .failed) ∧ Stopped sys m display m' false := by
  let lock := (LockFile.openWriteOnly sys (m.locks display)).setPermissions sys
  let n : Machine := { m.setLock display (some lock) with written := m.written ++ [display] }
  have hn : ∀ k, k ≠ display → n.locks k = m.locks k := fun k hk => locks_setLock_ne hk m _
  have hlock : n.locks display = some lock := locks_setLock m display _
  have hresult : writeLock sys m display = (n.unlinkLock display, .failed) := by
    unfold writeLock
    rw [if_neg hwrite]
  refine ⟨_, hresult, ?_⟩
  exact
    { result := iff_of_false Bool.false_ne_true fun h => hwrite h.2.1
      locks := fun k hk => (unlinkLock_locks_ne hk n).trans (hn k hk)
      written := (unlinkLock_written n display).trans (if_pos hopens).symm
      closed := fun h => absurd hopens h
      pid := fun h => by cases h
      left := fun _ _ => (unlinkLock_locks hlock).trans (removable_opened sys (m.locks display))
      paths := fun _ k => Or.inr (congrFun (unlinkLock_paths n display) k)
      descriptors := fun _ => unlinkLock_descriptors n display
      notifiers := fun _ => iff_of_true (unlinkLock_notifiers n display) fun h => hwrite h.2.1 }

/-- The sockets could be bound. -/
theorem stopped_bound (hopens : Opens sys m display) (hsucceeds : Succeeds sys m display)
    {n : Machine} (hlocks : n.locks = (locked sys m display).locks)
    (hwritten : n.written = (locked sys m display).written) : Stopped sys m display n true where
  result := iff_of_true rfl hsucceeds
  locks k hk := (congrFun hlocks k).trans (locked_locks_ne hk)
  written := hwritten.trans (if_pos hopens).symm
  closed h := absurd hopens h
  pid _ := ⟨_, (congrFun hlocks display).trans (locks_setLock m display _), rfl⟩
  left h := by cases h
  paths h := by cases h
  descriptors h := by cases h
  notifiers h := by cases h

theorem turnLocked_eq {n : Machine} {fd : Except Errno Nat}
    (h : bindToAbstractSocket sys m s.display = (n, fd)) (hfd : fd ≠ .error .eaddrinuse) :
    s.turnLocked sys m = s.turnBound sys n fd := by
  unfold turnLocked
  rw [h]
  cases fd with
  | ok fd => rfl
  | error errno =>
    cases errno with
    | eaddrinuse => exact absurd rfl hfd
    | esrch => rfl
    | other => rfl

/-- The lock file was made, and the abstract socket is not in use. -/
theorem turnLocked_stops (hopens : Opens sys s.machine s.display)
    (hwrite : sys.write s.display = true) (hinUse : ¬ InUse sys s.display) :
    ∃ m' b, s.turnLocked sys (locked sys s.machine s.display) = ⟨s.display, m', some b⟩ ∧
      Stopped sys s.machine s.display m' b := by
  obtain ⟨n₁, fd, h₁, hfd, hsame, hclose, hnotifiers⟩ :=
    bindToAbstractSocket_spec (m := locked sys s.machine s.display) hinUse
  rw [turnLocked_eq h₁ hfd]
  unfold turnBound
  by_cases hunix : UnixBinds sys s.machine s.display
  · obtain ⟨n₂, unixFd, h₂, hlocks, hwritten⟩ :=
      bindToUnixSocket_binds ((unixBinds_congr hsame.paths).2 hunix)
    rw [h₂]
    exact ⟨n₂, true, rfl, stopped_bound hopens ⟨hopens, hwrite, hinUse, hunix⟩
      (hlocks.trans hsame.locks) (hwritten.trans hsame.written)⟩
  · obtain ⟨n₂, h₂, hlocks, hwritten, hdescriptors, hnotifiers₂, hpaths⟩ :=
      bindToUnixSocket_fails fun h => hunix ((unixBinds_congr hsame.paths).1 h)
    rw [h₂]
    obtain ⟨hlocks', hpaths', hnotifiers', hwritten'⟩ := closeFd_keeps (n₂.unlinkLock s.display) fd
    refine ⟨_, false, rfl, ?_⟩
    exact
      { result := iff_of_false Bool.false_ne_true fun h => hunix h.2.2.2
        locks := fun k hk => by
          rw [hlocks', unlinkLock_locks_ne hk, hlocks, hsame.locks]
          exact locked_locks_ne hk
        written := by
          rw [hwritten', unlinkLock_written, hwritten, hsame.written, if_pos hopens]
          rfl
        closed := fun h => absurd hopens h
        pid := fun h => by cases h
        left := fun _ _ => by
          rw [hlocks']
          exact unlink_locked_iff (hlocks.trans hsame.locks)
        paths := fun _ k => by
          rw [hpaths', unlinkLock_paths]
          exact (hpaths k).imp_right fun h => h.trans (congrFun hsame.paths k)
        descriptors := fun _ => by
          rw [closeFd_descriptors (unlinkLock_descriptors n₂ s.display),
            closeFd_descriptors hdescriptors, hclose]
          rfl
        notifiers := fun _ => by
          rw [hnotifiers', unlinkLock_notifiers, hnotifiers₂]
          refine hnotifiers.trans (not_congr ?_)
          exact ⟨fun h => ⟨hopens, hwrite, h⟩, fun h => h.2.2⟩ }

/-- **The display at which the search ends.** -/
theorem turn_of_stops (h : Stops sys s.machine s.display) :
    ∃ m' b, s.turn sys = ⟨s.display, m', some b⟩ ∧ Stopped sys s.machine s.display m' b := by
  obtain ⟨hpassed, hstuck⟩ := h
  unfold Passed at hpassed
  unfold turn
  by_cases hopens : Opens sys s.machine s.display
  swap
  · rw [if_neg hopens] at hpassed
    have hnone : s.machine.locks s.display = none := by
      by_contra hne
      exact hpassed ⟨hne, hstuck⟩
    have hcreate : createLockFile sys s.machine s.display = (s.machine, .failed) := by
      unfold Opens at hopens
      unfold createLockFile
      rw [hnone] at hopens ⊢
      exact if_neg hopens
    rw [hcreate]
    exact ⟨_, false, rfl, stopped_closed hopens⟩
  rw [if_pos hopens] at hpassed
  rw [createLockFile_of_opens hopens]
  by_cases hwrite : sys.write s.display = true
  swap
  · obtain ⟨m', hm', hstopped⟩ := stopped_unwritten hopens hwrite
    rw [hm']
    exact ⟨m', false, rfl, hstopped⟩
  have hinUse : ¬ InUse sys s.display := fun h => hpassed ⟨hwrite, h⟩
  rw [writeLock_of_write hwrite]
  exact turnLocked_stops hopens hwrite hinUse

/-! ## The search -/

/-- The state after `d` turns. -/
def arrive (sys : System) (m : Machine) (d : Nat) : Search := (turn sys)^[d] (start m)

theorem arrive_succ (sys : System) (m : Machine) (d : Nat) :
    arrive sys m (d + 1) = (arrive sys m d).turn sys := Function.iterate_succ_apply' _ _ _

/-- The search has come to a display: what it found there is as it was, and of the
displays before there are no other lock files than those that were there and could
not be removed. -/
structure Arrived (sys : System) (m : Machine) (d : Nat) (s : Search) : Prop where
  display : s.display = d
  going : s.result = none
  locks : ∀ k, d ≤ k → s.machine.locks k = m.locks k
  paths : s.machine.paths = m.paths
  descriptors : s.machine.descriptors = m.descriptors
  notifiers : s.machine.notifiers = m.notifiers
  written : ∀ k, k ∈ s.machine.written ↔ k < d ∧ Opens sys m k
  left : ∀ k < d, Opens sys m k →
    (s.machine.locks k = none ↔ ∀ lock, m.locks k = some lock → lock.removable = true)
  kept : ∀ k, ¬ Opens sys m k → ∀ lock, m.locks k = some lock → lock.isStale sys = false →
    s.machine.locks k = some lock

theorem arrived_start (sys : System) (m : Machine) : Arrived sys m 0 (start m) where
  display := rfl
  going := rfl
  locks _ _ := rfl
  paths := rfl
  descriptors := rfl
  notifiers := rfl
  written k := by simp [start]
  left k hk := absurd hk (Nat.not_lt_zero k)
  kept _ _ _ h _ := h

/-- The displays that were opened so far, with one more. -/
theorem mem_extended {l : List Nat} {d : Nat} (hl : ∀ k, k ∈ l ↔ k < d ∧ Opens sys m k) (k : Nat) :
    k ∈ (if Opens sys m d then l ++ [d] else l) ↔ k < d + 1 ∧ Opens sys m k := by
  by_cases hopen : Opens sys m d
  · rw [if_pos hopen, List.mem_append, List.mem_singleton, hl]
    constructor
    · rintro (⟨hk, hopenk⟩ | rfl)
      · exact ⟨Nat.lt_succ_of_lt hk, hopenk⟩
      · exact ⟨Nat.lt_succ_self _, hopen⟩
    · rintro ⟨hk, hopenk⟩
      rcases Nat.lt_succ_iff_lt_or_eq.1 hk with hk | rfl
      · exact Or.inl ⟨hk, hopenk⟩
      · exact Or.inr rfl
  · rw [if_neg hopen, hl]
    constructor
    · rintro ⟨hk, hopenk⟩
      exact ⟨Nat.lt_succ_of_lt hk, hopenk⟩
    · rintro ⟨hk, hopenk⟩
      rcases Nat.lt_succ_iff_lt_or_eq.1 hk with hk | rfl
      · exact ⟨hk, hopenk⟩
      · exact absurd hopenk hopen

/-- **One display further.** -/
theorem Arrived.passed {d : Nat} (h : Arrived sys m d s) (hpassed : Passed sys m d) :
    Arrived sys m (d + 1) (s.turn sys) := by
  obtain rfl := h.display
  have hhere := h.locks s.display (Nat.le_refl _)
  obtain ⟨m', hturn, hmoves⟩ := turn_of_passed ((passed_congr hhere).2 hpassed)
  have hopens := opens_congr sys hhere
  rw [hturn]
  refine ⟨rfl, h.going, fun k hk => ?_, hmoves.paths.trans h.paths,
    hmoves.descriptors.trans h.descriptors, hmoves.notifiers.trans h.notifiers, fun k => ?_,
    fun k hk hopen => ?_, fun k hclosed lock hlock hlive => ?_⟩
  · exact (hmoves.locks k (by omega)).trans (h.locks k (by omega))
  · show k ∈ m'.written ↔ _
    rw [hmoves.written, if_congr hopens rfl rfl]
    exact mem_extended h.written k
  · show m'.locks k = none ↔ _
    rcases Nat.lt_succ_iff_lt_or_eq.1 hk with hk | rfl
    · rw [hmoves.locks k (Nat.ne_of_lt hk)]
      exact h.left k hk hopen
    · rw [hmoves.left (hopens.2 hopen), hhere]
  · show m'.locks k = some lock
    by_cases hk : k = s.display
    · subst hk
      exact hmoves.kept (fun h => hclosed (hopens.1 h)) lock (hhere.trans hlock) hlive
    · rw [hmoves.locks k hk]
      exact h.kept k hclosed lock hlock hlive

theorem arrived {d : Nat} (h : Reached sys m d) : Arrived sys m d (arrive sys m d) := by
  induction d with
  | zero => exact arrived_start sys m
  | succ d ih =>
    rw [arrive_succ]
    exact (ih fun k hk => h k (Nat.lt_succ_of_lt hk)).passed (h d (Nat.lt_succ_self d))

theorem Arrived.stuck {d : Nat} (h : Arrived sys m d s) (hstuck : Stuck sys m d) : s.turn sys = s := by
  obtain rfl := h.display
  exact turn_of_stuck ((stuck_congr (h.locks s.display (Nat.le_refl _))).2 hstuck)

theorem Arrived.stops {d : Nat} (h : Arrived sys m d s) (hstops : Stops sys m d) :
    ∃ m' b, s.turn sys = ⟨d, m', some b⟩ ∧ Stopped sys s.machine d m' b := by
  obtain rfl := h.display
  have hhere := h.locks s.display (Nat.le_refl _)
  refine turn_of_stops ⟨?_, ?_⟩
  · exact fun hpassed => hstops.1 ((passed_congr hhere).1 hpassed)
  · exact fun hstuck => hstops.2 ((stuck_congr hhere).1 hstuck)

theorem Arrived.isGoing {d : Nat} (h : Arrived sys m d s) : s.going = true := by
  unfold Search.going
  rw [h.going]
  rfl

theorem reached_succ {d : Nat} (h : Reached sys m d) (hpassed : Passed sys m d) :
    Reached sys m (d + 1) := by
  intro k hk
  rcases Nat.lt_succ_iff_lt_or_eq.1 hk with hk | rfl
  · exact h k hk
  · exact hpassed

/-- A search that ends does so at a display where it stops. -/
theorem stops_of_run {fuel d : Nat} (h : Reached sys m d)
    (hrun : While.run going (turn sys) fuel (arrive sys m d) = some s) :
    ∃ e, Reached sys m e ∧ Stops sys m e ∧ s = (arrive sys m e).turn sys := by
  induction fuel generalizing d with
  | zero =>
    rw [While.run_zero (arrived h).isGoing] at hrun
    cases hrun
  | succ fuel ih =>
    rw [While.run_turn (arrived h).isGoing] at hrun
    by_cases hstuck : Stuck sys m d
    · rw [(arrived h).stuck hstuck] at hrun
      exact ih h hrun
    by_cases hpassed : Passed sys m d
    · rw [← arrive_succ] at hrun
      exact ih (reached_succ h hpassed) hrun
    obtain ⟨m', b, hturn, -⟩ := (arrived h).stops ⟨hpassed, hstuck⟩
    have hdone : ((arrive sys m d).turn sys).going = false := by
      rw [hturn]
      rfl
    rw [While.run_done hdone] at hrun
    exact ⟨d, h, ⟨hpassed, hstuck⟩, (Option.some.inj hrun).symm⟩

theorem setUp_of_arrive {d : Nat} (h : Reached sys m d)
    (hreturns : While.Returns going (turn sys) (arrive sys m d) s) : SetUp sys m s := by
  induction d with
  | zero => exact hreturns
  | succ d ih =>
    have hd : Reached sys m d := fun k hk => h k (Nat.lt_succ_of_lt hk)
    refine ih hd (While.returns_of_turn (arrived hd).isGoing ?_)
    rwa [arrive_succ] at hreturns

/-- **The outcome.**  The search ends exactly at a display that it comes to and at which
it stops. -/
theorem setUp_iff :
    SetUp sys m s ↔ ∃ e, Reached sys m e ∧ Stops sys m e ∧ s = (arrive sys m e).turn sys := by
  constructor
  · rintro ⟨fuel, hrun⟩
    exact stops_of_run (d := 0) (fun k hk => absurd hk (Nat.not_lt_zero k)) hrun
  · rintro ⟨e, hreached, hstops, rfl⟩
    obtain ⟨m', b, hturn, -⟩ := (arrived hreached).stops hstops
    have hdone : ((arrive sys m e).turn sys).going = false := by
      rw [hturn]
      rfl
    refine setUp_of_arrive hreached (While.returns_of_turn (arrived hreached).isGoing ?_)
    exact ⟨0, While.run_done hdone 0⟩

/-- The states before a turn are those in which the search comes to a display. -/
theorem arrive_of_mem_turns {fuel : Nat} {t : Search}
    (ht : t ∈ While.turns going (turn sys) fuel (start m)) :
    ∃ e, Reached sys m e ∧ t = arrive sys m e := by
  have hkeep : ∀ s : Search, (s.going = true → ∃ e, Reached sys m e ∧ s = arrive sys m e) →
      s.going = true → (s.turn sys).going = true →
        ∃ e, Reached sys m e ∧ s.turn sys = arrive sys m e := by
    intro s hs hgoing hnext
    obtain ⟨e, hreached, rfl⟩ := hs hgoing
    by_cases hstuck : Stuck sys m e
    · exact ⟨e, hreached, (arrived hreached).stuck hstuck⟩
    by_cases hpassed : Passed sys m e
    · exact ⟨e + 1, reached_succ hreached hpassed, (arrive_succ sys m e).symm⟩
    obtain ⟨m', b, hturn, -⟩ := (arrived hreached).stops ⟨hpassed, hstuck⟩
    rw [hturn] at hnext
    cases hnext
  have hstart : ∃ e, Reached sys m e ∧ start m = arrive sys m e :=
    ⟨0, fun k hk => absurd hk (Nat.not_lt_zero k), rfl⟩
  have hturns := While.forall_mem_turns (I := fun s : Search => s.going = true →
    ∃ e, Reached sys m e ∧ s = arrive sys m e) hkeep fuel (start m) (fun _ => hstart) t ht
  exact hturns (While.cond_of_mem_turns ht)

/-! ## Results -/

theorem not_stuck_of_passed {d : Nat} (h : Passed sys m d) : ¬ Stuck sys m d := by
  intro hstuck
  unfold Passed at h
  split at h
  · next hopens =>
    obtain ⟨lock, hlock, hwritable, -⟩ := hstuck
    unfold Opens at hopens
    rw [hlock] at hopens
    exact absurd (hopens.symm.trans hwritable) (by decide)
  · exact h.2 hstuck

theorem busy_of_passed {d : Nat} (h : Passed sys m d) : Busy sys m d := by
  unfold Passed at h
  split at h
  · exact Or.inr h.2.2
  · exact Or.inl h.1

/-- If the search never stops it comes to every display, and all of them are busy. -/
theorem exists_stops (hfinite : {d | Busy sys m d}.Finite)
    (hstuck : ∀ d, Reached sys m d → ¬ Stuck sys m d) :
    ∃ e, Reached sys m e ∧ Stops sys m e := by
  by_contra hnone
  have hall : ∀ d, Reached sys m d := by
    intro d
    induction d with
    | zero => exact fun k hk => absurd hk (Nat.not_lt_zero k)
    | succ d ih =>
      refine reached_succ ih ?_
      by_contra hpassed
      exact hnone ⟨d, ih, hpassed, hstuck d ih⟩
  have huniv : {d | Busy sys m d} = Set.univ :=
    Set.eq_univ_of_forall fun d => busy_of_passed (hall (d + 1) d (Nat.lt_succ_self d))
  rw [huniv] at hfinite
  exact Set.infinite_univ hfinite

/-- Each turn is made at a later display if none is stuck. -/
theorem nodup_displays (hstuck : ∀ d, Reached sys m d → ¬ Stuck sys m d) (fuel : Nat) :
    ((While.turns going (turn sys) fuel (start m)).map (·.display)).Nodup := by
  refine (While.pairwise_turns (I := fun s => ∃ e, Reached sys m e ∧ s = arrive sys m e)
    (r := fun s s' => s.display < s'.display) ?_ ?_ fuel (start m) ?_).map _ ?_
  · exact fun _ _ _ h h' => Nat.lt_trans h h'
  · rintro s ⟨e, hreached, rfl⟩ - hnext
    by_cases hpassed : Passed sys m e
    · have hsucc := reached_succ hreached hpassed
      refine ⟨⟨e + 1, hsucc, (arrive_succ sys m e).symm⟩, ?_⟩
      rw [← arrive_succ, (arrived hreached).display, (arrived hsucc).display]
      exact Nat.lt_succ_self e
    · obtain ⟨m', b, hturn, -⟩ := (arrived hreached).stops ⟨hpassed, hstuck e hreached⟩
      rw [hturn] at hnext
      cases hnext
  · exact ⟨0, fun k hk => absurd hk (Nat.not_lt_zero k), rfl⟩
  · exact fun _ _ h => Nat.ne_of_lt h

/-- A search that ends does not come to a display where it is stuck. -/
theorem not_stuck_of_setUp (h : SetUp sys m s) {d : Nat} (hreached : Reached sys m d) :
    ¬ Stuck sys m d := by
  obtain ⟨e, hreached', hstops, -⟩ := setUp_iff.1 h
  rcases Nat.lt_trichotomy d e with hlt | rfl | hlt
  · exact not_stuck_of_passed (hreached' d hlt)
  · exact hstops.2
  · exact absurd (hreached e hlt) hstops.1

/-- **Termination.**  With finitely many busy displays the search ends, after one turn at
each display, if and only if it does not come to a stale lock file that can be read but
neither be written nor removed. -/
theorem search_ends_iff (sys : System) (m : Machine) (hfinite : {d | Busy sys m d}.Finite) :
    Ends sys m ↔ ∀ d, Reached sys m d → ¬ Stuck sys m d := by
  constructor
  · rintro ⟨fuel, s, hrun, -⟩ d hreached
    exact not_stuck_of_setUp ⟨fuel, hrun⟩ hreached
  · intro hstuck
    obtain ⟨e, hreached, hstops⟩ := exists_stops hfinite hstuck
    obtain ⟨fuel, hrun⟩ : SetUp sys m ((arrive sys m e).turn sys) :=
      setUp_iff.2 ⟨e, hreached, hstops, rfl⟩
    exact ⟨fuel, _, hrun, nodup_displays hstuck fuel⟩

end Search

end

/-- A system on which all goes well; of the processes only 99 is gone. -/
def sampleSystem : System where
  applicationPid := 1234
  privileged := false
  toInt content := if content = "        99\n".toUTF8.toList then some 99 else none
  kill pid := if pid = 99 then some .esrch else none
  create _ := true
  write _ := true
  flushed _ := 11
  abstractSocket _ := true
  abstractBind _ := none
  abstractListen _ := true
  unixSocket _ := true
  unixBind _ := true
  unixListen _ := true

/-- A machine with the given lock file of display 0, and no other files. -/
def oneLock (lock : Option LockFile) : Machine where
  locks d := if d = 0 then lock else none
  paths _ := none
  descriptors := []
  notifiers := []
  opened := 3
  written := []

theorem busy_oneLock (lock : Option LockFile) : {d | Busy sampleSystem (oneLock lock) d}.Finite := by
  refine (Set.finite_singleton 0).subset fun d hd => ?_
  rcases hd with hlock | hinUse
  · by_contra hne
    exact hlock (if_neg hne)
  · cases hinUse

/-- The lock file that process 99 of another user left. -/
def staleLock : LockFile := ⟨"        99\n".toUTF8.toList, false, false, true, false⟩

/-- On this system display 2 is in use. -/
def crowdedSystem : System :=
  { sampleSystem with
    toInt := fun content => if content = "        42\n".toUTF8.toList then some 42 else
      sampleSystem.toInt content
    abstractBind := fun d => if d = 2 then some .eaddrinuse else none }

/-- The lock files of displays 0 and 1. -/
def crowdedMachine : Machine :=
  { oneLock none with
    locks := fun
      | 0 => some ⟨"        42\n".toUTF8.toList, false, false, true, false⟩
      | 1 => some { staleLock with removable := true }
      | _ => none }

theorem busy_crowded : {d | Busy crowdedSystem crowdedMachine d}.Finite := by
  refine (Set.finite_lt_nat 3).subset fun d hd => ?_
  match d with
  | 0 => exact Nat.zero_lt_succ 2
  | 1 => exact Nat.one_lt_succ_succ 1
  | 2 => exact Nat.lt_succ_self 2
  | d + 3 =>
    rcases hd with hlock | hinUse
    · exact absurd rfl hlock
    · have hfree : crowdedSystem.abstractBind (d + 3) = none := by simp [crowdedSystem]
      cases hinUse.symm.trans hfree

namespace Search

/-- A running process has display 0, display 1 was left by process 99, whose lock file
can be removed, and the socket of display 2 is in use: the search ends at display 3. -/
theorem search_ends_crowded : Ends crowdedSystem crowdedMachine := by
  refine (search_ends_iff crowdedSystem crowdedMachine busy_crowded).2 fun d _ => ?_
  rintro ⟨lock, hlock, -, -, -, hstale, hremovable⟩
  match d with
  | 0 =>
    obtain rfl := Option.some.inj hlock
    exact absurd hstale (by decide +kernel)
  | 1 =>
    obtain rfl := Option.some.inj hlock
    cases hremovable
  | _ + 2 => cases hlock

/-- A stale lock file that cannot be removed: display 0 is tried for ever. -/
theorem stale_never_ends :
    {d | Busy sampleSystem (oneLock (some staleLock)) d}.Finite ∧
      ¬ Ends sampleSystem (oneLock (some staleLock)) := by
  refine ⟨busy_oneLock _, ?_⟩
  rintro ⟨fuel, s, hrun, -⟩
  have hstuck : Stuck sampleSystem (oneLock (some staleLock)) 0 :=
    ⟨staleLock, rfl, rfl, rfl, by decide +kernel, by decide +kernel, rfl⟩
  exact not_stuck_of_setUp ⟨fuel, hrun⟩ (fun k hk => absurd hk (Nat.not_lt_zero k)) hstuck

end Search

end GreenIsland.XWayland
