import GreenIsland.XWayland.DisplaySearch

/-! Who owns an X display after `XWaylandServer::setup`.

What is owed (`Owned`): a lock file of a live process is never touched.  When the
call returns true, no other lock file is left that it made, that of the display has
the pid of this process, and no live process owned it before.  When it returns
false, nothing is left of what the call made: lock file, path, descriptor, notifier.

That is so exactly under `OwnershipOk` (`owned_iff`):

* no lock file that the search comes to is that of a live process and may be
  written, since `open(WriteOnly)` does not ask whether the file is there already;
* a file that was written in place of another one can be removed;
* the pid gets into the lock file of a display that is taken: an error of `close`,
  which writes the buffer, is not noticed;
* at a display that is given up the abstract socket was not bound, since its
  notifier is left behind. -/

namespace GreenIsland.XWayland

/-! ## What is owed -/

/-- The process whose id is in the file is running. -/
def Live (sys : System) (lock : LockFile) : Prop :=
  ∃ pid, sys.toInt lock.content = some pid ∧ sys.kill pid ≠ some .esrch

namespace Search

/-- The lock files of live processes are as they were, and were not opened for writing. -/
def Untouched (sys : System) (m : Machine) (s : Search) : Prop :=
  ∀ d lock, m.locks d = some lock → Live sys lock →
    s.machine.locks d = some lock ∧ d ∉ s.machine.written

/-- When true is returned. -/
structure Owns (sys : System) (m : Machine) (s : Search) : Prop where
  others : ∀ d ∈ s.machine.written, d ≠ s.display → s.machine.locks d = none
  pid : ∃ lock, s.machine.locks s.display = some lock ∧ lock.content = sys.pidString
  free : ∀ lock, m.locks s.display = some lock → ¬ Live sys lock

/-- When false is returned. -/
structure GaveUp (m : Machine) (s : Search) : Prop where
  locks : ∀ d ∈ s.machine.written, s.machine.locks d = none
  paths : ∀ d, s.machine.paths d = none ∨ s.machine.paths d = m.paths d
  descriptors : s.machine.descriptors = m.descriptors
  notifiers : s.machine.notifiers = m.notifiers

/-- At all times, and when the call returns. -/
structure Owned (sys : System) (m : Machine) : Prop where
  untouched : ∀ fuel, ∀ s ∈ While.turns going (turn sys) fuel (start m), Untouched sys m s
  returned : ∀ s, SetUp sys m s → Untouched sys m s
  owns : ∀ s, SetUp sys m s → s.result = some true → Owns sys m s
  gaveUp : ∀ s, SetUp sys m s → s.result = some false → GaveUp m s

/-- **The machines on which this is done.** -/
structure OwnershipOk (sys : System) (m : Machine) : Prop where
  live : ∀ d lock, Reached sys m d → m.locks d = some lock → lock.writable = true → ¬ Live sys lock
  passed : ∀ e, Reached sys m e → Stops sys m e → ∀ d < e, ∀ lock, m.locks d = some lock →
    lock.writable = true → lock.removable = true
  failed : ∀ e, Reached sys m e → Stops sys m e → ¬ Succeeds sys m e → Opens sys m e →
    (∀ lock, m.locks e = some lock → lock.removable = true) ∧
      ¬ (sys.write e = true ∧ AbstractBinds sys e)
  flushed : ∀ e, Reached sys m e → Stops sys m e → Succeeds sys m e →
    sys.pidString.length ≤ sys.flushed e

/-! ## States of the search -/

section
variable {sys : System} {m : Machine} {s : Search} {d e : Nat}

theorem opens_iff {lock : LockFile} (h : m.locks d = some lock) :
    Opens sys m d ↔ lock.writable = true := by
  unfold Opens
  rw [h]

theorem not_isStale_of_live {lock : LockFile} (h : Live sys lock) : lock.isStale sys = false := by
  obtain ⟨pid, hpid, hkill⟩ := h
  unfold LockFile.isStale
  rw [hpid]
  exact beq_eq_false_iff_ne.2 hkill

/-- The search comes to a display with the lock files of live processes in place if it
opened none of them. -/
theorem untouched_arrive_iff (h : Reached sys m d) :
    Untouched sys m (arrive sys m d) ↔
      ∀ k < d, ∀ lock, m.locks k = some lock → lock.writable = true → ¬ Live sys lock := by
  have harrived := arrived h
  constructor
  · intro huntouched k hk lock hlock hwritable hlive
    refine (huntouched k lock hlock hlive).2 ((harrived.written k).2 ⟨hk, ?_⟩)
    exact (opens_iff hlock).2 hwritable
  · intro hnone k lock hlock hlive
    by_cases hk : k < d
    · have hclosed : ¬ Opens sys m k := fun hopens =>
        hnone k hk lock hlock ((opens_iff hlock).1 hopens) hlive
      refine ⟨harrived.kept k hclosed lock hlock (not_isStale_of_live hlive), fun hmem => ?_⟩
      exact hclosed ((harrived.written k).1 hmem).2
    · refine ⟨(harrived.locks k (Nat.le_of_not_lt hk)).trans hlock, fun hmem => ?_⟩
      exact hk ((harrived.written k).1 hmem).1

/-- What the call leaves, when it ends at a display. -/
structure Finished (sys : System) (m : Machine) (e : Nat) (s : Search) (b : Bool) : Prop where
  display : s.display = e
  result : s.result = some b
  succeeds : b = true ↔ Succeeds sys m e
  written : ∀ k, k ∈ s.machine.written ↔ k ≤ e ∧ Opens sys m k
  left : ∀ k < e, Opens sys m k →
    (s.machine.locks k = none ↔ ∀ lock, m.locks k = some lock → lock.removable = true)
  kept : ∀ k, ¬ Opens sys m k → ∀ lock, m.locks k = some lock → Live sys lock →
    s.machine.locks k = some lock
  above : ∀ k, e < k → s.machine.locks k = m.locks k
  pid : b = true → ∃ lock, s.machine.locks e = some lock ∧ lock.content = sys.flushedPid e
  given : b = false → Opens sys m e →
    (s.machine.locks e = none ↔ ∀ lock, m.locks e = some lock → lock.removable = true)
  paths : b = false → ∀ k, s.machine.paths k = none ∨ s.machine.paths k = m.paths k
  descriptors : b = false → s.machine.descriptors = m.descriptors
  notifiers : b = false → (s.machine.notifiers = m.notifiers ↔
    ¬ (Opens sys m e ∧ sys.write e = true ∧ AbstractBinds sys e))

theorem finished (hreached : Reached sys m e) (hstops : Stops sys m e) :
    ∃ b, Finished sys m e ((arrive sys m e).turn sys) b := by
  have h := arrived hreached
  have hhere := h.locks e (Nat.le_refl _)
  have hopens := opens_congr sys hhere
  have hsucceeds : Succeeds sys (arrive sys m e).machine e ↔ Succeeds sys m e := by
    unfold Succeeds
    rw [hopens, unixBinds_congr h.paths]
  obtain ⟨m', b, hturn, hstopped⟩ := h.stops hstops
  rw [hturn]
  refine ⟨b, ?_⟩
  exact
    { display := rfl
      result := rfl
      succeeds := hstopped.result.trans hsucceeds
      written := fun k => by
        show k ∈ m'.written ↔ _
        rw [hstopped.written, if_congr hopens rfl rfl, mem_extended h.written k, Nat.lt_succ_iff]
      left := fun k hk hopen => by
        show m'.locks k = none ↔ _
        rw [hstopped.locks k (Nat.ne_of_lt hk)]
        exact h.left k hk hopen
      kept := fun k hclosed lock hlock hlive => by
        show m'.locks k = some lock
        by_cases hk : k = e
        · subst hk
          rw [hstopped.closed fun h => hclosed (hopens.1 h), hhere, hlock]
        · rw [hstopped.locks k hk]
          exact h.kept k hclosed lock hlock (not_isStale_of_live hlive)
      above := fun k hk => (hstopped.locks k (Nat.ne_of_gt hk)).trans (h.locks k (Nat.le_of_lt hk))
      pid := hstopped.pid
      given := fun hb hopen => by
        show m'.locks e = none ↔ _
        rw [hstopped.left hb (hopens.2 hopen), hhere]
      paths := fun hb k => (hstopped.paths hb k).imp_right fun heq => heq.trans (congrFun h.paths k)
      descriptors := fun hb => (hstopped.descriptors hb).trans h.descriptors
      notifiers := fun hb => by
        show m'.notifiers = m.notifiers ↔ _
        rw [← h.notifiers, hstopped.notifiers hb, hopens] }

/-- So it is when the call returns. -/
theorem Finished.untouched_iff {b : Bool} (h : Finished sys m e s b) :
    Untouched sys m s ↔
      ∀ k ≤ e, ∀ lock, m.locks k = some lock → lock.writable = true → ¬ Live sys lock := by
  constructor
  · intro huntouched k hk lock hlock hwritable hlive
    refine (huntouched k lock hlock hlive).2 ((h.written k).2 ⟨hk, ?_⟩)
    exact (opens_iff hlock).2 hwritable
  · intro hnone k lock hlock hlive
    by_cases hopens : Opens sys m k
    · have hk : e < k := by
        by_contra hle
        exact hnone k (Nat.le_of_not_lt hle) lock hlock ((opens_iff hlock).1 hopens) hlive
      refine ⟨(h.above k hk).trans hlock, fun hmem => ?_⟩
      exact Nat.not_le_of_lt hk ((h.written k).1 hmem).1
    · exact ⟨h.kept k hopens lock hlock hlive, fun hmem => hopens ((h.written k).1 hmem).2⟩

/-- Every display that the search comes to is a turn of it. -/
theorem arrive_mem_turns (h : Reached sys m d) :
    ∃ fuel, arrive sys m d ∈ While.turns going (turn sys) fuel (start m) := by
  have hfrom : ∀ n k, k + n = d →
      arrive sys m d ∈ While.turns going (turn sys) (n + 1) (arrive sys m k) := by
    intro n
    induction n with
    | zero =>
      rintro k rfl
      exact While.self_mem_turns (arrived h).isGoing 0
    | succ n ih =>
      intro k hk
      have hbefore : Reached sys m k := fun j hj => h j (by omega)
      refine While.mem_turns_of_turn (arrived hbefore).isGoing ?_
      rw [← arrive_succ]
      exact ih (k + 1) (by omega)
  exact ⟨d + 1, hfrom d 0 (Nat.zero_add d)⟩

/-! ## Results -/

/-- A live process's lock file that may be written is opened, and that shows. -/
theorem Owned.live (h : Owned sys m) {lock : LockFile} (hreached : Reached sys m d)
    (hlock : m.locks d = some lock) (hwritable : lock.writable = true) : ¬ Live sys lock := by
  by_cases hpassed : Passed sys m d
  · have hsucc := reached_succ hreached hpassed
    obtain ⟨fuel, hmem⟩ := arrive_mem_turns hsucc
    exact (untouched_arrive_iff hsucc).1 (h.untouched fuel _ hmem) d (Nat.lt_succ_self d) lock hlock
      hwritable
  · have hstuck : ¬ Stuck sys m d := by
      rintro ⟨lock', hlock', hclosed, -⟩
      obtain rfl := Option.some.inj (hlock.symm.trans hlock')
      exact absurd (hwritable.symm.trans hclosed) (by decide)
    obtain ⟨b, hfinished⟩ := finished hreached ⟨hpassed, hstuck⟩
    have hsetUp : SetUp sys m ((arrive sys m d).turn sys) :=
      setUp_iff.2 ⟨d, hreached, ⟨hpassed, hstuck⟩, rfl⟩
    exact hfinished.untouched_iff.1 (h.returned _ hsetUp) d (Nat.le_refl d) lock hlock hwritable

/-- What was written on the way is gone only if it can be removed. -/
theorem Owned.passed (h : Owned sys m) (hreached : Reached sys m e) (hstops : Stops sys m e)
    (hd : d < e) {lock : LockFile} (hlock : m.locks d = some lock)
    (hwritable : lock.writable = true) : lock.removable = true := by
  obtain ⟨b, hfinished⟩ := finished hreached hstops
  have hsetUp : SetUp sys m ((arrive sys m e).turn sys) :=
    setUp_iff.2 ⟨e, hreached, hstops, rfl⟩
  have hopens : Opens sys m d := (opens_iff hlock).2 hwritable
  have hmem := (hfinished.written d).2 ⟨Nat.le_of_lt hd, hopens⟩
  refine (hfinished.left d hd hopens).1 ?_ lock hlock
  cases b with
  | true =>
    refine (h.owns _ hsetUp hfinished.result).others d hmem ?_
    rw [hfinished.display]
    exact Nat.ne_of_lt hd
  | false => exact (h.gaveUp _ hsetUp hfinished.result).locks d hmem

/-- What was written at a display that is given up. -/
theorem Owned.failed (h : Owned sys m) (hreached : Reached sys m e) (hstops : Stops sys m e)
    (hsucceeds : ¬ Succeeds sys m e) (hopens : Opens sys m e) :
    (∀ lock, m.locks e = some lock → lock.removable = true) ∧
      ¬ (sys.write e = true ∧ AbstractBinds sys e) := by
  obtain ⟨b, hfinished⟩ := finished hreached hstops
  have hsetUp : SetUp sys m ((arrive sys m e).turn sys) :=
    setUp_iff.2 ⟨e, hreached, hstops, rfl⟩
  obtain rfl : b = false := Bool.eq_false_iff.2 fun hb => hsucceeds (hfinished.succeeds.1 hb)
  have hgave := h.gaveUp _ hsetUp hfinished.result
  refine ⟨(hfinished.given rfl hopens).1 ?_, fun hbound => ?_⟩
  · exact hgave.locks e ((hfinished.written e).2 ⟨Nat.le_refl e, hopens⟩)
  · exact (hfinished.notifiers rfl).1 hgave.notifiers ⟨hopens, hbound⟩

/-- The pid is in the lock file of a display that is taken. -/
theorem Owned.flushed (h : Owned sys m) (hreached : Reached sys m e) (hstops : Stops sys m e)
    (hsucceeds : Succeeds sys m e) : sys.pidString.length ≤ sys.flushed e := by
  obtain ⟨b, hfinished⟩ := finished hreached hstops
  have hsetUp : SetUp sys m ((arrive sys m e).turn sys) :=
    setUp_iff.2 ⟨e, hreached, hstops, rfl⟩
  obtain rfl : b = true := hfinished.succeeds.2 hsucceeds
  obtain ⟨lock, hlock, hcontent⟩ := (h.owns _ hsetUp hfinished.result).pid
  obtain ⟨lock', hlock', hflushed⟩ := hfinished.pid rfl
  rw [hfinished.display] at hlock
  obtain rfl := Option.some.inj (hlock.symm.trans hlock')
  exact List.take_eq_self_iff _ |>.1 (hflushed.symm.trans hcontent)

/-- A display that is taken. -/
theorem OwnershipOk.owns (h : OwnershipOk sys m) (hreached : Reached sys m e)
    (hstops : Stops sys m e) (hfinished : Finished sys m e s true) : Owns sys m s := by
  have hsucceeds := hfinished.succeeds.1 rfl
  refine ⟨fun d hmem hne => ?_, ?_, fun lock hlock => ?_⟩
  · obtain ⟨hle, hopens⟩ := (hfinished.written d).1 hmem
    rw [hfinished.display] at hne
    have hlt := Nat.lt_of_le_of_ne hle hne
    refine (hfinished.left d hlt hopens).2 fun lock hlock => ?_
    exact h.passed e hreached hstops d hlt lock hlock ((opens_iff hlock).1 hopens)
  · obtain ⟨lock, hlock, hcontent⟩ := hfinished.pid rfl
    rw [hfinished.display]
    refine ⟨lock, hlock, hcontent.trans ?_⟩
    exact List.take_of_length_le (h.flushed e hreached hstops hsucceeds)
  · rw [hfinished.display] at hlock
    exact h.live e lock hreached hlock ((opens_iff hlock).1 hsucceeds.1)

/-- A display that is given up. -/
theorem OwnershipOk.gaveUp (h : OwnershipOk sys m) (hreached : Reached sys m e)
    (hstops : Stops sys m e) (hfinished : Finished sys m e s false) : GaveUp m s := by
  have hfails : ¬ Succeeds sys m e := fun hsucceeds => nomatch hfinished.succeeds.2 hsucceeds
  refine ⟨fun d hmem => ?_, hfinished.paths rfl, hfinished.descriptors rfl, ?_⟩
  · obtain ⟨hle, hopens⟩ := (hfinished.written d).1 hmem
    rcases Nat.lt_or_eq_of_le hle with hlt | rfl
    · refine (hfinished.left d hlt hopens).2 fun lock hlock => ?_
      exact h.passed e hreached hstops d hlt lock hlock ((opens_iff hlock).1 hopens)
    · exact (hfinished.given rfl hopens).2 (h.failed d hreached hstops hfails hopens).1
  · refine (hfinished.notifiers rfl).2 ?_
    rintro ⟨hopens, hwrite, hbinds⟩
    exact (h.failed e hreached hstops hfails hopens).2 ⟨hwrite, hbinds⟩

/-- **Ownership** is as it should be, at all times and when the call returns, if and only
if no lock file of a live process may be written, what was written can be removed, the
abstract socket was not bound at a display that is given up, and the pid reaches the
lock file of a display that is taken. -/
theorem owned_iff (sys : System) (m : Machine) : Owned sys m ↔ OwnershipOk sys m := by
  constructor
  · intro h
    exact ⟨fun d lock hreached hlock hwritable => h.live hreached hlock hwritable,
      fun e hreached hstops d hd lock hlock hwritable => h.passed hreached hstops hd hlock hwritable,
      fun e hreached hstops hsucceeds hopens => h.failed hreached hstops hsucceeds hopens,
      fun e hreached hstops hsucceeds => h.flushed hreached hstops hsucceeds⟩
  · intro h
    have houtcome : ∀ s, SetUp sys m s → ∃ e b, Reached sys m e ∧ Stops sys m e ∧
        Finished sys m e s b := by
      intro s hs
      obtain ⟨e, hreached, hstops, rfl⟩ := setUp_iff.1 hs
      obtain ⟨b, hfinished⟩ := finished hreached hstops
      exact ⟨e, b, hreached, hstops, hfinished⟩
    have hbefore : ∀ {d e}, Reached sys m e → d ≤ e → Reached sys m d :=
      fun hreached hle k hk => hreached k (Nat.lt_of_lt_of_le hk hle)
    refine ⟨fun fuel s hmem => ?_, fun s hs => ?_, fun s hs hresult => ?_, fun s hs hresult => ?_⟩
    · obtain ⟨e, hreached, rfl⟩ := arrive_of_mem_turns hmem
      refine (untouched_arrive_iff hreached).2 fun k hk lock hlock hwritable => ?_
      exact h.live k lock (hbefore hreached (Nat.le_of_lt hk)) hlock hwritable
    · obtain ⟨e, b, hreached, hstops, hfinished⟩ := houtcome s hs
      refine hfinished.untouched_iff.2 fun k hk lock hlock hwritable => ?_
      exact h.live k lock (hbefore hreached hk) hlock hwritable
    · obtain ⟨e, b, hreached, hstops, hfinished⟩ := houtcome s hs
      obtain rfl := Option.some.inj (hfinished.result.symm.trans hresult)
      exact h.owns hreached hstops hfinished
    · obtain ⟨e, b, hreached, hstops, hfinished⟩ := houtcome s hs
      obtain rfl := Option.some.inj (hfinished.result.symm.trans hresult)
      exact h.gaveUp hreached hstops hfinished

end

/-- A system without a directory for socket paths. -/
def noSocketPaths : System := { sampleSystem with unixBind := fun _ => false }

/-- Display 0 is given up, and the notifier of its abstract socket stays. -/
theorem notifier_left : ¬ Owned noSocketPaths (oneLock none) := by
  intro h
  have hopens : Opens noSocketPaths (oneLock none) 0 := rfl
  have hpassed : ¬ Passed noSocketPaths (oneLock none) 0 := by
    unfold Passed
    rw [if_pos hopens]
    rintro ⟨-, -, hbind⟩
    cases hbind
  have hstuck : ¬ Stuck noSocketPaths (oneLock none) 0 := by
    rintro ⟨lock, hlock, -⟩
    cases hlock
  have hsucceeds : ¬ Succeeds noSocketPaths (oneLock none) 0 := by
    rintro ⟨-, -, -, -, -, hbind, -⟩
    cases hbind
  have hreached : Reached noSocketPaths (oneLock none) 0 := fun k hk => absurd hk (Nat.not_lt_zero k)
  exact (h.failed hreached ⟨hpassed, hstuck⟩ hsucceeds hopens).2 ⟨rfl, rfl, rfl, rfl⟩

/-- A lock file that can be written, of a process that runs. -/
def liveLock : LockFile := ⟨"        42\n".toUTF8.toList, false, true, true, true⟩

/-- A system that reads the number 42, too. -/
def readingSystem : System :=
  { sampleSystem with toInt := fun content => if content = liveLock.content then some 42 else none }

/-- The live process's lock file is overwritten. -/
theorem live_lock_touched : ¬ Owned readingSystem (oneLock (some liveLock)) := by
  intro h
  have hreached : Reached readingSystem (oneLock (some liveLock)) 0 := fun k hk =>
    absurd hk (Nat.not_lt_zero k)
  exact h.live hreached rfl rfl ⟨42, if_pos rfl, by decide⟩

end Search

end GreenIsland.XWayland
