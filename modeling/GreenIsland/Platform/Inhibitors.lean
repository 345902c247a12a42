import Mathlib.Data.List.Nodup
import GreenIsland.Lib.Edge
import GreenIsland.Platform.Logind

/-! The inhibition locks of `Logind`.

A successful reply to `Inhibit` adds a file descriptor to `inhibitFds`, and
`uninhibit` closes one and takes it out.  So the session is inhibited while there
are more successful replies than accepted calls of `uninhibit`; `inhibitedChanged`
announces when that begins and ends, `inhibited` and `uninhibited` do so for each
descriptor, and a descriptor is closed once for each time that it was opened
(`LocksOk`).

All of it holds along every run, whatever happens to the connection, if `dup`
returns no descriptor that is open (`locks_ok`). -/

namespace GreenIsland.Platform

open Edge Logind

/-! ## Model -/

/-- A `Logind`, the open descriptors of the process, and the number of successful
replies to `Inhibit` and of accepted calls of `uninhibit`. -/
structure Inhibitors where
  logind : Logind
  openFds : List Int
  granted : Nat
  released : Nat

namespace Inhibitors

/-- `others` are the descriptors that are open at first. -/
def init (others : List Int) : Inhibitors := ⟨Logind.init, others, 0, 0⟩

/-- The descriptor that `dup` returns in this step. -/
def granted? (t : Inhibitors) : Op → Option Int
  | .inhibitReply (some fd) => if t.logind.calls .inhibit = 0 then none else some fd
  | _ => none

/-- The descriptor that this step closes: the call of `uninhibit` is accepted. -/
def released? (t : Inhibitors) : Op → Option Int
  | .uninhibit fd =>
    if t.logind.isConnected = true ∧ fd ∈ t.logind.inhibitFds then some fd else none
  | _ => none

def step (t : Inhibitors) (op : Op) : Inhibitors where
  logind := t.logind.step op
  openFds :=
    match t.granted? op, t.released? op with
    | some fd, _ => t.openFds ++ [fd]
    | none, some fd => t.openFds.erase fd
    | none, none => t.openFds
  granted := t.granted + (t.granted? op).toList.length
  released := t.released + (t.released? op).toList.length

/-- `dup` returns no open descriptor. -/
def DupFresh (t : Inhibitors) (op : Op) : Prop := ∀ fd, t.granted? op = some fd → fd ∉ t.openFds

instance (t : Inhibitors) (op : Op) : Decidable (DupFresh t op) :=
  inferInstanceAs (Decidable (∀ fd ∈ t.granted? op, fd ∉ t.openFds))

/-! ## What holds -/

def inhibitedChanged? : LogindSignal → Option Bool
  | .inhibitedChanged b => some b
  | _ => none

/-- `true` for `inhibited(fd)`, `false` for `uninhibited(fd)`. -/
def lock? (fd : Int) : LogindSignal → Option Bool
  | .inhibited fd' => if fd' = fd then some true else none
  | .uninhibited fd' => if fd' = fd then some false else none
  | _ => none

/-- `true` where the descriptor was opened, `false` where it was closed. -/
def fdHistory (s : Logind) (fd : Int) : List Bool :=
  s.fdLog.filterMap fun entry => if entry.1 = fd then some entry.2 else none

structure LocksOk (t : Inhibitors) : Prop where
  inhibited_iff : t.logind.isInhibited = true ↔ t.released < t.granted
  alternates : Alternates true (t.logind.announced inhibitedChanged?)
  /-- the last announcement is the present state -/
  current : (t.logind.announced inhibitedChanged?).getLast?.getD false = t.logind.isInhibited
  locks : ∀ fd, Alternates true (t.logind.announced (lock? fd))
  closed_once : ∀ fd, Alternates true (fdHistory t.logind fd)

/-- The invariant. -/
structure Inv (t : Inhibitors) : Prop where
  nodup : t.logind.inhibitFds.Nodup
  isOpen : ∀ fd ∈ t.logind.inhibitFds, fd ∈ t.openFds
  count : t.granted = t.released + t.logind.inhibitFds.length
  inhibited : Follows t.logind.isInhibited (t.logind.announced inhibitedChanged?)
  locks : ∀ fd, Follows (decide (fd ∈ t.logind.inhibitFds)) (t.logind.announced (lock? fd))
  fds : ∀ fd, Follows (decide (fd ∈ t.logind.inhibitFds)) (fdHistory t.logind fd)

theorem inv_init (others : List Int) : Inv (init others) where
  nodup := List.nodup_nil
  isOpen _ h := by cases h
  count := rfl
  inhibited := follows_nil
  locks _ := follows_nil
  fds _ := follows_nil

theorem Inv.locksOk {t : Inhibitors} (h : Inv t) : LocksOk t where
  inhibited_iff := by
    have hcount := h.count
    unfold isInhibited
    rw [decide_eq_true_iff]
    omega
  alternates := h.inhibited.1
  current := h.inhibited.getLast
  locks fd := (h.locks fd).1
  closed_once fd := (h.fds fd).1

/-! ## Events that touch no lock -/

/-- The locks and what was announced of them are left alone. -/
structure Apart (s s' : Logind) : Prop where
  inhibitFds : s'.inhibitFds = s.inhibitFds
  fdLog : s'.fdLog = s.fdLog
  inhibited : s'.announced inhibitedChanged? = s.announced inhibitedChanged?
  locks : ∀ fd, s'.announced (lock? fd) = s.announced (lock? fd)

namespace Apart

variable {s s' s'' : Logind}

theorem refl (s : Logind) : Apart s s := ⟨rfl, rfl, rfl, fun _ => rfl⟩

theorem trans (h : Apart s s') (h' : Apart s' s'') : Apart s s'' :=
  ⟨h'.inhibitFds.trans h.inhibitFds, h'.fdLog.trans h.fdLog, h'.inhibited.trans h.inhibited,
    fun fd => (h'.locks fd).trans (h.locks fd)⟩

/-- A signal about something else is emitted, after fields of other things changed. -/
theorem emit (h : Apart s s') {signal : LogindSignal} (hinhibited : inhibitedChanged? signal = none)
    (hlock : ∀ fd, lock? fd signal = none) : Apart s (s'.emit signal) := by
  refine h.trans ⟨rfl, rfl, ?_, fun fd => ?_⟩
  · rw [announced_append rfl, List.filterMap_cons_none hinhibited]
    exact List.append_nil _
  · rw [announced_append rfl, List.filterMap_cons_none (hlock fd)]
    exact List.append_nil _

theorem of_same (hfds : s'.inhibitFds = s.inhibitFds) (hlog : s'.fdLog = s.fdLog)
    (hsignals : s'.signals = s.signals) : Apart s s' := by
  refine ⟨hfds, hlog, ?_, fun fd => ?_⟩
  · unfold announced
    rw [hsignals]
  · unfold announced
    rw [hsignals]

theorem setSessionActive (s : Logind) (active : Bool) : Apart s (s.setSessionActive active) := by
  unfold Logind.setSessionActive
  split
  · refine Apart.emit ?_ rfl fun _ => rfl
    exact of_same rfl rfl rfl
  · exact refl s

theorem setVt (s : Logind) (vt : Int) : Apart s (s.setVt vt) := by
  unfold Logind.setVt
  split
  · refine Apart.emit ?_ rfl fun _ => rfl
    exact of_same rfl rfl rfl
  · exact refl s

theorem setSessionControl (s : Logind) (control : Bool) : Apart s (s.setSessionControl control) := by
  refine Apart.emit ?_ rfl fun _ => rfl
  exact of_same rfl rfl rfl

theorem sessionPropertiesChanged (s : Logind) : Apart s s.sessionPropertiesChanged := by
  unfold Logind.sessionPropertiesChanged
  split
  · exact refl s
  · exact of_same rfl rfl rfl

theorem serviceUnregistered (s : Logind) : Apart s s.serviceUnregistered := by
  have hlost : Apart s ({ s with isConnected := false }.emit (.connectedChanged false)) := by
    refine Apart.emit ?_ rfl fun _ => rfl
    exact of_same rfl rfl rfl
  exact (hlost.trans (setSessionActive _ false)).trans (setVt _ (-1))

theorem listNamesReply (s : Logind) (names : Option (List String)) :
    Apart s (s.listNamesReply names) := by
  unfold Logind.listNamesReply
  split
  · split
    · exact of_same rfl rfl rfl
    · exact refl s
  · exact refl s

theorem getSessionReply (s : Logind) (path : Option String) : Apart s (s.getSessionReply path) := by
  unfold Logind.getSessionReply
  split
  · exact refl s
  · split
    · next path =>
      refine Apart.emit (Apart.trans ?_ (sessionPropertiesChanged _)) rfl fun _ => rfl
      exact of_same rfl rfl rfl
    · exact refl s

/-- Every event but the two that are about locks. -/
theorem handle (s : Logind) (op : Op) (hgrant : ∀ fd, op ≠ .inhibitReply (some fd))
    (hrelease : ∀ fd, op ≠ .uninhibit fd) : Apart s (s.handle op) := by
  cases op with
  | serviceRegistered => exact of_same rfl rfl rfl
  | serviceUnregistered => exact serviceUnregistered s
  | sessionPropertiesChanged => exact sessionPropertiesChanged s
  | listNamesReply names => exact listNamesReply s names
  | getSessionReply path => exact getSessionReply s path
  | activeReply active =>
    rcases active with _ | active
    · exact refl s
    · exact setSessionActive s active
  | vtNrReply vtnr =>
    rcases vtnr with _ | vtnr
    · exact refl s
    · exact setVt s _
  | takeControl =>
    show Apart s s.takeControl
    unfold Logind.takeControl
    split
    · exact refl s
    · exact of_same rfl rfl rfl
  | takeControlReply valid => exact setSessionControl s valid
  | releaseControl =>
    show Apart s s.releaseControl
    unfold Logind.releaseControl
    split
    · exact refl s
    · exact setSessionControl s false
  | inhibit who why flags mode =>
    show Apart s (s.inhibit who why flags mode)
    unfold Logind.inhibit
    split
    · exact refl s
    · exact of_same rfl rfl rfl
  | inhibitReply fd =>
    rcases fd with _ | fd
    · exact refl s
    · exact absurd rfl (hgrant fd)
  | uninhibit fd => exact absurd rfl (hrelease fd)

end Apart

/-! ## The two events about locks -/

section
variable {t : Inhibitors} {s s' : Logind} {fd : Int}

/-- The edges of what is inhibited and of what is locked were announced, and the
edges of what is locked were made by opening and closing. -/
structure Moves (s s' : Logind) : Prop where
  inhibited : s'.announced inhibitedChanged? =
    s.announced inhibitedChanged? ++ edge s.isInhibited s'.isInhibited
  locks : ∀ x, s'.announced (lock? x) =
    s.announced (lock? x) ++ edge (decide (x ∈ s.inhibitFds)) (decide (x ∈ s'.inhibitFds))
  fds : ∀ x, fdHistory s' x =
    fdHistory s x ++ edge (decide (x ∈ s.inhibitFds)) (decide (x ∈ s'.inhibitFds))

theorem edge_self (p : Bool) : edge p p = [] := if_pos rfl

theorem Apart.moves (h : Apart s s') : Moves s s' := by
  have hinhibited : s'.isInhibited = s.isInhibited := by
    unfold isInhibited
    rw [h.inhibitFds]
  refine ⟨?_, fun x => ?_, fun x => ?_⟩
  · rw [h.inhibited, hinhibited, edge_self, List.append_nil]
  · rw [h.locks, h.inhibitFds, edge_self, List.append_nil]
  · unfold fdHistory
    rw [h.fdLog, h.inhibitFds, edge_self, List.append_nil]

/-- The edge at one descriptor. -/
theorem edge_mem {fds fds' : List Int} {b : Bool} (hfd : decide (fd ∈ fds) = !b)
    (hfd' : decide (fd ∈ fds') = b) (hother : ∀ x, x ≠ fd → (x ∈ fds' ↔ x ∈ fds)) (x : Int) :
    edge (decide (x ∈ fds)) (decide (x ∈ fds')) = if fd = x then [b] else [] := by
  split
  · next hx =>
    subst hx
    rw [hfd, hfd']
    cases b <;> rfl
  · next hx =>
    have hsame : decide (x ∈ fds') = decide (x ∈ fds) := by
      rw [decide_eq_decide]
      exact hother x (Ne.symm hx)
    rw [hsame, edge_self]

theorem filterMap_fdLog_append (b : Bool) (s : Logind) (x : Int) :
    ((s.fdLog ++ [(fd, b)]).filterMap fun entry => if entry.1 = x then some entry.2 else none) =
      fdHistory s x ++ if fd = x then [b] else [] := by
  unfold fdHistory
  rw [List.filterMap_append]
  congr 1
  by_cases hx : fd = x
  · simp [hx]
  · simp [hx]

/-- What the two handlers do after the list of descriptors was changed: `due` says
whether it was the first or the last one. -/
theorem announced_handler (s : Logind) (due b : Bool) {signal : LogindSignal}
    (hsignal : inhibitedChanged? signal = none)
    (hlock : ∀ x, lock? x signal = if fd = x then some b else none) :
    (((if due then s.emit (.inhibitedChanged b) else s).emit signal).announced inhibitedChanged? =
        s.announced inhibitedChanged? ++ if due then [b] else []) ∧
      ∀ x, ((if due then s.emit (.inhibitedChanged b) else s).emit signal).announced (lock? x) =
        s.announced (lock? x) ++ if fd = x then [b] else [] := by
  have hnew : ((if due then s.emit (.inhibitedChanged b) else s).emit signal).signals =
      s.signals ++ ((if due then [.inhibitedChanged b] else []) ++ [signal]) := by
    cases due <;> simp [emit]
  refine ⟨?_, fun x => ?_⟩
  · rw [announced_append hnew, List.filterMap_append, List.filterMap_cons_none hsignal]
    cases due <;> rfl
  · rw [announced_append hnew, List.filterMap_append]
    congr 1
    by_cases hx : fd = x
    · rw [if_pos hx, List.filterMap_cons_some ((hlock x).trans (if_pos hx))]
      cases due <;> rfl
    · rw [if_neg hx, List.filterMap_cons_none ((hlock x).trans (if_neg hx))]
      cases due <;> rfl

theorem isInhibited_eq (s : Logind) : s.isInhibited = decide (0 < s.inhibitFds.length) := rfl

/-- **A granted lock.** -/
theorem inhibitReply_moves (hfd : fd ∉ s.inhibitFds) :
    Moves s (s.inhibitReply (some fd)) ∧
      (s.inhibitReply (some fd)).inhibitFds = s.inhibitFds ++ [fd] := by
  let s₁ : Logind := { s with
    inhibitFds := s.inhibitFds ++ [fd]
    fdLog := s.fdLog ++ [(fd, true)] }
  have heq : s.inhibitReply (some fd) =
      (if decide (s₁.inhibitFds.length = 1) then s₁.emit (.inhibitedChanged true) else s₁).emit
        (.inhibited fd) := by
    simp only [decide_eq_true_eq]
    rfl
  have hfds : (s.inhibitReply (some fd)).inhibitFds = s.inhibitFds ++ [fd] := by
    rw [heq]
    split <;> rfl
  have hlog : (s.inhibitReply (some fd)).fdLog = s.fdLog ++ [(fd, true)] := by
    rw [heq]
    split <;> rfl
  have hlock : ∀ x, lock? x (.inhibited fd) = if fd = x then some true else none := fun _ => rfl
  obtain ⟨hinhibited, hlocks⟩ :=
    announced_handler s₁ (decide (s₁.inhibitFds.length = 1)) true rfl hlock
  rw [← heq] at hinhibited hlocks
  have hedge : ∀ x, edge (decide (x ∈ s.inhibitFds)) (decide (x ∈ s.inhibitFds ++ [fd])) =
      if fd = x then [true] else [] := by
    refine edge_mem (decide_eq_false hfd) (decide_eq_true ?_) fun x hx => ?_
    · exact List.mem_append_right _ (List.mem_singleton_self fd)
    · simp [hx]
  refine ⟨⟨?_, fun x => ?_, fun x => ?_⟩, hfds⟩
  · rw [hinhibited, isInhibited_eq, isInhibited_eq, hfds]
    show s.announced _ ++ _ = s.announced _ ++ _
    congr 1
    show (if decide ((s.inhibitFds ++ [fd]).length = 1) then _ else _) = _
    rcases s.inhibitFds with _ | ⟨y, l⟩ <;> simp [edge]
  · rw [hlocks, hfds, hedge]
    rfl
  · unfold fdHistory
    rw [hlog, hfds, hedge]
    exact filterMap_fdLog_append true s x

/-- **A lock that is given back.** -/
theorem uninhibit_moves (hconnected : s.isConnected = true) (hfd : fd ∈ s.inhibitFds)
    (hnodup : s.inhibitFds.Nodup) :
    Moves s (s.uninhibit fd) ∧ (s.uninhibit fd).inhibitFds = s.inhibitFds.erase fd := by
  let s₁ : Logind := { s with
    inhibitFds := s.inhibitFds.erase fd
    fdLog := s.fdLog ++ [(fd, false)] }
  have heq : s.uninhibit fd =
      (if decide (s₁.inhibitFds.length = 0) then s₁.emit (.inhibitedChanged false) else s₁).emit
        (.uninhibited fd) := by
    unfold uninhibit
    rw [if_neg (by simp [hconnected, hfd])]
    simp only [decide_eq_true_eq]
    rfl
  have hfds : (s.uninhibit fd).inhibitFds = s.inhibitFds.erase fd := by
    rw [heq]
    split <;> rfl
  have hlog : (s.uninhibit fd).fdLog = s.fdLog ++ [(fd, false)] := by
    rw [heq]
    split <;> rfl
  have hlock : ∀ x, lock? x (.uninhibited fd) = if fd = x then some false else none := fun _ => rfl
  obtain ⟨hinhibited, hlocks⟩ :=
    announced_handler s₁ (decide (s₁.inhibitFds.length = 0)) false rfl hlock
  rw [← heq] at hinhibited hlocks
  have hedge : ∀ x, edge (decide (x ∈ s.inhibitFds)) (decide (x ∈ s.inhibitFds.erase fd)) =
      if fd = x then [false] else [] := by
    refine edge_mem (decide_eq_true hfd) (decide_eq_false ?_) fun x hx => ?_
    · exact hnodup.not_mem_erase
    · exact List.mem_erase_of_ne hx
  have hpos : 0 < s.inhibitFds.length := List.length_pos_of_mem hfd
  refine ⟨⟨?_, fun x => ?_, fun x => ?_⟩, hfds⟩
  · rw [hinhibited, isInhibited_eq, isInhibited_eq, hfds, decide_eq_true hpos]
    show s.announced _ ++ _ = s.announced _ ++ _
    congr 1
    show (if decide ((s.inhibitFds.erase fd).length = 0) then _ else _) = _
    rcases s.inhibitFds.erase fd with _ | ⟨y, l⟩ <;> simp [edge]
  · rw [hlocks, hfds, hedge]
    rfl
  · unfold fdHistory
    rw [hlog, hfds, hedge]
    exact filterMap_fdLog_append false s x

/-- A step that makes its moves keeps the announcements in order. -/
theorem Inv.follow {t' : Inhibitors} (h : Inv t) (hmoves : Moves t.logind t'.logind)
    (hnodup : t'.logind.inhibitFds.Nodup)
    (hopen : ∀ x ∈ t'.logind.inhibitFds, x ∈ t'.openFds)
    (hcount : t'.granted = t'.released + t'.logind.inhibitFds.length) : Inv t' where
  nodup := hnodup
  isOpen := hopen
  count := hcount
  inhibited := by
    rw [hmoves.inhibited]
    exact h.inhibited.append_edge _
  locks x := by
    rw [hmoves.locks]
    exact (h.locks x).append_edge _
  fds x := by
    rw [hmoves.fds]
    exact (h.fds x).append_edge _

/-- Nothing happens to the locks. -/
theorem Inv.apart {op : Op} (h : Inv t) (hgranted : t.granted? op = none)
    (hreleased : t.released? op = none) (happart : Apart t.logind (t.logind.step op)) :
    Inv (t.step op) := by
  have hopen : (t.step op).openFds = t.openFds := by
    simp only [step, hgranted, hreleased]
  refine h.follow happart.moves ?_ ?_ ?_
  · show (t.logind.step op).inhibitFds.Nodup
    rw [happart.inhibitFds]
    exact h.nodup
  · intro x hx
    rw [hopen]
    exact h.isOpen x (happart.inhibitFds ▸ hx)
  · show t.granted + _ = t.released + _ + (t.logind.step op).inhibitFds.length
    rw [hgranted, hreleased, happart.inhibitFds]
    exact h.count

theorem Inv.grant (h : Inv t) (hcalls : t.logind.calls .inhibit ≠ 0)
    (hfresh : DupFresh t (.inhibitReply (some fd))) : Inv (t.step (.inhibitReply (some fd))) := by
  have hgranted : t.granted? (.inhibitReply (some fd)) = some fd := if_neg hcalls
  have hreleased : t.released? (.inhibitReply (some fd)) = none := rfl
  have hclosed : fd ∉ t.openFds := hfresh fd hgranted
  have hfd : fd ∉ (t.logind.answered .inhibit).inhibitFds := fun hmem => hclosed (h.isOpen fd hmem)
  have hstep : t.logind.step (.inhibitReply (some fd)) =
      (t.logind.answered .inhibit).inhibitReply (some fd) := if_neg hcalls
  have hopen : (t.step (.inhibitReply (some fd))).openFds = t.openFds ++ [fd] := by
    simp only [step, hgranted]
  obtain ⟨⟨hinhibited, hlocks, hfds⟩, hnew⟩ := inhibitReply_moves hfd
  rw [← hstep] at hinhibited hlocks hfds hnew
  refine h.follow ⟨hinhibited, hlocks, hfds⟩ ?_ ?_ ?_
  · show (t.logind.step _).inhibitFds.Nodup
    rw [hnew, ← List.concat_eq_append]
    exact h.nodup.concat hfd
  · intro x hx
    replace hx : x ∈ (t.logind.step (.inhibitReply (some fd))).inhibitFds := hx
    rw [hopen]
    rw [hnew] at hx
    rcases List.mem_append.1 hx with hx | hx
    · exact List.mem_append_left _ (h.isOpen x hx)
    · exact List.mem_append_right _ hx
  · show t.granted + _ = t.released + _ + (t.logind.step _).inhibitFds.length
    have hcount := h.count
    rw [hgranted, hreleased, hnew, List.length_append]
    show t.granted + 1 = t.released + 0 + (t.logind.inhibitFds.length + 1)
    omega

theorem Inv.release (h : Inv t) (hconnected : t.logind.isConnected = true)
    (hfd : fd ∈ t.logind.inhibitFds) : Inv (t.step (.uninhibit fd)) := by
  have hgranted : t.granted? (.uninhibit fd) = none := rfl
  have hreleased : t.released? (.uninhibit fd) = some fd := if_pos ⟨hconnected, hfd⟩
  have hopen : (t.step (.uninhibit fd)).openFds = t.openFds.erase fd := by
    simp only [step, hgranted, hreleased]
  obtain ⟨hmoves, hnew⟩ := uninhibit_moves hconnected hfd h.nodup
  refine h.follow hmoves ?_ ?_ ?_
  · show (t.logind.uninhibit fd).inhibitFds.Nodup
    rw [hnew]
    exact h.nodup.erase fd
  · intro x hx
    replace hx : x ∈ (t.logind.uninhibit fd).inhibitFds := hx
    rw [hnew, h.nodup.mem_erase_iff] at hx
    rw [hopen]
    exact (List.mem_erase_of_ne hx.1).2 (h.isOpen x hx.2)
  · show t.granted + _ = t.released + _ + (t.logind.uninhibit fd).inhibitFds.length
    have hcount := h.count
    have hpos : 0 < t.logind.inhibitFds.length := List.length_pos_of_mem hfd
    rw [hgranted, hreleased, hnew, List.length_erase_of_mem hfd]
    show t.granted + 0 = t.released + 1 + (t.logind.inhibitFds.length - 1)
    omega

/-- A reply that no call waits for is not delivered, and counting one changes no lock. -/
theorem Apart.answered (s : Logind) (call : LogindCall) : Apart s (s.answered call) :=
  of_same rfl rfl rfl

theorem Apart.step {op : Op} (hgrant : ∀ fd, op ≠ .inhibitReply (some fd))
    (hrelease : ∀ fd, op ≠ .uninhibit fd) : Apart s (s.step op) := by
  unfold Logind.step
  split
  · next call _ =>
    split
    · exact refl s
    · exact (Apart.answered s call).trans (handle _ op hgrant hrelease)
  · exact handle s op hgrant hrelease

/-- **Every step keeps the invariant.** -/
theorem Inv.step (h : Inv t) (op : Op) (hfresh : DupFresh t op) : Inv (t.step op) := by
  by_cases hgrant : ∃ fd, op = .inhibitReply (some fd)
  · obtain ⟨fd, rfl⟩ := hgrant
    by_cases hcalls : t.logind.calls .inhibit = 0
    · have hsame : t.logind.step (.inhibitReply (some fd)) = t.logind := if_pos hcalls
      refine h.apart (if_pos hcalls) rfl ?_
      rw [hsame]
      exact .refl _
    · exact h.grant hcalls hfresh
  · by_cases hrelease : ∃ fd, op = .uninhibit fd
    · obtain ⟨fd, rfl⟩ := hrelease
      by_cases haccepted : t.logind.isConnected = true ∧ fd ∈ t.logind.inhibitFds
      · exact h.release haccepted.1 haccepted.2
      · refine h.apart rfl (if_neg haccepted) ?_
        have hrefused : t.logind.isConnected = false ∨ fd ∉ t.logind.inhibitFds := by
          rw [← Bool.not_eq_true]
          exact not_and_or.1 haccepted
        have hsame : t.logind.step (.uninhibit fd) = t.logind := if_pos hrefused
        rw [hsame]
        exact .refl _
    · refine h.apart ?_ ?_ (Apart.step (fun fd hop => hgrant ⟨fd, hop⟩) fun fd hop => hrelease ⟨fd, hop⟩)
      · unfold granted?
        split
        · next fd => exact absurd ⟨fd, rfl⟩ hgrant
        · rfl
      · unfold released?
        split
        · next fd => exact absurd ⟨fd, rfl⟩ hrelease
        · rfl

end

/-- **The locks over whole runs.** -/
theorem locks_ok (others : List Int) (ops : List Op)
    (hfresh : Run.Meets (fun t op => some (step t op)) DupFresh (init others) ops) :
    Run.Always (fun t op => some (step t op)) LocksOk (init others) ops := by
  refine ⟨(inv_init others).locksOk, ?_⟩
  refine Run.along_of_meets (I := Inv) (fun t op h hop => ?_) ops (init others) (inv_init others) hfresh
  exact ⟨t.step op, rfl, (h.step op hop).locksOk, h.step op hop⟩

/-- Two locks that overlap, with a descriptor that is used again. -/
theorem locks_ok_overlapping :
    Run.Always (fun t op => some (step t op)) LocksOk (init [0, 1, 2])
      [.listNamesReply (some ["org.freedesktop.login1"]), .getSessionReply (some "/session/1"),
        .inhibit "greenisland" "test" (fun _ => true) .block,
        .inhibit "greenisland" "test" (fun _ => true) .delay,
        .inhibitReply (some 7), .inhibitReply (some 8), .uninhibit 7, .uninhibit 7, .uninhibit 8,
        .inhibit "greenisland" "test" (fun _ => true) .block, .serviceUnregistered,
        .inhibitReply (some 7)] := by
  refine locks_ok _ _ ?_
  decide +kernel

end Inhibitors

end GreenIsland.Platform
