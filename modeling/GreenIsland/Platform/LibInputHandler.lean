import Mathlib.Logic.Function.Basic
import GreenIsland.Lib.Ledger
import GreenIsland.Lib.Run

/-! Device handles for libinput (`LibInputHandler`, `Logind`).

`restrictedOpen` takes a device from logind, which gives a descriptor that is
duplicated, and adjusts the flags of the duplicate.  A device that is given up is
to be released through its descriptor, which `releaseDevice` asks for the device's
numbers, and then the descriptor closed.

Neither way of giving up does both.  A failing open closes the descriptor and
releases the device after that, when the descriptor no longer tells which one it
was; `restrictedClose` releases the device and does not close the descriptor.  A
device whose descriptor cannot be duplicated is not released at all.  So the
devices and the descriptors are accounted for (`Accounted`) exactly as long as no
device is given up (`handles_accounted_iff`). -/

namespace GreenIsland.Platform

open Ledger

/-! ## Model -/

/-- The major and minor number of a device. -/
abbrev DeviceNumber := Nat × Nat

def nonblock : Int32 := 0x800
def cloexec : Int32 := 0x80000
def fdCloexec : Int32 := 1

/-- An open descriptor. -/
structure Descriptor where
  device : DeviceNumber
  /-- what `F_GETFL` reads -/
  statusFlags : Int32
  /-- what `F_GETFD` reads -/
  fdFlags : Int32

/-- The answers that one open gets; the numbers are what `fcntl` returns. -/
structure OpenAnswers where
  /-- the numbers of the device, if `stat` succeeds -/
  stat : Option DeviceNumber
  /-- whether logind lets the device be taken -/
  takeDevice : Bool
  /-- the duplicate, if there is one -/
  dup : Option Nat
  getFl : Int32
  setFl : Int32
  getFd : Int32
  setFd : Int32

structure LibInputHandler where
  /-- the open descriptors of devices -/
  descriptors : Nat → Option Descriptor
  /-- the descriptors that libinput has -/
  held : List Nat
  /-- the devices of the `TakeDevice` calls that succeeded -/
  taken : List DeviceNumber
  /-- the devices of the `ReleaseDevice` calls -/
  released : List DeviceNumber
  duplicated : List Nat
  closed : List Nat

namespace LibInputHandler

def init : LibInputHandler := ⟨fun _ => none, [], [], [], [], []⟩

/-- `::close` -/
def close (s : LibInputHandler) (fd : Nat) : LibInputHandler :=
  { s with descriptors := Function.update s.descriptors fd none, closed := s.closed ++ [fd] }

def takeDevice (s : LibInputHandler) (answers : OpenAnswers) : Option Nat × LibInputHandler :=
  match answers.stat with
  | none => (none, s)
  | some device =>
    if answers.takeDevice = false then (none, s)
    else
      let s := { s with taken := s.taken ++ [device] }
      match answers.dup with
      | none => (none, s)
      | some fd =>
        (some fd, { s with
          descriptors := Function.update s.descriptors fd (some ⟨device, answers.getFl, answers.getFd⟩)
          duplicated := s.duplicated ++ [fd] })

/-- `fstat` tells the device of an open descriptor. -/
def releaseDevice (s : LibInputHandler) (fd : Nat) : LibInputHandler :=
  match s.descriptors fd with
  | none => s
  | some descriptor => { s with released := s.released ++ [descriptor.device] }

def restrictedClose (s : LibInputHandler) (fd : Nat) : LibInputHandler := s.releaseDevice fd

def closeFileDescriptor (s : LibInputHandler) (fd : Nat) : LibInputHandler :=
  (s.close fd).restrictedClose fd

/-- A successful `fcntl` that sets flags. -/
def setFlags (s : LibInputHandler) (fd : Nat) (f : Descriptor → Descriptor) : LibInputHandler :=
  { s with descriptors := Function.update s.descriptors fd ((s.descriptors fd).map f) }

def restrictedOpen (s : LibInputHandler) (flags : Int32) (answers : OpenAnswers) :
    Option Nat × LibInputHandler :=
  match s.takeDevice answers with
  | (none, s) => (none, s)
  | (some fd, s) =>
    -- Adjust the flags
    let fl := answers.getFl
    if fl < 0 then (none, s.closeFileDescriptor fd)
    else
      let fl := if flags &&& nonblock ≠ 0 then fl ||| nonblock else fl
      if answers.setFl < 0 then (none, s.closeFileDescriptor fd)
      else
        let s := s.setFlags fd fun descriptor => { descriptor with statusFlags := fl }
        let fl := answers.getFd
        if fl < 0 then (none, s.closeFileDescriptor fd)
        else
          let fl := if flags &&& cloexec = 0 then fl &&& ~~~fdCloexec else fl
          if answers.setFd < 0 then (none, s.closeFileDescriptor fd)
          else (some fd, s.setFlags fd fun descriptor => { descriptor with fdFlags := fl })

inductive HandleOp
  | restrictedOpen (flags : Int32) (answers : OpenAnswers)
  | restrictedClose (fd : Nat)

/-- A duplicate is a number that is not in use, and libinput closes what it has. -/
def Deliverable (s : LibInputHandler) : HandleOp → Prop
  | .restrictedOpen _ answers => ∀ fd ∈ answers.dup, s.descriptors fd = none
  | .restrictedClose fd => fd ∈ s.held

instance (s : LibInputHandler) (op : HandleOp) : Decidable (s.Deliverable op) := by
  cases op <;> unfold Deliverable <;> infer_instance

def handle (s : LibInputHandler) : HandleOp → LibInputHandler
  | .restrictedOpen flags answers =>
    let opened := s.restrictedOpen flags answers
    { opened.2 with held := opened.2.held ++ opened.1.toList }
  | .restrictedClose fd =>
    let s := s.restrictedClose fd
    { s with held := s.held.erase fd }

def step (s : LibInputHandler) (op : HandleOp) : LibInputHandler :=
  if s.Deliverable op then s.handle op else s

/-! ## What is to be kept -/

/-- The devices of the descriptors that libinput has. -/
def heldDevices (s : LibInputHandler) : List DeviceNumber :=
  s.held.filterMap fun fd => (s.descriptors fd).map Descriptor.device

/-- Each device that was taken is held or was released, once, and each duplicate is
held or was closed, once. -/
structure Accounted (s : LibInputHandler) : Prop where
  devices : Balanced s.taken s.released s.heldDevices
  descriptors : Balanced s.duplicated s.closed s.held

/-- The flags of the duplicate can be adjusted. -/
def Adjustable (answers : OpenAnswers) : Prop :=
  0 ≤ answers.getFl ∧ 0 ≤ answers.setFl ∧ 0 ≤ answers.getFd ∧ 0 ≤ answers.setFd

instance (answers : OpenAnswers) : Decidable (Adjustable answers) := inferInstanceAs (Decidable (_ ∧ _))

/-- The open does not fail once the device was taken. -/
def Fine (answers : OpenAnswers) : Prop :=
  answers.stat ≠ none → answers.takeDevice = true → answers.dup ≠ none ∧ Adjustable answers

/-- **The steps after which that is so**: no device is given up. -/
def OpOk (s : LibInputHandler) (op : HandleOp) : Prop :=
  s.Deliverable op → match op with
    | .restrictedOpen _ answers => Fine answers
    | .restrictedClose _ => False

structure Inv (s : LibInputHandler) : Prop where
  accounted : s.Accounted
  opened : ∀ fd ∈ s.held, s.descriptors fd ≠ none
  nodup : s.held.Nodup

section
variable {s s' : LibInputHandler} {fd : Nat} {device : DeviceNumber}

/-! ## Opening -/

/-- The device of a closed descriptor is not known any more. -/
theorem closeFileDescriptor_eq (s : LibInputHandler) (fd : Nat) :
    s.closeFileDescriptor fd = s.close fd := by
  unfold closeFileDescriptor restrictedClose releaseDevice
  rw [show (s.close fd).descriptors fd = none from Function.update_self ..]

/-- The state after the device was taken and its descriptor duplicated. -/
def afterTake (s : LibInputHandler) (answers : OpenAnswers) (device : DeviceNumber) (fd : Nat) :
    LibInputHandler :=
  { s with
    taken := s.taken ++ [device]
    descriptors := Function.update s.descriptors fd (some ⟨device, answers.getFl, answers.getFd⟩)
    duplicated := s.duplicated ++ [fd] }

/-- Only one descriptor may have changed, and it may have been closed. -/
structure Touched (s s' : LibInputHandler) (fd : Nat) : Prop where
  descriptors : ∀ v, v ≠ fd → s'.descriptors v = s.descriptors v
  held : s'.held = s.held
  taken : s'.taken = s.taken
  released : s'.released = s.released
  duplicated : s'.duplicated = s.duplicated

theorem Touched.close (h : Touched s s' fd) : Touched s (s'.closeFileDescriptor fd) fd := by
  rw [closeFileDescriptor_eq]
  refine ⟨fun v hv => ?_, h.held, h.taken, h.released, h.duplicated⟩
  exact (Function.update_of_ne hv ..).trans (h.descriptors v hv)

theorem Touched.setFlags (h : Touched s s' fd) (f : Descriptor → Descriptor) :
    Touched s (s'.setFlags fd f) fd := by
  refine ⟨fun v hv => ?_, h.held, h.taken, h.released, h.duplicated⟩
  exact (Function.update_of_ne hv ..).trans (h.descriptors v hv)

theorem device_setFlags (s : LibInputHandler) (fd : Nat) {f : Descriptor → Descriptor}
    (hf : ∀ descriptor, (f descriptor).device = descriptor.device) :
    ((s.setFlags fd f).descriptors fd).map Descriptor.device =
      (s.descriptors fd).map Descriptor.device := by
  rw [show (s.setFlags fd f).descriptors fd = (s.descriptors fd).map f from Function.update_self ..,
    Option.map_map]
  congr 1
  funext descriptor
  exact hf descriptor

/-- **What an open does with a duplicate**: it is returned, or it was closed and the
device is not released. -/
theorem restrictedOpen_of_dup (s : LibInputHandler) (flags : Int32) {answers : OpenAnswers}
    (hstat : answers.stat = some device) (htake : answers.takeDevice = true)
    (hdup : answers.dup = some fd) :
    ∃ s', Touched (s.afterTake answers device fd) s' fd ∧
      if Adjustable answers then
        s.restrictedOpen flags answers = (some fd, s') ∧ s'.closed = s.closed ∧
          (s'.descriptors fd).map Descriptor.device = some device
      else s.restrictedOpen flags answers = (none, s') := by
  have htaken : s.takeDevice answers = (some fd, s.afterTake answers device fd) := by
    simp [takeDevice, hstat, htake, hdup, afterTake]
  have hsame : Touched (s.afterTake answers device fd) (s.afterTake answers device fd) fd :=
    ⟨fun _ _ => rfl, rfl, rfl, rfl, rfl⟩
  unfold restrictedOpen
  rw [htaken]
  dsimp only
  by_cases hgetFl : answers.getFl < 0
  · have hnot : ¬ Adjustable answers := fun h => absurd h.1 (Int32.not_le.2 hgetFl)
    simp only [if_pos hgetFl, if_neg hnot]
    exact ⟨_, hsame.close, rfl⟩
  by_cases hsetFl : answers.setFl < 0
  · have hnot : ¬ Adjustable answers := fun h => absurd h.2.1 (Int32.not_le.2 hsetFl)
    simp only [if_neg hgetFl, if_pos hsetFl, if_neg hnot]
    exact ⟨_, hsame.close, rfl⟩
  by_cases hgetFd : answers.getFd < 0
  · have hnot : ¬ Adjustable answers := fun h => absurd h.2.2.1 (Int32.not_le.2 hgetFd)
    simp only [if_neg hgetFl, if_neg hsetFl, if_pos hgetFd, if_neg hnot]
    exact ⟨_, (hsame.setFlags _).close, rfl⟩
  by_cases hsetFd : answers.setFd < 0
  · have hnot : ¬ Adjustable answers := fun h => absurd h.2.2.2 (Int32.not_le.2 hsetFd)
    simp only [if_neg hgetFl, if_neg hsetFl, if_neg hgetFd, if_pos hsetFd, if_neg hnot]
    exact ⟨_, (hsame.setFlags _).close, rfl⟩
  · have hall : Adjustable answers :=
      ⟨Int32.not_lt.1 hgetFl, Int32.not_lt.1 hsetFl, Int32.not_lt.1 hgetFd, Int32.not_lt.1 hsetFd⟩
    simp only [if_neg hgetFl, if_neg hsetFl, if_neg hgetFd, if_neg hsetFd, if_pos hall]
    refine ⟨_, (hsame.setFlags _).setFlags _, rfl, rfl, ?_⟩
    refine (device_setFlags _ _ ?_).trans ((device_setFlags _ _ ?_).trans ?_)
    · exact fun _ => rfl
    · exact fun _ => rfl
    · rw [show (s.afterTake answers device fd).descriptors fd = _ from Function.update_self ..]
      rfl

/-! ## One step -/

theorem heldDevices_congr (hheld : s'.held = s.held)
    (hdescriptors : ∀ v ∈ s.held, s'.descriptors v = s.descriptors v) :
    s'.heldDevices = s.heldDevices := by
  unfold heldDevices
  rw [hheld]
  exact List.filterMap_congr fun v hv => congrArg _ (hdescriptors v hv)

/-- A device that was taken and is neither released nor held by libinput. -/
theorem Inv.not_accounted_lost (h : Inv s) (htaken : s'.taken = s.taken ++ [device])
    (hreleased : s'.released = s.released) (hheld : s'.held = s.held)
    (hdescriptors : ∀ v ∈ s.held, s'.descriptors v = s.descriptors v) : ¬ Accounted s' := by
  intro haccounted
  have hdevices := haccounted.devices
  rw [htaken, hreleased, heldDevices_congr hheld hdescriptors] at hdevices
  exact not_balanced_lost h.accounted.devices hdevices

/-- A new descriptor that libinput gets. -/
theorem Inv.hold (h : Inv s) (answers : OpenAnswers) (hfresh : s.descriptors fd = none)
    (htouched : Touched (s.afterTake answers device fd) s' fd) (hclosed : s'.closed = s.closed)
    (hdevice : (s'.descriptors fd).map Descriptor.device = some device) :
    Inv { s' with held := s'.held ++ [fd] } := by
  have hnot : fd ∉ s.held := fun hmem => h.opened fd hmem hfresh
  have hother : ∀ v ∈ s.held, s'.descriptors v = s.descriptors v := by
    intro v hv
    have hne : v ≠ fd := fun heq => hnot (heq ▸ hv)
    exact (htouched.descriptors v hne).trans (Function.update_of_ne hne ..)
  have hheld : s'.held = s.held := htouched.held
  have hdevices : heldDevices { s' with held := s'.held ++ [fd] } = s.heldDevices ++ [device] := by
    rw [← heldDevices_congr hheld hother]
    unfold heldDevices
    dsimp only
    rw [List.filterMap_append]
    exact congrArg _ (List.filterMap_cons_some hdevice)
  refine ⟨⟨?_, ?_⟩, fun v hv => ?_, ?_⟩
  · rw [hdevices]
    show Balanced s'.taken s'.released _
    rw [htouched.taken, htouched.released]
    exact (balanced_take_iff h.accounted.devices).2 (List.Perm.refl _)
  · show Balanced s'.duplicated s'.closed (s'.held ++ [fd])
    rw [htouched.duplicated, hclosed, hheld]
    exact (balanced_take_iff h.accounted.descriptors).2 (List.Perm.refl _)
  · have hv' : v ∈ s.held ++ [fd] := hheld ▸ hv
    rcases List.mem_append.1 hv' with hv' | hv'
    · exact (hother v hv').symm ▸ h.opened v hv'
    · rw [List.mem_singleton.1 hv']
      intro hnone
      have hnone : s'.descriptors fd = none := hnone
      rw [hnone] at hdevice
      cases hdevice
  · show (s'.held ++ [fd]).Nodup
    rw [hheld]
    exact (List.perm_append_singleton fd s.held).nodup_iff.2 (List.nodup_cons.2 ⟨hnot, h.nodup⟩)

theorem handle_restrictedOpen {flags : Int32} {answers : OpenAnswers}
    {opened : Option Nat × LibInputHandler} (hopen : s.restrictedOpen flags answers = opened) :
    s.handle (.restrictedOpen flags answers) =
      { opened.2 with held := opened.2.held ++ opened.1.toList } := by
  subst hopen
  rfl

/-- An open that does not get as far as to take the device. -/
theorem restrictedOpen_untaken (s : LibInputHandler) (flags : Int32) {answers : OpenAnswers}
    (h : answers.stat = none ∨ answers.takeDevice = false) :
    s.handle (.restrictedOpen flags answers) = s := by
  have huntaken : s.takeDevice answers = (none, s) := by
    unfold takeDevice
    rcases h with hstat | htake
    · rw [hstat]
    · cases answers.stat <;> simp [htake]
  have hopen : s.restrictedOpen flags answers = (none, s) := by
    unfold restrictedOpen
    rw [huntaken]
  rw [handle_restrictedOpen hopen]
  dsimp only
  rw [Option.toList_none, List.append_nil]

/-- A call that logind does not answer leaves everything as it is. -/
theorem Inv.decides_untaken (h : Inv s) {flags : Int32} {answers : OpenAnswers}
    (hstep : s.step (.restrictedOpen flags answers) = s)
    (hok : s.OpOk (.restrictedOpen flags answers)) :
    Run.Decides (fun s op => some (step s op)) (fun _ _ s' => Accounted s') OpOk Inv s
      (.restrictedOpen flags answers) :=
  Run.decides_good (congrArg some hstep) h.accounted hok h

/-- A device that is taken without a descriptor for it is lost. -/
theorem Inv.decides_notDuplicated (h : Inv s) {flags : Int32} {answers : OpenAnswers}
    {device : DeviceNumber} (hdeliverable : s.Deliverable (.restrictedOpen flags answers))
    (hstep : s.step (.restrictedOpen flags answers) = s.handle (.restrictedOpen flags answers))
    (hstat : answers.stat = some device) (htake : answers.takeDevice = true)
    (hdup : answers.dup = none) :
    Run.Decides (fun s op => some (step s op)) (fun _ _ s' => Accounted s') OpOk Inv s
      (.restrictedOpen flags answers) := by
  have hopen : s.restrictedOpen flags answers = (none, { s with taken := s.taken ++ [device] }) := by
    simp [restrictedOpen, takeDevice, hstat, htake, hdup]
  have hstat' : answers.stat ≠ none := by simp [hstat]
  rw [handle_restrictedOpen hopen] at hstep
  refine Run.decides_bad (congrArg some hstep) ?_ fun hok => (hok hdeliverable hstat' htake).1 hdup
  exact h.not_accounted_lost rfl rfl (List.append_nil _) fun _ _ => rfl

/-- A descriptor is returned if its flags can be set, and closed with the device lost if not. -/
theorem Inv.decides_duplicated (h : Inv s) {flags : Int32} {answers : OpenAnswers}
    {device : DeviceNumber} {fd : Nat} (hdeliverable : s.Deliverable (.restrictedOpen flags answers))
    (hstep : s.step (.restrictedOpen flags answers) = s.handle (.restrictedOpen flags answers))
    (hstat : answers.stat = some device) (htake : answers.takeDevice = true)
    (hdup : answers.dup = some fd) :
    Run.Decides (fun s op => some (step s op)) (fun _ _ s' => Accounted s') OpOk Inv s
      (.restrictedOpen flags answers) := by
  have hfresh : s.descriptors fd = none := hdeliverable fd hdup
  have hstat' : answers.stat ≠ none := by simp [hstat]
  obtain ⟨s₁, htouched, hresult⟩ := restrictedOpen_of_dup s flags hstat htake hdup
  by_cases hadjustable : Adjustable answers
  · rw [if_pos hadjustable] at hresult
    obtain ⟨hopen, hclosed, hdevice⟩ := hresult
    rw [handle_restrictedOpen hopen] at hstep
    have hinv := h.hold answers hfresh htouched hclosed hdevice
    refine Run.decides_good (congrArg some hstep) hinv.accounted (fun _ _ _ => ?_) hinv
    exact ⟨by simp [hdup], hadjustable⟩
  · rw [if_neg hadjustable] at hresult
    rw [handle_restrictedOpen hresult] at hstep
    refine Run.decides_bad (congrArg some hstep) ?_ fun hok =>
      hadjustable (hok hdeliverable hstat' htake).2
    have hheld : s₁.held ++ [] = s.held := (List.append_nil _).trans htouched.held
    refine h.not_accounted_lost htouched.taken htouched.released hheld fun v hv => ?_
    have hne : v ≠ fd := fun heq => h.opened v hv (heq ▸ hfresh)
    exact (htouched.descriptors v hne).trans (Function.update_of_ne hne ..)

theorem Inv.decides_restrictedOpen (h : Inv s) (flags : Int32) (answers : OpenAnswers) :
    Run.Decides (fun s op => some (step s op)) (fun _ _ s' => Accounted s') OpOk Inv s
      (.restrictedOpen flags answers) := by
  by_cases hdeliverable : s.Deliverable (.restrictedOpen flags answers)
  · have hstep : s.step (.restrictedOpen flags answers) = s.handle (.restrictedOpen flags answers) :=
      if_pos hdeliverable
    cases hstat : answers.stat with
    | none =>
      rw [restrictedOpen_untaken s flags (Or.inl hstat)] at hstep
      exact h.decides_untaken hstep fun _ hsome => absurd hstat hsome
    | some device =>
      cases htake : answers.takeDevice with
      | false =>
        rw [restrictedOpen_untaken s flags (Or.inr htake)] at hstep
        refine h.decides_untaken hstep fun _ _ htrue => ?_
        rw [htake] at htrue
        cases htrue
      | true =>
        cases hdup : answers.dup with
        | none => exact h.decides_notDuplicated hdeliverable hstep hstat htake hdup
        | some fd => exact h.decides_duplicated hdeliverable hstep hstat htake hdup
  · exact h.decides_untaken (if_neg hdeliverable) fun hd => absurd hd hdeliverable

theorem Inv.decides_restrictedClose (h : Inv s) (fd : Nat) :
    Run.Decides (fun s op => some (step s op)) (fun _ _ s' => Accounted s') OpOk Inv s
      (.restrictedClose fd) := by
  by_cases hfd : fd ∈ s.held
  · have hstep : s.step (.restrictedClose fd) = s.handle (.restrictedClose fd) := if_pos hfd
    refine Run.decides_bad (congrArg some hstep) (fun haccounted => ?_) fun hok => hok hfd
    -- the descriptor is neither closed nor held any more
    have hclosed : (s.restrictedClose fd).duplicated = s.duplicated ∧
        (s.restrictedClose fd).closed = s.closed ∧ (s.restrictedClose fd).held = s.held := by
      unfold restrictedClose releaseDevice
      split <;> exact ⟨rfl, rfl, rfl⟩
    obtain ⟨hduplicated, hback, hheld⟩ := hclosed
    have hdescriptors := haccounted.descriptors
    unfold handle at hdescriptors
    dsimp only at hdescriptors
    rw [hduplicated, hback, hheld, balanced_held_iff h.accounted.descriptors] at hdescriptors
    have hlength := hdescriptors.length_eq
    rw [List.length_erase_of_mem hfd] at hlength
    have hpos := List.length_pos_of_mem hfd
    omega
  · have hstep : s.step (.restrictedClose fd) = s := if_neg hfd
    exact Run.decides_good (congrArg some hstep) h.accounted (fun hmem => absurd hmem hfd) h

theorem Inv.decides (h : Inv s) (op : HandleOp) :
    Run.Decides (fun s op => some (step s op)) (fun _ _ s' => Accounted s') OpOk Inv s op := by
  cases op with
  | restrictedOpen flags answers => exact h.decides_restrictedOpen flags answers
  | restrictedClose fd => exact h.decides_restrictedClose fd

theorem inv_init : Inv init where
  accounted := ⟨balanced_nil, balanced_nil⟩
  opened _ h := by cases h
  nodup := List.nodup_nil

/-- **When handles are accounted for**: after every step of a run each device that
was taken is held or was released once, and each duplicate is held or was closed
once, if and only if no device is given up. -/
theorem handles_accounted_iff (ops : List HandleOp) :
    Run.Always (fun s op => some (step s op)) Accounted init ops ↔
      Run.Meets (fun s op => some (step s op)) OpOk init ops :=
  Run.always_iff_of_decides (fun _ op h => Inv.decides h op) ops _ inv_init.accounted inv_init

end

/-- A device is opened and closed: its descriptor stays open. -/
theorem descriptor_not_closed :
    ¬ Run.Always (fun s op => some (step s op)) Accounted init
      [.restrictedOpen nonblock ⟨some (13, 64), true, some 7, 2, 0, 1, 0⟩, .restrictedClose 7] := by
  rintro ⟨-, s₁, h₁, -, s₂, h₂, haccounted, -⟩
  obtain rfl := Option.some.inj h₁
  obtain rfl := Option.some.inj h₂
  have hlength := haccounted.descriptors.length_eq
  revert hlength
  decide

end LibInputHandler

end GreenIsland.Platform
