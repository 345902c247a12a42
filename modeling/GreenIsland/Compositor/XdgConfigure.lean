import GreenIsland.Compositor.XdgSurface

/-! The configure handshake of an `xdg_surface`, over two queues.

The compositor sends configurations; they arrive at the client in order.  The client draws by
the latest it likes and acknowledges that one, which stands for all before it; the
acknowledgements arrive at the compositor in order.  Everything may happen in between.

The serial of a configuration is an argument of the call that sends it: `sendConfigure` asks the
extension container for `nextSerial()` as if that were the compositor, and the container is the
surface, so nothing is known of the number it gets.

* `handshake`: no acknowledgement is unexpected, each arrives once, and when none is on
  its way both sides have the same configuration and know of the same later ones.
* `wanted_sent`: while the compositor sends a new configuration only when at most one is
  unanswered, and none that names a state twice, the last one it sent is what was asked for; it
  builds on the oldest unanswered one. -/

namespace GreenIsland.Compositor

def XdgSignal.acked : XdgSignal → Option Nat
  | .ackConfigure serial => some serial
  | _ => none

/-- The compositor's end, the two queues and the client's end.  `received` are the
configurations that the client has got and not used, `current` is the one it uses; `sent` and
`acked` are all that were sent so far. -/
structure XdgConversation where
  surface : XdgSurface
  toClient : List ConfigureEvent
  toServer : List Nat
  received : List ConfigureEvent
  current : ConfigureEvent
  sent : List ConfigureEvent
  acked : List Nat

inductive XdgEvent where
  | send (serial : Nat) (m : XdgSend)
  | deliver
  | acknowledge (n : Nat)
  | handleAck

namespace XdgConversation

def init (fallback : QRect) : XdgConversation :=
  ⟨.new fallback, [], [], [], noConfigure, [], []⟩

def send (w : XdgConversation) (serial : Nat) (m : XdgSend) : XdgConversation :=
  let config := w.surface.configuration serial m
  { w with
    surface := w.surface.send serial m
    toClient := w.toClient ++ [config]
    sent := w.sent ++ [config] }

/-- The client takes over the `n`-th configuration that it has got. -/
def acknowledge (w : XdgConversation) (n : Nat) : XdgConversation :=
  match w.received[n]? with
  | none => w
  | some config => { w with
      received := w.received.drop (n + 1)
      current := config
      toServer := w.toServer ++ [config.serial]
      acked := w.acked ++ [config.serial] }

def step (w : XdgConversation) : XdgEvent → XdgConversation
  | .send serial m => w.send serial m
  | .deliver => match w.toClient with
    | [] => w
    | config :: configs => { w with toClient := configs, received := w.received ++ [config] }
  | .acknowledge n => w.acknowledge n
  | .handleAck => match w.toServer with
    | [] => w
    | serial :: serials => { w with toServer := serials, surface := w.surface.ackConfigure serial }

/-- The acknowledgements that the compositor has accepted -/
def accepted (w : XdgConversation) : List Nat := w.surface.signals.filterMap XdgSignal.acked

/-! ## The invariant -/

/-- The client went from one configuration to another: these were used or skipped on the way,
and these are the serials of those that it used. -/
inductive Passed : ConfigureEvent → List ConfigureEvent → List Nat → ConfigureEvent → Prop
  | nil (config : ConfigureEvent) : Passed config [] [] config
  | cons (first next last : ConfigureEvent) (skipped configs : List ConfigureEvent)
      (serials : List Nat) (h : Passed next configs serials last) :
      Passed first (skipped ++ next :: configs) (next.serial :: serials) last

variable {w : XdgConversation} {first last config : ConfigureEvent}
  {configs skipped : List ConfigureEvent}
  {serials : List Nat} {serial n : Nat} {m : XdgSend} {e : XdgEvent}

theorem Passed.snoc (h : Passed first configs serials last) (skipped : List ConfigureEvent)
    (config : ConfigureEvent) :
    Passed first (configs ++ (skipped ++ [config])) (serials ++ [config.serial]) config := by
  induction h with
  | nil first => exact .cons first config config skipped [] [] (.nil config)
  | cons first next last before configs serials h ih =>
    rw [List.append_assoc, List.cons_append, List.cons_append]
    exact .cons first next config before _ _ ih

/-- What both sides know of each other -/
structure Inv (w : XdgConversation) : Prop where
  history : ∃ before, noConfigure :: w.sent =
    before ++ w.surface.lastAckedConfigure :: w.surface.pendingConfigures
  passed : ∃ configs, Passed w.surface.lastAckedConfigure configs w.toServer w.current ∧
    w.surface.pendingConfigures = configs ++ (w.received ++ w.toClient)
  nodup : (w.surface.pendingConfigures.map ConfigureEvent.serial).Nodup
  acked : w.accepted ++ w.toServer = w.acked

/-- The serial that is sent is not that of an unanswered configuration. -/
def Fresh (w : XdgConversation) : XdgEvent → Prop
  | .send serial _ => ∀ config ∈ w.surface.pendingConfigures, config.serial ≠ serial
  | _ => True

instance : ∀ w : XdgConversation, DecidablePred w.Fresh := fun w e => by
  cases e <;> unfold Fresh <;> infer_instance

theorem inv_init (fallback : QRect) : (init fallback).Inv where
  history := ⟨[], rfl⟩
  passed := ⟨[], .nil _, rfl⟩
  nodup := List.nodup_nil
  acked := rfl

theorem Inv.send (hw : w.Inv) (hfresh : w.Fresh (.send serial m)) : (w.send serial m).Inv := by
  obtain ⟨before, hhistory⟩ := hw.history
  obtain ⟨configs, hpassed, hpending⟩ := hw.passed
  refine ⟨⟨before, ?_⟩, ⟨configs, ?_, ?_⟩, ?_, ?_⟩
  · change noConfigure :: (w.sent ++ [_]) = _
    rw [XdgConversation.send, XdgSurface.send_eq, ← List.cons_append, hhistory, List.append_assoc]
    rfl
  · rw [XdgConversation.send, XdgSurface.send_eq]
    exact hpassed
  · rw [XdgConversation.send, XdgSurface.send_eq]
    change w.surface.pendingConfigures ++ [_] = _
    rw [hpending]
    simp only [List.append_assoc]
  · rw [XdgConversation.send, XdgSurface.send_eq]
    change ((w.surface.pendingConfigures ++ [_]).map _).Nodup
    rw [List.map_append]
    refine List.nodup_append.2 ⟨hw.nodup, List.nodup_singleton _, fun x hx y hy hxy => ?_⟩
    obtain ⟨config, hconfig, rfl⟩ := List.mem_map.1 hx
    have hserial : (w.surface.configuration serial m).serial = serial := by cases m <;> rfl
    rw [List.map_singleton, List.mem_singleton, hserial] at hy
    exact hfresh config hconfig (hxy.trans hy)
  · have haccepted : (w.send serial m).accepted = w.accepted := by
      rw [accepted, XdgConversation.send, XdgSurface.send_eq]
      rfl
    rw [haccepted]
    exact hw.acked

theorem Inv.acknowledge (hw : w.Inv) (n : Nat) : (w.acknowledge n).Inv := by
  rw [XdgConversation.acknowledge]
  cases hn : w.received[n]? with
  | none => exact hw
  | some config =>
    obtain ⟨configs, hpassed, hpending⟩ := hw.passed
    obtain ⟨hlt, hconfig⟩ := List.getElem?_eq_some_iff.1 hn
    have hsplit : w.received = w.received.take n ++ config :: w.received.drop (n + 1) := by
      rw [← hconfig, List.getElem_cons_drop, List.take_append_drop]
    refine ⟨hw.history, ⟨_, hpassed.snoc (w.received.take n) config, ?_⟩, hw.nodup, ?_⟩
    · change w.surface.pendingConfigures = _ ++ (w.received.drop (n + 1) ++ w.toClient)
      rw [hpending]
      conv_lhs => rw [hsplit]
      simp only [List.append_assoc, List.cons_append, List.nil_append]
    · change w.accepted ++ (w.toServer ++ [config.serial]) = w.acked ++ [config.serial]
      rw [← List.append_assoc, hw.acked]

/-- An acknowledged configuration is found. -/
theorem takeConfigure_split (hskipped : ∀ c ∈ skipped, c.serial ≠ config.serial) :
    XdgSurface.takeConfigure config.serial (skipped ++ config :: configs) = some (config, configs) := by
  induction skipped with
  | nil => exact if_pos rfl
  | cons c skipped ih =>
    rw [List.cons_append, XdgSurface.takeConfigure, if_neg (hskipped c List.mem_cons_self)]
    exact ih fun c hc => hskipped c (List.mem_cons_of_mem _ hc)

theorem accepted_ackConfigure {X : XdgSurface} (htake :
    XdgSurface.takeConfigure serial X.pendingConfigures = some (config, configs)) :
    (XdgConversation.accepted { w with surface := X.ackConfigure serial }) =
      XdgConversation.accepted { w with surface := X } ++ [serial] := by
  rw [accepted, XdgSurface.ackConfigure, htake]
  simp only [XdgSurface.emit, List.filterMap_append, accepted, List.append_assoc]
  congr 1
  have hstates : ∀ states : List Nat,
      (states.filterMap XdgSurface.changedSignal).filterMap XdgSignal.acked = [] := by
    intro states
    refine List.filterMap_eq_nil_iff.2 fun signal hsignal => ?_
    obtain ⟨state, -, hstate⟩ := List.mem_filterMap.1 hsignal
    unfold XdgSurface.changedSignal at hstate
    split at hstate <;> cases hstate <;> rfl
  rw [hstates]
  split <;> rfl

theorem Inv.handleAck (hw : w.Inv) {serials : List Nat} (hserials : w.toServer = serial :: serials) :
    Inv { w with toServer := serials, surface := w.surface.ackConfigure serial } ∧
      ∃ config configs,
        XdgSurface.takeConfigure serial w.surface.pendingConfigures = some (config, configs) := by
  obtain ⟨before, hhistory⟩ := hw.history
  obtain ⟨configs, hpassed, hpending⟩ := hw.passed
  rw [hserials] at hpassed
  cases hpassed with
  | cons first config last skipped configs serials hpassed =>
    have hsplit : w.surface.pendingConfigures =
        skipped ++ config :: (configs ++ (w.received ++ w.toClient)) := by
      rw [hpending, List.append_assoc, List.cons_append]
    have hnodup := hw.nodup
    rw [hsplit, List.map_append, List.map_cons] at hnodup
    have hskipped : ∀ c ∈ skipped, c.serial ≠ config.serial := fun c hc =>
      (List.nodup_append.1 hnodup).2.2 _ (List.mem_map_of_mem hc) _ List.mem_cons_self
    have htake : XdgSurface.takeConfigure config.serial w.surface.pendingConfigures =
        some (config, configs ++ (w.received ++ w.toClient)) := by
      rw [hsplit]
      exact takeConfigure_split hskipped
    have hafter : (w.surface.ackConfigure config.serial).pendingConfigures =
          configs ++ (w.received ++ w.toClient) ∧
        (w.surface.ackConfigure config.serial).lastAckedConfigure = config := by
      rw [XdgSurface.ackConfigure, htake]
      exact ⟨rfl, rfl⟩
    refine ⟨⟨⟨before ++ w.surface.lastAckedConfigure :: skipped, ?_⟩, ⟨configs, ?_, hafter.1⟩, ?_, ?_⟩,
      config, _, htake⟩
    · rw [hafter.1, hafter.2, List.append_assoc, List.cons_append, ← hsplit]
      exact hhistory
    · rw [hafter.2]
      exact hpassed
    · rw [hafter.1]
      exact (List.nodup_cons.1 (List.nodup_append.1 hnodup).2.1).2
    · rw [← hw.acked, hserials]
      have haccepted := accepted_ackConfigure (w := { w with toServer := serials }) htake
      exact (congrArg (· ++ serials) haccepted).trans (List.append_assoc ..)

theorem Inv.step (hw : w.Inv) (hfresh : w.Fresh e) : (w.step e).Inv := by
  cases e with
  | send serial m => exact hw.send hfresh
  | deliver =>
    rw [XdgConversation.step]
    split
    · exact hw
    · next config configs hclient =>
      obtain ⟨passed, hpassed, hpending⟩ := hw.passed
      refine ⟨hw.history, ⟨passed, hpassed, ?_⟩, hw.nodup, hw.acked⟩
      rw [hpending, hclient]
      simp only [List.append_assoc, List.cons_append, List.nil_append]
  | acknowledge n => exact hw.acknowledge n
  | handleAck =>
    rw [XdgConversation.step]
    split
    · exact hw
    · next serial serials hserver => exact (hw.handleAck hserver).1

/-! ## The handshake -/

def run (w : XdgConversation) (e : XdgEvent) : Option XdgConversation := some (w.step e)

/-- The two ends agree, up to what is on its way. -/
structure Agreed (w : XdgConversation) : Prop where
  arrived : w.accepted ++ w.toServer = w.acked
  settled : w.toServer = [] → w.surface.lastAckedConfigure = w.current ∧
    w.surface.pendingConfigures = w.received ++ w.toClient
  sent : w.surface.lastAckedConfigure ∈ noConfigure :: w.sent

theorem Inv.agreed (hw : w.Inv) : w.Agreed where
  arrived := hw.acked
  settled := by
    intro hserver
    obtain ⟨configs, hpassed, hpending⟩ := hw.passed
    rw [hserver] at hpassed
    generalize w.current = last at hpassed
    cases hpassed
    exact ⟨rfl, hpending⟩
  sent := by
    obtain ⟨before, hhistory⟩ := hw.history
    rw [hhistory]
    exact List.mem_append_right _ List.mem_cons_self

/-- **Agreement.**  However sending, arriving, drawing and acknowledging interleave, every
acknowledgement that arrives is accepted, once and in order, and when none is on its way the
compositor and the client have the same configuration. -/
theorem handshake (fallback : QRect) (es : List XdgEvent)
    (hfresh : Run.Meets run Fresh (init fallback) es) :
    Run.Always run Agreed (init fallback) es :=
  ⟨(inv_init fallback).agreed, Run.along_of_meets
    (fun w e hw hok => ⟨w.step e, rfl, (hw.step hok).agreed, hw.step hok⟩) es _
    (inv_init fallback) hfresh⟩

/-- Three configurations are sent; the client uses the second, then the third. -/
theorem handshake_skipped :
    Run.Meets run Fresh (init ⟨⟨0, 0⟩, ⟨0, 0⟩⟩)
        [.send 7 .focusReceived, .send 0 (.maximized ⟨800, 600⟩), .deliver, .send 3 .focusLost,
          .deliver, .acknowledge 1, .deliver, .acknowledge 0, .handleAck, .handleAck] ∧
      Run.Always run Agreed (init ⟨⟨0, 0⟩, ⟨0, 0⟩⟩)
        [.send 7 .focusReceived, .send 0 (.maximized ⟨800, 600⟩), .deliver, .send 3 .focusLost,
          .deliver, .acknowledge 1, .deliver, .acknowledge 0, .handleAck, .handleAck] :=
  ⟨by decide, handshake _ _ (by decide)⟩

/-! ## What was asked for -/

end XdgConversation

/-- What the compositor wants the window to be -/
structure Wanted where
  states : Nat → Bool
  size : QSize

namespace Wanted

/-- Of the states that exclude each other this one, or none -/
def withMode (d : Wanted) (mode : Option XdgState) (size : QSize) : Wanted where
  states n := if n = 1 ∨ n = 2 ∨ n = 3 then mode.map XdgState.code = some n else d.states n
  size := size

def withActivated (d : Wanted) (activated : Bool) : Wanted :=
  { d with states := Function.update d.states XdgState.activated.code activated }

def after (d : Wanted) : XdgEvent → Wanted
  | .send _ (.configure size states) => ⟨fun n => states.contains n, size⟩
  | .send _ (.maximized size) => d.withMode (some .maximized) size
  | .send _ (.unmaximized size) => d.withMode none size
  | .send _ (.fullscreen size) => d.withMode (some .fullscreen) size
  | .send _ (.resizing maxSize) => d.withMode (some .resizing) maxSize
  | .send _ .focusLost => d.withActivated false
  | .send _ .focusReceived => d.withActivated true
  | _ => d

end Wanted

/-- The configuration is what is wanted. -/
structure ConfigureEvent.Fits (config : ConfigureEvent) (d : Wanted) : Prop where
  nodup : config.states.Nodup
  states : ∀ n, n ∈ config.states ↔ d.states n = true
  size : config.size = d.size

namespace XdgConversation

variable {w : XdgConversation} {config : ConfigureEvent} {d : Wanted} {m : XdgSend} {e : XdgEvent}
  {states : List Nat} {state : XdgState} {n : Nat}

/-- The configuration that was sent last -/
def newest (w : XdgConversation) : ConfigureEvent := w.sent.getLast?.getD noConfigure

theorem mem_appendState : n ∈ XdgSurface.appendState state states ↔ n ∈ states ∨ n = state.code := by
  unfold XdgSurface.appendState
  split
  · next hmem => exact (or_iff_left_of_imp fun heq => heq ▸ List.contains_iff_mem.1 hmem).symm
  · simp

theorem mem_removeState (h : states.Nodup) :
    n ∈ XdgSurface.removeState state states ↔ n ∈ states ∧ n ≠ state.code :=
  h.mem_erase_iff.trans and_comm

/-- With one configuration unanswered at most, a new one builds on the one sent last. -/
theorem lastSentConfigure_eq (hw : w.Inv) (hsingle : w.surface.pendingConfigures.length ≤ 1) :
    w.surface.lastSentConfigure = w.newest := by
  obtain ⟨before, hhistory⟩ := hw.history
  have hnewest : some w.newest =
      (w.surface.lastAckedConfigure :: w.surface.pendingConfigures).getLast? := by
    rw [newest, ← List.getLast?_cons, hhistory, List.getLast?_append_of_ne_nil _ (List.cons_ne_nil _ _)]
  refine Option.some.inj (Eq.trans ?_ hnewest.symm)
  rw [XdgSurface.lastSentConfigure]
  cases hpending : w.surface.pendingConfigures with
  | nil => rfl
  | cons config configs =>
    rw [hpending] at hsingle
    obtain rfl : configs = [] := List.eq_nil_of_length_eq_zero (by simpa using hsingle)
    rfl

/-- Of the states that exclude each other one is set and the others are not. -/
theorem fits_mode (hlast : config.Fits d) {mode other other' : XdgState}
    (hall : ∀ n, n = 1 ∨ n = 2 ∨ n = 3 ↔ n = mode.code ∨ n = other.code ∨ n = other'.code)
    (hother : mode.code ≠ other.code) (hother' : mode.code ≠ other'.code) (size : QSize)
    (serial : Nat) :
    ConfigureEvent.Fits ⟨XdgSurface.removeState other' (XdgSurface.removeState other
      (XdgSurface.appendState mode config.states)), size, serial⟩ (d.withMode (some mode) size) := by
  have happend : (XdgSurface.appendState mode config.states).Nodup :=
    XdgSurface.nodup_appendState hlast.nodup
  have hremove : (XdgSurface.removeState other (XdgSurface.appendState mode config.states)).Nodup :=
    XdgSurface.nodup_removeState happend
  refine ⟨XdgSurface.nodup_removeState hremove, fun n => ?_, rfl⟩
  refine (mem_removeState hremove).trans ?_
  rw [mem_removeState happend, mem_appendState, hlast.states]
  change _ ↔ (if n = 1 ∨ n = 2 ∨ n = 3 then _ else _) = true
  by_cases hmode : n = mode.code
  · rw [if_pos ((hall n).2 (.inl hmode))]
    simp [hmode, hother, hother']
  by_cases hexcluded : n = other.code ∨ n = other'.code
  · rw [if_pos ((hall n).2 (.inr hexcluded))]
    simp only [Option.map_some, Option.some_inj, decide_eq_true_eq, Ne.symm hmode, iff_false]
    rintro ⟨⟨-, hne⟩, hne'⟩
    exact hexcluded.elim hne hne'
  · have hnone := not_or.2 ⟨hmode, hexcluded⟩
    rw [if_neg (hnone ∘ (hall n).1)]
    simp [hmode, (not_or.1 hexcluded).1, (not_or.1 hexcluded).2]

/-- What is sent is what is wanted, if what was sent before is. -/
theorem fits_configuration (hlast : w.surface.lastSentConfigure.Fits d) (hm : m.Distinct)
    (serial : Nat) : (w.surface.configuration serial m).Fits (d.after (.send serial m)) := by
  have hnodup := hlast.nodup
  cases m with
  | configure size states => exact ⟨hm, fun n => List.contains_iff_mem.symm, rfl⟩
  | maximized size =>
    exact fits_mode hlast (by simp [XdgState.code]) (by decide) (by decide) size serial
  | fullscreen size =>
    exact fits_mode hlast (by simp [XdgState.code]; omega) (by decide) (by decide) size serial
  | resizing size =>
    exact fits_mode hlast (by simp [XdgState.code]; omega) (by decide) (by decide) size serial
  | unmaximized size =>
    have hfirst : (XdgSurface.removeState .maximized w.surface.lastSentConfigure.states).Nodup :=
      XdgSurface.nodup_removeState hnodup
    have hsecond : (XdgSurface.removeState .fullscreen
        (XdgSurface.removeState .maximized w.surface.lastSentConfigure.states)).Nodup :=
      XdgSurface.nodup_removeState hfirst
    refine ⟨XdgSurface.nodup_removeState hsecond, fun n => ?_, rfl⟩
    refine (mem_removeState hsecond).trans ?_
    rw [mem_removeState hfirst, mem_removeState hnodup, hlast.states]
    change _ ↔ (if n = 1 ∨ n = 2 ∨ n = 3 then _ else _) = true
    by_cases hmode : n = 1 ∨ n = 2 ∨ n = 3
    · rw [if_pos hmode]
      rcases hmode with rfl | rfl | rfl <;> simp [XdgState.code]
    · rw [if_neg hmode]
      simp only [not_or] at hmode
      simp [XdgState.code, hmode]
  | focusLost =>
    refine ⟨XdgSurface.nodup_removeState hnodup, fun n => ?_, hlast.size⟩
    refine (mem_removeState hnodup).trans ?_
    rw [hlast.states]
    simp only [Wanted.after, Wanted.withActivated, Function.update_apply]
    split <;> simp_all
  | focusReceived =>
    refine ⟨XdgSurface.nodup_appendState hnodup, fun n => ?_, hlast.size⟩
    refine mem_appendState.trans ?_
    rw [hlast.states]
    simp only [Wanted.after, Wanted.withActivated, Function.update_apply]
    split <;> simp_all

/-- At most one configuration is unanswered when another is sent, which names no state twice. -/
def Single (w : XdgConversation) : XdgEvent → Prop
  | .send _ m => w.surface.pendingConfigures.length ≤ 1 ∧ m.Distinct
  | _ => True

instance : ∀ w : XdgConversation, DecidablePred w.Single := fun w e => by
  cases e <;> unfold Single <;> infer_instance

theorem newest_step (hw : w.Inv) (hsingle : w.Single e) (hfits : w.newest.Fits d) :
    (w.step e).newest.Fits (d.after e) := by
  cases e with
  | send serial m =>
    have hnewest : (w.send serial m).newest = w.surface.configuration serial m := by
      rw [newest]
      change (w.sent ++ [_]).getLast?.getD _ = _
      rw [List.getLast?_concat, Option.getD_some]
    change (w.send serial m).newest.Fits _
    rw [hnewest]
    refine fits_configuration ?_ hsingle.2 _
    rwa [lastSentConfigure_eq hw hsingle.1]
  | acknowledge n =>
    change (w.acknowledge n).newest.Fits d
    rw [XdgConversation.acknowledge]
    split <;> exact hfits
  | deliver =>
    rw [XdgConversation.step]
    split <;> exact hfits
  | handleAck =>
    rw [XdgConversation.step]
    split <;> exact hfits

/-- **The window is asked to be what is wanted**: if no more than one configuration is unanswered
whenever another is sent, which has a serial of its own and names no state twice, the last one
that was sent has the states and the size that the calls so far ask for. -/
theorem wanted_sent (fallback : QRect) (es : List XdgEvent)
    (hes : Run.Meets run (fun w e => w.Fresh e ∧ w.Single e) (init fallback) es) :
    ∃ w, Run.exec run (init fallback) es = some w ∧
      w.newest.Fits (es.foldl Wanted.after ⟨fun _ => false, ⟨0, 0⟩⟩) := by
  have hinit : (init fallback).newest.Fits ⟨fun _ => false, ⟨0, 0⟩⟩ :=
    ⟨List.nodup_nil, fun n => iff_of_false List.not_mem_nil Bool.false_ne_true, rfl⟩
  obtain ⟨w, hexec, -, hfits⟩ := Run.exec_simulates
    (R := fun (w : XdgConversation) d => w.Inv ∧ w.newest.Fits d) (fun w d e h hok =>
      ⟨w.step e, rfl, h.1.step hok.1, newest_step h.1 hok.2 h.2⟩) es _ _
    ⟨inv_init fallback, hinit⟩ hes
  exact ⟨w, hexec, hfits⟩

/-- The window is focused, maximized, and made fullscreen while the client has not answered yet. -/
theorem wanted_sent_fullscreen :
    Run.Meets run (fun w e => w.Fresh e ∧ w.Single e) (init ⟨⟨0, 0⟩, ⟨0, 0⟩⟩)
        [.send 1 .focusReceived, .send 2 (.maximized ⟨800, 600⟩), .deliver, .acknowledge 0,
          .handleAck, .send 3 (.fullscreen ⟨1024, 768⟩)] ∧
      ∃ w, Run.exec run (init ⟨⟨0, 0⟩, ⟨0, 0⟩⟩)
          [.send 1 .focusReceived, .send 2 (.maximized ⟨800, 600⟩), .deliver, .acknowledge 0,
            .handleAck, .send 3 (.fullscreen ⟨1024, 768⟩)] = some w ∧
        w.newest.Fits (List.foldl Wanted.after ⟨fun _ => false, ⟨0, 0⟩⟩
          [.send 1 .focusReceived, .send 2 (.maximized ⟨800, 600⟩), .deliver, .acknowledge 0,
            .handleAck, .send 3 (.fullscreen ⟨1024, 768⟩)]) :=
  ⟨by decide, wanted_sent _ _ (by decide)⟩

end XdgConversation

end GreenIsland.Compositor
