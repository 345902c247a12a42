import GreenIsland.Server.ApplicationManager

/-! When a window says that its application id has changed (`ClientWindowPrivate::setAppId`).

`setAppId` compares the id that it is asked for with the window's, and maps it only then.
A window whose id came out of `appIdMap` has another id than it was asked for, and the
next call that asks for the same announces a change although nothing changes.

`once_iff` says in which runs this does not happen: each call asks for the id that the
window has, or for one that the map leaves as it is.  `announced_again` is what the
registry makes of the signal otherwise: it removes the application and adds it again. -/

namespace GreenIsland.Server.ApplicationManager

/-! ## What is to hold -/

/-- How often the window emitted `appIdChanged`. -/
def changes (m : ApplicationManager) (w : WindowId) : Nat := m.signals.count (.appIdChanged w)

/-- From `m` to `m'` the window emits `appIdChanged`. -/
def Emits (m m' : ApplicationManager) (w : WindowId) : Prop := m'.changes w ≠ m.changes w

instance (m m' : ApplicationManager) (w : WindowId) : Decidable (m.Emits m' w) :=
  inferInstanceAs (Decidable (_ ≠ _))

/-- A call announces the changes of application ids, and only these. -/
structure Once (m : ApplicationManager) (op : Op) (m' : ApplicationManager) : Prop where
  changed : ∀ w, m.Emits m' w → m'.appIdOf w ≠ m.appIdOf w
  /-- the window had the previous id before, and it is not the new one -/
  previous : ∀ w, m.Emits m' w →
    (m'.windows w).prevAppId = m.appIdOf w ∧ (m'.windows w).prevAppId ≠ m'.appIdOf w
  /-- the same call a second time emits nothing -/
  again : ∀ w, ¬ m'.Emits (m'.step op) w

/-- The calls that do so: the window has the id that is asked for, or the map leaves that
id as it is. -/
def AppIdOk (m : ApplicationManager) : Op → Prop
  | .setAppId w appId cmdline =>
    m.appIdOf w = requestedAppId appId cmdline ∨
      m.mapped (requestedAppId appId cmdline) = requestedAppId appId cmdline
  | _ => True

/-! ## What the calls leave alone -/

variable {m : ApplicationManager} {w : WindowId}

theorem changes_emit (m : ApplicationManager) (signal : Signal) (w : WindowId) :
    (m.emit signal).changes w = m.changes w + if signal = .appIdChanged w then 1 else 0 := by
  unfold changes emit
  rw [List.count_append, List.count_singleton]
  simp only [beq_iff_eq]

theorem changes_addApplication (m : ApplicationManager) (appId : String) (pid : Int) (w : WindowId) :
    (m.addApplication appId pid).changes w = m.changes w :=
  changes_emit { m with appIds := m.appIds ++ [appId] } (.applicationAdded appId pid) w

theorem changes_removeApplication (m : ApplicationManager) (appId : String) (pid : Int)
    (w : WindowId) : (m.removeApplication appId pid).changes w = m.changes w :=
  changes_emit { m with appIds := m.appIds.erase appId } (.applicationRemoved appId pid) w

/-- The slot of `appIdChanged` emits signals of the registry only. -/
theorem changes_qAppIdChanged (m : ApplicationManager) (w v : WindowId) :
    (m.qAppIdChanged w).changes v = m.changes v := by
  unfold qAppIdChanged
  simp only []
  split <;> split <;> simp only [changes_addApplication, changes_removeApplication]

theorem windows_qAppIdChanged (m : ApplicationManager) (w : WindowId) :
    (m.qAppIdChanged w).windows = m.windows := by
  unfold qAppIdChanged
  simp only []
  split <;> split <;> rfl

theorem changes_registerWindow (m : ApplicationManager) (w v : WindowId) :
    (m.registerWindow w).changes v = m.changes v := by
  unfold registerWindow
  split
  · rfl
  · have hcreated : ({ m with windowsList := m.windowsList ++ [w] }.emit (.windowCreated w)).changes v =
        m.changes v := changes_emit _ (.windowCreated w) v
    simp only []
    split
    · exact (changes_addApplication ..).trans hcreated
    · exact hcreated

theorem changes_unregisterWindow (m : ApplicationManager) (w v : WindowId) :
    (m.unregisterWindow w).changes v = m.changes v := by
  unfold unregisterWindow
  split
  · rfl
  · simp only []
    split
    · rfl
    · exact changes_removeApplication ..

/-- A call that emits nothing, and nothing when it is repeated. -/
theorem once_of_silent {op : Op} {m' : ApplicationManager} (hnone : ∀ v, ¬ m.Emits m' v)
    (hagain : ∀ v, ¬ m'.Emits (m'.step op) v) : Once m op m' :=
  ⟨fun v h => absurd h (hnone v), fun v h => absurd h (hnone v), hagain⟩

/-! ## Changing the id -/

section
variable {appId : String} {cmdline : Option String}

theorem setAppId_same (h : m.appIdOf w = requestedAppId appId cmdline) :
    m.setAppId w appId cmdline = m := if_pos h

/-- What a call that asks for another id does, apart from the registry. -/
theorem setAppId_other (h : m.appIdOf w ≠ requestedAppId appId cmdline) :
    (m.setAppId w appId cmdline).windows =
        (m.storeAppId w (m.mapped (requestedAppId appId cmdline))).windows ∧
      ∀ v, (m.setAppId w appId cmdline).changes v = m.changes v + if w = v then 1 else 0 := by
  have hchanges : ∀ v, ((m.storeAppId w (m.mapped (requestedAppId appId cmdline))).emit
      (.appIdChanged w)).changes v = m.changes v + if w = v then 1 else 0 := by
    intro v
    rw [changes_emit]
    simp only [Signal.appIdChanged.injEq]
    rfl
  unfold setAppId
  simp only [if_neg h]
  split
  · exact ⟨windows_qAppIdChanged .., fun v => (changes_qAppIdChanged ..).trans (hchanges v)⟩
  · exact ⟨rfl, hchanges⟩

theorem emits_setAppId_iff {v : WindowId} : m.Emits (m.setAppId w appId cmdline) v ↔
    w = v ∧ m.appIdOf w ≠ requestedAppId appId cmdline := by
  unfold Emits
  by_cases hsame : m.appIdOf w = requestedAppId appId cmdline
  · rw [setAppId_same hsame]
    exact iff_of_false (not_not_intro rfl) fun h => h.2 hsame
  · rw [(setAppId_other hsame).2 v]
    by_cases hv : w = v
    · rw [if_pos hv]
      exact iff_of_true (Nat.succ_ne_self _) ⟨hv, hsame⟩
    · rw [if_neg hv]
      exact iff_of_false (not_not_intro rfl) fun h => hv h.1

theorem window_storeAppId (m : ApplicationManager) (w : WindowId) (newAppId : String) :
    (m.storeAppId w newAppId).windows w =
      { m.windows w with prevAppId := m.appIdOf w, appId := newAppId } := Function.update_self ..

theorem appIdOf_setAppId (h : m.appIdOf w ≠ requestedAppId appId cmdline) :
    (m.setAppId w appId cmdline).appIdOf w = m.mapped (requestedAppId appId cmdline) := by
  unfold appIdOf
  rw [(setAppId_other h).1, window_storeAppId]

theorem prevAppId_setAppId (h : m.appIdOf w ≠ requestedAppId appId cmdline) :
    ((m.setAppId w appId cmdline).windows w).prevAppId = m.appIdOf w := by
  rw [(setAppId_other h).1, window_storeAppId]

/-- **One call** does what it should just if it meets its condition. -/
theorem once_setAppId_iff : Once m (.setAppId w appId cmdline) (m.setAppId w appId cmdline) ↔
    AppIdOk m (.setAppId w appId cmdline) := by
  by_cases hsame : m.appIdOf w = requestedAppId appId cmdline
  · have hnone : ∀ v, ¬ m.Emits (m.setAppId w appId cmdline) v := fun v h =>
      (emits_setAppId_iff.1 h).2 hsame
    refine iff_of_true (once_of_silent hnone ?_) (Or.inl hsame)
    rw [setAppId_same hsame]
    exact hnone
  · constructor
    · intro honce
      refine Or.inr ?_
      -- the second call compares the id that the first one mapped
      by_contra hmapped
      refine honce.again w (emits_setAppId_iff.2 ⟨rfl, ?_⟩)
      rw [appIdOf_setAppId hsame]
      exact hmapped
    · intro hok
      have hmapped := hok.resolve_left hsame
      have hchanged : (m.setAppId w appId cmdline).appIdOf w ≠ m.appIdOf w := by
        rw [appIdOf_setAppId hsame, hmapped]
        exact Ne.symm hsame
      refine ⟨fun v h => ?_, fun v h => ?_, fun v h => ?_⟩
      · obtain ⟨rfl, -⟩ := emits_setAppId_iff.1 h
        exact hchanged
      · obtain ⟨rfl, -⟩ := emits_setAppId_iff.1 h
        rw [prevAppId_setAppId hsame]
        exact ⟨rfl, hchanged.symm⟩
      · refine (emits_setAppId_iff.1 h).2 ?_
        rw [appIdOf_setAppId hsame, hmapped]

end

/-- **A registered window's application is removed and added** by an `appIdChanged` that
changes nothing. -/
theorem announced_again {appId : String} {cmdline : Option String} (h : Inv m)
    (hw : w ∈ m.windowsList) (hempty : m.appIdOf w ≠ "")
    (hother : m.appIdOf w ≠ requestedAppId appId cmdline)
    (hmapped : m.mapped (requestedAppId appId cmdline) = m.appIdOf w) :
    (m.setAppId w appId cmdline).announcements (m.appIdOf w) =
      m.announcements (m.appIdOf w) ++ [false, true] := by
  have hin : m.appIdOf w ∈ m.appIds :=
    (h.registry.mem_iff _).2 ((inUse_of_mem hw _).2 ⟨hempty, Or.inl rfl⟩)
  have hgone : m.appIdOf w ∉ m.appIds.erase (m.appIdOf w) := h.registry.nodup.not_mem_erase
  have hbefore := announcements_appIdChanged m w (m.appIdOf w) (m.appIdOf w)
  unfold setAppId
  simp only [if_neg hother, hmapped]
  generalize hm₁ : (m.storeAppId w (m.appIdOf w)).emit (.appIdChanged w) = m₁ at *
  have hwindow : m₁.windows w = { m.windows w with prevAppId := m.appIdOf w, appId := m.appIdOf w } := by
    rw [← hm₁]
    exact window_storeAppId ..
  have happIds : m₁.appIds = m.appIds := hm₁ ▸ rfl
  have hlist : w ∈ m₁.windowsList := hm₁ ▸ hw
  rw [if_pos hlist]
  unfold qAppIdChanged
  simp only [hwindow]
  rw [happIds, if_pos hin, appIds_remove, happIds, if_pos hgone, announcements_add,
    announcements_remove, hbefore, if_pos rfl, if_pos rfl, List.append_assoc]
  rfl

theorem once_step_iff (m : ApplicationManager) (op : Op) : Once m op (m.step op) ↔ AppIdOk m op := by
  cases op with
  | registerWindow w =>
    have hnone : ∀ (m' : ApplicationManager) v, ¬ m'.Emits (m'.step (.registerWindow w)) v :=
      fun m' v h => h (changes_registerWindow m' w v)
    exact iff_of_true (once_of_silent (hnone m) (hnone _)) trivial
  | unregisterWindow w =>
    have hnone : ∀ (m' : ApplicationManager) v, ¬ m'.Emits (m'.step (.unregisterWindow w)) v :=
      fun m' v h => h (changes_unregisterWindow m' w v)
    exact iff_of_true (once_of_silent (hnone m) (hnone _)) trivial
  | setAppId w appId cmdline => exact once_setAppId_iff

/-! ## Runs -/

/-- **Application ids.**  From any state, in exactly the runs whose calls meet `AppIdOk`
every `appIdChanged` announces a change from the previous id, and no call emits anything
when it is repeated. -/
theorem once_iff (m : ApplicationManager) (ops : List Op) :
    Run.Along (fun m op => some (step m op)) Once m ops ↔
      Run.Meets (fun m op => some (step m op)) AppIdOk m ops :=
  Run.along_iff_of_decides (I := fun _ => True)
    (fun m op _ => Run.decides_total (once_step_iff m op) fun _ => trivial) ops m trivial

/-- A terminal asks for its id twice. -/
theorem mapped_twice :
    ¬ Run.Along (fun m op => some (step m op)) Once (init (fun _ => ⟨"", "", 0⟩) defaultAppIdMap)
      [.setAppId 0 "org.hawaiios.hawaii-terminal" none,
        .setAppId 0 "org.hawaiios.hawaii-terminal" none] := by
  rintro ⟨_, ⟨⟩, -, _, ⟨⟩, honce, -⟩
  exact absurd rfl (honce.changed 0 (by decide +kernel))

end GreenIsland.Server.ApplicationManager
