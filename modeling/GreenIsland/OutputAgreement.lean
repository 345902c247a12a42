import Mathlib.Algebra.Field.Rat
import Mathlib.Data.Rat.Cast.CharZero
import Mathlib.Tactic.NormNum
import GreenIsland.Lib.Upsert
import GreenIsland.Client.Output
import GreenIsland.Server.Output

/-! The compositor's and the client's view of an output's modes.

The compositor keeps its list of modes (`Server.Output`) and sends all of them
whenever it changes one; the client keeps a list of its own (`Client.Output`),
into which it merges what it receives, told apart by size and whole mHz.  Mode
events are delivered in order, here at the end of each call that sent them.

Merging never removes a mode.  The two lists have the same entries after a call
exactly when the call meets `OpOk` (`modes_agree_iff`): it must not leave two
modes that are sent alike, nor replace a mode by one that is not sent alike (a
resized window does), nor change a flag without sending the modes.

`mHz` is the whole number that is transmitted for a refresh rate; nothing is
assumed about it. -/

namespace GreenIsland.OutputAgreement

open Server.Output Upsert

section
variable {ρ : Type} (mHz : ρ → Int)

/-! ## Model -/

/-- What `send_mode` transmits of a mode. -/
def modeEvent (mode : Server.Mode ρ) : Client.ModeEvent :=
  ⟨mode.flags, mode.size.width, mode.size.height, mHz mode.refreshRate⟩

/-- The output on both sides; no client is bound at first. -/
structure Session (ρ : Type) where
  server : Server.Output ρ
  client : Option Client.Output

def receive (client : Client.Output) (modes : List (Server.Mode ρ)) : Client.Output :=
  modes.foldl (fun client mode => client.outputMode (modeEvent mHz mode)) client

/-- Everything that was sent arrives, in order. -/
def deliver (s : Session ρ) : Session ρ where
  server := { s.server with outbox := [] }
  client := s.client.map fun client => receive mHz client s.server.outbox

/-- `output_bind_resource`: a client binds an output that was initialized, and
is sent its modes. -/
def bindResource (s : Session ρ) : Session ρ :=
  if s.server.initialized = true ∧ s.client = none then
    { s with client := some (receive mHz (Client.Output.init ⟨0, 0⟩) s.server.modes) }
  else s

inductive Op (ρ : Type)
  | call (op : Server.Output.Op ρ)
  | handleSetWidth (newWidth : Int)
  | handleSetHeight (newHeight : Int)
  | bindResource

def step [BEq ρ] (s : Session ρ) : Op ρ → Option (Session ρ)
  | .call op => (s.server.step op).map fun server => deliver mHz { s with server := server }
  | .handleSetWidth newWidth =>
    (s.server.handleSetWidth newWidth).map fun server => deliver mHz { s with server := server }
  | .handleSetHeight newHeight =>
    (s.server.handleSetHeight newHeight).map fun server => deliver mHz { s with server := server }
  | .bindResource => some (bindResource mHz s)

def init (window : Option (Server.QWindow ρ)) (sizeFollowsWindow : Bool) : Session ρ :=
  ⟨Server.Output.init window sizeFollowsWindow, none⟩

/-! ## Agreement -/

/-- What the two sides are compared by. -/
structure Entry where
  size : QSize
  refreshRate : ℚ
  current : Bool
  preferred : Bool

def Entry.key (e : Entry) : QSize × ℚ := (e.size, e.refreshRate)

def entry (mode : Client.Mode) : Entry :=
  ⟨mode.size, mode.refreshRate, mode.flags.testFlag .current, mode.flags.testFlag .preferred⟩

/-- A mode of the compositor as a client sees it. -/
def wire (mode : Server.Mode ρ) : Client.Mode := (modeEvent mHz mode).mode

/-- The client has the modes of the compositor. -/
def Agrees (s : Session ρ) : Prop :=
  ∀ client, s.client = some client →
    (client.modes.map entry).Perm (s.server.modes.map fun mode => entry (wire mHz mode))

/-- The two modes are sent with the same size and rate. -/
def SentAlike (size : QSize) (refreshRate : ρ) (mode : Server.Mode ρ) : Prop :=
  mode.size = size ∧ mHz mode.refreshRate = mHz refreshRate

/-- The mode can be switched to without a fault, and without a flag that changes
and is not sent. -/
def CanSwitch [BEq ρ] (s : Session ρ) (size : QSize) (refreshRate : ρ) : Prop :=
  s.server.Known size refreshRate ∨
  s.server.currentMode = -1 ∧ s.server.window = none ∨
  s.server.currentMode ≠ -1 ∧ (s.client ≠ none →
    ∀ mode, qAt s.server.modes s.server.currentMode = some mode →
      mode.flags.testFlag .current = false)

/-- The size follows the window and the current mode would not keep its size. -/
def Resizes (s : Session ρ) (resize : QSize → QSize) : Prop :=
  s.server.window ≠ none ∧ s.server.sizeFollowsWindow = true ∧
    ∃ mode, qAt s.server.modes s.server.currentMode = some mode ∧ resize mode.size ≠ mode.size

/-- A mode that has exactly these flags is added again, and another mode loses one
of them: nothing is sent. -/
def TakesSilently (o : Server.Output ρ) (i : Nat) (flags : ModeFlags) : Prop :=
  (∃ mode, o.modes[i]? = some mode ∧ mode.flags = flags) ∧
  (∀ g, flags.testFlag g = true → o.index g ≠ i) ∧
  ∃ g mode, flags.testFlag g = true ∧ qAt o.modes (o.index g) = some mode ∧
    mode.flags.testFlag g = true

/-- The calls that keep the two sides in agreement. -/
def OpOk [BEq ρ] (s : Session ρ) : Op ρ → Prop
  | .call .initializeOutput =>
    ∀ window, s.server.window = some window → s.server.sizeFollowsWindow = true →
      (∀ g, s.server.index g = -1) ∧ (s.client ≠ none → ∀ mode ∈ s.server.modes,
        SentAlike mHz window.size window.screenRefreshRate mode)
  | .call (.addMode size flags refreshRate) =>
    s.client ≠ none →
      match findMode s.server.modes size refreshRate with
      | some i => ¬ TakesSilently s.server i flags
      | none => ∀ mode ∈ s.server.modes, ¬ SentAlike mHz size refreshRate mode
  | .call (.setCurrentMode size refreshRate) => CanSwitch s size refreshRate
  | .call (.setCurrentModeId modeId) =>
    modeId ≠ s.server.currentMode → ∀ mode, qAt s.server.modes modeId = some mode →
      CanSwitch s mode.size mode.refreshRate
  | .handleSetWidth newWidth => s.client ≠ none →
      ¬ Resizes s fun size => { size with width := newWidth }
  | .handleSetHeight newHeight => s.client ≠ none →
      ¬ Resizes s fun size => { size with height := newHeight }
  | .bindResource => s.server.initialized = true → s.client = none →
      s.server.modes.Pairwise fun a b => ¬ SentAlike mHz b.size b.refreshRate a

/-! ## The client merges what it receives -/

/-- What modes are told apart by on the client's side. -/
def key (mode : Client.Mode) : QSize × ℚ := (mode.size, mode.refreshRate)

theorem outputMode_modes (client : Client.Output) (event : Client.ModeEvent) :
    (client.outputMode event).modes = upsert key client.modes event.mode := by
  have hsame : ∀ m : Client.Mode, m.sameAs event.mode = decide (key m = key event.mode) := by
    intro m
    rw [Bool.eq_iff_iff, Client.Mode.sameAs_iff, decide_eq_true_iff]
    unfold key
    rw [Prod.mk.injEq]
  unfold upsert
  by_cases hknown : client.modes.any (·.sameAs event.mode) = true
  · rw [Client.Output.outputMode_known hknown]
    simp only [hsame] at hknown
    rw [if_pos hknown]
    refine List.map_congr_left fun m _ => ?_
    simp only [hsame, decide_eq_true_iff]
    split
    · next hkey =>
      obtain ⟨hsize, hrate⟩ := Prod.ext_iff.1 hkey
      simp only [key] at hsize hrate
      rw [hsize, hrate]
    · rfl
  · rw [Client.Output.outputMode_unknown hknown]
    simp only [hsame] at hknown
    rw [if_neg hknown]

theorem receive_modes (client : Client.Output) (modes : List (Server.Mode ρ)) :
    (receive mHz client modes).modes = merge key client.modes (modes.map (wire mHz)) := by
  induction modes generalizing client with
  | nil => rfl
  | cons mode modes ih =>
    refine (ih _).trans ?_
    rw [outputMode_modes]
    rfl

theorem key_wire {mode : Server.Mode ρ} {size : QSize} {refreshRate : ρ} {flags : ModeFlags} :
    key (wire mHz mode) = key (wire mHz ⟨flags, size, refreshRate⟩) ↔
      SentAlike mHz size refreshRate mode := by
  unfold key wire modeEvent Client.ModeEvent.mode SentAlike
  rw [Prod.mk.injEq]
  refine and_congr Iff.rfl ?_
  rw [div_left_inj' (by norm_num), Int.cast_inj]

/-- What modes are sent as, without the flags. -/
def wireKeys (modes : List (Server.Mode ρ)) : List (QSize × ℚ) :=
  modes.map fun mode => key (wire mHz mode)

theorem wireKeys_eq (modes : List (Server.Mode ρ)) :
    wireKeys mHz modes = (modes.map (wire mHz)).map key := by
  unfold wireKeys
  rw [List.map_map]
  rfl

theorem keys_of_entries (modes : List (Server.Mode ρ)) :
    (modes.map fun m => entry (wire mHz m)).map Entry.key = wireKeys mHz modes := by
  unfold wireKeys
  rw [List.map_map]
  rfl

theorem wireKeys_congr {modes modes' : List (Server.Mode ρ)} (h : keys modes = keys modes') :
    wireKeys mHz modes = wireKeys mHz modes' := by
  have hfactor : ∀ l : List (Server.Mode ρ), wireKeys mHz l =
      (keys l).map fun k => key (wire mHz ⟨0, k.1, k.2⟩) := by
    intro l
    unfold wireKeys keys
    rw [List.map_map]
    rfl
  rw [hfactor, hfactor, h]

/-! ## After a call -/

structure Inv (s : Session ρ) : Prop where
  valid : s.server.Valid
  /-- everything that was sent has arrived -/
  outbox : s.server.outbox = []
  /-- the client tells all its modes apart, and has the compositor's -/
  nodup : ∀ client, s.client = some client → (client.modes.map key).Nodup
  synced : ∀ client, s.client = some client →
    client.modes.Perm (s.server.modes.map (wire mHz))

theorem Inv.agrees {s : Session ρ} (h : Inv mHz s) : Agrees mHz s := by
  intro client hclient
  have := (h.synced client hclient).map entry
  rwa [List.map_map] at this

theorem inv_init (window : Option (Server.QWindow ρ)) (sizeFollowsWindow : Bool) :
    Inv mHz (init window sizeFollowsWindow) where
  valid g := by cases g <;> exact Or.inl rfl
  outbox := rfl
  nodup _ h := by cases h
  synced _ h := by cases h

section
variable {mHz} {o o' : Server.Output ρ} {client : Option Client.Output}

theorem Inv.wireKeys_perm {s : Session ρ} (h : Inv mHz s) {c : Client.Output}
    (hc : s.client = some c) : (c.modes.map key).Perm (wireKeys mHz s.server.modes) := by
  rw [wireKeys_eq]
  exact (h.synced c hc).map key

theorem valid_deliver (h : o'.Valid) : (deliver mHz ⟨o', client⟩).server.Valid := by
  intro g
  have hg := h g
  cases g <;> exact hg

theorem inv_unbound (mHz : ρ → Int) (h : o'.Valid) : Inv mHz (deliver mHz ⟨o', none⟩) where
  valid := valid_deliver h
  outbox := rfl
  nodup _ h := by cases h
  synced _ h := by cases h

/-- Nothing is asked of a call without a client. -/
theorem agrees_unbound (mHz : ρ → Int) (h : o'.Valid) (P : Prop) :
    (Agrees mHz (deliver mHz ⟨o', none⟩) ↔ ((none : Option Client.Output) ≠ none → P)) ∧
    (Agrees mHz (deliver mHz ⟨o', none⟩) → Inv mHz (deliver mHz ⟨o', none⟩)) := by
  have hinv := inv_unbound mHz h
  exact ⟨⟨fun _ hne => absurd rfl hne, fun _ => hinv.agrees mHz⟩, fun _ => hinv⟩

/-- Sides that agree have the same keys. -/
theorem keys_perm_of_entries {l l' : List Client.Mode} (h : (l.map entry).Perm (l'.map entry)) :
    (l.map key).Perm (l'.map key) := by
  have := h.map Entry.key
  rwa [List.map_map, List.map_map] at this

/-- **A call that sent the modes.**  The two sides agree if no two of the new
modes are sent alike and none of the old ones is gone. -/
theorem agrees_sent (h : Inv mHz ⟨o, client⟩) (hvalid : o'.Valid) (hsent : o'.outbox = o'.modes) :
    (Agrees mHz (deliver mHz ⟨o', client⟩) ↔ (client ≠ none →
      (wireKeys mHz o'.modes).Nodup ∧ wireKeys mHz o.modes ⊆ wireKeys mHz o'.modes)) ∧
    (Agrees mHz (deliver mHz ⟨o', client⟩) → Inv mHz (deliver mHz ⟨o', client⟩)) := by
  cases client with
  | none => exact agrees_unbound mHz hvalid _
  | some c =>
    have hnodup := h.nodup c rfl
    have hold := h.wireKeys_perm rfl
    have hmodes : (receive mHz c o'.outbox).modes = merge key c.modes (o'.modes.map (wire mHz)) := by
      rw [receive_modes, hsent]
    have hto : Agrees mHz (deliver mHz ⟨o', some c⟩) →
        (wireKeys mHz o'.modes).Nodup ∧ wireKeys mHz o.modes ⊆ wireKeys mHz o'.modes := by
      intro hagrees
      have hp := hagrees _ rfl
      have hp : ((receive mHz c o'.outbox).modes.map entry).Perm
          ((o'.modes.map (wire mHz)).map entry) := by rw [List.map_map]; exact hp
      rw [hmodes] at hp
      obtain ⟨hn, hsub⟩ := of_keys_perm hnodup (keys_perm_of_entries hp)
      rw [← wireKeys_eq] at hn hsub
      exact ⟨hn, fun k hk => hsub (hold.symm.subset hk)⟩
    have hfrom : (wireKeys mHz o'.modes).Nodup ∧ wireKeys mHz o.modes ⊆ wireKeys mHz o'.modes →
        Inv mHz (deliver mHz ⟨o', some c⟩) := by
      rintro ⟨hn, hsub⟩
      rw [wireKeys_eq] at hn
      refine ⟨valid_deliver hvalid, rfl, fun c' hc' => ?_, fun c' hc' => ?_⟩
      all_goals
        obtain rfl := Option.some.inj hc'
        rw [hmodes]
      · exact nodup_merge hnodup _
      · refine merge_perm hnodup hn fun k hk => ?_
        rw [← wireKeys_eq]
        exact hsub (hold.subset hk)
    refine ⟨⟨fun ha _ => hto ha, fun hn => ?_⟩, fun ha => hfrom (hto ha)⟩
    exact (hfrom (hn (Option.some_ne_none c))).agrees mHz

/-- **A call that sent nothing.**  The two sides agree if nothing changed. -/
theorem agrees_silent (h : Inv mHz ⟨o, client⟩) (hvalid : o'.Valid) (hsilent : o'.outbox = [])
    (hkeys : keys o'.modes = keys o.modes)
    (hflags : o'.modes.map (fun m => entry (wire mHz m)) = o.modes.map (fun m => entry (wire mHz m)) →
      o'.modes = o.modes) :
    (Agrees mHz (deliver mHz ⟨o', client⟩) ↔ (client ≠ none → o'.modes = o.modes)) ∧
    (Agrees mHz (deliver mHz ⟨o', client⟩) → Inv mHz (deliver mHz ⟨o', client⟩)) := by
  cases client with
  | none => exact agrees_unbound mHz hvalid _
  | some c =>
    have hto : Agrees mHz (deliver mHz ⟨o', some c⟩) → o'.modes = o.modes := by
      intro hagrees
      have hp : ((receive mHz c o'.outbox).modes.map entry).Perm
          (o'.modes.map fun m => entry (wire mHz m)) := hagrees _ rfl
      rw [hsilent] at hp
      -- both are the client's entries, told apart by their keys
      have hperm := hp.symm.trans (h.agrees mHz c rfl)
      have hnodup : ((o.modes.map fun m => entry (wire mHz m)).map Entry.key).Nodup := by
        rw [keys_of_entries]
        exact (h.wireKeys_perm rfl).nodup_iff.1 (h.nodup c rfl)
      refine hflags (eq_of_perm hnodup ?_ hperm)
      rw [keys_of_entries, keys_of_entries]
      exact wireKeys_congr mHz hkeys
    have hfrom : o'.modes = o.modes → Inv mHz (deliver mHz ⟨o', some c⟩) := by
      intro hmodes
      refine ⟨valid_deliver hvalid, rfl, fun c' hc' => ?_, fun c' hc' => ?_⟩
      all_goals
        obtain rfl := Option.some.inj hc'
        rw [hsilent]
      · exact h.nodup c rfl
      · have hs := h.synced c rfl
        rw [← show o'.modes = o.modes from hmodes] at hs
        exact hs
    refine ⟨⟨fun ha _ => hto ha, fun hn => ?_⟩, fun ha => hfrom (hto ha)⟩
    exact (hfrom (hn (Option.some_ne_none c))).agrees mHz

theorem Inv.wireKeys_nodup {s : Session ρ} (h : Inv mHz s) (hc : s.client ≠ none) :
    (wireKeys mHz s.server.modes).Nodup := by
  obtain ⟨c, hc⟩ := Option.ne_none_iff_exists'.1 hc
  exact (h.wireKeys_perm hc).nodup_iff.1 (h.nodup c hc)

/-- Sending the same modes with other flags. -/
theorem agrees_sent_same (h : Inv mHz ⟨o, client⟩) (hvalid : o'.Valid) (hsent : o'.outbox = o'.modes)
    (hkeys : keys o'.modes = keys o.modes) :
    Agrees mHz (deliver mHz ⟨o', client⟩) ∧ Inv mHz (deliver mHz ⟨o', client⟩) := by
  obtain ⟨hiff, hinv⟩ := agrees_sent h hvalid hsent
  have hagrees := hiff.2 fun hc => by
    rw [wireKeys_congr mHz hkeys]
    exact ⟨h.wireKeys_nodup hc, fun _ hk => hk⟩
  exact ⟨hagrees, hinv hagrees⟩

/-- Changing and sending nothing. -/
theorem agrees_same (h : Inv mHz ⟨o, client⟩) :
    Agrees mHz (deliver mHz ⟨o, client⟩) ∧ Inv mHz (deliver mHz ⟨o, client⟩) := by
  obtain ⟨hiff, hinv⟩ := agrees_silent h h.valid h.outbox rfl fun _ => rfl
  have hagrees := hiff.2 fun _ => rfl
  exact ⟨hagrees, hinv hagrees⟩

/-! ## `addMode` -/

/-- No mode has a flag that another mode is to get. -/
def NothingTaken (o : Server.Output ρ) (flags : ModeFlags) : Prop :=
  ∀ g mode, flags.testFlag g = true → qAt o.modes (o.index g) = some mode →
    mode.flags.testFlag g = false

theorem qAt_index {g : ModeFlag} {n : Nat} {mode : Server.Mode ρ}
    (hn : o.index g = n) (hm : o.modes[n]? = some mode) : qAt o.modes (o.index g) = some mode := by
  rw [hn, qAt_of_nonneg (by omega), Int.toNat_natCast, hm]

theorem strip_eq_self {flags : ModeFlags} {n : Nat} {flag : ModeFlag} {m : Server.Mode ρ}
    (h : o.index flag = n → flags.testFlag flag = true → m.flags.testFlag flag = false) :
    o.strip flags n flag m = m := by
  unfold strip
  split
  · next hflag => rw [ModeFlags.clear_of_not_testFlag (h hflag.1 hflag.2)]
  · rfl

/-- Flags that are taken from modes that do not have them leave the modes alone,
and only those do. -/
theorem taken_modes_eq {flags : ModeFlags} {o₂ : Server.Output ρ} (htaken : Taken o flags o₂) :
    NothingTaken o flags → o₂.modes = o.modes := by
  intro h
  refine List.ext_getElem? fun n => ?_
  rw [htaken.modes]
  cases hn : o.modes[n]? with
  | none => rfl
  | some m =>
    have hself : ∀ g, o.strip flags n g m = m := fun g =>
      strip_eq_self fun hi hg => h g m hg (qAt_index hi hn)
    rw [Option.map_some, hself, hself]

theorem nothingTaken_of_entries {flags : ModeFlags} {o₂ : Server.Output ρ} (hvalid : o.Valid)
    (htaken : Taken o flags o₂)
    (h : o₂.modes.map (fun m => entry (wire mHz m)) = o.modes.map (fun m => entry (wire mHz m))) :
    NothingTaken o flags := by
  intro g m hg hm
  have hi : o.index g ≠ -1 := by
    intro hi
    rw [hi] at hm
    cases hm
  obtain ⟨m', hm', hcast⟩ := (hvalid g).exists_getElem hi
  rw [qAt_index hcast.symm hm', Option.some.injEq] at hm
  subst hm
  have hn := congrArg (fun l => l[(o.index g).toNat]?) h
  simp only [List.getElem?_map, htaken.modes, hm', Option.map_some, Option.some.injEq] at hn
  have hflag : (o.strip flags (o.index g).toNat .preferred
      (o.strip flags (o.index g).toNat .current m')).flags.testFlag g = m'.flags.testFlag g := by
    cases g with
    | current => exact congrArg Entry.current hn
    | preferred => exact congrArg Entry.preferred hn
  by_contra hne
  rw [Bool.not_eq_false] at hne
  rw [hne, testFlag_strip, testFlag_strip] at hflag
  cases g with
  | current => exact hflag.1.2 ⟨rfl, hcast.symm, hg⟩
  | preferred => exact hflag.2 ⟨rfl, hcast.symm, hg⟩

/-- Nothing is sent when the mode has the flags already, also after they were
taken from other modes. -/
theorem takesSilently_iff {flags : ModeFlags} {o₂ : Server.Output ρ} (htaken : Taken o flags o₂)
    {i : Nat} {m₂ : Server.Mode ρ} (hm₂ : o₂.modes[i]? = some m₂) :
    TakesSilently o i flags ↔ m₂.flags = flags ∧ ¬ NothingTaken o flags := by
  rw [htaken.modes] at hm₂
  obtain ⟨m, hm, rfl⟩ := Option.map_eq_some_iff.1 hm₂
  have hself : (∀ g, flags.testFlag g = true → o.index g ≠ i) →
      ∀ g, o.strip flags i g m = m := fun hne g =>
    strip_eq_self fun hi hg => absurd hi (hne g hg)
  have htaking : (∃ g mode, flags.testFlag g = true ∧ qAt o.modes (o.index g) = some mode ∧
      mode.flags.testFlag g = true) ↔ ¬ NothingTaken o flags := by
    unfold NothingTaken
    push Not
    simp only [ne_eq, Bool.not_eq_false]
  unfold TakesSilently
  rw [htaking]
  constructor
  · rintro ⟨⟨m', hm', hflags⟩, hne, htake⟩
    obtain rfl : m' = m := Option.some.inj (hm'.symm.trans hm)
    refine ⟨?_, htake⟩
    rw [hself hne, hself hne]
    exact hflags
  · rintro ⟨hflags, htake⟩
    have hne : ∀ g, flags.testFlag g = true → o.index g ≠ i := by
      intro g hg hi
      have hflag := hg
      rw [← hflags, testFlag_strip, testFlag_strip] at hflag
      cases g with
      | current => exact hflag.1.2 ⟨rfl, hi, hg⟩
      | preferred => exact hflag.2 ⟨rfl, hi, hg⟩
    rw [hself hne, hself hne] at hflags
    exact ⟨⟨m, hm, hflags⟩, hne, htake⟩

theorem valid_of_taken {flags : ModeFlags} {o₂ : Server.Output ρ} (h : o.Valid)
    (htaken : Taken o flags o₂) : o₂.Valid := by
  intro g
  have hlen : o₂.modes.length = o.modes.length := by
    have := congrArg List.length htaken.keys
    unfold keys at this
    rwa [List.length_map, List.length_map] at this
  have hg := h g
  unfold IndexOrNone at hg ⊢
  rw [htaken.index, hlen]
  split
  · exact Or.inl rfl
  · exact hg

/-- **A mode that exists.**  The modes are sent when the flags of this one changed
after they were taken from the others. -/
theorem updateMode_agrees (h : Inv mHz ⟨o, client⟩) {flags : ModeFlags} {o₂ : Server.Output ρ}
    (htaken : Taken o flags o₂) {i : Nat} {m₂ : Server.Mode ρ} (hm₂ : o₂.modes[i]? = some m₂) :
    ∃ o', o₂.updateMode i flags = some o' ∧
      (Agrees mHz (deliver mHz ⟨o', client⟩) ↔ (client ≠ none → ¬ TakesSilently o i flags)) ∧
      (Agrees mHz (deliver mHz ⟨o', client⟩) → Inv mHz (deliver mHz ⟨o', client⟩)) := by
  obtain ⟨o', ho', hmodes, hindex, houtbox⟩ := updateMode_spec hm₂ flags
  have hlt := (List.getElem?_eq_some_iff.1 hm₂).1
  have hkeys : keys o'.modes = keys o.modes := by
    rw [hmodes, keys_set hm₂, htaken.keys]
  have hvalid : o'.Valid := by
    intro g
    rw [hmodes, hindex g]
    refine IndexOrNone.set ?_ _ _
    split
    · exact Or.inr (by omega)
    · exact valid_of_taken h.valid htaken g
  refine ⟨o', ho', ?_⟩
  rw [takesSilently_iff htaken hm₂]
  by_cases hsame : m₂.flags = flags
  · rw [if_pos hsame, htaken.outbox.trans h.outbox] at houtbox
    have hmodes₂ : o'.modes = o₂.modes := by
      rw [hmodes]
      subst hsame
      exact set_eq_self hm₂
    have hsilent := agrees_silent h hvalid houtbox hkeys fun hentries => by
      rw [hmodes₂] at hentries ⊢
      exact taken_modes_eq htaken (nothingTaken_of_entries h.valid htaken hentries)
    refine ⟨hsilent.1.trans (imp_congr Iff.rfl ?_), hsilent.2⟩
    rw [hmodes₂]
    constructor
    · rintro hm ⟨-, htake⟩
      exact htake (nothingTaken_of_entries h.valid htaken
        (congrArg (List.map fun m => entry (wire mHz m)) hm))
    · intro htake
      exact taken_modes_eq htaken (by by_contra hn; exact htake ⟨hsame, hn⟩)
  · rw [if_neg hsame, htaken.outbox.trans h.outbox, List.nil_append] at houtbox
    obtain ⟨hagrees, hinv⟩ := agrees_sent_same h hvalid houtbox hkeys
    exact ⟨⟨fun _ _ hs => hsame hs.1, fun _ => hagrees⟩, fun _ => hinv⟩

/-- **A new mode.**  It has to differ from the others in what is transmitted. -/
theorem appendMode_agrees [BEq ρ] (h : Inv mHz ⟨o, client⟩) {flags : ModeFlags}
    {o₂ : Server.Output ρ} (htaken : Taken o flags o₂) {mode : Server.Mode ρ}
    (hfind : findMode o₂.modes mode.size mode.refreshRate = none) :
    (Agrees mHz (deliver mHz ⟨o₂.appendMode mode, client⟩) ↔
      (client ≠ none → ∀ m ∈ o.modes, ¬ SentAlike mHz mode.size mode.refreshRate m)) ∧
    (Agrees mHz (deliver mHz ⟨o₂.appendMode mode, client⟩) →
      Inv mHz (deliver mHz ⟨o₂.appendMode mode, client⟩)) := by
  have hmodes : (o₂.appendMode mode).modes = o₂.modes ++ [mode] := rfl
  have hvalid : (o₂.appendMode mode).Valid := by
    intro g
    rw [index_appendMode, indexOf_append hfind]
    split
    · split
      · exact Or.inr (by rw [hmodes, List.length_append, List.length_singleton]; omega)
      · exact Or.inl rfl
    · exact (valid_of_taken h.valid htaken g).append _
  have houtbox : (o₂.appendMode mode).outbox = (o₂.appendMode mode).modes := by
    show o₂.outbox ++ _ = _
    rw [htaken.outbox.trans h.outbox]
    rfl
  obtain ⟨hiff, hinv⟩ := agrees_sent h hvalid houtbox
  refine ⟨hiff.trans ?_, hinv⟩
  have hwire : wireKeys mHz (o₂.appendMode mode).modes =
      wireKeys mHz o.modes ++ [key (wire mHz mode)] := by
    rw [hmodes, ← wireKeys_congr mHz htaken.keys]
    unfold wireKeys
    rw [List.map_append]
    rfl
  refine forall_congr' fun hc => ?_
  rw [hwire]
  constructor
  · rintro ⟨hnodup, -⟩ m hm halike
    have hmem : key (wire mHz m) ∈ wireKeys mHz o.modes := List.mem_map_of_mem hm
    exact (List.nodup_append.1 hnodup).2.2 _ hmem _ List.mem_cons_self ((key_wire mHz).2 halike)
  · intro hfresh
    refine ⟨List.nodup_append.2 ⟨h.wireKeys_nodup hc, List.nodup_singleton _, ?_⟩,
      List.subset_append_left _ _⟩
    rintro k hk k' hk' rfl
    obtain ⟨m, hm, rfl⟩ := List.mem_map.1 hk
    exact hfresh m hm ((key_wire mHz).1 (List.mem_singleton.1 hk'))

theorem addMode_agrees [BEq ρ] (h : Inv mHz ⟨o, client⟩) (size : QSize) (flags : ModeFlags)
    (refreshRate : ρ) :
    ∃ o', o.addMode size flags refreshRate = some o' ∧
      (Agrees mHz (deliver mHz ⟨o', client⟩) ↔
        OpOk mHz ⟨o, client⟩ (.call (.addMode size flags refreshRate))) ∧
      (Agrees mHz (deliver mHz ⟨o', client⟩) → Inv mHz (deliver mHz ⟨o', client⟩)) := by
  obtain ⟨o₂, htaken, heq⟩ := addMode_spec h.valid size flags refreshRate
  rw [heq]
  simp only [OpOk]
  cases hfind : findMode o.modes size refreshRate with
  | some i =>
    obtain ⟨m₂, hm₂, -⟩ := findMode_eq_some ((findMode_congr htaken.keys).trans hfind)
    exact updateMode_agrees h htaken hm₂
  | none => exact ⟨_, rfl, appendMode_agrees h htaken ((findMode_congr htaken.keys).trans hfind)⟩

/-! ## `setCurrentMode` -/

/-- Switching to a mode that exists sends the modes with their keys. -/
theorem switchMode_agrees [BEq ρ] (h : Inv mHz ⟨o, client⟩) {o₁ : Server.Output ρ} (hvalid₁ : o₁.Valid)
    (hkeys₁ : keys o₁.modes = keys o.modes) (houtbox₁ : o₁.outbox = []) {size : QSize}
    {refreshRate : ρ} (hknown : o.Known size refreshRate) :
    ∃ o', o₁.switchMode size refreshRate = some o' ∧
      Agrees mHz (deliver mHz ⟨o', client⟩) ∧ Inv mHz (deliver mHz ⟨o', client⟩) := by
  obtain ⟨i, hi⟩ := known_iff.1 hknown
  obtain ⟨o', m, ho', hm, hmodes, hindex, houtbox⟩ :=
    switchMode_found ((findMode_congr hkeys₁).trans hi)
  have hlt := (List.getElem?_eq_some_iff.1 hm).1
  refine ⟨o', ho', agrees_sent_same h (fun g => ?_) ?_ ?_⟩
  · rw [hmodes, hindex]
    refine IndexOrNone.set ?_ _ _
    split
    · exact Or.inr (by omega)
    · exact hvalid₁ g
  · rw [houtbox, houtbox₁, List.nil_append]
  · rw [hmodes, keys_set hm, hkeys₁]

theorem findMode_eq_none_of_not_known [BEq ρ] {size : QSize} {refreshRate : ρ}
    (h : ¬ o.Known size refreshRate) : findMode o.modes size refreshRate = none := by
  by_contra hne
  exact h (known_iff.2 (Option.ne_none_iff_exists'.1 hne))

/-- Without another current mode. -/
theorem switchMode_unknown [BEq ρ] {size : QSize} {refreshRate : ρ}
    (hunknown : ¬ o.Known size refreshRate) (hc : o.currentMode = -1) :
    (o.window = none → o.switchMode size refreshRate = some o) ∧
      ∀ o', o.switchMode size refreshRate = some o' → o.window = none ∧ o' = o := by
  rw [switchMode_not_found (findMode_eq_none_of_not_known hunknown)]
  unfold resizeWindow
  constructor
  · intro hwindow
    rw [hwindow]
  · intro o' ho'
    split at ho'
    · next hwindow => exact ⟨hwindow, (Option.some.inj ho').symm⟩
    · rw [hc] at ho'
      cases ho'

/-- Without the current flag of a mode the modes are the same just if it was not there. -/
theorem set_cleared_of_not_testFlag {modes : List (Server.Mode ρ)} {n : Nat} {m : Server.Mode ρ}
    (hm : modes[n]? = some m) (hflag : m.flags.testFlag .current = false) :
    modes.set n { m with flags := m.flags.clear .current } = modes := by
  rw [ModeFlags.clear_of_not_testFlag hflag]
  exact set_eq_self hm

theorem not_testFlag_of_entries {modes : List (Server.Mode ρ)} {n : Nat} {m : Server.Mode ρ}
    (hm : modes[n]? = some m)
    (h : (modes.set n { m with flags := m.flags.clear .current }).map (fun m => entry (wire mHz m)) =
      modes.map fun m => entry (wire mHz m)) : m.flags.testFlag .current = false := by
  have hlt := (List.getElem?_eq_some_iff.1 hm).1
  have hk := congrArg (fun l => l[n]?) h
  simp only [List.getElem?_map, List.getElem?_set_self hlt, hm, Option.map_some,
    Option.some.injEq] at hk
  have hcur : (m.flags.clear .current).testFlag .current = m.flags.testFlag .current :=
    congrArg Entry.current hk
  rw [← hcur]
  simp

/-- The flag was taken from the current mode, and there is no mode to give it to. -/
theorem setCurrentMode_agrees_cleared [BEq ρ] (h : Inv mHz ⟨o, client⟩) {size : QSize}
    {refreshRate : ρ} (hunknown : ¬ o.Known size refreshRate) {n : Nat} {m : Server.Mode ρ}
    (hn : o.currentMode = n) (hm : o.modes[n]? = some m) :
    ∃ o', ({ o with
        modes := o.modes.set n { m with flags := m.flags.clear .current } } : Server.Output ρ).switchMode
          size refreshRate = some o' ∧
      (Agrees mHz (deliver mHz ⟨o', client⟩) ↔
        (client ≠ none → m.flags.testFlag .current = false)) ∧
      (Agrees mHz (deliver mHz ⟨o', client⟩) → Inv mHz (deliver mHz ⟨o', client⟩)) := by
  have hlt := (List.getElem?_eq_some_iff.1 hm).1
  have hvalid₀ : o.Valid := h.valid
  set o₁ : Server.Output ρ := { o with
    modes := o.modes.set n { m with flags := m.flags.clear .current } } with ho₁
  have hkeys₁ : keys o₁.modes = keys o.modes := keys_set hm _
  have hat : qAt o₁.modes o₁.currentMode = some { m with flags := m.flags.clear .current } := by
    show qAt (o.modes.set n _) o.currentMode = _
    rw [hn, qAt_of_nonneg (by omega), Int.toNat_natCast, List.getElem?_set_self hlt]
  have hfind : findMode o₁.modes size refreshRate = none :=
    (findMode_congr hkeys₁).trans (findMode_eq_none_of_not_known hunknown)
  rw [switchMode_not_found hfind]
  obtain ⟨o', ho'⟩ := exists_resizeWindow hat
  obtain ⟨hmodes, hindex, houtbox⟩ := resizeWindow_eq ho'
  refine ⟨o', ho', ?_⟩
  have hvalid : o'.Valid := by
    intro g
    rw [hmodes, hindex, ho₁, index_withModes]
    exact (hvalid₀ g).set n _
  have hsame : m.flags.testFlag .current = false → o'.modes = o.modes := fun hflag =>
    hmodes.trans (set_cleared_of_not_testFlag hm hflag)
  have hflag : o'.modes.map (fun m => entry (wire mHz m)) =
      o.modes.map (fun m => entry (wire mHz m)) → m.flags.testFlag .current = false := by
    rw [hmodes]
    exact not_testFlag_of_entries hm
  obtain ⟨hiff, hinv⟩ := agrees_silent h hvalid (houtbox.trans h.outbox)
    (by rw [hmodes]; exact hkeys₁) fun hentries => hsame (hflag hentries)
  refine ⟨hiff.trans (imp_congr Iff.rfl ⟨fun hm => ?_, hsame⟩), hinv⟩
  exact hflag (congrArg (List.map fun m => entry (wire mHz m)) hm)

/-- The modes are sent, or the mode is the current one already. -/
theorem setCurrentMode_agrees_known [BEq ρ] (h : Inv mHz ⟨o, client⟩) {size : QSize} {refreshRate : ρ}
    (hknown : o.Known size refreshRate) :
    ∃ o', o.setCurrentMode size refreshRate = some o' ∧
      Agrees mHz (deliver mHz ⟨o', client⟩) ∧ Inv mHz (deliver mHz ⟨o', client⟩) := by
  have hvalid₀ : o.Valid := h.valid
  rcases setCurrentMode_cases hvalid₀ size refreshRate with ⟨-, heq⟩ | ⟨-, heq⟩ | ⟨m, hm, -, heq⟩
  · exact ⟨o, heq, agrees_same h⟩
  · rw [heq]
    exact switchMode_agrees h hvalid₀ rfl h.outbox hknown
  · rw [heq]
    set o₁ : Server.Output ρ := { o with
      modes := o.modes.set o.currentMode.toNat { m with flags := m.flags.clear .current } }
    have hvalid₁ : o₁.Valid := fun g => by
      rw [index_withModes]
      exact (hvalid₀ g).set _ _
    exact switchMode_agrees h hvalid₁ (keys_set hm _) h.outbox hknown

theorem setCurrentMode_agrees [BEq ρ] (h : Inv mHz ⟨o, client⟩) (size : QSize) (refreshRate : ρ) :
    (CanSwitch ⟨o, client⟩ size refreshRate →
      ∃ o', o.setCurrentMode size refreshRate = some o') ∧
    ∀ o', o.setCurrentMode size refreshRate = some o' →
      (Agrees mHz (deliver mHz ⟨o', client⟩) ↔ CanSwitch ⟨o, client⟩ size refreshRate) ∧
      (Agrees mHz (deliver mHz ⟨o', client⟩) → Inv mHz (deliver mHz ⟨o', client⟩)) := by
  have hvalid₀ : o.Valid := h.valid
  by_cases hknown : o.Known size refreshRate
  · obtain ⟨o', ho', hagrees, hinv⟩ := setCurrentMode_agrees_known h hknown
    refine ⟨fun _ => ⟨o', ho'⟩, fun o'' ho'' => ?_⟩
    obtain rfl : o' = o'' := Option.some.inj (ho'.symm.trans ho'')
    exact ⟨⟨fun _ => Or.inl hknown, fun _ => hagrees⟩, fun _ => hinv⟩
  · obtain ⟨hk, -⟩ | ⟨hc, heq⟩ | ⟨m, hm, hcast, heq⟩ :=
      setCurrentMode_cases hvalid₀ size refreshRate
    · exact absurd hk hknown
    · obtain ⟨hto, hfrom⟩ := switchMode_unknown hknown hc
      rw [heq]
      constructor
      · rintro (hk | ⟨-, hwindow⟩ | ⟨hne, -⟩)
        · exact absurd hk hknown
        · exact ⟨o, hto hwindow⟩
        · exact absurd hc hne
      · intro o' ho'
        obtain ⟨hwindow, rfl⟩ := hfrom o' ho'
        obtain ⟨hagrees, hinv⟩ := agrees_same h
        exact ⟨⟨fun _ => Or.inr (Or.inl ⟨hc, hwindow⟩), fun _ => hagrees⟩, fun _ => hinv⟩
    · obtain ⟨o', ho', hiff, hinv⟩ := setCurrentMode_agrees_cleared h hknown hcast.symm hm
      have hne : o.currentMode ≠ -1 := by omega
      have hat := qAt_of_nonneg (l := o.modes) (show 0 ≤ o.currentMode by omega)
      rw [heq]
      refine ⟨fun _ => ⟨o', ho'⟩, fun o'' ho'' => ?_⟩
      obtain rfl : o' = o'' := Option.some.inj (ho'.symm.trans ho'')
      refine ⟨hiff.trans ⟨fun hflag => ?_, ?_⟩, hinv⟩
      · refine Or.inr (Or.inr ⟨hne, fun hclient mode hmode => ?_⟩)
        obtain rfl := Option.some.inj (hm.symm.trans (hat.symm.trans hmode))
        exact hflag hclient
      · rintro (hk | ⟨hc, -⟩ | ⟨-, hflag⟩) hclient
        · exact absurd hk hknown
        · exact absurd hc hne
        · exact hflag hclient m (hat.trans hm)

theorem setCurrentModeId_agrees [BEq ρ] (h : Inv mHz ⟨o, client⟩) (modeId : Int) :
    (OpOk mHz ⟨o, client⟩ (.call (.setCurrentModeId modeId)) →
      ∃ o', o.setCurrentModeId modeId = some o') ∧
    ∀ o', o.setCurrentModeId modeId = some o' →
      (Agrees mHz (deliver mHz ⟨o', client⟩) ↔
        OpOk mHz ⟨o, client⟩ (.call (.setCurrentModeId modeId))) ∧
      (Agrees mHz (deliver mHz ⟨o', client⟩) → Inv mHz (deliver mHz ⟨o', client⟩)) := by
  obtain ⟨hagrees, hinv⟩ := agrees_same h
  unfold setCurrentModeId
  split
  · next heq =>
    refine ⟨fun _ => ⟨o, rfl⟩, fun o' ho' => ?_⟩
    obtain rfl := Option.some.inj ho'
    exact ⟨⟨fun _ hne => absurd heq hne, fun _ => hagrees⟩, fun _ => hinv⟩
  next hne =>
  split
  · next hrange =>
    refine ⟨fun _ => ⟨o, rfl⟩, fun o' ho' => ?_⟩
    obtain rfl := Option.some.inj ho'
    refine ⟨⟨fun _ _ mode hmode => ?_, fun _ => hagrees⟩, fun _ => hinv⟩
    simp only [qAt] at hmode
    split at hmode
    · have := (List.getElem?_eq_some_iff.1 hmode).1
      omega
    · cases hmode
  · next hrange =>
    have hlt : modeId.toNat < o.modes.length := by omega
    have hat : qAt o.modes modeId = some o.modes[modeId.toNat] := qAt_of_lt (by omega) hlt
    have hok : OpOk mHz ⟨o, client⟩ (.call (.setCurrentModeId modeId)) ↔
        CanSwitch ⟨o, client⟩ o.modes[modeId.toNat].size o.modes[modeId.toNat].refreshRate := by
      constructor
      · exact fun hok => hok hne _ hat
      · intro hcan _ mode hmode
        obtain rfl := Option.some.inj (hat.symm.trans hmode)
        exact hcan
    rw [hat, Option.bind_eq_bind, Option.bind_some, hok]
    exact setCurrentMode_agrees h _ _

/-! ## The other calls -/

/-- Without a window that the size follows, or a current mode, nothing is resized. -/
theorem not_resizes {resize : QSize → QSize}
    (hguard : o.window.isNone ∨ o.sizeFollowsWindow = false ∨ o.currentMode < 0) :
    ¬ Resizes ⟨o, client⟩ resize := by
  rintro ⟨hwindow, hfollow, m, hm, -⟩
  simp only at hwindow hfollow hm
  rcases hguard with hnone | hoff | hneg
  · exact hwindow (Option.isNone_iff_eq_none.1 hnone)
  · rw [hfollow] at hoff
    cases hoff
  · rw [qAt, if_neg (by omega)] at hm
    cases hm

/-- A mode that is sent with another size leaves its old size behind. -/
theorem wireKeys_resize_iff {modes : List (Server.Mode ρ)} (hnodup : (wireKeys mHz modes).Nodup)
    {n : Nat} {m : Server.Mode ρ} (hm : modes[n]? = some m) (size : QSize) :
    ((wireKeys mHz (modes.set n { m with size := size })).Nodup ∧
      wireKeys mHz modes ⊆ wireKeys mHz (modes.set n { m with size := size })) ↔ size = m.size := by
  have hat : (wireKeys mHz modes)[n]? = some (key (wire mHz m)) := by
    unfold wireKeys
    rw [List.getElem?_map, hm]
    rfl
  have hwire : wireKeys mHz (modes.set n { m with size := size }) =
      (wireKeys mHz modes).set n (key (wire mHz { m with size := size })) := List.map_set
  have hkey : key (wire mHz { m with size := size }) = key (wire mHz m) ↔ size = m.size :=
    ⟨congrArg Prod.fst, fun hsame => by rw [hsame]⟩
  rw [hwire, Upsert.subset_set_iff hnodup hat, hkey]
  refine ⟨And.right, fun hsame => ⟨?_, hsame⟩⟩
  rwa [hsame, set_eq_self hat]

theorem resizeCurrentMode_agrees (h : Inv mHz ⟨o, client⟩) (resize : QSize → QSize) :
    ∃ o', o.resizeCurrentMode resize = some o' ∧
      (Agrees mHz (deliver mHz ⟨o', client⟩) ↔ (client ≠ none → ¬ Resizes ⟨o, client⟩ resize)) ∧
      (Agrees mHz (deliver mHz ⟨o', client⟩) → Inv mHz (deliver mHz ⟨o', client⟩)) := by
  have hvalid₀ : o.Valid := h.valid
  unfold resizeCurrentMode
  split
  · next hguard =>
    obtain ⟨hagrees, hinv⟩ := agrees_same h
    exact ⟨o, rfl, ⟨fun _ _ => not_resizes hguard, fun _ => hagrees⟩, fun _ => hinv⟩
  · next hguard =>
    push Not at hguard
    obtain ⟨hwindow, hfollow, hnonneg⟩ := hguard
    have hi : o.index .current ≠ -1 := by simp only [index]; omega
    obtain ⟨m, hm, hcast⟩ := (hvalid₀ .current).exists_getElem hi
    simp only [index] at hm hcast
    rw [qAt_of_nonneg hnonneg, hm, Option.bind_eq_bind, Option.bind_some]
    refine ⟨_, rfl, ?_⟩
    set n := o.currentMode.toNat with hn
    set o' : Server.Output ρ := ({ o with
      modes := o.modes.set n { m with size := resize m.size } } : Server.Output ρ).sendModesInfo with ho'
    have hvalid : o'.Valid := by
      intro g
      have hg := (hvalid₀ g).set n { m with size := resize m.size }
      cases g <;> exact hg
    have hsent : o'.outbox = o'.modes := by
      show o.outbox ++ _ = _
      rw [h.outbox]
      rfl
    have hresizes : Resizes ⟨o, client⟩ resize ↔ resize m.size ≠ m.size := by
      constructor
      · rintro ⟨-, -, m', hm', hne⟩
        rw [qAt_of_nonneg hnonneg, ← hn, hm, Option.some.injEq] at hm'
        rwa [hm']
      · intro hne
        exact ⟨by simpa using hwindow, by simpa using hfollow, m,
          (qAt_of_nonneg hnonneg).trans hm, hne⟩
    obtain ⟨hiff, hinv⟩ := agrees_sent h hvalid hsent
    refine ⟨hiff.trans (forall_congr' fun hc => ?_), hinv⟩
    rw [hresizes, not_not]
    exact wireKeys_resize_iff (h.wireKeys_nodup hc) hm (resize m.size)

/-- The fake mode is the only one then. -/
theorem addMode_fake [BEq ρ] (hindex : ∀ g, o.index g = -1) (houtbox : o.outbox = []) (size : QSize)
    (flags : ModeFlags) (refreshRate : ρ) :
    ∃ o', ({ o with modes := [] } : Server.Output ρ).addMode size flags refreshRate = some o' ∧
      o'.Valid ∧ o'.modes = [⟨flags, size, refreshRate⟩] ∧ o'.outbox = o'.modes := by
  have hvalid : ({ o with modes := [] } : Server.Output ρ).Valid := by
    intro g
    rw [index_withModes, hindex g]
    exact Or.inl rfl
  obtain ⟨o₂, htaken, heq⟩ := addMode_spec hvalid size flags refreshRate
  have hnil : o₂.modes = [] := List.map_eq_nil_iff.1 htaken.keys
  have hfind : findMode o₂.modes size refreshRate = none := by
    rw [hnil]
    rfl
  refine ⟨_, heq, fun g => ?_, ?_, ?_⟩
  · rw [index_appendMode, indexOf_append hfind, htaken.index, index_withModes, hindex g, hnil]
    show IndexOrNone (o₂.modes ++ _) _
    rw [hnil]
    split
    · split
      · exact Or.inr (by simp)
      · exact Or.inl rfl
    · exact Or.inl rfl
  · show o₂.modes ++ _ = _
    rw [hnil]
    rfl
  · show o₂.outbox ++ _ = _
    rw [htaken.outbox, houtbox]
    rfl

theorem valid_initialized (h : o.Valid) (b : Bool) :
    ({ o with initialized := b } : Server.Output ρ).Valid := by
  intro g
  have hg := h g
  cases g <;> exact hg

/-- All modes are sent like one. -/
theorem wireKeys_subset_singleton {modes : List (Server.Mode ρ)} (flags : ModeFlags) (size : QSize)
    (refreshRate : ρ) : wireKeys mHz modes ⊆ wireKeys mHz [⟨flags, size, refreshRate⟩] ↔
      ∀ mode ∈ modes, SentAlike mHz size refreshRate mode := by
  constructor
  · intro hsub mode hmode
    exact (key_wire mHz).1 (List.mem_singleton.1 (hsub (List.mem_map_of_mem hmode)))
  · intro halike k hk
    obtain ⟨mode, hmode, rfl⟩ := List.mem_map.1 hk
    exact List.mem_singleton.2 ((key_wire mHz).2 (halike mode hmode))

theorem addFakeMode_of_no_window [BEq ρ]
    (h : ¬ ∃ window, o.window = some window ∧ o.sizeFollowsWindow = true) : o.addFakeMode = some o := by
  unfold addFakeMode
  split
  · next window hw hf => exact absurd ⟨window, hw, hf⟩ h
  · rfl

/-- The fake mode replaces all others: they have to be sent like it. -/
theorem initializeOutput_agrees [BEq ρ] (h : Inv mHz ⟨o, client⟩) :
    (OpOk mHz ⟨o, client⟩ (.call .initializeOutput) → ∃ o', o.initializeOutput = some o') ∧
    ∀ o', o.initializeOutput = some o' →
      (Agrees mHz (deliver mHz ⟨o', client⟩) ↔ OpOk mHz ⟨o, client⟩ (.call .initializeOutput)) ∧
      (Agrees mHz (deliver mHz ⟨o', client⟩) → Inv mHz (deliver mHz ⟨o', client⟩)) := by
  unfold initializeOutput
  by_cases hwindow : ∃ window, o.window = some window ∧ o.sizeFollowsWindow = true
  · obtain ⟨window, hw, hf⟩ := hwindow
    rw [addFakeMode_eq hw hf]
    by_cases hindex : ∀ g, o.index g = -1
    · obtain ⟨o₁, ho₁, hvalid₁, hmodes₁, hsent₁⟩ := addMode_fake hindex h.outbox window.size
        fakeModeFlags window.screenRefreshRate
      rw [ho₁, Option.map_some]
      refine ⟨fun _ => ⟨_, rfl⟩, fun o' ho' => ?_⟩
      obtain rfl := Option.some.inj ho'
      obtain ⟨hiff, hinv⟩ := agrees_sent h (valid_initialized hvalid₁ true) hsent₁
      refine ⟨hiff.trans ?_, hinv⟩
      rw [hmodes₁]
      have hsub : wireKeys mHz o.modes ⊆ wireKeys mHz
          [⟨fakeModeFlags, window.size, window.screenRefreshRate⟩] ↔ _ := wireKeys_subset_singleton ..
      constructor
      · intro hc window' hw' _
        obtain rfl := Option.some.inj (hw.symm.trans hw')
        exact ⟨hindex, fun hclient => hsub.1 (hc hclient).2⟩
      · intro hok hclient
        exact ⟨List.nodup_singleton _, hsub.2 ((hok window hw hf).2 hclient)⟩
    · obtain ⟨g, hg⟩ := not_forall.1 hindex
      rw [addMode_nil_eq_none g testFlag_fakeModeFlags rfl (by rwa [index_withModes])]
      exact ⟨fun hok => absurd (hok window hw hf).1 hindex, fun o' ho' => by cases ho'⟩
  · rw [addFakeMode_of_no_window hwindow, Option.map_some]
    refine ⟨fun _ => ⟨_, rfl⟩, fun o' ho' => ?_⟩
    obtain rfl := Option.some.inj ho'
    obtain ⟨hiff, hinv⟩ := agrees_silent h (valid_initialized h.valid true) h.outbox rfl fun _ => rfl
    refine ⟨⟨fun _ window hw hf => absurd ⟨window, hw, hf⟩ hwindow, fun _ => ?_⟩, hinv⟩
    exact hiff.2 fun _ => rfl

theorem wireKeys_nodup_iff {modes : List (Server.Mode ρ)} : (wireKeys mHz modes).Nodup ↔
    modes.Pairwise fun a b => ¬ SentAlike mHz b.size b.refreshRate a := by
  unfold wireKeys List.Nodup
  rw [List.pairwise_map]
  refine ⟨fun h => h.imp fun hne halike => ?_, fun h => h.imp fun hne heq => ?_⟩
  · exact hne ((key_wire mHz).2 halike)
  · exact hne ((key_wire mHz).1 heq)

/-- A client that binds gets all modes at once. -/
theorem bindResource_agrees [BEq ρ] {s : Session ρ} (h : Inv mHz s) :
    (Agrees mHz (bindResource mHz s) ↔ OpOk mHz s .bindResource) ∧
      (Agrees mHz (bindResource mHz s) → Inv mHz (bindResource mHz s)) := by
  unfold bindResource
  split
  · next hbind =>
    set c := receive mHz (Client.Output.init ⟨0, 0⟩) s.server.modes with hc
    have hmodes : c.modes = merge key [] (s.server.modes.map (wire mHz)) := receive_modes ..
    have hnil : (([] : List Client.Mode).map key).Nodup := List.nodup_nil
    have hto : Agrees mHz { s with client := some c } → (wireKeys mHz s.server.modes).Nodup := by
      intro hagrees
      have hp := hagrees c rfl
      have hp : (c.modes.map entry).Perm ((s.server.modes.map (wire mHz)).map entry) := by
        rw [List.map_map]
        exact hp
      rw [hmodes] at hp
      rw [wireKeys_eq]
      exact (of_keys_perm hnil (keys_perm_of_entries hp)).1
    have hfrom : (wireKeys mHz s.server.modes).Nodup → Inv mHz { s with client := some c } := by
      intro hnodup
      rw [wireKeys_eq] at hnodup
      refine ⟨h.valid, h.outbox, fun c' hc' => ?_, fun c' hc' => ?_⟩
      all_goals
        obtain rfl := Option.some.inj hc'
        rw [hmodes]
      · exact nodup_merge hnil _
      · exact merge_perm hnil hnodup (List.nil_subset _)
    refine ⟨⟨fun ha _ _ => wireKeys_nodup_iff.1 (hto ha), fun hok => ?_⟩, fun ha => hfrom (hto ha)⟩
    exact (hfrom (wireKeys_nodup_iff.2 (hok hbind.1 hbind.2))).agrees mHz
  · next hbind =>
    exact ⟨⟨fun _ hi hc => absurd ⟨hi, hc⟩ hbind, fun _ => h.agrees mHz⟩, fun _ => h⟩

/-! ## Runs -/

/-- What a call of the server does is what `deliver` makes of it. -/
theorem settled_of_call {call : Option (Server.Output ρ)} {P : Prop}
    (hto : P → ∃ o', call = some o')
    (hfrom : ∀ o', call = some o' → (Agrees mHz (deliver mHz ⟨o', client⟩) ↔ P) ∧
      (Agrees mHz (deliver mHz ⟨o', client⟩) → Inv mHz (deliver mHz ⟨o', client⟩))) :
    (P → ∃ s', (call.map fun o' => deliver mHz ⟨o', client⟩) = some s') ∧
      ∀ s', (call.map fun o' => deliver mHz ⟨o', client⟩) = some s' →
        (Agrees mHz s' ↔ P) ∧ (Agrees mHz s' → Inv mHz s') := by
  refine ⟨fun hP => ?_, fun s' hs' => ?_⟩
  · obtain ⟨o', rfl⟩ := hto hP
    exact ⟨_, rfl⟩
  · obtain ⟨o', ho', rfl⟩ := Option.map_eq_some_iff.1 hs'
    exact hfrom o' ho'

/-- A call that always returns. -/
theorem settled_of_returns {call : Option (Server.Output ρ)} {P : Prop}
    (h : ∃ o', call = some o' ∧ (Agrees mHz (deliver mHz ⟨o', client⟩) ↔ P) ∧
      (Agrees mHz (deliver mHz ⟨o', client⟩) → Inv mHz (deliver mHz ⟨o', client⟩))) :
    (P → ∃ s', (call.map fun o' => deliver mHz ⟨o', client⟩) = some s') ∧
      ∀ s', (call.map fun o' => deliver mHz ⟨o', client⟩) = some s' →
        (Agrees mHz s' ↔ P) ∧ (Agrees mHz s' → Inv mHz s') := by
  obtain ⟨o', rfl, ho'⟩ := h
  refine settled_of_call (fun _ => ⟨o', rfl⟩) fun o'' ho'' => ?_
  obtain rfl := Option.some.inj ho''
  exact ho'

/-- A call that meets its condition does not fault, and a call that returns leaves
the two sides in agreement exactly if it met its condition. -/
theorem step_agrees [BEq ρ] {s : Session ρ} (h : Inv mHz s) (op : Op ρ) :
    (OpOk mHz s op → ∃ s', step mHz s op = some s') ∧
    ∀ s', step mHz s op = some s' →
      (Agrees mHz s' ↔ OpOk mHz s op) ∧ (Agrees mHz s' → Inv mHz s') := by
  obtain ⟨o, client⟩ := s
  cases op with
  | call op =>
    cases op with
    | initializeOutput =>
      obtain ⟨hto, hfrom⟩ := initializeOutput_agrees h
      exact settled_of_call hto hfrom
    | addMode size flags refreshRate =>
      exact settled_of_returns (addMode_agrees h size flags refreshRate)
    | setCurrentMode size refreshRate =>
      obtain ⟨hto, hfrom⟩ := setCurrentMode_agrees h size refreshRate
      exact settled_of_call hto hfrom
    | setCurrentModeId modeId =>
      obtain ⟨hto, hfrom⟩ := setCurrentModeId_agrees h modeId
      exact settled_of_call hto hfrom
  | handleSetWidth newWidth => exact settled_of_returns (resizeCurrentMode_agrees h _)
  | handleSetHeight newHeight => exact settled_of_returns (resizeCurrentMode_agrees h _)
  | bindResource =>
    refine ⟨fun _ => ⟨_, rfl⟩, fun s' hs' => ?_⟩
    obtain rfl := Option.some.inj hs'
    exact bindResource_agrees h

end

/-- **The client has the modes of the compositor after every call of the runs
whose calls all meet `OpOk`, and of no others.** -/
theorem modes_agree_iff [BEq ρ] (window : Option (Server.QWindow ρ)) (sizeFollowsWindow : Bool)
    (ops : List (Op ρ)) :
    Run.Always (step mHz) (Agrees mHz) (init window sizeFollowsWindow) ops ↔
      Run.Meets (step mHz) (OpOk mHz) (init window sizeFollowsWindow) ops := by
  have hinit := inv_init mHz window sizeFollowsWindow
  apply Run.always_iff_meets (I := Inv mHz) _ _ _ ops _ (hinit.agrees mHz) hinit
  · intro s op h hok
    obtain ⟨s', hs'⟩ := (step_agrees h op).1 hok
    exact ⟨s', hs', ((step_agrees h op).2 s' hs').1.2 hok⟩
  · exact fun s op s' h hs' hagrees => ((step_agrees h op).2 s' hs').2 hagrees
  · exact fun s op s' h hs' hagrees => ((step_agrees h op).2 s' hs').1.1 hagrees

end

/-- A client is bound and the window is made wider: the client keeps the mode of
the old size beside the new one. -/
theorem modes_not_agree :
    ¬ Run.Always (step id) (Agrees id) (init (some ⟨⟨800, 600⟩, 60000⟩) true)
      [.call .initializeOutput, .bindResource, .handleSetWidth 1024] := by
  rintro ⟨-, _, ⟨⟩, -, _, ⟨⟩, -, _, ⟨⟩, h, -⟩
  have hlen := (h _ rfl).length_eq
  revert hlen
  decide +kernel

end GreenIsland.OutputAgreement
