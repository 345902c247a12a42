import GreenIsland.Compositor.DataDeviceManager
import GreenIsland.Lib.Run
import Mathlib.Data.List.Nodup

/-! Pipes that are read for the selection, and what the compositor may be asked.

`Inv` is what every call keeps; what the calls do is stated in equations (`retain_eq`,
`readFromClient_part`, `setCurrentSelectionSource_selected` and so on).

`pipes_drained`: the compositor closes its end of a pipe after the client has closed the other and
everything was read, in any run.  A selection that follows one whose source was destroyed is the
one thing that clients can bring it down with. -/

namespace GreenIsland.Compositor

namespace DataDeviceManager

variable {w w' : DataDeviceManager} {fd : Nat} {pipe pipe' : Pipe} {s : Nat}
  {source : DataSource} {mimeType : String} {piped : Bool}

/-! ## The invariant -/

/-- The pipe is read for a format of the current selection. -/
structure Reads (w : DataDeviceManager) (fd : Nat) (s : Nat) (source : DataSource)
    (pipe : Pipe) : Prop where
  current : w.currentSelectionSource = some s
  alive : w.sources s = some source
  format : source.mimeTypes[w.retainedReadIndex]? = some pipe.mimeType
  opened : w.pipes fd = some pipe
  from_source : pipe.source = s
  so_far : pipe.written = w.retainedReadBuf ++ pipe.unread

structure Inv (w : DataDeviceManager) : Prop where
  current_lt : ∀ s, w.currentSelectionSource = some s → s < w.nextSource
  source_lt : ∀ s source, w.sources s = some source → s < w.nextSource
  pipe_lt : ∀ fd pipe, w.pipes fd = some pipe → fd < w.nextFd
  manager : ∀ s source, w.currentSelectionSource = some s → w.sources s = some source →
    source.manager = true
  reads : ∀ fd, w.retainedReadNotifier = some fd → ∃ s source pipe, w.Reads fd s source pipe
  watched : ∀ fd, fd ∈ w.notifiers ↔ ∃ pipe, w.pipes fd = some pipe ∧ pipe.readEnd = true
  nodup : w.notifiers.Nodup
  drained : ∀ fd pipe, w.pipes fd = some pipe → pipe.readEnd = false →
    pipe.writeEnd = false ∧ pipe.unread = []

theorem inv_new : new.Inv := by
  refine ⟨?_, ?_, ?_, ?_, ?_, ?_, List.nodup_nil, ?_⟩
  · intro s hs
    cases hs
  · intro s source hsource
    cases hsource
  · intro fd pipe hpipe
    cases hpipe
  · intro s source hs
    cases hs
  · intro fd hfd
    cases hfd
  · intro fd
    simp [new, notifiers]
  · intro fd pipe hpipe
    cases hpipe

/-- What is kept and offered does not matter. -/
theorem Inv.withData (h : w.Inv) (retainSelection : Bool) (retainedData : MimeData)
    (compositorOwnsSelection : Bool) (fed : List MimeData) (offered : List (Nat × List String)) :
    { w with
      retainSelection := retainSelection
      retainedData := retainedData
      compositorOwnsSelection := compositorOwnsSelection
      fed := fed
      offered := offered }.Inv := by
  refine ⟨h.current_lt, h.source_lt, h.pipe_lt, h.manager, ?_, h.watched, h.nodup, h.drained⟩
  intro fd hfd
  obtain ⟨s, source, pipe, hreads⟩ := h.reads fd hfd
  exact ⟨s, source, pipe, hreads.1, hreads.2, hreads.3, hreads.4, hreads.5, hreads.6⟩

theorem Inv.feed (h : w.Inv) : w.feedRetainedSelectionData.Inv := by
  unfold feedRetainedSelectionData
  split
  · exact h.withData w.retainSelection w.retainedData w.compositorOwnsSelection _ w.offered
  · exact h

/-! ## Reads that begin and end -/

theorem mem_notifiers_finish : fd ∈ w.finishReadFromClient.notifiers ↔ fd ∈ w.notifiers := by
  simp only [notifiers, finishReadFromClient, Option.toList_none, List.nil_append, List.mem_append]
  exact or_comm

theorem Inv.finish (h : w.Inv) : w.finishReadFromClient.Inv := by
  refine ⟨h.current_lt, h.source_lt, h.pipe_lt, h.manager, ?_, ?_, ?_, h.drained⟩
  · intro fd hfd
    cases hfd
  · intro fd
    rw [mem_notifiers_finish]
    exact h.watched fd
  · show ([] ++ (w.obsoleteRetainedReadNotifiers ++ w.retainedReadNotifier.toList)).Nodup
    rw [List.nil_append]
    exact List.perm_append_comm.nodup h.nodup

theorem finish_of_none (hnone : w.retainedReadNotifier = none) : w.finishReadFromClient = w := by
  unfold finishReadFromClient
  rw [hnone, Option.toList_none, List.append_nil, ← hnone]

theorem retain_eq (hs : w.currentSelectionSource = some s) (hsource : w.sources s = some source)
    (hnone : w.retainedReadNotifier = none) (piped : Bool) :
    w.retain piped = some (match source.mimeTypes[w.retainedReadIndex]? with
      | none => w.feedRetainedSelectionData
      | some mimeType => if piped then w.clearReadBuf.request s mimeType else w.clearReadBuf) := by
  unfold retain
  simp only [hs, hsource, Option.bind_eq_bind, Option.bind_some, finish_of_none hnone]
  cases source.mimeTypes[w.retainedReadIndex]? <;> rfl

theorem Inv.clearReadBuf (h : w.Inv) (hnone : w.retainedReadNotifier = none) :
    w.clearReadBuf.Inv := by
  refine ⟨h.current_lt, h.source_lt, h.pipe_lt, h.manager, ?_, h.watched, h.nodup, h.drained⟩
  intro fd hfd
  cases hnone.symm.trans hfd

theorem Inv.request (h : w.Inv) (hs : w.currentSelectionSource = some s)
    (hsource : w.sources s = some source) (hnone : w.retainedReadNotifier = none)
    (hformat : source.mimeTypes[w.retainedReadIndex]? = some mimeType) (hbuf : w.retainedReadBuf = []) :
    (w.request s mimeType).Inv := by
  have hfree : w.pipes w.nextFd = none := by
    cases hpipe : w.pipes w.nextFd with
    | none => rfl
    | some pipe => exact absurd (h.pipe_lt _ pipe hpipe) (by omega)
  have hother : ∀ fd, fd ≠ w.nextFd → (w.request s mimeType).pipes fd = w.pipes fd :=
    fun fd hne => Function.update_of_ne hne _ _
  have hself : (w.request s mimeType).pipes w.nextFd = some ⟨[], true, true, s, mimeType, []⟩ :=
    Function.update_self ..
  refine ⟨h.current_lt, h.source_lt, ?_, h.manager, ?_, ?_, ?_, ?_⟩
  · intro fd pipe hpipe
    show fd < w.nextFd + 1
    by_cases hfd : fd = w.nextFd
    · omega
    · rw [hother fd hfd] at hpipe
      have := h.pipe_lt fd pipe hpipe
      omega
  · rintro _ ⟨⟩
    exact ⟨s, source, ⟨[], true, true, s, mimeType, []⟩, hs, hsource, hformat, hself, rfl,
      hbuf.symm.trans (List.append_nil _).symm⟩
  · intro fd
    show fd ∈ w.nextFd :: w.obsoleteRetainedReadNotifiers ↔ _
    by_cases hfd : fd = w.nextFd
    · subst hfd
      simp [hself]
    · have hmem := h.watched fd
      rw [notifiers, hnone] at hmem
      rw [hother fd hfd, List.mem_cons, or_iff_right hfd]
      exact hmem
  · show (w.nextFd :: w.obsoleteRetainedReadNotifiers).Nodup
    have hnodup := h.nodup
    rw [notifiers, hnone] at hnodup
    refine List.nodup_cons.2 ⟨?_, hnodup⟩
    intro hmem
    obtain ⟨pipe, hpipe, -⟩ := (h.watched w.nextFd).1 (List.mem_append_right _ hmem)
    rw [hfree] at hpipe
    cases hpipe
  · intro fd pipe hpipe hend
    by_cases hfd : fd = w.nextFd
    · subst hfd
      rw [hself] at hpipe
      cases hpipe
      cases hend
    · rw [hother fd hfd] at hpipe
      exact h.drained fd pipe hpipe hend

theorem Inv.retain (h : w.Inv) (hs : w.currentSelectionSource = some s)
    (hsource : w.sources s = some source) (hnone : w.retainedReadNotifier = none) (piped : Bool) :
    ∃ w', w.retain piped = some w' ∧ w'.Inv := by
  refine ⟨_, retain_eq hs hsource hnone piped, ?_⟩
  cases hformat : source.mimeTypes[w.retainedReadIndex]? with
  | none => exact h.feed
  | some mimeType =>
    cases piped with
    | false => exact h.clearReadBuf hnone
    | true => exact (h.clearReadBuf hnone).request hs hsource hnone hformat rfl

/-! ## Pipes -/

@[simp] theorem putPipe_self : (w.putPipe fd pipe).pipes fd = some pipe := Function.update_self ..

theorem putPipe_ne {fd' : Nat} (hne : fd' ≠ fd) : (w.putPipe fd pipe).pipes fd' = w.pipes fd' :=
  Function.update_of_ne hne ..

/-- Something is written or read, or the write end is closed. -/
theorem Inv.putPipe (h : w.Inv) (pipe' : Pipe) (hpipe : w.pipes fd = some pipe)
    (hend : pipe'.readEnd = pipe.readEnd)
    (hdrained : pipe'.readEnd = false → pipe'.writeEnd = false ∧ pipe'.unread = [])
    (hsource : pipe'.source = pipe.source) (hmime : pipe'.mimeType = pipe.mimeType) {buf : List UInt8}
    (hself : w.retainedReadNotifier = some fd → pipe.written = w.retainedReadBuf ++ pipe.unread →
      pipe'.written = buf ++ pipe'.unread)
    (hbuf : w.retainedReadNotifier ≠ some fd → buf = w.retainedReadBuf) :
    { w.putPipe fd pipe' with retainedReadBuf := buf }.Inv := by
  refine ⟨h.current_lt, h.source_lt, ?_, h.manager, ?_, ?_, h.nodup, ?_⟩
  · intro fd' p hp
    by_cases hfd : fd' = fd
    · exact hfd ▸ h.pipe_lt fd pipe hpipe
    · exact h.pipe_lt fd' p ((putPipe_ne hfd).symm.trans hp)
  · intro fd' hfd'
    obtain ⟨s, source, p, hreads⟩ := h.reads fd' hfd'
    by_cases hfd : fd' = fd
    · subst hfd
      obtain rfl : p = pipe := Option.some.inj (hreads.opened.symm.trans hpipe)
      refine ⟨s, source, pipe', hreads.current, hreads.alive, ?_, putPipe_self, ?_, ?_⟩
      · rw [hmime]
        exact hreads.format
      · rw [hsource]
        exact hreads.from_source
      · exact hself hfd' hreads.so_far
    · have hne : w.retainedReadNotifier ≠ some fd := by
        intro heq
        exact hfd (Option.some.inj (hfd'.symm.trans heq))
      refine ⟨s, source, p, hreads.current, hreads.alive, hreads.format, ?_, hreads.from_source, ?_⟩
      · exact (putPipe_ne hfd).trans hreads.opened
      · show p.written = buf ++ p.unread
        rw [hbuf hne]
        exact hreads.so_far
  · intro fd'
    refine (h.watched fd').trans ?_
    by_cases hfd : fd' = fd
    · subst hfd
      show _ ↔ ∃ p, (w.putPipe fd' pipe').pipes fd' = some p ∧ _
      simp only [hpipe, putPipe_self, Option.some.injEq, exists_eq_left', hend]
    · show _ ↔ ∃ p, (w.putPipe fd pipe').pipes fd' = some p ∧ _
      rw [putPipe_ne hfd]
  · intro fd' p hp
    by_cases hfd : fd' = fd
    · subst hfd
      obtain rfl : pipe' = p := Option.some.inj (putPipe_self.symm.trans hp)
      exact hdrained
    · exact h.drained fd' p ((putPipe_ne hfd).symm.trans hp)

theorem Inv.write (h : w.Inv) (fd : Nat) (bytes : List UInt8) : (w.write fd bytes).Inv := by
  unfold DataDeviceManager.write
  cases hpipe : w.pipes fd with
  | none => exact h
  | some pipe =>
    dsimp only
    split
    · rename_i hends
      refine h.putPipe { pipe with unread := pipe.unread ++ bytes, written := pipe.written ++ bytes }
        hpipe rfl ?_ rfl rfl ?_ fun _ => rfl
      · intro hread
        rw [hends.2] at hread
        cases hread
      · intro _ hwritten
        show pipe.written ++ bytes = _ ++ (pipe.unread ++ bytes)
        rw [hwritten, List.append_assoc]
    · exact h

theorem Inv.closeWriteEnd (h : w.Inv) (fd : Nat) : (w.closeWriteEnd fd).Inv := by
  unfold DataDeviceManager.closeWriteEnd
  cases hpipe : w.pipes fd with
  | none => exact h
  | some pipe =>
    refine h.putPipe { pipe with writeEnd := false } hpipe rfl ?_ rfl rfl (fun _ hwritten => hwritten)
      fun _ => rfl
    intro hread
    exact ⟨rfl, (h.drained fd pipe hpipe hread).2⟩

/-- The read end is closed once the write end is and nothing is left; the notifier goes with it. -/
theorem Inv.closeReadEnd (h : w.Inv) (hpipe : w.pipes fd = some pipe) (hwrite : pipe.writeEnd = false)
    {notifier : Option Nat} {obsolete : List Nat}
    (hperm : w.notifiers.Perm (fd :: (notifier.toList ++ obsolete)))
    (hnotifier : ∀ fd', notifier = some fd' → w.retainedReadNotifier = some fd') :
    { w.putPipe fd { pipe with unread := [], readEnd := false } with
      retainedReadNotifier := notifier
      obsoleteRetainedReadNotifiers := obsolete }.Inv := by
  obtain ⟨hfresh, hnodup⟩ := List.nodup_cons.1 (hperm.nodup h.nodup)
  refine ⟨h.current_lt, h.source_lt, ?_, h.manager, ?_, ?_, hnodup, ?_⟩
  · intro fd' p hp
    by_cases hfd : fd' = fd
    · exact hfd ▸ h.pipe_lt fd pipe hpipe
    · exact h.pipe_lt fd' p ((putPipe_ne hfd).symm.trans hp)
  · intro fd' hfd'
    obtain ⟨s, source, p, hreads⟩ := h.reads fd' (hnotifier fd' hfd')
    have hne : fd' ≠ fd := by
      rintro rfl
      apply hfresh
      rw [show notifier = some fd' from hfd']
      exact List.mem_append_left _ (List.mem_singleton_self _)
    exact ⟨s, source, p, hreads.current, hreads.alive, hreads.format,
      (putPipe_ne hne).trans hreads.opened, hreads.from_source, hreads.so_far⟩
  · intro fd'
    show fd' ∈ notifier.toList ++ obsolete ↔
      ∃ p, (w.putPipe fd { pipe with unread := [], readEnd := false }).pipes fd' = some p ∧ _
    have hmem := h.watched fd'
    rw [hperm.mem_iff, List.mem_cons] at hmem
    by_cases hfd : fd' = fd
    · subst hfd
      simp [hfresh]
    · rw [putPipe_ne hfd, ← hmem, or_iff_right hfd]
  · intro fd' p hp hend
    by_cases hfd : fd' = fd
    · subst hfd
      obtain rfl := Option.some.inj (putPipe_self.symm.trans hp)
      exact ⟨hwrite, rfl⟩
    · exact h.drained fd' p ((putPipe_ne hfd).symm.trans hp) hend

/-! ## A notifier is activated -/

theorem mem_notifiers (hobsolete : fd ∉ w.obsoleteRetainedReadNotifiers) :
    fd ∈ w.notifiers ↔ w.retainedReadNotifier = some fd := by
  simp [notifiers, hobsolete, Option.mem_toList]

/-- What is read of an obsolete pipe -/
theorem readFromClient_obsolete (hpipe : w.pipes fd = some pipe)
    (hobsolete : fd ∈ w.obsoleteRetainedReadNotifiers) :
    w.readFromClient fd piped = some (if pipe.writeEnd then w.putPipe fd { pipe with unread := [] } else
      { w.putPipe fd { pipe with unread := [], readEnd := false } with
        obsoleteRetainedReadNotifiers := w.obsoleteRetainedReadNotifiers.erase fd }) := by
  unfold readFromClient
  simp only [hpipe, Option.bind_eq_bind, Option.bind_some, if_pos hobsolete]
  split <;> rfl

/-- A part of the data -/
theorem readFromClient_part (hpipe : w.pipes fd = some pipe)
    (hobsolete : fd ∉ w.obsoleteRetainedReadNotifiers) (hunread : pipe.unread ≠ []) :
    w.readFromClient fd piped = some { w.putPipe fd { pipe with unread := pipe.unread.drop 4096 } with
      retainedReadBuf := w.retainedReadBuf ++ pipe.unread.take 4096 } := by
  unfold readFromClient
  simp only [hpipe, Option.bind_eq_bind, Option.bind_some, if_neg hobsolete, if_pos hunread]
  rfl

/-- No data yet -/
theorem readFromClient_again (hpipe : w.pipes fd = some pipe)
    (hobsolete : fd ∉ w.obsoleteRetainedReadNotifiers) (hunread : pipe.unread = [])
    (hwrite : pipe.writeEnd = true) : w.readFromClient fd piped = some w := by
  have hempty : ¬pipe.unread ≠ [] := fun hne => hne hunread
  unfold readFromClient
  simp only [hpipe, Option.bind_eq_bind, Option.bind_some, if_neg hobsolete, if_neg hempty,
    if_pos hwrite]
  rfl

/-- All of the format's data is there. -/
def exhausted (w : DataDeviceManager) (fd : Nat) (pipe : Pipe) : DataDeviceManager :=
  { w.putPipe fd { pipe with readEnd := false } with
    retainedReadNotifier := none
    retainedData := w.retainedData.setData pipe.mimeType w.retainedReadBuf
    retainedReadIndex := w.retainedReadIndex + 1 }

theorem readFromClient_end (hreads : w.Reads fd s source pipe)
    (hobsolete : fd ∉ w.obsoleteRetainedReadNotifiers) (hunread : pipe.unread = [])
    (hwrite : pipe.writeEnd = false) :
    w.readFromClient fd piped = (w.exhausted fd pipe).retain piped := by
  have hopen : ¬pipe.writeEnd = true := by simp [hwrite]
  have hempty : ¬pipe.unread ≠ [] := fun hne => hne hunread
  unfold readFromClient
  simp only [hreads.opened, Option.bind_eq_bind, Option.bind_some, if_neg hobsolete, if_neg hempty,
    if_neg hopen]
  show (w.currentSelectionSource.bind fun s => (w.sources s).bind fun source =>
    (source.mimeTypes[w.retainedReadIndex]?).bind _) = _
  simp only [hreads.current, hreads.alive, hreads.format, Option.bind_some]
  rfl

theorem Inv.exhausted (h : w.Inv) (hpipe : w.pipes fd = some pipe)
    (hnotifier : w.retainedReadNotifier = some fd) (hunread : pipe.unread = [])
    (hwrite : pipe.writeEnd = false) : (w.exhausted fd pipe).Inv := by
  have hperm : w.notifiers.Perm
      (fd :: ((none : Option Nat).toList ++ w.obsoleteRetainedReadNotifiers)) := by
    rw [notifiers, hnotifier]
    exact .refl _
  have hclosed := h.closeReadEnd hpipe hwrite hperm fun fd' hfd' => by cases hfd'
  rw [show ({ pipe with unread := [], readEnd := false } : Pipe) = { pipe with readEnd := false } by
    rw [← hunread]] at hclosed
  refine ⟨hclosed.current_lt, hclosed.source_lt, hclosed.pipe_lt, hclosed.manager, ?_,
    hclosed.watched, hclosed.nodup, hclosed.drained⟩
  intro fd' hfd'
  cases hfd'

theorem Inv.readFromClient (h : w.Inv) (hfd : fd ∈ w.notifiers) (piped : Bool) :
    ∃ w', w.readFromClient fd piped = some w' ∧ w'.Inv := by
  obtain ⟨pipe, hpipe, hread⟩ := (h.watched fd).1 hfd
  by_cases hobsolete : fd ∈ w.obsoleteRetainedReadNotifiers
  · refine ⟨_, readFromClient_obsolete hpipe hobsolete, ?_⟩
    split
    · refine h.putPipe { pipe with unread := [] } hpipe rfl ?_ rfl rfl ?_ fun _ => rfl
      · intro hend
        rw [show pipe.readEnd = false from hend] at hread
        cases hread
      · intro hnotifier
        have hdisjoint := List.disjoint_of_nodup_append h.nodup
        exact absurd hobsolete (hdisjoint (Option.mem_toList.2 hnotifier))
    · rename_i hwrite
      refine h.closeReadEnd hpipe (by simpa using hwrite) ?_ fun _ hnotifier => hnotifier
      show (w.retainedReadNotifier.toList ++ w.obsoleteRetainedReadNotifiers).Perm _
      refine (List.perm_append_left_iff _ |>.2 (List.perm_cons_erase hobsolete)).trans ?_
      exact List.perm_middle
  · have hnotifier := (mem_notifiers hobsolete).1 hfd
    obtain ⟨s, source, pipe', hreads⟩ := h.reads fd hnotifier
    obtain rfl : pipe' = pipe := Option.some.inj (hreads.opened.symm.trans hpipe)
    by_cases hunread : pipe'.unread = []
    · cases hwrite : pipe'.writeEnd with
      | true => exact ⟨w, readFromClient_again hpipe hobsolete hunread hwrite, h⟩
      | false =>
        rw [readFromClient_end hreads hobsolete hunread hwrite]
        exact (h.exhausted hpipe hnotifier hunread hwrite).retain hreads.current hreads.alive rfl piped
    · refine ⟨_, readFromClient_part hpipe hobsolete hunread, ?_⟩
      refine h.putPipe { pipe' with unread := pipe'.unread.drop 4096 } hpipe rfl ?_ rfl rfl ?_ ?_
      · intro hend
        rw [show pipe'.readEnd = false from hend] at hread
        cases hread
      · intro _ hwritten
        show pipe'.written = _ ++ pipe'.unread.drop 4096
        rw [hwritten, List.append_assoc, List.take_append_drop]
      · exact fun hne => absurd hnotifier hne

/-! ## Sources come and go -/

/-- The current selection is the same, or has more formats. -/
theorem Inv.putSource (h : w.Inv) (hsource : w.sources s = some source)
    {source' : DataSource} (hmanager : source'.manager = source.manager)
    (hformats : source.mimeTypes <+: source'.mimeTypes) :
    { w with sources := Function.update w.sources s (some source') }.Inv := by
  refine ⟨h.current_lt, ?_, h.pipe_lt, ?_, ?_, h.watched, h.nodup, h.drained⟩
  · intro s₀ source₀ hsource₀
    by_cases hs : s₀ = s
    · exact hs ▸ h.source_lt s source hsource
    · exact h.source_lt s₀ source₀ ((Function.update_of_ne hs _ _).symm.trans hsource₀)
  · intro s₀ source₀ hs₀ hsource₀
    by_cases hs : s₀ = s
    · subst hs
      obtain rfl := Option.some.inj ((Function.update_self s₀ _ w.sources).symm.trans hsource₀)
      rw [hmanager]
      exact h.manager s₀ source hs₀ hsource
    · exact h.manager s₀ source₀ hs₀ ((Function.update_of_ne hs _ _).symm.trans hsource₀)
  · intro fd hfd
    obtain ⟨s₀, source₀, pipe, hreads⟩ := h.reads fd hfd
    by_cases hs : s₀ = s
    · subst hs
      obtain rfl : source₀ = source := Option.some.inj (hreads.alive.symm.trans hsource)
      refine ⟨s₀, source', pipe, hreads.current, Function.update_self .., ?_, hreads.opened,
        hreads.from_source, hreads.so_far⟩
      obtain ⟨more, hmore⟩ := hformats
      have hlt := (List.getElem?_eq_some_iff.1 hreads.format).1
      rw [← hmore, List.getElem?_append_left hlt]
      exact hreads.format
    · exact ⟨s₀, source₀, pipe, hreads.current, (Function.update_of_ne hs _ _).trans hreads.alive,
        hreads.format, hreads.opened, hreads.from_source, hreads.so_far⟩

theorem Inv.createDataSource (h : w.Inv) (time : Nat) : (w.createDataSource time).Inv := by
  have hother : ∀ s, w.currentSelectionSource = some s →
      (w.createDataSource time).sources s = w.sources s := by
    intro s hs
    have hlt := h.current_lt s hs
    exact Function.update_of_ne (by omega) _ _
  refine ⟨?_, ?_, h.pipe_lt, ?_, ?_, h.watched, h.nodup, h.drained⟩
  · intro s hs
    have hlt := h.current_lt s hs
    show s < w.nextSource + 1
    omega
  · intro s source hsource
    show s < w.nextSource + 1
    by_cases hs : s = w.nextSource
    · omega
    · have hlt := h.source_lt s source ((Function.update_of_ne hs _ _).symm.trans hsource)
      omega
  · intro s source hs hsource
    exact h.manager s source hs ((hother s hs).symm.trans hsource)
  · intro fd hfd
    obtain ⟨s, source, pipe, hreads⟩ := h.reads fd hfd
    exact ⟨s, source, pipe, hreads.current, (hother s hreads.current).trans hreads.alive, hreads.format,
      hreads.opened, hreads.from_source, hreads.so_far⟩

theorem Inv.offer (h : w.Inv) (s : Nat) (mimeType : String) : (w.offer s mimeType).Inv := by
  unfold DataDeviceManager.offer
  cases hsource : w.sources s with
  | none => exact h
  | some source => exact h.putSource hsource rfl (List.prefix_append _ _)

/-- Without the source, a read that goes on is not one of its formats. -/
theorem Inv.withoutSource (h : w.Inv)
    (hs : w.currentSelectionSource = some s → w.retainedReadNotifier = none) :
    { w with sources := Function.update w.sources s none }.Inv := by
  refine ⟨h.current_lt, ?_, h.pipe_lt, ?_, ?_, h.watched, h.nodup, h.drained⟩
  · intro s₀ source₀ hsource₀
    by_cases heq : s₀ = s
    · subst heq
      cases (Function.update_self s₀ _ w.sources).symm.trans hsource₀
    · exact h.source_lt s₀ source₀ ((Function.update_of_ne heq _ _).symm.trans hsource₀)
  · intro s₀ source₀ hs₀ hsource₀
    by_cases heq : s₀ = s
    · subst heq
      cases (Function.update_self s₀ _ w.sources).symm.trans hsource₀
    · exact h.manager s₀ source₀ hs₀ ((Function.update_of_ne heq _ _).symm.trans hsource₀)
  · intro fd hfd
    obtain ⟨s₀, source₀, pipe, hreads⟩ := h.reads fd hfd
    have hne : s₀ ≠ s := by
      rintro rfl
      rw [show w.retainedReadNotifier = some fd from hfd] at hs
      cases hs hreads.current
    exact ⟨s₀, source₀, pipe, hreads.current, (Function.update_of_ne hne _ _).trans hreads.alive,
      hreads.format, hreads.opened, hreads.from_source, hreads.so_far⟩

theorem Inv.destroySource (h : w.Inv) (s : Nat) : (w.destroySource s).Inv := by
  unfold DataDeviceManager.destroySource
  cases hsource : w.sources s with
  | none => exact h
  | some source =>
    dsimp only
    split
    · exact h.finish.withoutSource fun _ => rfl
    · rename_i hother
      apply h.withoutSource
      intro hs
      exact absurd ⟨h.manager s source hs hsource, hs⟩ hother

/-! ## The selection -/

/-- The current selection was not destroyed, unless it is only taken away. -/
def Alive (w : DataDeviceManager) : Prop :=
  ∀ s, w.currentSelectionSource = some s → (w.sources s).isSome

/-- The source becomes the selection, which is not retained yet. -/
def selected (w : DataDeviceManager) (s : Nat) (source : DataSource) : DataDeviceManager :=
  { w.finishReadFromClient with
    compositorOwnsSelection := false
    currentSelectionSource := some s
    sources := Function.update w.sources s (some { source with manager := true }) }

/-- The selection is newer than the source. -/
def Newer (w : DataDeviceManager) (source : DataSource) : Prop :=
  ∃ s current, w.currentSelectionSource = some s ∧ w.sources s = some current ∧
    source.time < current.time

theorem setCurrentSelectionSource_refused (hsource : w.sources s = some source)
    (hnewer : w.Newer source) : w.setCurrentSelectionSource (some s) piped = some w := by
  obtain ⟨s₀, current, hs₀, hcurrent, htime⟩ := hnewer
  unfold setCurrentSelectionSource
  simp [hsource, hs₀, hcurrent, htime]

theorem setCurrentSelectionSource_selected (halive : w.Alive) (hsource : w.sources s = some source)
    (hnewer : ¬w.Newer source) : w.setCurrentSelectionSource (some s) piped =
      if w.retainSelection then
        { w.selected s source with retainedData := [], retainedReadIndex := 0 }.retain piped
      else some (w.selected s source) := by
  unfold setCurrentSelectionSource
  cases hs₀ : w.currentSelectionSource with
  | none => 
    simp [hsource]
    rfl
  | some s₀ =>
    obtain ⟨current, hcurrent⟩ := Option.isSome_iff_exists.1 (halive s₀ hs₀)
    have htime : ¬source.time < current.time := fun hlt => hnewer ⟨s₀, current, hs₀, hcurrent, hlt⟩
    simp [hsource, hcurrent, htime]
    rfl

/-- The destroyed selection is looked at for its time. -/
theorem setCurrentSelectionSource_dangling (halive : ¬w.Alive) (hsource : w.sources s = some source) :
    w.setCurrentSelectionSource (some s) piped = none := by
  simp only [Alive, not_forall] at halive
  obtain ⟨s₀, hs₀, hgone⟩ := halive
  unfold setCurrentSelectionSource
  simp [hsource, hs₀, Option.not_isSome_iff_eq_none.1 hgone]

theorem Inv.selected (h : w.Inv) (hsource : w.sources s = some source) :
    (w.selected s source).Inv := by
  refine ⟨?_, ?_, h.pipe_lt, ?_, ?_, h.finish.watched, h.finish.nodup, h.drained⟩
  · rintro _ ⟨⟩
    exact h.source_lt s source hsource
  · intro s₀ source₀ hsource₀
    by_cases hs : s₀ = s
    · exact hs ▸ h.source_lt s source hsource
    · exact h.source_lt s₀ source₀ ((Function.update_of_ne hs _ _).symm.trans hsource₀)
  · rintro _ source₀ ⟨⟩ hsource₀
    obtain rfl := Option.some.inj ((Function.update_self s _ w.sources).symm.trans hsource₀)
    rfl
  · intro fd hfd
    cases hfd

theorem Inv.cleared (h : w.Inv) (hsource : w.sources s = some source) :
    { w.selected s source with retainedData := [], retainedReadIndex := 0 }.Inv := by
  have hselected := h.selected hsource
  refine ⟨hselected.current_lt, hselected.source_lt, hselected.pipe_lt, hselected.manager, ?_,
    hselected.watched, hselected.nodup, hselected.drained⟩
  intro fd hfd
  cases hfd

theorem Inv.deselected (h : w.Inv) :
    { w.finishReadFromClient with
      compositorOwnsSelection := false
      currentSelectionSource := none }.Inv := by
  refine ⟨?_, h.source_lt, h.pipe_lt, ?_, ?_, h.finish.watched, h.finish.nodup, h.drained⟩
  · intro s hs
    cases hs
  · intro s source hs
    cases hs
  · intro fd hfd
    cases hfd

theorem Inv.setCurrentSelectionSource (h : w.Inv) (halive : w.Alive)
    (hsource : w.sources s = some source) (piped : Bool) :
    ∃ w', w.setCurrentSelectionSource (some s) piped = some w' ∧ w'.Inv := by
  by_cases hnewer : w.Newer source
  · exact ⟨w, setCurrentSelectionSource_refused hsource hnewer, h⟩
  · rw [setCurrentSelectionSource_selected halive hsource hnewer]
    split
    · exact (h.cleared hsource).retain rfl (Function.update_self ..) rfl piped
    · exact ⟨_, rfl, h.selected hsource⟩

theorem Inv.offerFromCompositorToClient (h : w.Inv) (device : Nat) :
    (w.offerFromCompositorToClient device).Inv := by
  unfold DataDeviceManager.offerFromCompositorToClient
  split
  · exact h.withData w.retainSelection w.retainedData w.compositorOwnsSelection w.fed _
  · exact h

theorem Inv.overrideSelection (h : w.Inv) (mimeData : List (String × List UInt8))
    {focus : Option (Option Nat)} (hfocus : mimeData = [] ∨ focus ≠ some none) :
    ∃ w', w.overrideSelection mimeData focus = some w' ∧ w'.Inv := by
  unfold DataDeviceManager.overrideSelection
  split
  · exact ⟨w, rfl, h⟩
  · rename_i hformats
    have hne := hfocus.resolve_left hformats
    have hfed (data : MimeData) : { w with retainedData := data }.feedRetainedSelectionData.Inv :=
      (h.withData w.retainSelection data w.compositorOwnsSelection w.fed w.offered).feed
    have howned (data : MimeData) : { { w with retainedData := data }.feedRetainedSelectionData with
        compositorOwnsSelection := true }.Inv :=
      (hfed data).withData _ _ true _ _
    cases focus with
    | none => exact ⟨_, rfl, howned _⟩
    | some device =>
      cases device with
      | none => exact absurd rfl hne
      | some device => exact ⟨_, rfl, (howned _).offerFromCompositorToClient device⟩

/-! ## Runs -/

/-- A call that uses nothing destroyed: no selection follows one whose source was destroyed, and when
the compositor takes the selection the focused client has a data device. -/
def Safe (w : DataDeviceManager) : SelectionCall → Prop
  | .setCurrentSelectionSource (some s) _ => (w.sources s).isSome → w.Alive
  | .overrideSelection mimeData focus => mimeData = [] ∨ focus ≠ some none
  | _ => True

instance : Decidable w.Alive := Option.decidableForallMem w.currentSelectionSource

instance : DecidablePred w.Safe
  | .setCurrentSelectionSource (some s) _ =>
    inferInstanceAs (Decidable ((w.sources s).isSome → w.Alive))
  | .overrideSelection mimeData focus =>
    inferInstanceAs (Decidable (mimeData = [] ∨ focus ≠ some none))
  | .setCurrentSelectionSource none _ | .createDataSource _ | .offer _ _ | .destroySource _
  | .setRetainedSelectionEnabled _ | .offerRetainedSelection _ | .write _ _ | .closeWriteEnd _
  | .activated _ _ => isTrue trivial

theorem Inv.step (h : w.Inv) (c : SelectionCall) (hsafe : w.Safe c) :
    ∃ w', w.step c = some w' ∧ w'.Inv := by
  cases c with
  | createDataSource time => exact ⟨_, rfl, h.createDataSource time⟩
  | offer s mimeType => exact ⟨_, rfl, h.offer s mimeType⟩
  | destroySource s => exact ⟨_, rfl, h.destroySource s⟩
  | setCurrentSelectionSource s piped =>
    cases s with
    | none => exact ⟨_, rfl, h.deselected⟩
    | some s =>
      cases hsource : w.sources s with
      | none => exact ⟨w, by simp [DataDeviceManager.step, hsource], h⟩
      | some source =>
        have halive := hsafe (by simp [hsource])
        obtain ⟨w', hw', h'⟩ := h.setCurrentSelectionSource halive hsource piped
        exact ⟨w', by simp [DataDeviceManager.step, hsource, hw'], h'⟩
  | setRetainedSelectionEnabled enabled =>
    exact ⟨_, rfl, h.withData enabled w.retainedData w.compositorOwnsSelection w.fed w.offered⟩
  | overrideSelection mimeData focus => exact h.overrideSelection mimeData hsafe
  | offerRetainedSelection device =>
    refine ⟨_, rfl, ?_⟩
    unfold offerRetainedSelection
    split
    · exact h
    · have howned := h.withData w.retainSelection w.retainedData true w.fed w.offered
      exact howned.offerFromCompositorToClient device
  | write fd bytes => exact ⟨_, rfl, h.write fd bytes⟩
  | closeWriteEnd fd => exact ⟨_, rfl, h.closeWriteEnd fd⟩
  | activated fd piped =>
    by_cases hfd : fd ∈ w.notifiers
    · obtain ⟨w', hw', h'⟩ := h.readFromClient hfd piped
      exact ⟨w', by rw [DataDeviceManager.step, if_pos hfd, hw'], h'⟩
    · exact ⟨w, by rw [DataDeviceManager.step, if_neg hfd], h⟩

/-- A call that is not safe does not return. -/
theorem step_faults {c : SelectionCall} (hfault : ¬w.Safe c) : w.step c = none := by
  cases c with
  | setCurrentSelectionSource s piped =>
    cases s with
    | none => exact absurd trivial hfault
    | some s =>
      obtain ⟨hsource, halive⟩ := Classical.not_imp.1 hfault
      obtain ⟨source, hsource'⟩ := Option.isSome_iff_exists.1 hsource
      rw [DataDeviceManager.step, if_pos hsource]
      exact setCurrentSelectionSource_dangling halive hsource'
  | overrideSelection mimeData focus =>
    obtain ⟨hformats, hfocus⟩ := not_or.1 hfault
    rw [not_not] at hfocus
    subst hfocus
    show w.overrideSelection mimeData (some none) = none
    rw [DataDeviceManager.overrideSelection, if_neg hformats]
    rfl
  | _ => exact absurd trivial hfault

theorem safe_of_step {c : SelectionCall} (hstep : w.step c = some w') : w.Safe c := by
  by_contra hfault
  rw [step_faults hfault] at hstep
  cases hstep

theorem Inv.of_step {c : SelectionCall} (h : w.Inv) (hstep : w.step c = some w') : w'.Inv := by
  obtain ⟨w'', hw'', h''⟩ := h.step c (safe_of_step hstep)
  exact Option.some.inj (hw''.symm.trans hstep) ▸ h''

/-- The compositor closes its end of a pipe only when the client has closed the other and all was read,
and until then it has one notifier for it. -/
structure Polite (w : DataDeviceManager) : Prop where
  drained : ∀ fd pipe, w.pipes fd = some pipe → pipe.readEnd = false →
    pipe.writeEnd = false ∧ pipe.unread = []
  watched : ∀ fd, w.notifiers.count fd = if (w.pipes fd).any Pipe.readEnd then 1 else 0

theorem Inv.polite (h : w.Inv) : w.Polite := by
  refine ⟨h.drained, fun fd => ?_⟩
  have hwatched : (w.pipes fd).any Pipe.readEnd = true ↔ fd ∈ w.notifiers := by
    rw [h.watched fd]
    cases w.pipes fd <;> simp
  split
  · rename_i hopen
    exact List.count_eq_one_of_mem h.nodup (hwatched.1 hopen)
  · rename_i hclosed
    exact List.count_eq_zero.2 fun hmem => hclosed (hwatched.2 hmem)

/-- **No client is hit by a broken pipe**, no descriptor is closed twice or never, whatever clients do
with selections and pipes; and the compositor does not fault exactly if no selection follows one
whose source was destroyed and what it offers itself has where to go. -/
theorem pipes_drained (cs : List SelectionCall) :
    Run.Throughout step Polite new cs ∧
      (Run.Always step Polite new cs ↔ Run.Meets step Safe new cs) := by
  constructor
  · refine ⟨inv_new.polite, Run.each_of_meets (I := Inv) ?_ cs new inv_new
      (Run.meets_of_true cs new)⟩
    intro w c w' h _ hstep
    exact ⟨(h.of_step hstep).polite, h.of_step hstep⟩
  · refine Run.always_iff_meets (I := Inv) ?_ ?_ ?_ cs new inv_new.polite inv_new
    · intro w c h hok
      obtain ⟨w', hw', h'⟩ := h.step c hok
      exact ⟨w', hw', h'.polite⟩
    · exact fun w c w' h hstep _ => h.of_step hstep
    · exact fun w c w' _ hstep _ => safe_of_step hstep

end DataDeviceManager

end GreenIsland.Compositor
