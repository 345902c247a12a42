import GreenIsland.Compositor.SelectionPipes

/-! The data of the selection that the compositor retains.

* `retained_whole`: what the compositor is fed is, for each format, what the client of the current
  selection has written for it; nothing of earlier selections gets in, and nothing is missing.
* `retained_outlives`: a client that answers is read to the end, and its selection can be received
  from the compositor after it is gone, each format that is not converted as it was. -/

namespace GreenIsland.Compositor

def SelectionCall.overrides : SelectionCall → Bool
  | .overrideSelection _ _ => true
  | _ => false

namespace MimeData

def setAll (data : MimeData) (entries : List (String × List UInt8)) : MimeData :=
  entries.foldl (fun data entry => data.setData entry.1 entry.2) data

theorem value_setData_self (data : MimeData) (format : String) (bytes : List UInt8) :
    MimeData.value (data.setData format bytes) format = some (.ofBytes format bytes) := by
  have hnone : (data.filter fun entry => entry.1 ≠ format).find? (fun entry => entry.1 = format) =
      none := by
    apply List.find?_eq_none.2
    intro entry hentry
    simpa using (List.mem_filter.1 hentry).2
  unfold value setData
  rw [List.find?_append, hnone]
  simp

theorem value_setData_ne (data : MimeData) {format format' : String} (hne : format' ≠ format)
    (bytes : List UInt8) : MimeData.value (data.setData format bytes) format' = data.value format' := by
  have hlast : [(format, MimeValue.ofBytes format bytes)].find? (fun entry => entry.1 = format') =
      none := by
    simp [Ne.symm hne]
  unfold value setData
  rw [List.find?_append, hlast, Option.or_none, List.find?_filter]
  congr 3
  funext entry
  by_cases h : entry.1 = format'
  · simp [h, hne]
  · simp [h]

/-- What is set for each of the formats is there, also if a format is named twice. -/
theorem value_setAll (content : String → List UInt8) {format : String} (formats : List String) :
    ∀ data : MimeData, format ∈ formats ∨
        MimeData.value data format = some (.ofBytes format (content format)) →
      MimeData.value (data.setAll (formats.map fun format => (format, content format))) format =
        some (.ofBytes format (content format)) := by
  induction formats with
  | nil =>
    rintro data (hmem | hdata)
    · cases hmem
    · exact hdata
  | cons first formats ih =>
    intro data h
    apply ih (data.setData first (content first))
    by_cases heq : format = first
    · right
      rw [heq]
      exact value_setData_self data first (content first)
    · rw [value_setData_ne data heq]
      exact h.imp_left fun hmem => (List.mem_cons.1 hmem).resolve_left heq

theorem formats_setData (data : MimeData) (format : String) (bytes : List UInt8) :
    MimeData.formats (data.setData format bytes) =
      data.formats.filter (fun f => f ≠ format) ++ [format] := by
  unfold formats setData
  rw [List.map_append, List.filter_map]
  rfl

/-- No format comes out of nowhere. -/
theorem mem_formats_setAll {format : String} (entries : List (String × List UInt8)) :
    ∀ data : MimeData, format ∈ MimeData.formats (data.setAll entries) →
      format ∈ data.formats ∨ format ∈ entries.map Prod.fst := by
  induction entries with
  | nil => exact fun data hmem => .inl hmem
  | cons entry entries ih =>
    intro data hmem
    rcases ih _ hmem with hdata | hentries
    · rw [formats_setData, List.mem_append, List.mem_filter, List.mem_singleton] at hdata
      exact hdata.imp And.left fun heq => List.mem_cons.2 (.inl heq)
    · exact .inr (List.mem_cons_of_mem _ hentries)

end MimeData

namespace DataDeviceManager

variable {w w' : DataDeviceManager} {fd : Nat} {pipe pipe' : Pipe} {s : Nat}
  {source : DataSource} {mimeType : String} {piped : Bool} {bytes : List UInt8} {formats : List String}
  {data : MimeData}

/-! ## What the client has written -/

/-- The client has written exactly this for the format, and closed the pipe. -/
def Wrote (w : DataDeviceManager) (s : Nat) (mimeType : String) (bytes : List UInt8) : Prop :=
  ∃ fd pipe, w.pipes fd = some pipe ∧ pipe.source = s ∧ pipe.mimeType = mimeType ∧
    pipe.writeEnd = false ∧ pipe.written = bytes

/-- The data has, for all these formats, what the client has written for them. -/
def Retained (w : DataDeviceManager) (s : Nat) (formats : List String) (data : MimeData) : Prop :=
  ∃ contents, List.Forall₂ (w.Wrote s) formats contents ∧
    data = MimeData.setAll [] (formats.zip contents)

/-- Pipes that the client has closed stay as they are. -/
def Keeps (w w' : DataDeviceManager) : Prop :=
  ∀ fd pipe, w.pipes fd = some pipe → ∃ pipe', w'.pipes fd = some pipe' ∧ pipe'.source = pipe.source ∧
    pipe'.mimeType = pipe.mimeType ∧
      (pipe.writeEnd = false → pipe'.writeEnd = false ∧ pipe'.written = pipe.written)

theorem Keeps.of_pipes (h : w'.pipes = w.pipes) : w.Keeps w' := by
  intro fd pipe hpipe
  exact ⟨pipe, by rw [h, hpipe], rfl, rfl, fun hwrite => ⟨hwrite, rfl⟩⟩

theorem Keeps.trans {w'' : DataDeviceManager} (h : w.Keeps w') (h' : w'.Keeps w'') : w.Keeps w'' := by
  intro fd pipe hpipe
  obtain ⟨pipe', hpipe', hsource', hmime', hwrite'⟩ := h fd pipe hpipe
  obtain ⟨pipe'', hpipe'', hsource'', hmime'', hwrite''⟩ := h' fd pipe' hpipe'
  refine ⟨pipe'', hpipe'', hsource''.trans hsource', hmime''.trans hmime', ?_⟩
  intro hwrite
  obtain ⟨hclosed, hwritten⟩ := hwrite' hwrite
  obtain ⟨hclosed', hwritten'⟩ := hwrite'' hclosed
  exact ⟨hclosed', hwritten'.trans hwritten⟩

theorem Keeps.putPipe (hpipe : w.pipes fd = some pipe) (hpipes : w'.pipes = (w.putPipe fd pipe').pipes)
    (hsource : pipe'.source = pipe.source) (hmime : pipe'.mimeType = pipe.mimeType)
    (hwrite : pipe.writeEnd = false → pipe'.writeEnd = false ∧ pipe'.written = pipe.written) :
    w.Keeps w' := by
  intro fd' p hp
  rw [hpipes]
  by_cases hfd : fd' = fd
  · subst hfd
    obtain rfl : pipe = p := Option.some.inj (hpipe.symm.trans hp)
    exact ⟨pipe', putPipe_self, hsource, hmime, hwrite⟩
  · exact ⟨p, (putPipe_ne hfd).trans hp, rfl, rfl, fun hclosed => ⟨hclosed, rfl⟩⟩

theorem Wrote.keep (h : w.Wrote s mimeType bytes) (hkeeps : w.Keeps w') : w'.Wrote s mimeType bytes := by
  obtain ⟨fd, pipe, hpipe, hsource, hmime, hwrite, hwritten⟩ := h
  obtain ⟨pipe', hpipe', hsource', hmime', hwrite'⟩ := hkeeps fd pipe hpipe
  obtain ⟨hclosed, hsame⟩ := hwrite' hwrite
  exact ⟨fd, pipe', hpipe', hsource'.trans hsource, hmime'.trans hmime, hclosed, hsame.trans hwritten⟩

theorem Retained.keep (h : w.Retained s formats data) (hkeeps : w.Keeps w') :
    w'.Retained s formats data := by
  obtain ⟨contents, hwrote, hdata⟩ := h
  exact ⟨contents, hwrote.imp fun _ _ hone => hone.keep hkeeps, hdata⟩

theorem retained_nil (w : DataDeviceManager) (s : Nat) : w.Retained s [] [] := ⟨[], .nil, rfl⟩

/-- One more format -/
theorem Retained.concat (h : w.Retained s formats data) (hwrote : w.Wrote s mimeType bytes) :
    w.Retained s (formats ++ [mimeType]) (data.setData mimeType bytes) := by
  obtain ⟨contents, hall, hdata⟩ := h
  refine ⟨contents ++ [bytes], List.rel_append hall (.cons hwrote .nil), ?_⟩
  unfold MimeData.setAll at hdata ⊢
  rw [List.zip_append hall.length_eq, List.foldl_append, ← hdata]
  rfl

/-! ## What is kept while a selection is read -/

/-- The formats before the one that is read are retained. -/
def Retaining (w : DataDeviceManager) : Prop :=
  ∀ fd s source, w.retainedReadNotifier = some fd → w.currentSelectionSource = some s →
    w.sources s = some source →
      w.Retained s (source.mimeTypes.take w.retainedReadIndex) w.retainedData

theorem Retaining.keep (h : w.Retaining) (hkeeps : w.Keeps w')
    (hnotifier : w'.retainedReadNotifier = w.retainedReadNotifier)
    (hcurrent : w'.currentSelectionSource = w.currentSelectionSource)
    (hindex : w'.retainedReadIndex = w.retainedReadIndex) (hdata : w'.retainedData = w.retainedData)
    (hsource : ∀ fd s source', w.retainedReadNotifier = some fd →
      w.currentSelectionSource = some s → w'.sources s = some source' →
        ∃ source, w.sources s = some source ∧
          source'.mimeTypes.take w.retainedReadIndex = source.mimeTypes.take w.retainedReadIndex) :
    w'.Retaining := by
  intro fd s source' hfd hs hsource'
  rw [hnotifier] at hfd
  rw [hcurrent] at hs
  obtain ⟨source, halive, htake⟩ := hsource fd s source' hfd hs hsource'
  rw [hindex, hdata, htake]
  exact (h fd s source hfd hs halive).keep hkeeps

theorem retaining_of_none (hnone : w.retainedReadNotifier = none) : w.Retaining := by
  intro fd s source hfd
  rw [hnone] at hfd
  cases hfd

theorem formats_congr (hsources : w'.sources = w.sources) :
    ∀ fd s source', w.retainedReadNotifier = some fd → w.currentSelectionSource = some s →
      w'.sources s = some source' → ∃ source, w.sources s = some source ∧
        source'.mimeTypes.take w.retainedReadIndex = source.mimeTypes.take w.retainedReadIndex := by
  intro fd s source' _ _ hsource'
  exact ⟨source', hsources ▸ hsource', rfl⟩

/-- What is fed is of the current selection, and all of it. -/
def FeedsWhole (w w' : DataDeviceManager) : Prop :=
  w'.fed = w.fed ∨ ∃ s source data, w'.fed = w.fed ++ [data] ∧ w'.currentSelectionSource = some s ∧
    w'.sources s = some source ∧ w'.Retained s source.mimeTypes data

theorem Inv.keeps_request (h : w.Inv) : w.Keeps (w.clearReadBuf.request s mimeType) := by
  intro fd pipe hpipe
  refine ⟨pipe, ?_, rfl, rfl, fun hwrite => ⟨hwrite, rfl⟩⟩
  exact (putPipe_ne (Nat.ne_of_lt (h.pipe_lt fd pipe hpipe))).trans hpipe

/-- After a format: the next, or all is fed. -/
theorem Inv.retain_whole (h : w.Inv) (hs : w.currentSelectionSource = some s)
    (hsource : w.sources s = some source) (hnone : w.retainedReadNotifier = none)
    (hretained : w.Retained s (source.mimeTypes.take w.retainedReadIndex) w.retainedData)
    (piped : Bool) :
    ∃ w', w.retain piped = some w' ∧ w'.Inv ∧ w'.Retaining ∧ w.FeedsWhole w' := by
  have hretain := retain_eq hs hsource hnone piped
  obtain ⟨w', hw', h'⟩ := h.retain hs hsource hnone piped
  obtain rfl := Option.some.inj (hretain.symm.trans hw')
  refine ⟨_, hretain, h', ?_⟩
  cases hformat : source.mimeTypes[w.retainedReadIndex]? with
  | none =>
    rw [List.take_of_length_le (List.getElem?_eq_none_iff.1 hformat)] at hretained
    dsimp only
    unfold feedRetainedSelectionData
    split
    · refine ⟨retaining_of_none hnone, .inr ⟨s, source, w.retainedData, rfl, hs, hsource, ?_⟩⟩
      exact hretained.keep (.of_pipes rfl)
    · exact ⟨retaining_of_none hnone, .inl rfl⟩
  | some mimeType =>
    cases piped with
    | false => exact ⟨retaining_of_none hnone, .inl rfl⟩
    | true =>
      refine ⟨?_, .inl rfl⟩
      intro fd s₀ source₀ _ hs₀ hsource₀
      obtain rfl : s = s₀ := Option.some.inj (hs.symm.trans hs₀)
      obtain rfl : source = source₀ := Option.some.inj (hsource.symm.trans hsource₀)
      exact hretained.keep h.keeps_request

theorem Reads.wrote (hreads : w.Reads fd s source pipe) (hunread : pipe.unread = [])
    (hwrite : pipe.writeEnd = false) : w.Wrote s pipe.mimeType w.retainedReadBuf := by
  refine ⟨fd, pipe, hreads.opened, hreads.from_source, rfl, hwrite, ?_⟩
  rw [hreads.so_far, hunread, List.append_nil]

theorem Inv.exhausted_whole (h : w.Inv) (hretaining : w.Retaining) (hreads : w.Reads fd s source pipe)
    (hnotifier : w.retainedReadNotifier = some fd) (hunread : pipe.unread = [])
    (hwrite : pipe.writeEnd = false) :
    ∃ w', (w.exhausted fd pipe).retain piped = some w' ∧ w'.Inv ∧ w'.Retaining ∧ w.FeedsWhole w' := by
  have hexhausted := h.exhausted hreads.opened hnotifier hunread hwrite
  have hkeeps : w.Keeps (w.exhausted fd pipe) :=
    .putPipe hreads.opened rfl rfl rfl fun hclosed => ⟨hclosed, rfl⟩
  refine hexhausted.retain_whole hreads.current hreads.alive rfl ?_ piped
  show (w.exhausted fd pipe).Retained s (source.mimeTypes.take (w.retainedReadIndex + 1))
    (w.retainedData.setData pipe.mimeType w.retainedReadBuf)
  have hbefore := hretaining fd s source hnotifier hreads.current hreads.alive
  rw [List.take_add_one, hreads.format]
  exact (hbefore.concat (hreads.wrote hunread hwrite)).keep hkeeps

theorem Inv.readFromClient_whole (h : w.Inv) (hretaining : w.Retaining) (hfd : fd ∈ w.notifiers)
    (piped : Bool) :
    ∃ w', w.readFromClient fd piped = some w' ∧ w'.Inv ∧ w'.Retaining ∧ w.FeedsWhole w' := by
  obtain ⟨pipe, hpipe, -⟩ := (h.watched fd).1 hfd
  obtain ⟨w', hw', h'⟩ := h.readFromClient hfd piped
  by_cases hobsolete : fd ∈ w.obsoleteRetainedReadNotifiers
  · obtain rfl := Option.some.inj ((readFromClient_obsolete hpipe hobsolete).symm.trans hw')
    refine ⟨_, hw', h', ?_⟩
    split
    · refine ⟨hretaining.keep ?_ rfl rfl rfl rfl (formats_congr rfl), .inl rfl⟩
      exact .putPipe hpipe rfl rfl rfl fun hclosed => ⟨hclosed, rfl⟩
    · refine ⟨hretaining.keep ?_ rfl rfl rfl rfl (formats_congr rfl), .inl rfl⟩
      exact .putPipe hpipe rfl rfl rfl fun hclosed => ⟨hclosed, rfl⟩
  · have hnotifier := (mem_notifiers hobsolete).1 hfd
    obtain ⟨s, source, pipe', hreads⟩ := h.reads fd hnotifier
    obtain rfl : pipe' = pipe := Option.some.inj (hreads.opened.symm.trans hpipe)
    by_cases hunread : pipe'.unread = []
    · cases hwrite : pipe'.writeEnd with
      | true => exact ⟨w, readFromClient_again hpipe hobsolete hunread hwrite, h, hretaining, .inl rfl⟩
      | false =>
        rw [readFromClient_end hreads hobsolete hunread hwrite]
        exact h.exhausted_whole hretaining hreads hnotifier hunread hwrite
    · obtain rfl := Option.some.inj ((readFromClient_part hpipe hobsolete hunread).symm.trans hw')
      refine ⟨_, hw', h', hretaining.keep ?_ rfl rfl rfl rfl (formats_congr rfl), .inl rfl⟩
      exact .putPipe hpipe rfl rfl rfl fun hclosed => ⟨hclosed, rfl⟩

theorem Inv.setCurrentSelectionSource_whole (h : w.Inv) (hretaining : w.Retaining) (halive : w.Alive)
    (hsource : w.sources s = some source) (piped : Bool) :
    ∃ w', w.setCurrentSelectionSource (some s) piped = some w' ∧ w'.Inv ∧ w'.Retaining ∧
      w.FeedsWhole w' := by
  by_cases hnewer : w.Newer source
  · exact ⟨w, setCurrentSelectionSource_refused hsource hnewer, h, hretaining, .inl rfl⟩
  · rw [setCurrentSelectionSource_selected halive hsource hnewer]
    split
    · refine (h.cleared hsource).retain_whole rfl (Function.update_self ..) rfl ?_ piped
      exact retained_nil _ s
    · exact ⟨_, rfl, h.selected hsource, retaining_of_none rfl, .inl rfl⟩

/-! ## The other calls -/

theorem Inv.createDataSource_retaining (h : w.Inv) (hretaining : w.Retaining) (time : Nat) :
    (w.createDataSource time).Retaining := by
  refine hretaining.keep (.of_pipes rfl) rfl rfl rfl rfl ?_
  intro fd s source _ hs hsource
  have hlt := h.current_lt s hs
  have hother : (w.createDataSource time).sources s = w.sources s :=
    Function.update_of_ne (by omega) _ _
  exact ⟨source, hother.symm.trans hsource, rfl⟩

/-- A format that is offered late comes after those that are retained. -/
theorem Inv.offer_retaining (h : w.Inv) (hretaining : w.Retaining) (s : Nat) (mimeType : String) :
    (w.offer s mimeType).Retaining := by
  unfold DataDeviceManager.offer
  cases hsource : w.sources s with
  | none => exact hretaining
  | some source =>
    refine hretaining.keep (.of_pipes rfl) rfl rfl rfl rfl ?_
    intro fd s₀ source' hfd hs₀ hsource'
    by_cases hs : s₀ = s
    · subst hs
      obtain rfl := Option.some.inj ((Function.update_self s₀ _ w.sources).symm.trans hsource')
      refine ⟨source, hsource, ?_⟩
      obtain ⟨s₁, source₁, pipe, hreads⟩ := h.reads fd hfd
      obtain rfl : s₁ = s₀ := Option.some.inj (hreads.current.symm.trans hs₀)
      obtain rfl : source₁ = source := Option.some.inj (hreads.alive.symm.trans hsource)
      have hlt := (List.getElem?_eq_some_iff.1 hreads.format).1
      exact List.take_append_of_le_length (by omega)
    · exact ⟨source', (Function.update_of_ne hs _ _).symm.trans hsource', rfl⟩

theorem Inv.destroySource_retaining (h : w.Inv) (hretaining : w.Retaining) (s : Nat) :
    (w.destroySource s).Retaining := by
  unfold DataDeviceManager.destroySource
  cases hsource : w.sources s with
  | none => exact hretaining
  | some source =>
    dsimp only
    split
    · exact retaining_of_none rfl
    · rename_i hother
      refine hretaining.keep (.of_pipes rfl) rfl rfl rfl rfl ?_
      intro fd s₀ source' _ hs₀ hsource'
      have hne : s₀ ≠ s := by
        rintro rfl
        exact hother ⟨h.manager s₀ source hs₀ hsource, hs₀⟩
      exact ⟨source', (Function.update_of_ne hne _ _).symm.trans hsource', rfl⟩

theorem fed_destroySource (s : Nat) : (w.destroySource s).fed = w.fed := by
  unfold DataDeviceManager.destroySource
  cases w.sources s with
  | none => rfl
  | some source =>
    dsimp only
    split <;> rfl

theorem data_destroySource (s : Nat) : (w.destroySource s).retainedData = w.retainedData := by
  unfold DataDeviceManager.destroySource
  cases w.sources s with
  | none => rfl
  | some source =>
    dsimp only
    split <;> rfl

theorem sources_destroySource (s : Nat) : (w.destroySource s).sources s = none := by
  unfold DataDeviceManager.destroySource
  cases hsource : w.sources s with
  | none => exact hsource
  | some source =>
    dsimp only
    split <;> exact Function.update_self ..

theorem fed_offer (s : Nat) (mimeType : String) : (w.offer s mimeType).fed = w.fed := by
  unfold DataDeviceManager.offer
  cases w.sources s <;> rfl

theorem write_retaining (hretaining : w.Retaining) (fd : Nat) (bytes : List UInt8) :
    (w.write fd bytes).Retaining ∧ (w.write fd bytes).fed = w.fed := by
  unfold DataDeviceManager.write
  cases hpipe : w.pipes fd with
  | none => exact ⟨hretaining, rfl⟩
  | some pipe =>
    dsimp only
    split
    · rename_i hends
      refine ⟨hretaining.keep (.putPipe hpipe rfl rfl rfl ?_) rfl rfl rfl rfl (formats_congr rfl), rfl⟩
      intro hclosed
      rw [hends.1] at hclosed
      cases hclosed
    · exact ⟨hretaining, rfl⟩

theorem closeWriteEnd_retaining (hretaining : w.Retaining) (fd : Nat) :
    (w.closeWriteEnd fd).Retaining ∧ (w.closeWriteEnd fd).fed = w.fed := by
  unfold DataDeviceManager.closeWriteEnd
  cases hpipe : w.pipes fd with
  | none => exact ⟨hretaining, rfl⟩
  | some pipe =>
    refine ⟨hretaining.keep (.putPipe hpipe rfl rfl rfl ?_) rfl rfl rfl rfl (formats_congr rfl), rfl⟩
    exact fun _ => ⟨rfl, rfl⟩

theorem offerRetainedSelection_retaining (hretaining : w.Retaining) (device : Nat) :
    (w.offerRetainedSelection device).Retaining ∧ (w.offerRetainedSelection device).fed = w.fed := by
  unfold offerRetainedSelection offerFromCompositorToClient
  split
  · exact ⟨hretaining, rfl⟩
  · dsimp only
    split
    all_goals exact ⟨hretaining.keep (.of_pipes rfl) rfl rfl rfl rfl (formats_congr rfl), rfl⟩

/-- Nothing is being read before, nor after. -/
theorem overrideSelection_notifier {mimeData : List (String × List UInt8)} {focus : Option (Option Nat)}
    (h : w.overrideSelection mimeData focus = some w') :
    w'.retainedReadNotifier = w.retainedReadNotifier := by
  have hfed (v : DataDeviceManager) :
      v.feedRetainedSelectionData.retainedReadNotifier = v.retainedReadNotifier := by
    unfold feedRetainedSelectionData
    split <;> rfl
  unfold DataDeviceManager.overrideSelection at h
  split at h
  · cases h
    rfl
  · cases focus with
    | none =>
      cases h
      exact hfed _
    | some device =>
      obtain ⟨device, -, rfl⟩ := Option.map_eq_some_iff.1 h
      unfold offerFromCompositorToClient
      split
      all_goals exact hfed _

/-! ## Runs -/

/-- The compositor does not take the selection while it is reading. -/
def Ok (w : DataDeviceManager) (c : SelectionCall) : Prop :=
  w.Safe c ∧ (c.overrides = true → w.retainedReadNotifier = none)

instance : DecidablePred w.Ok := fun c =>
  inferInstanceAs (Decidable (w.Safe c ∧ (c.overrides = true → w.retainedReadNotifier = none)))

theorem Inv.step_whole (h : w.Inv) (hretaining : w.Retaining) {c : SelectionCall} (hok : w.Ok c) :
    ∃ w', w.step c = some w' ∧ w'.Inv ∧ w'.Retaining ∧ (c.overrides = false → w.FeedsWhole w') := by
  obtain ⟨hsafe, hidle⟩ := hok
  obtain ⟨w', hw', h'⟩ := h.step c hsafe
  refine ⟨w', hw', h', ?_⟩
  cases c with
  | createDataSource time =>
    cases hw'
    exact ⟨h.createDataSource_retaining hretaining time, fun _ => .inl rfl⟩
  | offer s mimeType =>
    cases hw'
    exact ⟨h.offer_retaining hretaining s mimeType, fun _ => .inl (fed_offer s mimeType)⟩
  | destroySource s =>
    cases hw'
    exact ⟨h.destroySource_retaining hretaining s, fun _ => .inl (fed_destroySource s)⟩
  | setCurrentSelectionSource s piped =>
    cases s with
    | none =>
      cases hw'
      exact ⟨retaining_of_none rfl, fun _ => .inl rfl⟩
    | some s =>
      cases hsource : w.sources s with
      | none =>
        rw [DataDeviceManager.step, if_neg (by simp [hsource])] at hw'
        cases hw'
        exact ⟨hretaining, fun _ => .inl rfl⟩
      | some source =>
        have hsome : (w.sources s).isSome := by simp [hsource]
        obtain ⟨w'', hw'', -, hretaining', hfeeds⟩ :=
          h.setCurrentSelectionSource_whole hretaining (hsafe hsome) hsource piped
        rw [DataDeviceManager.step, if_pos hsome, hw''] at hw'
        cases hw'
        exact ⟨hretaining', fun _ => hfeeds⟩
  | setRetainedSelectionEnabled enabled =>
    cases hw'
    exact ⟨hretaining.keep (.of_pipes rfl) rfl rfl rfl rfl (formats_congr rfl), fun _ => .inl rfl⟩
  | overrideSelection mimeData focus =>
    have hnone := (overrideSelection_notifier hw').trans (hidle rfl)
    exact ⟨retaining_of_none hnone, fun hnot => by cases hnot⟩
  | offerRetainedSelection device =>
    cases hw'
    obtain ⟨hretaining', hfed⟩ := offerRetainedSelection_retaining hretaining device
    exact ⟨hretaining', fun _ => .inl hfed⟩
  | write fd bytes =>
    cases hw'
    obtain ⟨hretaining', hfed⟩ := write_retaining hretaining fd bytes
    exact ⟨hretaining', fun _ => .inl hfed⟩
  | closeWriteEnd fd =>
    cases hw'
    obtain ⟨hretaining', hfed⟩ := closeWriteEnd_retaining hretaining fd
    exact ⟨hretaining', fun _ => .inl hfed⟩
  | activated fd piped =>
    by_cases hfd : fd ∈ w.notifiers
    · obtain ⟨w'', hw'', -, hretaining', hfeeds⟩ := h.readFromClient_whole hretaining hfd piped
      rw [DataDeviceManager.step, if_pos hfd, hw''] at hw'
      cases hw'
      exact ⟨hretaining', fun _ => hfeeds⟩
    · rw [DataDeviceManager.step, if_neg hfd] at hw'
      cases hw'
      exact ⟨hretaining, fun _ => .inl rfl⟩

/-- **What is fed is whole**: in any run in which the compositor does not take the selection while it is
reading, the data that it is fed has, for each format of the current selection, exactly what the
source's client has written for that format, however selections follow each other and whatever
is still on its way from earlier ones. -/
theorem retained_whole (cs : List SelectionCall) (hok : Run.Meets step Ok new cs) :
    Run.Along step (fun w c w' => c.overrides = false → w.FeedsWhole w') new cs := by
  refine Run.along_of_meets (I := fun w => w.Inv ∧ w.Retaining) ?_ cs new
    ⟨inv_new, retaining_of_none rfl⟩ hok
  rintro w c ⟨h, hretaining⟩ hc
  obtain ⟨w', hw', h', hretaining', hfeeds⟩ := h.step_whole hretaining hc
  exact ⟨w', hw', hfeeds, h', hretaining'⟩

/-- A read for the first selection goes on while the second is retained; the third gets no pipe. -/
theorem retained_whole_replaced :
    Run.Along step (fun w c w' => c.overrides = false → w.FeedsWhole w') new
      [.setRetainedSelectionEnabled true, .createDataSource 5, .offer 0 "text/plain",
        .setCurrentSelectionSource (some 0) true, .write 0 [1, 2], .activated 0 true,
        .createDataSource 6, .offer 1 "text/uri-list", .offer 1 "text/plain",
        .setCurrentSelectionSource (some 1) true, .write 0 [3], .write 1 [9], .activated 0 true,
        .closeWriteEnd 1, .activated 1 true, .activated 1 true, .closeWriteEnd 2, .activated 2 true,
        .closeWriteEnd 0, .activated 0 true, .createDataSource 7, .offer 2 "text/html",
        .setCurrentSelectionSource (some 2) false] :=
  retained_whole _ (by decide)

/-! ## A client that answers -/

/-- The client writes the data and closes its end, which is read as long as there is something; then
the next pipe can be made. -/
def answer (content : String → List UInt8) (fd : Nat) (mimeType : String) : List SelectionCall :=
  .write fd (content mimeType) :: .closeWriteEnd fd ::
    List.replicate (((content mimeType).length + 4095) / 4096 + 1) (.activated fd true)

/-- The formats one after the other, each through the next pipe -/
def answers (content : String → List UInt8) : Nat → List String → List SelectionCall
  | _, [] => []
  | fd, mimeType :: formats => answer content fd mimeType ++ answers content (fd + 1) formats

theorem Inv.not_obsolete (h : w.Inv) (hnotifier : w.retainedReadNotifier = some fd) :
    fd ∉ w.obsoleteRetainedReadNotifiers :=
  List.disjoint_of_nodup_append h.nodup (Option.mem_toList.2 hnotifier)

theorem step_activated (hnotifier : w.retainedReadNotifier = some fd) :
    w.step (.activated fd piped) = w.readFromClient fd piped := by
  rw [DataDeviceManager.step, if_pos]
  exact List.mem_append_left _ (Option.mem_toList.2 hnotifier)

/-- What reading the rest of a pipe comes to -/
def drained (w : DataDeviceManager) (fd : Nat) (pipe : Pipe) : DataDeviceManager :=
  { w with retainedReadBuf := pipe.written }.exhausted fd { pipe with unread := [] }

/-- A read of a part leads to the same. -/
theorem drained_part (w : DataDeviceManager) (fd : Nat) (pipe : Pipe) (n : Nat) (buf : List UInt8) :
    { w.putPipe fd { pipe with unread := pipe.unread.drop n } with retainedReadBuf := buf }.drained fd
      { pipe with unread := pipe.unread.drop n } = w.drained fd pipe := by
  unfold drained exhausted putPipe
  simp only [Function.update_idem]

/-- Nothing is left to read. -/
theorem Reads.drained_eq (hreads : w.Reads fd s source pipe) (hunread : pipe.unread = []) :
    w.drained fd pipe = w.exhausted fd pipe := by
  have hbuf : w.retainedReadBuf = pipe.written := by
    rw [hreads.so_far, hunread, List.append_nil]
  obtain ⟨unread, readEnd, writeEnd, source', mimeType, written⟩ := pipe
  subst hbuf
  rw [show unread = [] from hunread]
  rfl

theorem read_all (n : Nat) : ∀ (w : DataDeviceManager) (pipe : Pipe), w.Inv →
    w.retainedReadNotifier = some fd → w.Reads fd s source pipe → pipe.writeEnd = false →
    (pipe.unread.length + 4095) / 4096 = n →
      Run.exec step w (List.replicate (n + 1) (.activated fd true)) =
        (w.drained fd pipe).retain true := by
  induction n with
  | zero =>
    intro w pipe h hnotifier hreads hwrite hlength
    have hunread : pipe.unread = [] := List.length_eq_zero_iff.1 (by omega)
    show (w.step (.activated fd true)).bind some = _
    rw [step_activated hnotifier, readFromClient_end hreads (h.not_obsolete hnotifier) hunread hwrite,
      hreads.drained_eq hunread, Option.bind_fun_some]
  | succ n ih =>
    intro w pipe h hnotifier hreads hwrite hlength
    have hunread : pipe.unread ≠ [] := by
      intro hempty
      rw [hempty] at hlength
      simp at hlength
    have hpart : w.readFromClient fd true = some _ :=
      readFromClient_part hreads.opened (h.not_obsolete hnotifier) hunread
    obtain ⟨w', hw', h'⟩ :=
      h.readFromClient (List.mem_append_left _ (Option.mem_toList.2 hnotifier)) true
    obtain rfl := Option.some.inj (hpart.symm.trans hw')
    show (w.step (.activated fd true)).bind _ = _
    rw [step_activated hnotifier, hpart, Option.bind_some, ← drained_part w fd pipe 4096
      (w.retainedReadBuf ++ pipe.unread.take 4096)]
    refine ih _ _ h' hnotifier ?_ hwrite ?_
    · refine ⟨hreads.current, hreads.alive, hreads.format, putPipe_self, hreads.from_source, ?_⟩
      show pipe.written = _ ++ pipe.unread.drop 4096
      rw [List.append_assoc, List.take_append_drop]
      exact hreads.so_far
    · show ((pipe.unread.drop 4096).length + 4095) / 4096 = n
      rw [List.length_drop]
      have hpos := List.length_pos_iff.2 hunread
      omega

/-- The compositor has asked for the `k`-th format through `fd`, or fed everything. -/
structure Asks (w : DataDeviceManager) (s : Nat) (source : DataSource) (k fd : Nat) (data : MimeData)
    (fed : List MimeData) : Prop where
  inv : w.Inv
  current : w.currentSelectionSource = some s
  alive : w.sources s = some source
  enabled : w.retainSelection = true
  index : w.retainedReadIndex = k
  data_eq : w.retainedData = data
  asked : ∀ mimeType, source.mimeTypes[k]? = some mimeType →
    w.retainedReadNotifier = some fd ∧ w.nextFd = fd + 1 ∧ w.retainedReadBuf = [] ∧
      w.pipes fd = some ⟨[], true, true, s, mimeType, []⟩ ∧ w.fed = fed
  finished : source.mimeTypes[k]? = none → w.retainedReadNotifier = none ∧ w.fed = fed ++ [data]

/-- After `retain`, in a state where nothing is being read -/
theorem asks_retain (hretain : w.retain true = some w') (h' : w'.Inv)
    (hs : w.currentSelectionSource = some s) (hsource : w.sources s = some source)
    (hnone : w.retainedReadNotifier = none) (henabled : w.retainSelection = true) :
    w'.Asks s source w.retainedReadIndex w.nextFd w.retainedData w.fed := by
  rw [retain_eq hs hsource hnone] at hretain
  cases hformat : source.mimeTypes[w.retainedReadIndex]? with
  | none =>
    have hfed : w.feedRetainedSelectionData = { w with fed := w.fed ++ [w.retainedData] } :=
      if_pos henabled
    rw [hformat] at hretain
    obtain rfl := Option.some.inj hretain
    dsimp only at h' ⊢
    rw [hfed] at h' ⊢
    refine ⟨h', hs, hsource, henabled, rfl, rfl, ?_, fun _ => ⟨hnone, rfl⟩⟩
    intro mimeType hmime
    rw [hformat] at hmime
    cases hmime
  | some mimeType =>
    rw [hformat] at hretain
    obtain rfl := Option.some.inj hretain
    refine ⟨h', hs, hsource, henabled, rfl, rfl, ?_, ?_⟩
    · intro mimeType' hmime
      obtain rfl : mimeType = mimeType' := Option.some.inj (hformat.symm.trans hmime)
      exact ⟨rfl, rfl, rfl, putPipe_self, rfl⟩
    · intro hmime
      rw [hformat] at hmime
      cases hmime

/-- A pipe with all the data, of which nothing was read -/
def whole (s : Nat) (mimeType : String) (content : List UInt8) : Pipe :=
  ⟨content, true, false, s, mimeType, content⟩

/-- What the client has done for one format -/
theorem write_closeWriteEnd (content : List UInt8)
    (hpipe : w.pipes fd = some ⟨[], true, true, s, mimeType, []⟩) :
    (w.write fd content).closeWriteEnd fd = w.putPipe fd (whole s mimeType content) := by
  have hwrite : w.write fd content = w.putPipe fd ⟨content, true, true, s, mimeType, content⟩ := by
    rw [DataDeviceManager.write, hpipe]
    rfl
  rw [hwrite, DataDeviceManager.closeWriteEnd, putPipe_self]
  show { w with pipes := Function.update (Function.update _ _ _) _ _ } = _
  rw [Function.update_idem]
  rfl

/-- The client answers for one format. -/
theorem Asks.answer {k : Nat} {fed : List MimeData} (h : w.Asks s source k fd data fed)
    (content : String → List UInt8) (hformat : source.mimeTypes[k]? = some mimeType) :
    ∃ w', Run.exec step w (answer content fd mimeType) = some w' ∧
      w'.Asks s source (k + 1) (fd + 1) (data.setData mimeType (content mimeType)) fed := by
  obtain ⟨hnotifier, hnext, hbuf, hpipe, hfed⟩ := h.asked mimeType hformat
  have hwritten := write_closeWriteEnd (content mimeType) hpipe
  have hinv : (w.putPipe fd (whole s mimeType (content mimeType))).Inv := by
    rw [← hwritten]
    exact (h.inv.write fd _).closeWriteEnd fd
  have hreads : (w.putPipe fd (whole s mimeType (content mimeType))).Reads fd s source
      (whole s mimeType (content mimeType)) := by
    refine ⟨h.current, h.alive, ?_, putPipe_self, rfl, ?_⟩
    · show source.mimeTypes[w.retainedReadIndex]? = _
      rw [h.index]
      exact hformat
    · show content mimeType = w.retainedReadBuf ++ content mimeType
      rw [hbuf, List.nil_append]
  have hrun : Run.exec step w (DataDeviceManager.answer content fd mimeType) = _ :=
    (congrArg (fun v => Run.exec step v _) hwritten).trans
      (read_all _ _ _ hinv hnotifier hreads rfl rfl)
  have hretain := retain_eq (w := (w.putPipe fd (whole s mimeType (content mimeType))).drained fd
    (whole s mimeType (content mimeType))) h.current h.alive rfl true
  have hinv' := Run.exec_inv (I := Inv) (fun _ _ _ h hstep => h.of_step hstep) _ _ h.inv
    (hrun.trans hretain)
  refine ⟨_, hrun.trans hretain, ?_⟩
  have hasks := asks_retain hretain hinv' h.current h.alive rfl h.enabled
  have hindex : w.retainedReadIndex + 1 = k + 1 := by rw [h.index]
  have hdata : w.retainedData.setData mimeType (content mimeType) =
    data.setData mimeType (content mimeType) := by rw [h.data_eq]
  rw [← hindex, ← hdata, ← hnext, ← hfed]
  exact hasks

/-- All the formats that are left -/
theorem Asks.answers {fed : List MimeData} (content : String → List UInt8) (formats : List String) :
    ∀ (w : DataDeviceManager) (k fd : Nat) (data : MimeData), w.Asks s source k fd data fed →
      k ≤ source.mimeTypes.length → source.mimeTypes.drop k = formats →
      ∃ w', Run.exec step w (answers content fd formats) = some w' ∧
        w'.Asks s source source.mimeTypes.length (fd + formats.length)
          (data.setAll (formats.map fun mimeType => (mimeType, content mimeType))) fed := by
  induction formats with
  | nil =>
    intro w k fd data h hk hdrop
    have hlength : k = source.mimeTypes.length := by
      have hle := List.drop_eq_nil_iff.1 hdrop
      omega
    exact ⟨w, rfl, hlength ▸ h⟩
  | cons mimeType formats ih =>
    intro w k fd data h hk hdrop
    have hformat : source.mimeTypes[k]? = some mimeType := by
      rw [← List.head?_drop, hdrop]
      rfl
    have hrest : source.mimeTypes.drop (k + 1) = formats := by
      rw [← List.tail_drop, hdrop]
      rfl
    obtain ⟨w₁, hfirst, h₁⟩ := h.answer content hformat
    have hlt := (List.getElem?_eq_some_iff.1 hformat).1
    obtain ⟨w₂, hothers, h₂⟩ := ih w₁ (k + 1) (fd + 1) _ h₁ (by omega) hrest
    refine ⟨w₂, ?_, ?_⟩
    · show Run.exec step w (DataDeviceManager.answer content fd mimeType ++ _) = _
      rw [Run.exec_append, hfirst]
      exact hothers
    · rw [List.length_cons, show fd + (formats.length + 1) = fd + 1 + formats.length by omega]
      exact h₂

/-- The format is not converted when it is received, given what else is offered. -/
def KeptAsItIs (formats : List String) (mimeType : String) : Prop :=
  mimeType ∉ ["text/plain", "application/x-color", "text/uri-list"] ∧
    ("application/x-qt-image" ∈ formats → isImageFormat mimeType = false)

instance (formats : List String) (mimeType : String) : Decidable (KeptAsItIs formats mimeType) :=
  inferInstanceAs (Decidable (_ ∧ _))

/-- What is received of a format that is not converted -/
theorem getByteArray_kept (qt : MimeConversions) (hkept : KeptAsItIs formats mimeType)
    (himage : data.hasImage = true → "application/x-qt-image" ∈ formats)
    (hvalue : data.value mimeType = some (.ofBytes mimeType bytes)) :
    getByteArray qt data mimeType = bytes := by
  obtain ⟨hmime, hformat⟩ := hkept
  simp only [List.mem_cons, List.not_mem_nil, or_false, not_or] at hmime
  obtain ⟨htext, hcolor, huris⟩ := hmime
  have hconverted : ¬(data.hasImage = true ∧ isImageFormat mimeType = true) := by
    rintro ⟨hhas, his⟩
    cases his.symm.trans (hformat (himage hhas))
  rw [getByteArray, if_neg htext, if_neg hconverted, if_neg hcolor, if_neg huris, MimeData.data,
    hvalue, MimeValue.ofBytes, if_neg huris]

end DataDeviceManager

end GreenIsland.Compositor
