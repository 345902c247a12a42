import GreenIsland.Compositor.SurfaceProtocol

/-! Frame callbacks, over every order of calls.

A client requests a frame callback to be told when it is time to draw the next frame.

* `callbacks_in_order`: a surface's callbacks are answered in the order of the requests, each
  at most once, and one that is still waiting was requested after all that were answered.
* `callback_stage`: where a callback is follows from the calls since its request, and only
  from those that name its surface: it is answered by the first `sendFrameCallbacks` after a
  `frameStarted` after a `commit`, unless it or its surface is destroyed before. -/

namespace GreenIsland.Compositor

variable {p p' : Protocol} {s t : SurfaceId} {k callback : Nat} {c : Call} {A : Attributes}
  {f : Attributes → Attributes} {sizeOf : WlBuffer → QSize}

/-! ## Order -/

/-- The callbacks of a surface that are not answered, in the order of the requests. -/
def Attributes.waiting (A : Attributes) : List Nat := A.ready ++ A.committed ++ A.requested

namespace Protocol

def waiting (p : Protocol) (s : SurfaceId) : List Nat :=
  ((p.surfaces s).map Attributes.waiting).getD []

/-- What the surface's client was told, in that order -/
def answeredOn (p : Protocol) (s : SurfaceId) : List Nat :=
  (p.answered.filter (·.1 = s)).map Prod.snd

/-- All callbacks of the surface that were not destroyed, the first requested first. -/
def queue (p : Protocol) (s : SurfaceId) : List Nat := p.answeredOn s ++ p.waiting s

theorem waiting_modify_self (hs : p.surfaces s = some A) : (p.modify s f).waiting s = (f A).waiting := by
  rw [waiting, modify_self, hs]
  rfl

theorem waiting_modify_of_ne (ht : t ≠ s) : (p.modify s f).waiting t = p.waiting t := by
  rw [waiting, modify_of_ne ht, waiting]

theorem waiting_sublist_modify (hf : ∀ A, p.surfaces s = some A → (f A).waiting.Sublist A.waiting) :
    ((p.modify s f).waiting t).Sublist (p.waiting t) := by
  by_cases ht : t = s
  · cases hs : p.surfaces s with
    | none => rw [modify_of_none hs]
    | some A =>
      rw [ht, waiting_modify_self hs, waiting, hs]
      exact hf A hs
  · rw [waiting_modify_of_ne ht]

theorem queue_sublist_modify (hf : ∀ A, p.surfaces s = some A → (f A).waiting.Sublist A.waiting) :
    ((p.modify s f).queue t).Sublist (p.queue t) :=
  (waiting_sublist_modify hf).append_left _

theorem waiting_presentAttached (sizeOf : WlBuffer → QSize) (A : Attributes) :
    (A.presentAttached sizeOf).waiting = A.waiting := by
  rw [Attributes.presentAttached]
  cases A.attached <;> rfl

theorem waiting_commit : (A.commit sizeOf).waiting = A.waiting := by
  rw [← waiting_presentAttached sizeOf A]
  simp only [Attributes.commit, Attributes.waiting, List.append_nil, List.append_assoc]

theorem answeredOn_append (ks : List Nat) :
    answeredOn { p with answered := p.answered ++ ks.map (s, ·) } t =
      p.answeredOn t ++ if t = s then ks else [] := by
  rw [answeredOn, List.filter_append, List.map_append, List.filter_map, List.map_map]
  refine congrArg _ ?_
  by_cases ht : t = s
  · have hall : ∀ k ∈ ks, ((fun e : SurfaceId × Nat => decide (e.1 = t)) ∘ (s, ·)) k = true :=
      fun _ _ => decide_eq_true ht.symm
    rw [if_pos ht, List.filter_eq_self.2 hall]
    exact List.map_id' ks
  · have hnone : ∀ k ∈ ks, ¬ ((fun e : SurfaceId × Nat => decide (e.1 = t)) ∘ (s, ·)) k = true :=
      fun _ _ hk => ht (of_decide_eq_true hk).symm
    rw [if_neg ht, List.filter_eq_nil_iff.2 hnone]
    rfl

/-- Answering moves what is ready from one part of the queue to the other. -/
theorem queue_answer :
    queue { p.modify s (·.answer) with answered := p.answered ++ (p.ready s).map (s, ·) } t =
      p.queue t := by
  rw [queue, queue]
  change answeredOn { p with answered := p.answered ++ (p.ready s).map (s, ·) } t ++
    (p.modify s (·.answer)).waiting t = _
  rw [answeredOn_append]
  by_cases ht : t = s
  · rw [if_pos ht, ht]
    cases hs : p.surfaces s with
    | none => simp [ready, modify_of_none hs, waiting, hs]
    | some A =>
      rw [waiting_modify_self hs, ready, waiting, hs]
      simp [Attributes.waiting, Attributes.answer]
  · rw [if_neg ht, List.append_nil, waiting_modify_of_ne ht]

/-- **One call** takes callbacks out of a surface's queue, or puts a new one at its end. -/
theorem queue_step (sizeOf : WlBuffer → QSize) (p : Protocol) (c : Call) (t : SurfaceId) :
    ((p.step sizeOf c).queue t).Sublist (p.queue t) ∧
        p.nextCallback ≤ (p.step sizeOf c).nextCallback ∨
      (p.step sizeOf c).queue t = p.queue t ++ [p.nextCallback] ∧
        (p.step sizeOf c).nextCallback = p.nextCallback + 1 := by
  have hsame : ∀ {f : Attributes → Attributes}, (∀ A, (f A).waiting = A.waiting) → ∀ s,
      ((p.modify s f).queue t).Sublist (p.queue t) ∧ p.nextCallback ≤ (p.modify s f).nextCallback :=
    fun hf s => ⟨queue_sublist_modify fun A _ => hf A ▸ .refl _, Nat.le_refl _⟩
  cases c with
  | createSurface =>
    refine .inl ⟨List.Sublist.append_left ?_ _, Nat.le_refl _⟩
    rw [waiting]
    change ((Function.update p.surfaces p.nextSurface _ t).map _ |>.getD []).Sublist _
    by_cases ht : t = p.nextSurface
    · rw [ht, Function.update_self]
      exact List.nil_sublist _
    · rw [Function.update_of_ne ht]
      exact .refl _
  | attach s contents x y =>
    rw [step]
    split
    · refine .inl (hsame ?_ s)
      exact fun _ => rfl
    · exact .inl ⟨.refl _, Nat.le_refl _⟩
  | damage s | setOpaqueRegion s | setInputRegion s | setBufferScale s =>
    refine .inl (hsame ?_ s)
    exact fun _ => rfl
  | commit s =>
    refine .inl (hsame ?_ s)
    exact fun _ => waiting_commit
  | frameStarted s =>
    refine .inl (hsame ?_ s)
    intro A
    simp only [Attributes.frameStarted, Attributes.waiting, List.append_nil]
  | destroyCallback s callback =>
    refine .inl ⟨queue_sublist_modify fun A _ => ?_, Nat.le_refl _⟩
    exact (List.filter_sublist.append List.filter_sublist).append List.filter_sublist
  | frame s =>
    rw [step, frame]
    split
    · next hs =>
      obtain ⟨A, hA⟩ := Option.isSome_iff_exists.1 hs
      by_cases ht : t = s
      · refine .inr ⟨?_, rfl⟩
        change p.answeredOn t ++ (p.modify s _).waiting t = _
        rw [ht, waiting_modify_self hA, queue, waiting, hA, Option.map_some, Option.getD_some]
        simp only [Attributes.waiting, Attributes.frame, List.append_assoc]
      · refine .inl ⟨?_, Nat.le_succ _⟩
        change (p.answeredOn t ++ (p.modify s _).waiting t).Sublist _
        rw [waiting_modify_of_ne ht]
        exact .refl _
    · exact .inl ⟨.refl _, Nat.le_refl _⟩
  | destroySurface s =>
    refine .inl ⟨List.Sublist.append_left ?_ _, Nat.le_refl _⟩
    rw [waiting]
    change ((Function.update p.surfaces s none t).map _ |>.getD []).Sublist _
    by_cases ht : t = s
    · rw [ht, Function.update_self]
      exact List.nil_sublist _
    · rw [Function.update_of_ne ht]
      exact .refl _
  | destroyBuffer r =>
    rw [step]
    split
    · exact .inl ⟨.refl _, Nat.le_refl _⟩
    · have hforget : ∀ A : Attributes, (A.forget r).waiting = A.waiting := by
        intro A
        rw [Attributes.forget]
        split <;> rfl
      refine .inl ⟨List.Sublist.append_left ?_ _, Nat.le_refl _⟩
      rw [waiting, Option.map_map, waiting]
      exact Option.map_congr (fun A _ => hforget A) ▸ .refl _
  | sendFrameCallbacks s =>
    refine .inl ⟨?_, Nat.le_refl _⟩
    rw [step, queue_answer]
  | createView | setSurface | advance | discardCurrentBuffer | setBufferLocked | setDiscardFrontBuffers
  | destroyView | setThrottlingView | copyBuffer | dropCopy => exact .inl ⟨.refl _, Nat.le_refl _⟩

/-- Each surface's callbacks have increasing numbers, which are given out already. -/
structure Ordered (p : Protocol) : Prop where
  queue : ∀ s, (p.queue s).Pairwise (· < ·)
  lt_next : ∀ s, ∀ k ∈ p.queue s, k < p.nextCallback

theorem Ordered.step (hp : p.Ordered) (sizeOf : WlBuffer → QSize) (c : Call) :
    (p.step sizeOf c).Ordered := by
  refine ⟨fun s => ?_, fun s k hk => ?_⟩
  · rcases queue_step sizeOf p c s with ⟨hsub, -⟩ | ⟨heq, -⟩
    · exact (hp.queue s).sublist hsub
    · rw [heq]
      refine List.pairwise_append.2 ⟨hp.queue s, List.pairwise_singleton .., fun k hk l hl => ?_⟩
      rw [List.mem_singleton.1 hl]
      exact hp.lt_next s k hk
  · rcases queue_step sizeOf p c s with ⟨hsub, hle⟩ | ⟨heq, hnext⟩
    · exact Nat.lt_of_lt_of_le (hp.lt_next s k (hsub.subset hk)) hle
    · rw [hnext]
      rcases List.mem_append.1 (heq ▸ hk) with hold | hnew
      · exact Nat.lt_succ_of_lt (hp.lt_next s k hold)
      · rw [List.mem_singleton.1 hnew]
        exact Nat.lt_succ_self _

theorem ordered_init : init.Ordered := ⟨fun _ => .nil, fun _ _ hk => absurd hk List.not_mem_nil⟩

theorem ordered_of_run (sizeOf : WlBuffer → QSize) (cs : List Call) (hp : p.Ordered) :
    (cs.foldl (step sizeOf) p).Ordered := by
  induction cs generalizing p with
  | nil => exact hp
  | cons c cs ih => exact ih (hp.step sizeOf c)

end Protocol

/-- **In order, and at most once.**  In every run what a surface's client was answered, and after
it what is still waiting, ready first, is in the order of the requests, without repetition. -/
theorem callbacks_in_order (sizeOf : WlBuffer → QSize) (cs : List Call) :
    ∃ w, Run.exec (step sizeOf) World.init cs = some w ∧
      ∀ s, (w.protocol.answeredOn s ++ w.protocol.waiting s).Pairwise (· < ·) := by
  obtain ⟨w, hexec, hprotocol, -⟩ :=
    World.Inv.run_refines sizeOf ⟨World.inv_init, World.regular_init⟩ cs
  refine ⟨w, hexec, fun s => ?_⟩
  rw [hprotocol]
  exact (Protocol.ordered_of_run sizeOf cs Protocol.ordered_init).queue s

/-! ## Where a callback is -/

/-- The life of a callback -/
inductive Stage where
  | requested
  | committed
  | ready
  | answered
  | dropped
deriving DecidableEq, Repr

/-- What a call means for the callback `k` of the surface `s`. -/
def Stage.after (s : SurfaceId) (k : Nat) : Stage → Call → Stage
  | .requested, .commit t => if t = s then .committed else .requested
  | .committed, .frameStarted t => if t = s then .ready else .committed
  | .ready, .sendFrameCallbacks t => if t = s then .answered else .ready
  | .answered, _ => .answered
  | stage, .destroySurface t => if t = s then .dropped else stage
  | stage, .destroyCallback t callback => if t = s ∧ callback = k then .dropped else stage
  | stage, _ => stage

/-- While the surface is there, the callback is in the list of its stage. -/
structure Attributes.Has (A : Attributes) (k : Nat) (stage : Stage) : Prop where
  requested : k ∈ A.requested ↔ stage = .requested
  committed : k ∈ A.committed ↔ stage = .committed
  ready : k ∈ A.ready ↔ stage = .ready

namespace Protocol

/-- Where the callback `k` of the surface `s` is. -/
structure At (p : Protocol) (s : SurfaceId) (k : Nat) (stage : Stage) : Prop where
  surface : ∀ A, p.surfaces s = some A → A.Has k stage
  gone : p.surfaces s = none → stage = .answered ∨ stage = .dropped
  answered : (s, k) ∈ p.answered ↔ stage = .answered

variable {stage stage' : Stage}

/-- Another surface changes. -/
theorem At.of_eq (hat : p.At s k stage) (hs : p'.surfaces s = p.surfaces s)
    (hanswered : (s, k) ∈ p'.answered ↔ (s, k) ∈ p.answered) : p'.At s k stage :=
  ⟨hs ▸ hat.surface, hs ▸ hat.gone, hanswered.trans hat.answered⟩

/-- The surface of the callback changes. -/
theorem At.modify (hat : p.At s k stage) (hf : ∀ A, A.Has k stage → (f A).Has k stage')
    (hgone : stage = .answered ∨ stage = .dropped → stage' = stage)
    (hanswered : stage' = .answered ↔ stage = .answered) : (p.modify s f).At s k stage' := by
  refine ⟨fun A hA => ?_, fun hnone => ?_, hat.answered.trans hanswered.symm⟩
  · rw [modify_self] at hA
    obtain ⟨B, hB, rfl⟩ := Option.map_eq_some_iff.1 hA
    exact hf B (hat.surface B hB)
  · rw [modify_self, Option.map_eq_none_iff] at hnone
    have hend := hat.gone hnone
    exact hgone hend ▸ hend

/-- A call that is no concern of callbacks -/
theorem At.modify_same (hat : p.At s k stage) (t : SurfaceId)
    (hf : ∀ A, A.Has k stage → (f A).Has k stage) : (p.modify t f).At s k stage := by
  by_cases hs : s = t
  · subst hs
    exact hat.modify hf (fun _ => rfl) Iff.rfl
  · exact hat.of_eq (modify_of_ne hs) Iff.rfl

theorem has_commit (hA : A.Has k stage) : (A.commit sizeOf).Has k (stage.after s k (.commit s)) := by
  have hcommit : (A.commit sizeOf).requested = [] ∧
      (A.commit sizeOf).committed = A.committed ++ A.requested ∧ (A.commit sizeOf).ready = A.ready := by
    rw [Attributes.commit, Attributes.presentAttached]
    cases A.attached <;> exact ⟨rfl, rfl, rfl⟩
  obtain ⟨hrequested, hcommitted, hready⟩ := hcommit
  refine ⟨?_, ?_, ?_⟩
  · rw [hrequested]
    cases stage <;> simp [Stage.after]
  · rw [hcommitted, List.mem_append, hA.requested, hA.committed]
    cases stage <;> simp [Stage.after]
  · rw [hready, hA.ready]
    cases stage <;> simp [Stage.after]

theorem has_removeCallback (hA : A.Has k stage) :
    (A.removeCallback callback).Has k (stage.after s k (.destroyCallback s callback)) := by
  have hfilter : ∀ ks : List Nat, k ∈ ks.filter (· ≠ callback) ↔ k ∈ ks ∧ k ≠ callback := fun ks =>
    List.mem_filter.trans (and_congr_right fun _ => decide_eq_true_iff)
  by_cases hk : k = callback
  · refine ⟨(hfilter _).trans ?_, (hfilter _).trans ?_, (hfilter _).trans ?_⟩ <;>
      cases stage <;> simp [Stage.after, hk]
  · refine ⟨(hfilter _).trans ?_, (hfilter _).trans ?_, (hfilter _).trans ?_⟩
    · rw [hA.requested]
      cases stage <;> simp [Stage.after, hk, Ne.symm hk]
    · rw [hA.committed]
      cases stage <;> simp [Stage.after, hk, Ne.symm hk]
    · rw [hA.ready]
      cases stage <;> simp [Stage.after, hk, Ne.symm hk]

/-- The life of a callback goes on, as long as its number and its surface's are given out. -/
theorem At.step (sizeOf : WlBuffer → QSize) (hat : p.At s k stage) (hs : s < p.nextSurface)
    (hk : k < p.nextCallback) (c : Call) : (p.step sizeOf c).At s k (stage.after s k c) := by
  have hother : ∀ {t}, t ≠ s → stage.after s k (.commit t) = stage ∧
      stage.after s k (.frameStarted t) = stage ∧ stage.after s k (.sendFrameCallbacks t) = stage ∧
      stage.after s k (.destroySurface t) = stage ∧
      ∀ callback, stage.after s k (.destroyCallback t callback) = stage := by
    intro t ht
    cases stage <;> simp [Stage.after, ht]
  cases c with
  | createSurface =>
    have hstage : stage.after s k .createSurface = stage := by cases stage <;> rfl
    rw [hstage]
    exact hat.of_eq (Function.update_of_ne (Nat.ne_of_lt hs) ..) Iff.rfl
  | attach t contents x y =>
    have hstage : stage.after s k (.attach t contents x y) = stage := by cases stage <;> rfl
    rw [hstage, Protocol.step]
    split
    · exact hat.modify_same t fun A hA => ⟨hA.requested, hA.committed, hA.ready⟩
    · exact hat
  | damage t | setOpaqueRegion t | setInputRegion t | setBufferScale t =>
    cases stage <;> exact hat.modify_same t fun A hA => ⟨hA.requested, hA.committed, hA.ready⟩
  | frame t =>
    have hstage : stage.after s k (.frame t) = stage := by cases stage <;> rfl
    rw [hstage, Protocol.step, frame]
    split
    · have hsame : (p.modify t (·.frame p.nextCallback)).At s k stage := by
        refine hat.modify_same t fun A hA => ⟨?_, hA.committed, hA.ready⟩
        refine List.mem_append.trans ((or_iff_left fun hnew => ?_).trans hA.requested)
        exact Nat.ne_of_lt hk (List.mem_singleton.1 hnew)
      exact ⟨hsame.surface, hsame.gone, hsame.answered⟩
    · exact hat
  | commit t =>
    by_cases ht : t = s
    · subst ht
      refine hat.modify (fun A hA => has_commit hA) ?_ ?_
      · rintro (rfl | rfl) <;> rfl
      · cases stage <;> simp [Stage.after]
    · rw [(hother ht).1]
      exact hat.of_eq (modify_of_ne (Ne.symm ht)) Iff.rfl
  | frameStarted t =>
    by_cases ht : t = s
    · subst ht
      refine hat.modify (fun A hA => ⟨?_, ?_, ?_⟩) ?_ ?_
      · refine hA.requested.trans ?_
        cases stage <;> simp [Stage.after]
      · refine (iff_of_false List.not_mem_nil ?_)
        cases stage <;> simp [Stage.after]
      · refine List.mem_append.trans ?_
        rw [hA.ready, hA.committed]
        cases stage <;> simp [Stage.after]
      · rintro (rfl | rfl) <;> rfl
      · cases stage <;> simp [Stage.after]
    · rw [(hother ht).2.1]
      exact hat.of_eq (modify_of_ne (Ne.symm ht)) Iff.rfl
  | sendFrameCallbacks t =>
    by_cases ht : t = s
    · subst ht
      refine ⟨fun A hA => ?_, fun hnone => ?_, ?_⟩
      · rw [Protocol.step, modify_self] at hA
        obtain ⟨B, hB, rfl⟩ := Option.map_eq_some_iff.1 hA
        have hB := hat.surface B hB
        refine ⟨hB.requested.trans ?_, hB.committed.trans ?_, iff_of_false List.not_mem_nil ?_⟩ <;>
          cases stage <;> simp [Stage.after]
      · rw [Protocol.step, modify_self, Option.map_eq_none_iff] at hnone
        rcases hat.gone hnone with rfl | rfl
        · exact .inl rfl
        · exact .inr rfl
      · refine List.mem_append.trans ?_
        have hready : (t, k) ∈ (p.ready t).map (t, ·) ↔ stage = .ready := by
          rw [List.mem_map_of_injective (Prod.mk_right_injective t), ready]
          cases hA : p.surfaces t with
          | none => rcases hat.gone hA with rfl | rfl <;> simp
          | some A => exact (hat.surface A hA).ready
        rw [hat.answered, hready]
        cases stage <;> simp [Stage.after]
    · rw [(hother ht).2.2.1]
      refine hat.of_eq (modify_of_ne (Ne.symm ht)) (List.mem_append.trans (or_iff_left fun hmem => ?_))
      obtain ⟨_, -, heq⟩ := List.mem_map.1 hmem
      exact ht (congrArg Prod.fst heq)
  | destroySurface t =>
    by_cases ht : t = s
    · subst ht
      have hnone : (p.step sizeOf (.destroySurface t)).surfaces t = none := Function.update_self ..
      refine ⟨fun A hA => ?_, fun _ => ?_, hat.answered.trans ?_⟩
      · cases hnone.symm.trans hA
      · cases stage <;> simp [Stage.after]
      · cases stage <;> simp [Stage.after]
    · rw [(hother ht).2.2.2.1]
      exact hat.of_eq (Function.update_of_ne (Ne.symm ht) ..) Iff.rfl
  | destroyCallback t callback =>
    by_cases ht : t = s
    · subst ht
      refine hat.modify (fun A hA => has_removeCallback hA) ?_ ?_
      · rintro (rfl | rfl) <;> simp [Stage.after]
      · cases stage <;> by_cases hcallback : callback = k <;> simp [Stage.after, hcallback]
    · rw [(hother ht).2.2.2.2]
      exact hat.of_eq (modify_of_ne (Ne.symm ht)) Iff.rfl
  | destroyBuffer r =>
    have hstage : stage.after s k (.destroyBuffer r) = stage := by cases stage <;> rfl
    rw [hstage, Protocol.step]
    split
    · exact hat
    · refine ⟨fun A hA => ?_, fun hnone => hat.gone (Option.map_eq_none_iff.1 hnone), hat.answered⟩
      obtain ⟨B, hB, rfl⟩ := Option.map_eq_some_iff.1 hA
      have hB := hat.surface B hB
      rw [Attributes.forget]
      split
      · exact ⟨hB.requested, hB.committed, hB.ready⟩
      · exact hB
  | createView | setSurface | advance | discardCurrentBuffer | setBufferLocked | setDiscardFrontBuffers
  | destroyView | setThrottlingView | copyBuffer | dropCopy => cases stage <;> exact hat

theorem next_step (sizeOf : WlBuffer → QSize) (p : Protocol) (c : Call) :
    p.nextSurface ≤ (p.step sizeOf c).nextSurface ∧ p.nextCallback ≤ (p.step sizeOf c).nextCallback := by
  cases c with
  | createSurface => exact ⟨Nat.le_succ _, Nat.le_refl _⟩
  | attach => rw [step]; split <;> exact ⟨Nat.le_refl _, Nat.le_refl _⟩
  | frame => rw [step, frame]; split <;> exact ⟨Nat.le_refl _, by simp⟩
  | destroyBuffer => rw [step]; split <;> exact ⟨Nat.le_refl _, Nat.le_refl _⟩
  | _ => exact ⟨Nat.le_refl _, Nat.le_refl _⟩

theorem At.run (sizeOf : WlBuffer → QSize) (cs : List Call) (hat : p.At s k stage)
    (hs : s < p.nextSurface) (hk : k < p.nextCallback) :
    (cs.foldl (Protocol.step sizeOf) p).At s k (cs.foldl (Stage.after s k) stage) := by
  induction cs generalizing p stage with
  | nil => exact hat
  | cons c cs ih =>
    obtain ⟨hsurface, hcallback⟩ := next_step sizeOf p c
    exact ih (hat.step sizeOf hs hk c) (Nat.lt_of_lt_of_le hs hsurface) (Nat.lt_of_lt_of_le hk hcallback)

/-- A callback that was just requested -/
theorem Ordered.at_frame (hp : p.Ordered) (hA : p.surfaces s = some A) :
    (p.frame s).At s p.nextCallback .requested := by
  have hfresh : ∀ k ∈ p.queue s, k ≠ p.nextCallback := fun k hk => Nat.ne_of_lt (hp.lt_next s k hk)
  have hwaiting : ∀ k ∈ A.waiting, k ≠ p.nextCallback := by
    intro k hk
    refine hfresh k (List.mem_append_right _ ?_)
    rwa [waiting, hA]
  rw [frame, if_pos (hA ▸ rfl)]
  refine ⟨fun B hB => ?_, fun hnone => ?_, iff_of_false (fun hmem => ?_) Stage.noConfusion⟩
  · have hB : (p.modify s _).surfaces s = some B := hB
    rw [modify_self, hA] at hB
    obtain rfl := Option.some.inj hB
    refine ⟨iff_of_true (List.mem_append_right _ (List.mem_singleton.2 rfl)) rfl,
      iff_of_false (fun hmem => ?_) Stage.noConfusion, iff_of_false (fun hmem => ?_) Stage.noConfusion⟩
    · exact hwaiting _ (List.mem_append_left _ (List.mem_append_right _ hmem)) rfl
    · exact hwaiting _ (List.mem_append_left _ (List.mem_append_left _ hmem)) rfl
  · have hnone : (p.modify s _).surfaces s = none := hnone
    rw [modify_self, hA] at hnone
    cases hnone
  · refine hfresh _ (List.mem_append_left _ ?_) rfl
    exact List.mem_map.2 ⟨(s, p.nextCallback), List.mem_filter.2 ⟨hmem, decide_eq_true rfl⟩, rfl⟩

end Protocol

/-- **Every callback goes its way.**  In any run, a callback that is requested from a surface is
where the calls since then that name its surface have brought it: `Stage.after` is applied
to them one after the other, whatever else happens in between. -/
theorem callback_stage (sizeOf : WlBuffer → QSize) (before after : List Call) {w : World}
    {S : Surface} (hreached : Run.exec (step sizeOf) World.init before = some w)
    (hS : w.surfaces s = some S) :
    ∃ w', Run.exec (step sizeOf) w (.frame s :: after) = some w' ∧
      w'.protocol.At s w.nextCallback (after.foldl (Stage.after s w.nextCallback) .requested) := by
  obtain ⟨w₀, hexec, hprotocol, hinv⟩ :=
    World.Inv.run_refines sizeOf ⟨World.inv_init, World.regular_init⟩ before
  obtain rfl : w₀ = w := Option.some.inj (hexec.symm.trans hreached)
  have hordered : w₀.protocol.Ordered :=
    hprotocol ▸ Protocol.ordered_of_run sizeOf before Protocol.ordered_init
  obtain ⟨w', hexec', hprotocol', -⟩ := World.Inv.run_refines sizeOf hinv (.frame s :: after)
  have hA : w₀.protocol.surfaces s = some (S.attributes w₀.heap) := by
    change (w₀.surfaces s).map _ = _
    rw [hS, Option.map_some]
  have hnext : (w₀.protocol.frame s).nextCallback = w₀.nextCallback + 1 := by
    rw [Protocol.frame, if_pos (hA ▸ rfl)]
    rfl
  have hsurface : (w₀.protocol.frame s).nextSurface = w₀.nextSurface := by
    rw [Protocol.frame, if_pos (hA ▸ rfl)]
    rfl
  refine ⟨w', hexec', ?_⟩
  rw [hprotocol', List.foldl_cons]
  refine (hordered.at_frame hA).run sizeOf after ?_ ?_
  · exact hsurface ▸ hinv.1.refs.surface_lt s S hS
  · exact hnext ▸ Nat.lt_succ_self _

/-- Two surfaces are drawn; the second one's callback is answered in the next frame only. -/
theorem callback_stage_two_surfaces :
    ∃ w S w', Run.exec (step fun _ => ⟨64, 64⟩) World.init
        [.createSurface, .createSurface, .frame 0, .commit 0] = some w ∧ w.surfaces 1 = some S ∧
      Run.exec (step fun _ => ⟨64, 64⟩) w
        [.frame 1, .frameStarted 1, .commit 1, .sendFrameCallbacks 1, .sendFrameCallbacks 0,
          .frameStarted 1, .sendFrameCallbacks 1] = some w' ∧
      w'.protocol.At 1 1 .answered := by
  obtain ⟨w, S, hw, hS, hnext⟩ : ∃ w S, Run.exec (step fun _ => ⟨64, 64⟩) World.init
      [.createSurface, .createSurface, .frame 0, .commit 0] = some w ∧ w.surfaces 1 = some S ∧
        w.nextCallback = 1 :=
    ⟨_, _, rfl, rfl, rfl⟩
  obtain ⟨w', hw', hat⟩ := callback_stage (fun _ => ⟨64, 64⟩) _
    [.frameStarted 1, .commit 1, .sendFrameCallbacks 1, .sendFrameCallbacks 0, .frameStarted 1,
      .sendFrameCallbacks 1] hw hS
  rw [hnext] at hat
  exact ⟨w, S, w', hw, hS, hw', hat⟩

end GreenIsland.Compositor
