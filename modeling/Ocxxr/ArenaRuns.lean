import Ocxxr.AcquiredTable
import Ocxxr.ArenaCalls
import Ocxxr.ArenaRegion
import Ocxxr.TaskFrames

namespace Ocxxr.ArenaRuns

open Ocr SortedSearch Bookkeeping AcquiredTable Allocator AllocatorSpec TaskState AcquiredData TaskLaunch
  TaskFrames AlignedWords BumpRegion ArenaRegion ArenaCalls

/-- The two ways to an allocator: through an arena object, or the implicit one of the
running task. -/
inductive Source (G : Type)
  | object (arena : AcquiredData.Arena G)
  | implicit

namespace Source

variable {G : Type} {thread : Thread G} {alloc : DatablockAllocator}

def allocator (source : Source G) : ThreadM G DatablockAllocator :=
  match source with
  | object arena => pure ⟨arena.state⟩
  | implicit => allocatorGet

def perform (source : Source G) (entry : Entry) (sizeofT : BitVec 64) (construct : Int → ThreadM G Unit) :
    ThreadM G Int :=
  match source, entry with
  | object arena, .new => arena.new sizeofT construct
  | object arena, .newArray count => arena.newArray sizeofT count construct
  | implicit, .new => AcquiredData.new sizeofT construct
  | implicit, .newArray count => AcquiredData.newArray sizeofT count construct

def saveState (source : Source G) : ThreadM G AllocatorState := do
  let alloc ← source.allocator
  inMemory alloc.saveState

def restoreState (source : Source G) (state : AllocatorState) : ThreadM G Unit := do
  let alloc ← source.allocator
  inMemory (alloc.restoreState state)

theorem perform_run {source : Source G} (hs : source.allocator.run thread = .ok alloc thread) (entry : Entry)
    (sizeofT : BitVec 64) (construct : Int → ThreadM G Unit) :
    (source.perform entry sizeofT construct).run thread = (entry.perform alloc sizeofT construct).run thread := by
  have h : source.perform entry sizeofT construct =
      source.allocator >>= fun alloc => entry.perform alloc sizeofT construct := by
    cases source <;> cases entry <;> rfl
  rw [h, EStateM.run_bind, hs]

theorem saveState_run {source : Source G} (hs : source.allocator.run thread = .ok alloc thread) :
    source.saveState.run thread = (inMemory alloc.saveState).run thread := by
  rw [saveState, EStateM.run_bind, hs]

theorem restoreState_run {source : Source G} (hs : source.allocator.run thread = .ok alloc thread)
    (state : AllocatorState) : (source.restoreState state).run thread =
    (inMemory (alloc.restoreState state)).run thread := by
  rw [restoreState, EStateM.run_bind, hs]

end Source

/-- A thread as one arena sees it: the blocks handed out there, and the states that
`saveState` has returned there and that are still to be restored, the last one first. -/
structure Moment (G : Type) where
  thread : Thread G
  region : Region Int
  saved : List AllocatorState

namespace Moment

variable {G : Type} (s : Moment G) (thread : Thread G)

def fresh : Moment G := ⟨thread, .fresh sizeofDbArenaHeader.toInt, []⟩

def go : Moment G := { s with thread := thread }

def hand (a p : Int) (bytes : Nat) : Moment G := ⟨thread, s.region.push ⟨p - a, p - a + bytes⟩, s.saved⟩

def save (state : AllocatorState) : Moment G := ⟨thread, s.region.mark, state :: s.saved⟩

def restore : Moment G := ⟨thread, s.region.rollback, s.saved.tail⟩

end Moment

variable {G : Type} [OcrGuid G] (std : StdAlgorithms (DbPair G)) (a : Int)

/-- A program on a thread, seen from the arena at `a`: it is run from one moment up to
another, where it returns, or where it is left while it still runs. The constructors
that an entry point calls are run in between, from the thread that the entry point
leaves where there is nothing to construct. -/
inductive Runs : {α : Type} → ThreadM G α → Moment G → Option α → Moment G → Prop
  | left {α : Type} (program : ThreadM G α) (s) : Runs program s none s
  | elsewhere {α : Type} {program : ThreadM G α} {s : Moment G} {v thread'}
    (hr : program.run s.thread = .ok v thread')
      (hsame : thread'.headers a = s.thread.headers a) : Runs program s (some v) (s.go thread')
  | bindLeft {α β : Type} {x : ThreadM G α} {f : α → ThreadM G β} {s s'} (hx : Runs x s none s') :
      Runs (x >>= f) s none s'
  | bind {α β : Type} {x : ThreadM G α} {f : α → ThreadM G β} {s v s₁ o s'} (hx : Runs x s (some v) s₁)
      (hf : Runs (f v) s₁ o s') : Runs (x >>= f) s o s'
  | new {source : Source G} {entry sizeofT construct alloc p thread₁ o} {s s' : Moment G}
      (hs : source.allocator.run s.thread = .ok alloc s.thread)
      (hcall : (source.perform entry sizeofT (fun _ => pure ())).run s.thread = .ok p thread₁)
      (hin : alloc.dbPtr = a → ∀ header, s.thread.headers a = some header → InRange header sizeofT entry.count)
      (hconstruct : Runs (constructAt p sizeofT entry.count construct)
        (if alloc.dbPtr = a then s.hand thread₁ a p (sizeofT.toNat * entry.count.toNat) else s.go thread₁) o s') :
      Runs (source.perform entry sizeofT construct) s o s'
  | saveState {source : Source G} {alloc state thread'} {s : Moment G}
      (hs : source.allocator.run s.thread = .ok alloc s.thread)
      (hr : source.saveState.run s.thread = .ok state thread') :
      Runs source.saveState s (some state) (if alloc.dbPtr = a then s.save thread' state else s.go thread')
  | restoreState {source : Source G} {alloc state thread'} {s : Moment G}
      (hs : source.allocator.run s.thread = .ok alloc s.thread)
      (hr : (source.restoreState state).run s.thread = .ok () thread')
      (hlast : alloc.dbPtr = a → s.saved.head? = some state) :
      Runs (source.restoreState state) s (some ()) (if alloc.dbPtr = a then s.restore thread' else s.go thread')
  | taskLeft {edt : Edt G} {userFn args started} {s s' : Moment G}
      (hargs : (edt.prologue std).run s.thread = .ok args started)
      (huser : Runs (userFn args) (s.go started) none s') : Runs (edt.run std userFn) s none s'
  | task {edt : Edt G} {userFn args started answer thread'} {s s' : Moment G}
      (hargs : (edt.prologue std).run s.thread = .ok args started)
      (huser : Runs (userFn args) (s.go started) (some answer) s')
      (hpop : popTaskState.run s'.thread = .ok () thread') :
      Runs (edt.run std userFn) s (some (edt.result answer)) (s'.go thread')

variable {std} {a} {dbSize : BitVec 64} {α : Type} {program : ThreadM G α} {s s' : Moment G} {o : Option α}

/-- What comes to its end in a run is what the program does. -/
theorem Runs.run_eq (h : Runs std a program s o s') :
    ∀ v, o = some v → program.run s.thread = .ok v s'.thread := by
  induction h with
  | left | bindLeft | taskLeft =>
      intro v hv
      cases hv
  | elsewhere hr _ =>
      intro v hv
      cases hv
      exact hr
  | bind _ _ ihx ihf =>
      intro v hv
      exact run_bind_ok.mpr ⟨_, _, ihx _ rfl, ihf v hv⟩
  | @new source entry sizeofT construct alloc p thread₁ o s s' hs hcall _ _ ih =>
      intro v hv
      have hconstruct := ih v hv
      rw [Source.perform_run hs] at hcall ⊢
      obtain ⟨start, headers, hallocate, hnothing⟩ := perform_ok.mp hcall
      rw [constructAt_scalar] at hnothing
      cases hnothing
      refine perform_ok.mpr ⟨start, headers, hallocate, ?_⟩
      split at hconstruct <;> exact hconstruct
  | saveState hs hr =>
      intro v hv
      cases hv
      split <;> exact hr
  | restoreState hs hr _ =>
      intro v hv
      cases hv
      split <;> exact hr
  | task hargs _ hpop ih =>
      intro v hv
      cases hv
      exact (Edt.run_ok std).mpr ⟨_, _, _, _, hargs, ih _ rfl, hpop, rfl⟩

theorem Runs.allocated {source : Source G} {entry : Entry} {sizeofT start : BitVec 64} {headers : Headers}
    {construct : Int → ThreadM G Unit} {o : Option Int} (hs : source.allocator.run s.thread = .ok ⟨a⟩ s.thread)
    (h : (DatablockAllocator.allocate ⟨a⟩ sizeofT entry.count).run s.thread.headers = .ok start headers)
    (hin : ∀ header, s.thread.headers a = some header → InRange header sizeofT entry.count)
    (hconstruct : Runs std a (constructAt (a + start.toInt) sizeofT entry.count construct)
      (s.hand { s.thread with headers := headers } a (a + start.toInt) (sizeofT.toNat * entry.count.toNat)) o s') :
    Runs std a (source.perform entry sizeofT construct) s o s' := by
  have hcall : (source.perform entry sizeofT (fun _ => pure ())).run s.thread =
      .ok (a + start.toInt) { s.thread with headers := headers } := by
    rw [Source.perform_run hs]
    exact perform_ok.mpr ⟨start, headers, h, constructAt_scalar _ _ _⟩
  apply Runs.new hs hcall (fun _ => hin)
  rwa [if_pos rfl]

/-- The header of the arena says where the blocks end, and the states to be restored say
where they ended. -/
structure Tracks (a : Int) (dbSize : BitVec 64) (s : Moment G) : Prop where
  agrees : Agrees a dbSize s.thread.headers s.region
  saved : s.saved.map (fun state => state.offset.toInt) = s.region.marks.map Prod.fst

section Steps

variable {source : Source G} {alloc : DatablockAllocator} {thread' : Thread G} (h : Tracks a dbSize s)
  (hs : source.allocator.run s.thread = .ok alloc s.thread)

include h

omit [OcrGuid G] in
theorem Tracks.go (hsame : thread'.headers a = s.thread.headers a) : Tracks a dbSize (s.go thread') :=
  ⟨agrees_congr h.agrees hsame, h.saved⟩

include hs

omit [OcrGuid G] in
theorem Tracks.new {entry : Entry} {sizeofT : BitVec 64} {p : Int}
    (hcall : (source.perform entry sizeofT (fun _ => pure ())).run s.thread = .ok p thread')
    (hin : alloc.dbPtr = a → ∀ header, s.thread.headers a = some header → InRange header sizeofT entry.count) :
    Tracks a dbSize
      (if alloc.dbPtr = a then s.hand thread' a p (sizeofT.toNat * entry.count.toNat) else s.go thread') := by
  rw [Source.perform_run hs] at hcall
  obtain ⟨start, headers, hallocate, hnothing⟩ := perform_ok.mp hcall
  rw [constructAt_scalar] at hnothing
  cases hnothing
  by_cases ha : alloc.dbPtr = a
  · rw [if_pos ha]
    have hblock := allocate_agrees h.agrees ha hallocate (hin ha)
    have hoffset : alloc.dbPtr + start.toInt - a = start.toInt := by omega
    refine ⟨?_, h.saved⟩
    rw [Moment.hand, hoffset]
    exact_mod_cast hblock
  · rw [if_neg ha]
    exact h.go (allocate_elsewhere ha hallocate)

omit [OcrGuid G] in
theorem Tracks.saveState {state : AllocatorState} (hr : source.saveState.run s.thread = .ok state thread') :
    Tracks a dbSize (if alloc.dbPtr = a then s.save thread' state else s.go thread') := by
  rw [Source.saveState_run hs] at hr
  obtain ⟨headers, hsave, rfl⟩ := inMemory_ok.mp hr
  by_cases ha : alloc.dbPtr = a
  · rw [if_pos ha]
    obtain ⟨htop, hmark⟩ := saveState_agrees h.agrees ha hsave
    exact ⟨hmark, congrArg₂ List.cons htop h.saved⟩
  · rw [if_neg ha]
    obtain ⟨_, _, rfl⟩ := saveState_ok.mp hsave
    exact h.go rfl

omit [OcrGuid G] in
theorem Tracks.restoreState {state : AllocatorState}
    (hr : (source.restoreState state).run s.thread = .ok () thread')
    (hlast : alloc.dbPtr = a → s.saved.head? = some state) :
    Tracks a dbSize (if alloc.dbPtr = a then s.restore thread' else s.go thread') := by
  rw [Source.restoreState_run hs] at hr
  obtain ⟨headers, hrestore, rfl⟩ := inMemory_ok.mp hr
  by_cases ha : alloc.dbPtr = a
  · rw [if_pos ha]
    obtain ⟨_, ⟨top, live, marks⟩, saved⟩ := s
    obtain ⟨hagrees, hsaved⟩ := h
    cases saved with
    | nil => cases hlast ha
    | cons last saved =>
        obtain rfl : last = state := Option.some.inj (hlast ha)
        cases marks with
        | nil => cases hsaved
        | cons m marks =>
            obtain ⟨hm, hrest⟩ := List.cons.inj hsaved
            exact ⟨restoreState_agrees hagrees ha hrestore (congrArg some hm.symm), hrest⟩
  · rw [if_neg ha]
    exact h.go (restoreState_elsewhere ha hrestore)

end Steps

/-- By induction on the run: constructors, and the tasks that run in between, start and
end with the blocks and the saved states in step. -/
theorem runs_tracks (h : Tracks a dbSize s) (hrun : Runs std a program s o s') : Tracks a dbSize s' := by
  induction hrun with
  | left => exact h
  | elsewhere _ hsame => exact h.go hsame
  | bindLeft _ ih => exact ih h
  | bind _ _ ihx ihf => exact ihf (ihx h)
  | new hs hcall hin _ ih => exact ih (h.new hs hcall hin)
  | saveState hs hr => exact h.saveState hs hr
  | restoreState hs hr hlast => exact h.restoreState hs hr hlast
  | taskLeft hargs _ ih => exact ih (h.go (congrFun (prologue_headers hargs) a))
  | task hargs _ hpop ih =>
      have hend := ih (h.go (congrFun (prologue_headers hargs) a))
      obtain ⟨_, _, _, rfl⟩ := popTaskState_ok.mp hpop
      exact hend.go rfl

omit [OcrGuid G] in
theorem fresh_tracks {start thread : Thread G}
    (hinit : (inMemory (allocatorDbInit a dbSize)).run start = .ok () thread) :
    Tracks a dbSize (.fresh thread) := by
  obtain ⟨headers, hheaders, rfl⟩ := inMemory_ok.mp hinit
  exact ⟨fresh_agrees hheaders, rfl⟩

/-- The blocks of an arena that are handed out and not rolled back lie apart from each
other and from the header, below both the offset and the size that the header records. -/
theorem arena_blocks_never_overlap {start thread : Thread G}
    (hinit : (inMemory (allocatorDbInit a dbSize)).run start = .ok () thread)
    (hrun : Runs std a program (.fresh thread) o s) :
    (∀ v, o = some v → program.run thread = .ok v s.thread) ∧
    ∃ header, s.thread.headers a = some header ∧ header.size = dbSize ∧
      s.region.live.Pairwise Block.Apart ∧
      ∀ b ∈ s.region.live, sizeofDbArenaHeader.toInt ≤ b.lo ∧ b.lo ≤ b.hi ∧ b.hi ≤ header.offset.toInt ∧
        b.hi ≤ header.size.toInt := by
  have h := (runs_tracks (fresh_tracks hinit) hrun).agrees
  obtain ⟨header, hheader, hsize, htop⟩ := h.header
  refine ⟨hrun.run_eq, header, hheader, hsize, h.sound.packed.apart, ?_⟩
  rw [htop, hsize]
  exact h.sound.packed.bounds

section OneArena

def arenaObject : AcquiredData.Arena Guid64 := ⟨⟨⟨7⟩⟩, 4096⟩

def arenaTask : Edt Guid64 := .internalFn ⟨none, [.arena], false⟩ [.dep .arena 0] [] [⟨⟨7⟩, 4096⟩]

def nestedFn (_ : List (Arg Guid64)) : ThreadM Guid64 Guid64 := do
  AcquiredData.setImplicitArena arenaObject
  let _ ← Source.implicit.perform .new 8 (fun _ => pure ())
  pure ⟨0⟩

def constructor (_ : Int) : ThreadM Guid64 Unit := do
  let _ ← (Source.object arenaObject).perform .new 2 (fun _ => pure ())

/-- An array, whose elements allocate as they are constructed; a saved state, to which
the arena is restored after a task that has run in between; and one more object. -/
def arenaProgram : ThreadM Guid64 Unit := do
  AcquiredData.setImplicitArena arenaObject
  let _ ← Source.implicit.perform (.newArray 2) 8 constructor
  let state ← (Source.object arenaObject).saveState
  let _ ← arenaTask.run reference nestedFn
  (Source.object arenaObject).restoreState state
  let _ ← Source.implicit.perform .new 16 (fun _ => pure ())

def onArena (tasks : List (TaskLocalState Guid64)) (offset : BitVec 64) : Thread Guid64 :=
  ⟨tasks, Function.update (fun _ => none) 4096 (some ⟨64, offset⟩)⟩

theorem fresh_inMemory (tasks : List (TaskLocalState Guid64)) :
    (inMemory (allocatorDbInit 4096 64)).run ⟨tasks, fun _ => none⟩ = .ok () (onArena tasks 16) := rfl

theorem onArena_new {source : Source Guid64} {entry : Entry} {size offset : BitVec 64}
    {construct : Int → ThreadM Guid64 Unit} {tasks : List (TaskLocalState Guid64)} {r : Region Int}
    {saved : List AllocatorState} {s' : Moment Guid64} {o : Option Int}
    (hs : source.allocator.run (onArena tasks offset) = .ok ⟨4096⟩ (onArena tasks offset)) (hsize : 0 < size)
    (hfits : (nextOffset ⟨64, offset⟩ size entry.count).sle 64 = true)
    (hin : InRange ⟨64, offset⟩ size entry.count) (hconstruct : Runs reference 4096
      (constructAt (4096 + (alignUp offset (alignmentFor size)).toInt) size entry.count construct)
      (Moment.hand ⟨onArena tasks offset, r, saved⟩ (onArena tasks (nextOffset ⟨64, offset⟩ size entry.count)) 4096
        (4096 + (alignUp offset (alignmentFor size)).toInt) (size.toNat * entry.count.toNat)) o s') :
    Runs reference 4096 (source.perform entry size construct) ⟨onArena tasks offset, r, saved⟩ o s' := by
  have hrun : (DatablockAllocator.allocate ⟨4096⟩ size entry.count).run (onArena tasks offset).headers = _ :=
    allocate_run (by decide) (Function.update_self _ _ _) hsize entry.count
  rw [if_pos hfits, onArena, Function.update_idem] at hrun
  refine .allocated hs hrun (fun header hheader => ?_) hconstruct
  have hself : (onArena tasks offset).headers 4096 = some ⟨64, offset⟩ := rfl
  obtain rfl := Option.some.inj (hself.symm.trans hheader)
  exact hin

theorem onArena_scalar {source : Source Guid64} {entry : Entry} {size offset : BitVec 64}
    {tasks : List (TaskLocalState Guid64)} (r : Region Int) (saved : List AllocatorState)
    (hs : source.allocator.run (onArena tasks offset) = .ok ⟨4096⟩ (onArena tasks offset)) (hsize : 0 < size)
    (hfits : (nextOffset ⟨64, offset⟩ size entry.count).sle 64 = true)
    (hin : InRange ⟨64, offset⟩ size entry.count) :
    Runs reference 4096 (source.perform entry size (fun _ => pure ())) ⟨onArena tasks offset, r, saved⟩
      (some (4096 + (alignUp offset (alignmentFor size)).toInt))
      (Moment.hand ⟨onArena tasks offset, r, saved⟩ (onArena tasks (nextOffset ⟨64, offset⟩ size entry.count)) 4096
        (4096 + (alignUp offset (alignmentFor size)).toInt) (size.toNat * entry.count.toNat)) :=
  onArena_new hs hsize hfits hin (.elsewhere (constructAt_scalar _ _ _) rfl)

def running : List (TaskLocalState Guid64) := [⟨.fresh, ⟨4096⟩⟩]

def elements : Region Int := ⟨38, [⟨36, 38⟩, ⟨32, 34⟩, ⟨16, 32⟩], []⟩

theorem array_runs : Runs reference 4096 (Source.implicit.perform (.newArray 2) 8 constructor)
    ⟨onArena running 16, .fresh 16, []⟩ (some 4112) ⟨onArena running 38, elements, []⟩ := by
  refine onArena_new rfl (by decide) (by decide) ⟨by decide, by decide, by decide⟩ ?_
  have hfirst : Runs reference 4096 (constructor 4112) ⟨onArena running 32, ⟨32, [⟨16, 32⟩], []⟩, []⟩ (some ())
      ⟨onArena running 34, ⟨34, [⟨32, 34⟩, ⟨16, 32⟩], []⟩, []⟩ :=
    .bind (onArena_scalar _ _ rfl (by decide) (by decide) ⟨by decide, by decide, by decide⟩) (.elsewhere rfl rfl)
  have hsecond : Runs reference 4096 (constructor 4120) ⟨onArena running 34, ⟨34, [⟨32, 34⟩, ⟨16, 32⟩], []⟩, []⟩
      (some ()) ⟨onArena running 38, elements, []⟩ :=
    .bind (onArena_scalar _ _ rfl (by decide) (by decide) ⟨by decide, by decide, by decide⟩) (.elsewhere rfl rfl)
  exact .bind (.bind hfirst (.bind hsecond (.elsewhere rfl rfl))) (.elsewhere rfl rfl)

def nestedState : TaskLocalState Guid64 := ⟨inserted reference .fresh ⟨⟨7⟩, 4096⟩, ⟨4096⟩⟩

theorem nested_runs : Runs reference 4096 (arenaTask.run reference nestedFn)
    ⟨onArena running 38, elements.mark, [⟨38⟩]⟩ (some ⟨0⟩)
    ⟨onArena running 48, elements.mark.push ⟨40, 48⟩, [⟨38⟩]⟩ := by
  have hargs : (arenaTask.prologue reference).run (onArena running 38) =
      .ok [.arena arenaObject] (onArena (⟨nestedState.acquiredDbs, .null⟩ :: running) 38) := rfl
  have hnew : Runs reference 4096 (Source.implicit.perform .new 8 (fun _ => pure ()))
      ⟨onArena (nestedState :: running) 38, elements.mark, [⟨38⟩]⟩ (some 4136)
      ⟨onArena (nestedState :: running) 48, elements.mark.push ⟨40, 48⟩, [⟨38⟩]⟩ :=
    onArena_scalar _ _ rfl (by decide) (by decide) ⟨by decide, by decide, by decide⟩
  have huser : Runs reference 4096 (nestedFn [.arena arenaObject])
      ⟨onArena (⟨nestedState.acquiredDbs, .null⟩ :: running) 38, elements.mark, [⟨38⟩]⟩ (some ⟨0⟩)
      ⟨onArena (nestedState :: running) 48, elements.mark.push ⟨40, 48⟩, [⟨38⟩]⟩ :=
    .bind (.elsewhere rfl rfl) (.bind hnew (.elsewhere rfl rfl))
  have hpop : popTaskState.run (onArena (nestedState :: running) 48) = .ok () (onArena running 48) := rfl
  exact @Runs.task _ _ reference 4096 arenaTask nestedFn _ _ ⟨0⟩ _ _
    ⟨onArena (nestedState :: running) 48, elements.mark.push ⟨40, 48⟩, [⟨38⟩]⟩ hargs huser hpop

def lastRegion : Region Int := elements.push ⟨48, 64⟩

theorem arenaProgram_runs : Runs reference 4096 arenaProgram (.fresh (onArena [.zero] 16)) (some ())
    ⟨onArena running 64, lastRegion, []⟩ := by
  have hlast : Runs reference 4096 (Source.implicit.perform .new 16 (fun _ => pure ()))
      ⟨onArena running 38, elements, []⟩ (some 4144) ⟨onArena running 64, lastRegion, []⟩ :=
    onArena_scalar _ _ rfl (by decide) (by decide) ⟨by decide, by decide, by decide⟩
  have hrestore : Runs reference 4096 ((Source.object arenaObject).restoreState ⟨38⟩)
      ⟨onArena running 48, elements.mark.push ⟨40, 48⟩, [⟨38⟩]⟩ (some ()) ⟨onArena running 38, elements, []⟩ := by
    have hr : ((Source.object arenaObject).restoreState ⟨38⟩).run (onArena running 48) = .ok ()
        (onArena running 38) :=
      congrArg (fun headers => EStateM.Result.ok () (⟨running, headers⟩ : Thread Guid64))
        (Function.update_idem _ _ _)
    exact @Runs.restoreState _ _ reference 4096 (.object arenaObject) ⟨4096⟩ ⟨38⟩ (onArena running 38)
      ⟨onArena running 48, elements.mark.push ⟨40, 48⟩, [⟨38⟩]⟩ rfl hr (fun _ => rfl)
  exact .bind (.elsewhere rfl rfl) (.bind array_runs (.bind (.saveState rfl rfl) (.bind nested_runs
    (.bind hrestore (.bind hlast (.elsewhere rfl rfl))))))

theorem arena_blocks_never_overlap_program :
    (∀ v, some () = some v → arenaProgram.run (onArena [.zero] 16) = .ok v (onArena running 64)) ∧
    ∃ header, (onArena running 64).headers 4096 = some header ∧ header.size = 64 ∧
      lastRegion.live.Pairwise Block.Apart ∧
      ∀ b ∈ lastRegion.live, sizeofDbArenaHeader.toInt ≤ b.lo ∧ b.lo ≤ b.hi ∧
        b.hi ≤ header.offset.toInt ∧ b.hi ≤ header.size.toInt :=
  arena_blocks_never_overlap (fresh_inMemory [.zero]) arenaProgram_runs

end OneArena

end Ocxxr.ArenaRuns
