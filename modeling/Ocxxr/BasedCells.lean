import Ocxxr.BasedPointer
import Ocxxr.Library.GhostRuns

namespace Ocxxr.BasedCells

open Ocr SortedSearch Bookkeeping AcquiredTable BookkeepingSpec ClosestBase GhostRuns BasedPointer

structure Store (G : Type) where
  dbs : AcquiredDbInfo G
  cells : Int → BasedPtr G

inductive Command (G : Type)
  | acquire (p : DbPair G)
  | assign (cell target : Int)
  | copy (cell source : Int)

/-- The datablocks acquired so far, and the raw pointer that each cell stands for. -/
structure Record (G : Type) where
  acquired : List (DbPair G)
  values : Int → Option Int

variable {G : Type} {α : Type}

def onTable (x : BookM G α) : EStateM Fault (Store G) α := fun store =>
  match x.run store.dbs with
  | .ok a dbs => .ok a { store with dbs := dbs }
  | .error e dbs => .error e { store with dbs := dbs }

def write (cell : Int) (new : BasedPtr G) : EStateM Fault (Store G) Unit :=
  modify (fun store => { store with cells := Function.update store.cells cell new })

variable [OcrGuid G] (std : StdAlgorithms (DbPair G))

def exec : Command G → EStateM Fault (Store G) Unit
  | .acquire p => onTable (addDatablock std p.guid p.baseAddr)
  | .assign cell target => do
      let new ← onTable (BasedPointer.set std cell target)
      write cell new
  | .copy cell source => do
      let store ← MonadState.get
      let new ← onTable (setCell std cell source (store.cells source))
      write cell new

def machine : Machine (Command G) (Store G) (Record G) Fault where
  exec := exec std
  effect record c :=
    match c with
    | .acquire p => { record with acquired := p :: record.acquired }
    | .assign cell target => { record with values := Function.update record.values cell (some target) }
    | .copy cell source => { record with values := Function.update record.values cell (record.values source) }

def Targetable (tracked : DbPair G → Prop) (v : Int) : Prop :=
  v = 0 ∨ v ≤ ptrdiffMax ∧ ∃ q, tracked q ∧ q.baseAddr ≤ v

/-- New datablocks have new real GUIDs, and there are no more than the table holds; raw
pointers are null or not below all bases; a cell copied from has been assigned before. -/
def Legal (record : Record G) : Command G → Prop
  | .acquire p => IsReal p.guid ∧ (∀ q ∈ record.acquired, q.guid ≠ p.guid) ∧
      record.acquired.length < maxDbAcquireCount
  | .assign _ target => Targetable (fun q => q ∈ record.acquired ∧ q.baseAddr ≠ 0) target
  | .copy _ source => (record.values source).isSome

def Reads (store : Store G) (record : Record G) : Prop :=
  ∀ cell v, record.values cell = some v → (BasedPointer.get std cell (store.cells cell)).run store.dbs =
    .ok v store.dbs

def start : Store G := ⟨.fresh, fun _ => uninitialized⟩

def Record.start : Record G := ⟨[], fun _ => none⟩

variable {dbs dbs' : AcquiredDbInfo G} {store store' : Store G} {record : Record G}

omit [OcrGuid G] in
theorem onTable_run (store : Store G) {x : BookM G α} {a : α} (h : x.run store.dbs = .ok a dbs') :
    (onTable x).run store = .ok a { store with dbs := dbs' } := by
  simp only [onTable, EStateM.run] at h ⊢
  rw [h]

inductive Encodes (dbs : AcquiredDbInfo G) (this v : Int) : BasedPtr G → Prop
  | null (h : v = 0) : Encodes dbs this v ⟨nullGuid, 0⟩
  | selfRelative (h : Targetable (Tracked dbs) v) : Encodes dbs this v ⟨uninitializedGuid, v - this⟩
  | guid (p : DbPair G) (hp : Tracked dbs p) (hreal : IsReal p.guid) : Encodes dbs this v ⟨p.guid, v - p.baseAddr⟩

theorem get_encoded (hs : Sorted dbs) {this v : Int} {cell : BasedPtr G} (h : Encodes dbs this v cell) :
    (BasedPointer.get std this cell).run dbs = .ok v dbs := by
  cases h with
  | null h =>
      subst h
      have he : (nullGuid : G) ≠ errorGuid := OcrGuid.null_ne_error
      simp [BasedPointer.get, ocrGuidIsError, ocrGuidIsNull, he]
  | selfRelative h =>
      rw [get_selfRelative]
      congr 1
      omega
  | guid p hp hreal =>
      rw [get_tracked std hs hp hreal]
      congr 1
      omega

theorem set_encodes (hs : Sorted dbs) (hreal : ∀ p, Tracked dbs p → IsReal p.guid) (this : Int) {v : Int}
    (hv : Targetable (Tracked dbs) v) :
    ∃ cell, (BasedPointer.set std this v).run dbs = .ok cell dbs ∧ Encodes dbs this v cell := by
  by_cases h0 : v = 0
  · subst h0
    exact ⟨⟨nullGuid, 0⟩, by simp [BasedPointer.set, guidOffsetForAddress], .null rfl⟩
  obtain ⟨hmax, hbelow⟩ := hv.resolve_left h0
  obtain ⟨p, e, hc, hset⟩ := set_found std hs h0 hmax hbelow
  refine ⟨cellFor p e v this, hset this, ?_⟩
  rw [cellFor, encoded]
  split
  next => exact .selfRelative hv
  next => exact .guid p hc.tracked (hreal p hc.tracked)

theorem setCell_encodes (hs : Sorted dbs) (hreal : ∀ p, Tracked dbs p → IsReal p.guid) (this source : Int)
    {v : Int} {cell : BasedPtr G} (h : Encodes dbs source v cell) :
    ∃ new, (setCell std this source cell).run dbs = .ok new dbs ∧ Encodes dbs this v new := by
  have hget := get_encoded std hs h
  cases h with
  | null h =>
      have hne : (nullGuid : G) ≠ uninitializedGuid := OcrGuid.null_ne_uninitialized
      exact ⟨_, by simp [setCell, ocrGuidIsUninitialized, hne], .null h⟩
  | selfRelative h =>
      obtain ⟨new, hset, hnew⟩ := set_encodes std hs hreal this h
      refine ⟨new, ?_, hnew⟩
      simp [setCell, ocrGuidIsUninitialized, hget, hset]
  | guid p hp hpreal =>
      exact ⟨_, by simp [setCell, ocrGuidIsUninitialized, hpreal.2.1], .guid p hp hpreal⟩

theorem Encodes.mono {this v : Int} {cell : BasedPtr G} (h : Encodes dbs this v cell)
    (hsub : ∀ p, Tracked dbs p → Tracked dbs' p) : Encodes dbs' this v cell := by
  cases h with
  | null h => exact .null h
  | selfRelative h =>
      apply Encodes.selfRelative
      rcases h with h | ⟨hmax, q, hq, hqv⟩
      · exact .inl h
      · exact .inr ⟨hmax, q, hsub q hq, hqv⟩
  | guid p hp hreal => exact .guid p (hsub p hp) hreal

structure Agrees (store : Store G) (record : Record G) : Prop where
  coherent : Coherent store.dbs
  tracked : ∀ p, Tracked store.dbs p ↔ p ∈ record.acquired ∧ p.baseAddr ≠ 0
  count_le : store.dbs.acquiredDbCount ≤ record.acquired.length
  real : ∀ p ∈ record.acquired, IsReal p.guid
  encodes : ∀ cell v, record.values cell = some v → Encodes store.dbs cell v (store.cells cell)

theorem Agrees.reads (h : Agrees store record) : Reads std store record :=
  fun cell v hv => get_encoded std h.coherent.toSorted (h.encodes cell v hv)

theorem Agrees.tracked_real (h : Agrees store record) (p : DbPair G) (hp : Tracked store.dbs p) : IsReal p.guid :=
  h.real p ((h.tracked p).mp hp).1

theorem start_agrees : Agrees (start : Store G) .start where
  coherent := fresh_coherent
  tracked p := iff_of_false (not_tracked_fresh p) (by simp [Record.start])
  count_le := le_rfl
  real := by simp [Record.start]
  encodes := nofun

theorem acquire_agrees (h : Agrees store record) {p : DbPair G} (hlegal : Legal record (.acquire p)) :
    ∃ dbs', (addDatablock std p.guid p.baseAddr).run store.dbs = .ok () dbs' ∧
      Agrees { store with dbs := dbs' } { record with acquired := p :: record.acquired } := by
  obtain ⟨hreal, hnew, hroom⟩ := hlegal
  have hcons : ∀ q ∈ p :: record.acquired, IsReal q.guid := by
    intro q hq
    rcases List.mem_cons.mp hq with rfl | hq
    · exact hreal
    · exact h.real q hq
  by_cases hb : p.baseAddr = 0
  · rw [hb]
    refine ⟨store.dbs, addDatablock_null std p.guid, h.coherent, ?_, h.count_le.trans (Nat.le_succ _),
      hcons, h.encodes⟩
    intro q
    rw [h.tracked q, List.mem_cons]
    constructor
    · exact fun hq => ⟨.inr hq.1, hq.2⟩
    · rintro ⟨rfl | hq, hne⟩
      · exact absurd hb hne
      · exact ⟨hq, hne⟩
  have huntracked : ¬ ∃ q, Tracked store.dbs q ∧ q.guid = p.guid := by
    rintro ⟨q, hq, hg⟩
    exact hnew q ((h.tracked q).mp hq).1 hg
  have hlt : store.dbs.acquiredDbCount < maxDbAcquireCount := h.count_le.trans_lt hroom
  have hadd := addDatablock_new std h.coherent.toSorted hb huntracked hlt
  have htracked := tracked_inserted std hlt p
  refine ⟨_, hadd, addDatablock_coherent std h.coherent hadd, ?_, Nat.succ_le_succ h.count_le, hcons, ?_⟩
  · intro q
    rw [htracked q, h.tracked q, List.mem_cons]
    constructor
    · rintro (rfl | ⟨hq, hne⟩)
      · exact ⟨.inl rfl, hb⟩
      · exact ⟨.inr hq, hne⟩
    · rintro ⟨rfl | hq, hne⟩
      · exact .inl rfl
      · exact .inr ⟨hq, hne⟩
  · intro cell v hv
    exact (h.encodes cell v hv).mono (fun q hq => (htracked q).mpr (.inr hq))

theorem write_agrees (h : Agrees store record) (cell : Int) {new : BasedPtr G} {v : Option Int}
    (hnew : ∀ w, v = some w → Encodes store.dbs cell w new) :
    Agrees { store with cells := Function.update store.cells cell new }
      { record with values := Function.update record.values cell v } where
  coherent := h.coherent
  tracked := h.tracked
  count_le := h.count_le
  real := h.real
  encodes := by
    intro other w hw
    by_cases he : other = cell
    · subst he
      simp only [Function.update_self] at hw ⊢
      exact hnew w hw
    · simp only [Function.update_of_ne he] at hw ⊢
      exact h.encodes other w hw

theorem step_agrees (h : Agrees store record) {c : Command G} (hlegal : Legal record c) :
    ∃ store', ((machine std).exec c).run store = .ok () store' ∧
      Agrees store' ((machine std).effect record c) := by
  have hsorted := h.coherent.toSorted
  cases c with
  | acquire p =>
      obtain ⟨dbs', hadd, hagrees⟩ := acquire_agrees std h hlegal
      exact ⟨_, onTable_run store hadd, hagrees⟩
  | assign cell target =>
      have htarget : Targetable (Tracked store.dbs) target := by
        rcases hlegal with h0 | ⟨hmax, q, hq, hqt⟩
        · exact .inl h0
        · exact .inr ⟨hmax, q, (h.tracked q).mpr hq, hqt⟩
      obtain ⟨new, hset, hnew⟩ := set_encodes std hsorted h.tracked_real cell htarget
      have hrun := onTable_run store hset
      have hvalue : ∀ w, some target = some w → Encodes store.dbs cell w new := by
        rintro w hw
        cases hw
        exact hnew
      refine ⟨_, ?_, write_agrees h cell hvalue⟩
      simp only [machine, exec, EStateM.run_bind, hrun]
      rfl
  | copy cell source =>
      obtain ⟨v, hv⟩ := Option.isSome_iff_exists.mp hlegal
      obtain ⟨new, hset, hnew⟩ :=
        setCell_encodes std hsorted h.tracked_real cell source (h.encodes source v hv)
      have hrun := onTable_run store hset
      have hvalue : ∀ w, record.values source = some w → Encodes store.dbs cell w new := by
        intro w hw
        obtain rfl : v = w := Option.some.inj (hv.symm.trans hw)
        exact hnew
      refine ⟨_, ?_, write_agrees h cell hvalue⟩
      simp only [machine, exec, EStateM.run_bind, EStateM.run_get, hrun]
      rfl

/-- Throughout a run of a task every cell reads as the raw pointer assigned last, directly
or through copies, whatever datablocks the task acquires in between. -/
theorem basedPtr_round_trips {commands : List (Command G)} (hlegal : (machine std).Along Legal .start commands) :
    (machine std).Throughout (Reads std) start .start commands := by
  have hagrees : (machine std).Throughout Agrees start .start commands :=
    Machine.throughout_of_step (fun _ _ _ h => step_agrees std h) start_agrees hlegal
  exact hagrees.imp (fun _ _ h => h.reads std)

section CopiedOut

def datablock : DbPair Guid64 := ⟨⟨5⟩, 4096⟩

def copiedOut : List (Command Guid64) := [.acquire datablock, .assign 4160 4100, .copy 512 4160]

theorem basedPtr_round_trips_copied :
    (machine reference).Throughout (Reads reference) (start : Store Guid64) .start copiedOut := by
  have hreal : IsReal datablock.guid := by refine ⟨?_, ?_, ?_⟩ <;> decide
  have hacquire : Legal (Record.start : Record Guid64) (.acquire datablock) := ⟨hreal, nofun, by decide⟩
  have hassign : Targetable (fun q : DbPair Guid64 => q ∈ [datablock] ∧ q.baseAddr ≠ 0) 4100 :=
    .inr ⟨by decide, datablock, ⟨List.mem_cons_self, by decide⟩, by decide⟩
  apply basedPtr_round_trips
  exact Machine.along_cons.mpr ⟨hacquire, Machine.along_cons.mpr ⟨hassign, Machine.along_cons.mpr ⟨rfl,
    Machine.along_nil⟩⟩⟩

end CopiedOut

end Ocxxr.BasedCells
