import Multitenancy.Proofs.Histories
import Multitenancy.Storage.Pools
/-!
# What an Event Does to the Open Stores

Operations on the open stores of tenants, from one event to the next.

Most of what an operation does leaves the open stores as they are: `PoolWalk`
says what is left of such a step. `PoolShift` has one case for each of the few
events that do not: one takes the turn, two give it up again, with a store or
without one, one removes stores, and one drops an operation. The steps are
opened here and nowhere else.

Of the stores themselves it only matters which locator each was opened for.
That never changes, so a later event knows what an earlier one opened.

## Main definitions

* `Stores.locators`: The locators for which stores were opened.
* `PoolEvent.call?`: The call that an event starts.
* `PoolStage.Serves`: An operation at a stage is that of a call.
* `PoolWalk`: A step that leaves the open stores as they are.
* `PoolShift`: What an event does.
* `PoolShift.OnStages`, `PoolShift.OnHandles`: What it does to the tasks, and to
  the open stores.

## Theorems

* `Stores.locators_close`, `Stores.openStore_cases`: Stores are only added.
* `PoolTraffic.shift_next`: Every event is a shift.
* `PoolShift.onStages`, `PoolShift.onHandles`: Parts of a shift.
* `PoolShift.opens`, `PoolShift.returns`: How an open starts, and how a task
  comes to return with a store.
* `PoolShift.locators`: Stores keep their numbers.
-/

namespace Multitenancy

/-! ### Stores -/

namespace Stores

/-- The locators for which stores were opened, by the number of the handle. -/
def locators (s : Stores) : List String :=
  s.handles.map Handle.locator

/-- Closing a store leaves it its locator. -/
theorem locators_close (s : Stores) (id : Nat) : (s.close id).locators = s.locators := by
  rw [close]
  split
  · rename_i h hh
    rw [locators, locators, List.map_set]
    exact set_eq_self (by rw [List.getElem?_map, hh, Option.map_some])
  · rfl

/-- A store that is opened is the last one, and one that is not leaves the
    others. -/
theorem openStore_cases (s : Stores) (pool : PoolSettings) (locator : String) (create : Bool) :
    (∃ s', s.openStore pool locator create = (.ok s.locators.length, s') ∧
        s'.locators = s.locators ++ [locator]) ∨
      ∃ f s', s.openStore pool locator create = (.error f, s') ∧ s'.locators = s.locators := by
  rw [openStore]
  split
  · left
    rw [locators, List.length_map]
    refine ⟨_, rfl, ?_⟩
    rw [locators, List.map_append]
    rfl
  · right
    exact ⟨_, _, rfl, rfl⟩

end Stores

/-! ### Shifts -/

/-- The call that an event starts. -/
def PoolEvent.call? : PoolEvent → Option PoolCall
  | .start c => some c
  | _ => none

/-- The operation at a stage is that of the call. -/
def PoolStage.Serves : PoolStage → PoolCall → Prop
  | .begun c, call => c = call
  | .queued t, call | .opening t, call => call = .get t
  | .done (.handle _), call => ∃ t, call = .get t
  | .closing _ _, call | .done (.removed _), call => ∀ t, call ≠ .get t
  | .dropped, _ => True

/-- A step that leaves the open stores as they are. -/
inductive PoolWalk (p : Pools) : PoolStage → PoolStage → Prop
  /-- The store is open. -/
  | found {t : Tenant} {handle : Nat} {stage : PoolStage}
      (hstage : stage = .begun (.get t) ∨ stage = .queued t)
      (hfound : p.handles.get? t.id = some handle) :
      PoolWalk p stage (.done (.handle (.ok handle)))
  | unnamed {t : Tenant} {f : Fault} : PoolWalk p (.begun (.get t)) (.done (.handle (.error f)))
  | queued {t : Tenant} : PoolWalk p (.begun (.get t)) (.queued t)
  | closed {left left' forgotten : List Nat} :
      PoolWalk p (.closing left forgotten) (.closing left' forgotten)
  | removed {forgotten : List Nat} :
      PoolWalk p (.closing [] forgotten) (.done (.removed forgotten))

/-- What an event does to operations and open stores. -/
inductive PoolShift (w : PoolTraffic) : PoolEvent → PoolTraffic → Prop
  | start (c : PoolCall) : PoolShift w (.start c) { w with stages := w.stages ++ [.begun c] }
  /-- Nobody moves. -/
  | idle {e : PoolEvent} {s : Stores} (hstart : ∀ c, e ≠ .start c)
      (hlocators : s.locators = w.stores.locators) : PoolShift w e { w with stores := s }
  | walk {n : Nat} {before after : PoolStage} {s : Stores} (hstage : w.stages[n]? = some before)
      (hwalk : PoolWalk w.pools before after) (hlocators : s.locators = w.stores.locators) :
      PoolShift w (.step n) { w with stores := s, stages := w.stages.set n after }
  /-- The turn is free and the store is not open: it will be opened. -/
  | enter {n : Nat} {t : Tenant} (hstage : w.stages[n]? = some (.queued t))
      (hturn : w.pools.turn = none) (hnone : w.pools.handles.get? t.id = none) :
      PoolShift w (.step n)
        { w with
          pools := { w.pools with turn := some n }
          stages := w.stages.set n (.opening t) }
  /-- The store is opened. -/
  | opened {n : Nat} {t : Tenant} {s : Stores} (hstage : w.stages[n]? = some (.opening t))
      (hlocators : s.locators = w.stores.locators ++ [t.storeLocator]) :
      PoolShift w (.step n)
        { stores := s
          pools :=
            { w.pools with
              turn := none
              opened := w.pools.opened + 1
              handles := w.pools.handles.insert t.id w.stores.locators.length }
          stages := w.stages.set n (.done (.handle (.ok w.stores.locators.length))) }
  /-- The store cannot be opened. -/
  | failed {n : Nat} {t : Tenant} {f : Fault} {s : Stores}
      (hstage : w.stages[n]? = some (.opening t)) (hlocators : s.locators = w.stores.locators) :
      PoolShift w (.step n)
        { stores := s
          pools := { w.pools with turn := none }
          stages := w.stages.set n (.done (.handle (.error f))) }
  /-- Some open stores are forgotten. -/
  | forgot {n : Nat} {c : PoolCall} (keeps : String → Bool) (forgotten : List Nat)
      (hstage : w.stages[n]? = some (.begun c)) (hcall : ∀ t, c ≠ .get t) :
      PoolShift w (.step n)
        { w with
          pools := { w.pools with handles := w.pools.handles.filter fun p => keeps p.1 }
          stages := w.stages.set n (.closing forgotten forgotten) }
  | dropped {n : Nat} {stage : PoolStage} (hstage : w.stages[n]? = some stage)
      (hopen : stage.reply? = none) :
      PoolShift w (.cancel n)
        { w with
          pools := { w.pools with turn := if w.pools.turn = some n then none else w.pools.turn }
          stages := w.stages.set n .dropped }

namespace PoolTraffic

variable {w : PoolTraffic} {n : Nat}

/-- An event that leaves everything as it is. -/
theorem shift_self {e : PoolEvent} (hstart : ∀ c, e ≠ .start c) : PoolShift w e w :=
  .idle hstart rfl

/-- The first step of an operation. -/
theorem shift_begun {c : PoolCall} (hstage : w.stages[n]? = some (.begun c)) :
    PoolShift w (.step n) (w.next (.step n)) := by
  rw [next, hstage]
  cases c with
  | get t =>
      simp only [PoolStage.step, Pools.start]
      cases hfound : w.pools.handles.get? t.id with
      | some handle => exact .walk hstage (.found (Or.inl rfl) hfound) rfl
      | none =>
          simp only
          split
          · exact .walk hstage .unnamed rfl
          · exact .walk hstage .queued rfl
  | evict id => exact .forgot (fun k => !(k == id)) _ hstage fun _ => PoolCall.noConfusion
  | closeAll =>
      -- To close all stores is to forget every key.
      have hnone : w.pools.handles.filter (fun p => (fun _ => false) p.1) = [] :=
        List.filter_eq_nil_iff.mpr fun _ _ => Bool.false_ne_true
      have hshift := PoolShift.forgot (fun _ => false) (w.pools.handles.map Prod.snd) hstage
        fun _ => PoolCall.noConfusion
      rw [hnone] at hshift
      exact hshift

/-- Whoever waits takes the turn if it is free. -/
theorem shift_queued {t : Tenant} (hstage : w.stages[n]? = some (.queued t)) :
    PoolShift w (.step n) (w.next (.step n)) := by
  rw [next, hstage]
  simp only [PoolStage.step, Pools.enter]
  cases hturn : w.pools.turn with
  | some m =>
      -- While another task has the turn, this one stays where it is.
      simp only [Option.isSome_some, if_true]
      rw [set_eq_self hstage]
      exact shift_self fun _ => PoolEvent.noConfusion
  | none =>
      simp only [Option.isSome_none, Bool.false_eq_true, if_false]
      cases hfound : w.pools.handles.get? t.id with
      | some handle => exact .walk hstage (.found (Or.inr rfl) hfound) rfl
      | none => exact .enter hstage hturn hfound

/-- Whoever has the turn opens the store, or cannot. -/
theorem shift_opening {t : Tenant} (hstage : w.stages[n]? = some (.opening t)) :
    PoolShift w (.step n) (w.next (.step n)) := by
  rw [next, hstage]
  simp only [PoolStage.step, Pools.finish]
  rcases w.stores.openStore_cases w.pools.settings t.storeLocator false with
    ⟨s, hopen, hlocators⟩ | ⟨f, s, hopen, hlocators⟩
  · rw [hopen]
    exact .opened hstage hlocators
  · rw [hopen]
    exact .failed hstage hlocators

/-- An operation that is dropped gives up its turn, unless it is over. -/
theorem shift_cancel {stage : PoolStage} (hstage : w.stages[n]? = some stage) :
    PoolShift w (.cancel n) (w.next (.cancel n)) := by
  rw [next, hstage]
  -- A task has a reply only when it is over, and then it is not dropped any more.
  by_cases hopen : stage.reply? = none
  · have hcancel : stage.cancel w.pools n =
        ({ w.pools with turn := if w.pools.turn = some n then none else w.pools.turn },
          .dropped) := by
      cases stage with
      | done r => exact absurd hopen (Option.some_ne_none r)
      | _ =>
          change (if w.pools.turn = some n then _ else _, _) = _
          split <;> rfl
    simp only [hcancel]
    exact .dropped hstage hopen
  · cases stage with
    | done r =>
        simp only [PoolStage.cancel, set_eq_self hstage]
        exact shift_self fun _ => PoolEvent.noConfusion
    | _ => exact absurd rfl hopen

/-- Every event is a shift. -/
theorem shift_next (w : PoolTraffic) (e : PoolEvent) : PoolShift w e (w.next e) := by
  cases e with
  | start c => exact .start c
  | change files => exact .idle (fun _ => PoolEvent.noConfusion) rfl
  | cancel n =>
      cases hstage : w.stages[n]? with
      | none =>
          rw [next, hstage]
          exact shift_self fun _ => PoolEvent.noConfusion
      | some stage => exact shift_cancel hstage
  | step n =>
      cases hstage : w.stages[n]? with
      | none =>
          rw [next, hstage]
          exact shift_self fun _ => PoolEvent.noConfusion
      | some stage =>
          cases stage with
          | begun c => exact shift_begun hstage
          | queued t => exact shift_queued hstage
          | opening t => exact shift_opening hstage
          | closing left forgotten =>
              rw [next, hstage]
              cases left with
              | nil => exact .walk hstage .removed rfl
              | cons handle left =>
                  exact .walk hstage .closed (w.stores.locators_close handle)
          | done r | dropped =>
              rw [next, hstage]
              simp only [PoolStage.step, set_eq_self hstage]
              exact shift_self fun _ => PoolEvent.noConfusion

end PoolTraffic

/-! ### Parts of a shift -/

namespace PoolWalk

variable {p : Pools} {before after : PoolStage}

/-- An operation goes on with its call. -/
theorem serves (h : PoolWalk p before after) {c : PoolCall} (hserves : before.Serves c) :
    after.Serves c := by
  cases h with
  | found hstage =>
      rcases hstage with rfl | rfl
      · exact ⟨_, hserves.symm⟩
      · exact ⟨_, hserves⟩
  | unnamed => exact ⟨_, hserves.symm⟩
  | queued => exact hserves.symm
  | closed => exact hserves
  | removed => exact hserves

/-- Only an operation that is not over goes on. -/
theorem not_over (h : PoolWalk p before after) : before.reply? = none := by
  cases h with
  | found hstage => rcases hstage with rfl | rfl <;> rfl
  | _ => rfl

end PoolWalk

namespace PoolShift

/-- What is left of an event if only the tasks are looked at. -/
inductive OnStages (w : PoolTraffic) (e : PoolEvent) (w' : PoolTraffic) : Prop
  /-- There is a new task. -/
  | added {c : PoolCall} (hcall : e.call? = some c) (hstages : w'.stages = w.stages ++ [.begun c])
  | same (hcall : e.call? = none) (hstages : w'.stages = w.stages)
  /-- A task that is not over moves on with its call. -/
  | moved {n : Nat} {before after : PoolStage} (hcall : e.call? = none)
      (hstage : w.stages[n]? = some before) (hstages : w'.stages = w.stages.set n after)
      (hopen : before.reply? = none) (hserves : ∀ c, before.Serves c → after.Serves c)

/-- What is left of an event if only the open stores are looked at. -/
inductive OnHandles (w : PoolTraffic) (e : PoolEvent) (w' : PoolTraffic) : Prop
  | same (hhandles : w'.pools.handles = w.pools.handles)
      (hopened : w'.pools.opened = w.pools.opened)
  /-- A task that has the turn enters a store and returns with it. -/
  | entered {n : Nat} {t : Tenant} (he : e = .step n) (hstage : w.stages[n]? = some (.opening t))
      (hdone : w'.stages[n]? = some (.done (.handle (.ok w.stores.locators.length))))
      (hlocators : w'.stores.locators = w.stores.locators ++ [t.storeLocator])
      (hhandles : w'.pools.handles = w.pools.handles.insert t.id w.stores.locators.length)
      (hopened : w'.pools.opened = w.pools.opened + 1)
  /-- A task that is to remove stores takes some out. -/
  | forgot {n : Nat} {c : PoolCall} (keeps : String → Bool) (he : e = .step n)
      (hstage : w.stages[n]? = some (.begun c)) (hcall : ∀ t, c ≠ .get t)
      (hhandles : w'.pools.handles = w.pools.handles.filter fun p => keeps p.1)
      (hopened : w'.pools.opened = w.pools.opened)

variable {w w' : PoolTraffic} {e : PoolEvent}

theorem onStages (h : PoolShift w e w') : OnStages w e w' := by
  cases h with
  | start c => exact .added rfl rfl
  | idle hstart =>
      cases e with
      | start c => exact absurd rfl (hstart c)
      | _ => exact .same rfl rfl
  | walk hstage hwalk => exact .moved rfl hstage rfl hwalk.not_over fun _ => hwalk.serves
  | enter hstage => exact .moved rfl hstage rfl rfl fun _ => id
  | opened hstage | failed hstage =>
      exact .moved rfl hstage rfl rfl fun _ hserves => ⟨_, hserves⟩
  | forgot keeps forgotten hstage hcall =>
      refine .moved rfl hstage rfl rfl ?_
      rintro _ rfl
      exact hcall
  | dropped hstage hopen => exact .moved rfl hstage rfl hopen fun _ _ => trivial

theorem onHandles (h : PoolShift w e w') : OnHandles w e w' := by
  cases h with
  | opened hstage hlocators =>
      refine .entered rfl hstage ?_ hlocators rfl rfl
      exact List.getElem?_set_self (List.getElem?_eq_some_iff.mp hstage).1
  | forgot keeps forgotten hstage hcall => exact .forgot keeps rfl hstage hcall rfl rfl
  | _ => exact .same rfl rfl

/-- A task that comes to open a store waited for its turn, and neither the turn
    was taken nor the store open. -/
theorem opens (h : PoolShift w e w') {n : Nat} {t : Tenant}
    (hbefore : w.stages[n]? ≠ some (.opening t)) (hafter : w'.stages[n]? = some (.opening t)) :
    w.pools.turn = none ∧ w.pools.handles.get? t.id = none := by
  -- Only `enter` brings a task to open a store. In all other cases it was opening it before or is
  -- at another stage now.
  cases h with
  | start c =>
      rw [getElem?_concat_some_iff] at hafter
      rcases hafter with hold | ⟨-, hnew⟩
      · exact absurd hold hbefore
      · exact nomatch hnew
  | idle => exact absurd hafter hbefore
  | enter hstage hturn hnone =>
      rw [getElem?_set_some_iff hstage] at hafter
      rcases hafter with ⟨-, hold⟩ | ⟨rfl, hnew⟩
      · exact absurd hold hbefore
      · cases hnew
        exact ⟨hturn, hnone⟩
  | walk hstage hwalk =>
      rw [getElem?_set_some_iff hstage] at hafter
      rcases hafter with ⟨-, hold⟩ | ⟨-, rfl⟩
      · exact absurd hold hbefore
      · exact nomatch hwalk
  | opened hstage | failed hstage | forgot keeps forgotten hstage | dropped hstage =>
      rw [getElem?_set_some_iff hstage] at hafter
      rcases hafter with ⟨-, hold⟩ | ⟨-, hnew⟩
      · exact absurd hold hbefore
      · exact nomatch hnew

/-- A task that comes to return with a store found it open, or opened it. -/
theorem returns (h : PoolShift w e w') {n handle : Nat}
    (hbefore : w.stages[n]? ≠ some (.done (.handle (.ok handle))))
    (hafter : w'.stages[n]? = some (.done (.handle (.ok handle)))) :
    ∃ stage t, w.stages[n]? = some stage ∧ (∀ c, stage.Serves c → c = .get t) ∧
      ((w.pools.handles.get? t.id = some handle ∧ w'.pools.handles = w.pools.handles) ∨
        (stage = .opening t ∧ w'.pools.handles = w.pools.handles.insert t.id handle)) := by
  cases h with
  | start c =>
      rw [getElem?_concat_some_iff] at hafter
      rcases hafter with hold | ⟨-, hnew⟩
      · exact absurd hold hbefore
      · exact nomatch hnew
  | idle => exact absurd hafter hbefore
  | walk hstage hwalk =>
      rw [getElem?_set_some_iff hstage] at hafter
      rcases hafter with ⟨-, hold⟩ | ⟨rfl, rfl⟩
      · exact absurd hold hbefore
      · -- A walk ends with a handle if the store was found open, before or after waiting.
        cases hwalk with
        | found hwaits hfound =>
            refine ⟨_, _, hstage, ?_, Or.inl ⟨hfound, rfl⟩⟩
            rcases hwaits with rfl | rfl
            · exact fun _ => Eq.symm
            · exact fun _ => id
  | opened hstage =>
      rw [getElem?_set_some_iff hstage] at hafter
      rcases hafter with ⟨-, hold⟩ | ⟨rfl, hnew⟩
      · exact absurd hold hbefore
      · cases hnew
        exact ⟨_, _, hstage, fun _ => id, Or.inr ⟨rfl, rfl⟩⟩
  | enter hstage | failed hstage | forgot keeps forgotten hstage | dropped hstage =>
      rw [getElem?_set_some_iff hstage] at hafter
      rcases hafter with ⟨-, hold⟩ | ⟨-, hnew⟩
      · exact absurd hold hbefore
      · exact nomatch hnew

/-- Stores keep their numbers. -/
theorem locators (h : PoolShift w e w') : w.stores.locators <+: w'.stores.locators := by
  cases h with
  | idle _ hlocators | walk _ _ hlocators | failed _ hlocators =>
      exact hlocators ▸ List.prefix_refl _
  | opened _ hlocators =>
      rw [hlocators]
      exact List.prefix_append _ _
  | _ => exact List.prefix_refl _

end PoolShift

end Multitenancy
