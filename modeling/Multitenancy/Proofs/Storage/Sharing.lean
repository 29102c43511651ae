import Mathlib.Data.List.Basic
import Multitenancy.Proofs.Storage.Shifts
import Multitenancy.Proofs.Text.Assoc
/-!
# One Open Store for Each Tenant

Whoever asks for the store of a tenant gets the one that is open.

The turn is what makes it so. A task that is about to open a store has the
turn, and saw that the store was not open after it got it. Stores are only
entered by a task that has the turn, so the store is still not open when the
task is done with it, whatever was removed meanwhile and however often the
task before failed or was dropped. A store that is entered stays until it is
removed, and everybody who returns in between returns with it.

Nothing has to be said of removals. They take no turn and may come at any
moment, but they can only take stores out.

## Main definitions

* `PoolTraffic.after`, `PoolTraffic.calls`: The state after a history, and the
  calls that were made in it.
* `PoolTraffic.Opens`, `PoolTraffic.Returns`, `PoolTraffic.Removes`: An event
  starts an open, lets a task return with a store, removes a store.
* `PoolTraffic.Fails`: A task has not got a store.
* `PoolTraffic.removals`: The stores that a history removes.
* `PoolTraffic.Serving`: Every task is there for its call.
* `PoolTraffic.Sound`: Who opens a store has the turn, and the store is not
  open.
* `PoolTraffic.Sourced`: Where stores come from.

## Theorems

* `PoolTraffic.Serving.shift`, `PoolTraffic.Sound.shift`,
  `PoolTraffic.Sourced.next`: Every event keeps what was said of a state.
* `PoolTraffic.Opens.alone`: When an open starts.
* `PoolTraffic.returns_same`: Who returns with the same store.
* `PoolTraffic.Fails.unchanged`: What a task that fails leaves behind.
* `PoolTraffic.opened_run`: The number of stores that were opened.
* `PoolTraffic.one_store_each`: All this for every history.
-/

namespace Multitenancy

deriving instance DecidableEq for PoolReply
deriving instance DecidableEq for PoolStage

namespace PoolTraffic

/-- The state after a history at whose beginning no store of a tenant is
    open. -/
def after (stores : Stores) (settings : PoolSettings) (history : List PoolEvent) : PoolTraffic :=
  ({ stores, pools := { settings } } : PoolTraffic).run history

/-- The calls of a history, by the numbers of their tasks. -/
def calls (history : List PoolEvent) : List PoolCall :=
  history.filterMap PoolEvent.call?

/-- A task is to get the store of a tenant. -/
def Wants (history : List PoolEvent) (n : Nat) (t : Tenant) : Prop :=
  (calls history)[n]? = some (.get t)

/-- A task is opening the store of a tenant. -/
def Opening (w : PoolTraffic) (n : Nat) (t : Tenant) : Prop :=
  w.stages[n]? = some (.opening t)

/-- A task has returned with a store. -/
def Got (w : PoolTraffic) (n handle : Nat) : Prop :=
  w.stages[n]? = some (.done (.handle (.ok handle)))

/-- A task begins to open the store of a tenant. -/
def Opens (w : PoolTraffic) (e : PoolEvent) (n : Nat) (t : Tenant) : Prop :=
  ¬w.Opening n t ∧ (w.next e).Opening n t

/-- A task returns with a store. -/
def Returns (w : PoolTraffic) (e : PoolEvent) (n handle : Nat) : Prop :=
  ¬w.Got n handle ∧ (w.next e).Got n handle

/-- A task has not got a store: it has a fault, or it was dropped. -/
def Fails (w : PoolTraffic) (n : Nat) : Prop :=
  (∃ f, w.stages[n]? = some (.done (.handle (.error f)))) ∨ w.stages[n]? = some .dropped

/-- The store of a tenant is removed. -/
def Removes (w : PoolTraffic) (e : PoolEvent) (id : String) : Prop :=
  w.pools.contains id = true ∧ (w.next e).pools.contains id = false

/-- The stores that an event removes. -/
def removed (w : PoolTraffic) (e : PoolEvent) : Assoc String Nat :=
  w.pools.handles.filter fun p => !(w.next e).pools.contains p.1

/-- The stores that a history removes. -/
def removals : PoolTraffic → List PoolEvent → Assoc String Nat
  | _, [] => []
  | w, e :: rest => w.removed e ++ (w.next e).removals rest

variable {w : PoolTraffic} {e : PoolEvent} {stores : Stores} {settings : PoolSettings}
  {history : List PoolEvent}

theorem after_concat (stores : Stores) (settings : PoolSettings) (history : List PoolEvent)
    (e : PoolEvent) :
    after stores settings (history ++ [e]) = (after stores settings history).next e := by
  rw [after, after, run, run, List.foldl_append]
  rfl

theorem calls_concat (history : List PoolEvent) (e : PoolEvent) :
    calls (history ++ [e]) = calls history ++ e.call?.toList := by
  rw [calls, List.filterMap_append, List.filterMap_cons]
  cases e.call? <;> rfl

theorem calls_mono {p q : List PoolEvent} (h : p <+: q) : calls p <+: calls q :=
  h.filterMap _

/-! ### Tasks and their calls -/

/-- Every task is there for its call. -/
structure Serving (calls : List PoolCall) (w : PoolTraffic) : Prop where
  length_eq : w.stages.length = calls.length
  serves : ∀ {n : Nat} {stage : PoolStage}, w.stages[n]? = some stage →
    ∃ c, calls[n]? = some c ∧ stage.Serves c

theorem Serving.shift {calls : List PoolCall} {w' : PoolTraffic} (h : Serving calls w)
    (hshift : PoolShift w e w') : Serving (calls ++ e.call?.toList) w' := by
  -- A new task comes behind the others, as its call does; a task that moves keeps its call.
  cases hshift.onStages with
  | @added c hcall hstages =>
      rw [hcall]
      refine ⟨?_, fun {m stage} hm => ?_⟩
      · rw [hstages, List.length_append, List.length_append, h.length_eq]
        rfl
      · rw [hstages, getElem?_concat_some_iff] at hm
        rcases hm with hold | ⟨rfl, rfl⟩
        · rcases h.serves hold with ⟨d, hd, hserves⟩
          exact ⟨d, getElem?_concat_some_iff.mpr (Or.inl hd), hserves⟩
        · exact ⟨c, getElem?_concat_some_iff.mpr (Or.inr ⟨h.length_eq, rfl⟩), rfl⟩
  | same hcall hstages =>
      rw [hcall, Option.toList_none, List.append_nil]
      exact ⟨by rw [hstages, h.length_eq], fun hm => h.serves (hstages ▸ hm)⟩
  | moved hcall hstage hstages _ hserves =>
      rw [hcall, Option.toList_none, List.append_nil]
      refine ⟨by rw [hstages, List.length_set, h.length_eq], fun {m stage} hm => ?_⟩
      rw [hstages, getElem?_set_some_iff hstage] at hm
      rcases hm with ⟨-, hold⟩ | ⟨rfl, rfl⟩
      · exact h.serves hold
      · rcases h.serves hstage with ⟨c, hc, hbefore⟩
        exact ⟨c, hc, hserves c hbefore⟩

theorem serving_after (stores : Stores) (settings : PoolSettings) (history : List PoolEvent) :
    Serving (calls history) (after stores settings history) := by
  refine prefix_induction (P := fun h => Serving (calls h) (after stores settings h))
    List.nil_prefix ⟨rfl, fun hm => absurd hm (Option.some_ne_none _).symm⟩ fun h e _ _ ih => ?_
  rw [after_concat, calls_concat]
  exact ih.shift (shift_next _ e)

/-- At every moment a task is there for the call that it has at the end. -/
theorem serves_after {p : List PoolEvent} (hp : p <+: history) {n : Nat} {stage : PoolStage}
    {c : PoolCall} (hstage : (after stores settings p).stages[n]? = some stage)
    (hcall : (calls history)[n]? = some c) : stage.Serves c := by
  rcases (serving_after stores settings p).serves hstage with ⟨d, hd, hserves⟩
  rw [getElem?_mono (calls_mono hp) hd] at hcall
  exact Option.some.inj hcall ▸ hserves

/-- A task that is over stays over. -/
theorem over_shift {w' : PoolTraffic} (hshift : PoolShift w e w') {n : Nat} {r : PoolReply}
    (hn : w.stages[n]? = some (.done r)) : w'.stages[n]? = some (.done r) := by
  cases hshift.onStages with
  | added _ hstages =>
      rw [hstages, getElem?_concat_some_iff]
      exact Or.inl hn
  | same _ hstages => rw [hstages, hn]
  | moved _ hstage hstages hopen =>
      rw [hstages, getElem?_set_some_iff hstage]
      refine Or.inl ⟨?_, hn⟩
      -- The task that moves was not over, so it is another one.
      rintro rfl
      rw [hstage, Option.some.injEq] at hn
      rw [hn] at hopen
      exact absurd hopen (Option.some_ne_none r)

/-! ### The turn -/

/-- No tenant has two open stores. Who opens a store has the turn, and the store
    is not open. -/
structure Sound (w : PoolTraffic) : Prop where
  keys : w.pools.handles.keys.Nodup
  opening : ∀ {n : Nat} {t : Tenant}, w.Opening n t →
    w.pools.turn = some n ∧ w.pools.handles.get? t.id = none

theorem Sound.keys_shift {w' : PoolTraffic} (h : Sound w) (hshift : PoolShift w e w') :
    w'.pools.handles.keys.Nodup := by
  cases hshift.onHandles with
  | same hhandles =>
      rw [hhandles]
      exact h.keys
  | entered _ _ _ _ hhandles =>
      rw [hhandles]
      exact Assoc.nodup_insert h.keys _ _
  | forgot keeps _ _ _ hhandles =>
      rw [hhandles]
      exact h.keys.sublist (List.filter_sublist.map Prod.fst)

/-- Only one task at a time has the turn. -/
theorem Sound.opening_unique (h : Sound w) {m n : Nat} {t t' : Tenant}
    (hm : w.Opening m t) (hn : w.Opening n t') : m = n :=
  Option.some.inj ((h.opening hm).1.symm.trans (h.opening hn).1)

theorem Sound.shift {w' : PoolTraffic} (h : Sound w) (hshift : PoolShift w e w') : Sound w' := by
  refine ⟨h.keys_shift hshift, fun {m t} hm => ?_⟩
  rw [Opening] at hm
  cases hshift with
  | start c =>
      rw [getElem?_concat_some_iff] at hm
      rcases hm with hold | ⟨-, hnew⟩
      · exact h.opening hold
      · exact PoolStage.noConfusion hnew
  | idle => exact h.opening hm
  | walk hstage hwalk =>
      rw [getElem?_set_some_iff hstage] at hm
      rcases hm with ⟨-, hold⟩ | ⟨-, rfl⟩
      · exact h.opening hold
      · exact nomatch hwalk
  | enter hstage hturn hnone =>
      rw [getElem?_set_some_iff hstage] at hm
      rcases hm with ⟨-, hold⟩ | ⟨rfl, hnew⟩
      · -- Nobody else can be opening a store while the turn is free.
        rw [(h.opening hold).1] at hturn
        exact absurd hturn (Option.some_ne_none _)
      · rw [PoolStage.opening.injEq] at hnew
        rw [hnew]
        exact ⟨rfl, hnone⟩
  | opened hstage | failed hstage =>
      rw [getElem?_set_some_iff hstage] at hm
      rcases hm with ⟨hother, hold⟩ | ⟨-, hnew⟩
      · -- The task that is done was the only one.
        exact absurd (h.opening_unique hold hstage) hother
      · exact PoolStage.noConfusion hnew
  | forgot keeps forgotten hstage =>
      rw [getElem?_set_some_iff hstage] at hm
      rcases hm with ⟨-, hold⟩ | ⟨-, hnew⟩
      · refine ⟨(h.opening hold).1, ?_⟩
        rw [Assoc.get?_filter, (h.opening hold).2, ite_self]
      · exact PoolStage.noConfusion hnew
  | dropped hstage =>
      rw [getElem?_set_some_iff hstage] at hm
      rcases hm with ⟨hother, hold⟩ | ⟨-, hnew⟩
      · rcases h.opening hold with ⟨hturn, hnone⟩
        refine ⟨?_, hnone⟩
        -- The turn of another task is not given up.
        rw [hturn]
        exact if_neg fun heq => hother (Option.some.inj heq)
      · exact PoolStage.noConfusion hnew

theorem sound_after (stores : Stores) (settings : PoolSettings) (history : List PoolEvent) :
    Sound (after stores settings history) := by
  refine prefix_induction (P := fun h => Sound (after stores settings h)) List.nil_prefix
    ⟨List.nodup_nil, fun hm => absurd hm (Option.some_ne_none _).symm⟩ fun h e _ _ ih => ?_
  rw [after_concat]
  exact ih.shift (shift_next _ e)

/-! ### Coming back with a store -/

/-- An open store stays open until it is removed. -/
theorem Sound.get?_of_not_removes (h : Sound w) {id : String} {handle : Nat}
    (hget : w.pools.handles.get? id = some handle) (hstays : ¬w.Removes e id) :
    (w.next e).pools.handles.get? id = some handle := by
  cases (shift_next w e).onHandles with
  | same hhandles => rw [hhandles, hget]
  | entered _ hstage _ _ hhandles =>
      rw [hhandles, Assoc.get?_insert]
      -- The store that is entered was not open, so it belongs to another tenant.
      refine (if_neg fun hid => ?_).trans hget
      rw [← eq_of_beq hid, (h.opening hstage).2] at hget
      exact absurd hget (Option.some_ne_none _).symm
  | forgot keeps _ _ _ hhandles =>
      rw [hhandles, Assoc.get?_filter]
      by_cases hkeeps : keeps id = true
      · rw [if_pos hkeeps, hget]
      · refine absurd ⟨?_, ?_⟩ hstays
        · rw [Pools.contains, Assoc.contains, hget, Option.isSome_some]
        · rw [Pools.contains, Assoc.contains, hhandles, Assoc.get?_filter, if_neg hkeeps,
            Option.isSome_none]

/-- A task returns with the store that is open then. If it was open before, it
    is the same one. -/
theorem Returns.get? (hsound : Sound w) {n handle : Nat} {t : Tenant} (h : w.Returns e n handle)
    (hserves : ∀ stage, w.stages[n]? = some stage → stage.Serves (.get t)) :
    (w.next e).pools.handles.get? t.id = some handle ∧
      ∀ other, w.pools.handles.get? t.id = some other → other = handle := by
  rcases (shift_next w e).returns h.1 h.2 with ⟨stage, t', hstage, hserved, hgot⟩
  cases hserved _ (hserves stage hstage)
  -- The task found the store open, or entered it while it was not.
  rcases hgot with ⟨hfound, hhandles⟩ | ⟨rfl, hopened⟩
  · rw [hhandles]
    exact ⟨hfound, fun other hother => Option.some.inj (hother.symm.trans hfound)⟩
  · rw [hopened, Assoc.get?_insert, if_pos BEq.rfl, (hsound.opening hstage).2]
    exact ⟨rfl, fun other hother => absurd hother (Option.some_ne_none other).symm⟩

/-- Two tasks that return for one tenant return with the same store, if it is
    not removed in between. -/
theorem returns_same {p q : List PoolEvent} {e e' : PoolEvent} {m n handle other : Nat}
    {t t' : Tenant} (hpq : p ++ [e] <+: q) (hq : q ++ [e'] <+: history) (hm : Wants history m t)
    (hn : Wants history n t') (hid : t.id = t'.id)
    (hfirst : (after stores settings p).Returns e m handle)
    (hsecond : (after stores settings q).Returns e' n other)
    (hstays : ∀ r a, p ++ [e] <+: r → r ++ [a] <+: q →
      ¬(after stores settings r).Removes a t.id) : handle = other := by
  have hqh : q <+: history := (List.prefix_append q [e']).trans hq
  have hph : p <+: history := (List.prefix_append p [e]).trans (hpq.trans hqh)
  have hgot := (hfirst.get? (sound_after stores settings p)
    fun _ hstage => serves_after hph hstage hm).1
  rw [← after_concat] at hgot
  -- The store of the first task is open until the second one returns.
  have hopen : (after stores settings q).pools.handles.get? t.id = some handle :=
    prefix_induction (P := fun h => (after stores settings h).pools.handles.get? t.id =
      some handle) hpq hgot fun r a hr ha ih => by
        rw [after_concat]
        exact (sound_after stores settings r).get?_of_not_removes ih (hstays r a hr ha)
  rw [hid] at hopen
  exact (hsecond.get? (sound_after stores settings q)
    fun _ hstage => serves_after hqh hstage hn).2 handle hopen

/-! ### Failing -/

theorem over_after {p : List PoolEvent} (hp : p <+: history) {n : Nat} {r : PoolReply}
    (hn : (after stores settings p).stages[n]? = some (.done r)) :
    (after stores settings history).stages[n]? = some (.done r) :=
  prefix_induction (P := fun h => (after stores settings h).stages[n]? = some (.done r)) hp hn
    fun h e _ _ ih => by
      rw [after_concat]
      exact over_shift (shift_next _ e) ih

/-- A task that was to get a store and has not got one has left the open stores
    and their number as they were with all that it did. -/
theorem Fails.unchanged {p : List PoolEvent} {n : Nat} {t : Tenant}
    (h : (after stores settings history).Fails n) (hp : p ++ [e] <+: history)
    (hwants : Wants history n t) (he : e = .step n ∨ e = .cancel n) :
    (after stores settings (p ++ [e])).pools.handles = (after stores settings p).pools.handles ∧
      (after stores settings (p ++ [e])).pools.opened = (after stores settings p).pools.opened := by
  have hph : p <+: history := (List.prefix_append p [e]).trans hp
  have hmoves {m : Nat} (hm : e = .step m) : m = n := by
    rcases he with rfl | rfl
    · exact (PoolEvent.step.inj hm).symm
    · exact nomatch hm
  have hshift := shift_next (after stores settings p) e
  rw [← after_concat] at hshift
  cases hshift.onHandles with
  | same hhandles hopened => exact ⟨hhandles, hopened⟩
  | entered hm _ hdone =>
      -- Whoever opened a store has it for good.
      rw [hmoves hm] at hdone
      have hover := over_after hp hdone
      rcases h with ⟨f, hfault⟩ | hdropped
      · rw [hover, Option.some.injEq] at hfault
        exact nomatch hfault
      · rw [hover, Option.some.injEq] at hdropped
        exact nomatch hdropped
  | forgot keeps hm hstage hcall =>
      -- A task that is to get a store removes none.
      rw [hmoves hm] at hstage
      exact absurd (serves_after hph hstage hwants) (hcall t)

/-! ### Opening -/

/-- An open starts when the store is not open and no other open is under way. -/
theorem Opens.alone (hsound : Sound w) {n : Nat} {t : Tenant} (h : w.Opens e n t) :
    w.pools.handles.get? t.id = none ∧ ∀ m t', ¬w.Opening m t' := by
  rcases (shift_next w e).opens h.1 h.2 with ⟨hturn, hnone⟩
  refine ⟨hnone, fun m t' hm => ?_⟩
  rw [(hsound.opening hm).1] at hturn
  exact absurd hturn (Option.some_ne_none m)

/-! ### Counting -/

theorem contains_of_mem (hsound : Sound w) {p : String × Nat} (h : p ∈ w.pools.handles) :
    (w.pools.handles.get? p.1).isSome = true := by
  rw [(Assoc.mem_iff_get? hsound.keys p.1 p.2).mp h, Option.isSome_some]

/-- An event that removes no store opens as many as there are more of them
    afterwards. One that does is a step of a task that is to remove stores, and
    opens none. -/
theorem removed_cases (hsound : Sound w) (e : PoolEvent) :
    (w.removed e = [] ∧ (w.next e).pools.opened + w.pools.handles.length =
      w.pools.opened + (w.next e).pools.handles.length) ∨
    ∃ n c, e = .step n ∧ w.stages[n]? = some (.begun c) ∧ (∀ t, c ≠ .get t) ∧
      (w.next e).pools.opened = w.pools.opened ∧
      w.pools.handles.length = (w.next e).pools.handles.length + (w.removed e).length := by
  cases (shift_next w e).onHandles with
  | same hhandles hopened =>
      refine Or.inl ⟨List.filter_eq_nil_iff.mpr fun p hp => ?_, by rw [hhandles, hopened]⟩
      rw [Pools.contains, Assoc.contains, hhandles, contains_of_mem hsound hp]
      exact Bool.false_ne_true
  | entered _ hstage _ _ hhandles hopened =>
      refine Or.inl ⟨List.filter_eq_nil_iff.mpr fun p hp => ?_, ?_⟩
      · rw [Pools.contains, Assoc.contains, hhandles, Assoc.get?_insert]
        split
        · exact Bool.false_ne_true
        · rw [contains_of_mem hsound hp]
          exact Bool.false_ne_true
      · rw [hhandles, hopened, Assoc.length_insert (hsound.opening hstage).2]
        omega
  | @forgot n c keeps he hstage hcall hhandles hopened =>
      refine Or.inr ⟨n, c, he, hstage, hcall, hopened, ?_⟩
      -- The stores that are removed are those that are not kept.
      have hremoved : w.removed e = w.pools.handles.filter fun p => !keeps p.1 := by
        refine List.filter_congr fun p hp => ?_
        rw [Pools.contains, Assoc.contains, hhandles, Assoc.get?_filter]
        by_cases hkeeps : keeps p.1 = true
        · rw [if_pos hkeeps, contains_of_mem hsound hp, hkeeps]
        · rw [if_neg hkeeps, Option.isSome_none, Bool.eq_false_iff.mpr hkeeps]
      rw [hhandles, hremoved, ← List.length_eq_length_filter_add]

/-- What was opened is open or was removed. -/
theorem opened_run (hsound : Sound w) (history : List PoolEvent) :
    (w.run history).pools.opened + w.pools.handles.length =
      w.pools.opened + (w.run history).pools.handles.length + (w.removals history).length := by
  induction history generalizing w with
  | nil => rfl
  | cons e rest ih =>
      have hrest := ih (hsound.shift (shift_next w e))
      have hrun : w.run (e :: rest) = (w.next e).run rest := rfl
      rw [hrun, removals, List.length_append]
      -- What an event removes is no longer open, so the sum stays the same.
      rcases removed_cases hsound e with ⟨hnone, hopened⟩ | ⟨_, _, _, _, _, hopened, hlength⟩
      · rw [hnone, List.length_nil]
        omega
      · omega

/-! ### Locators -/

/-- A store was opened for a tenant of the id. -/
def OpenedFor (calls : List PoolCall) (w : PoolTraffic) (id : String) (handle : Nat) : Prop :=
  ∃ t, .get t ∈ calls ∧ t.id = id ∧ w.stores.locators[handle]? = some t.storeLocator

/-- Every store that is open, or with which a task has returned, was opened for
    a tenant of the id. -/
structure Sourced (calls : List PoolCall) (w : PoolTraffic) : Prop where
  entries : ∀ {id : String} {handle : Nat}, w.pools.handles.get? id = some handle →
    OpenedFor calls w id handle
  replies : ∀ {n handle : Nat} {t : Tenant}, calls[n]? = some (.get t) →
    w.Got n handle → OpenedFor calls w t.id handle

theorem OpenedFor.mono {calls more : List PoolCall} {w' : PoolTraffic} {id : String}
    {handle : Nat} (h : OpenedFor calls w id handle) (hcalls : calls <+: more)
    (hlocators : w.stores.locators <+: w'.stores.locators) : OpenedFor more w' id handle := by
  rcases h with ⟨t, ht, hid, hlocator⟩
  exact ⟨t, hcalls.subset ht, hid, getElem?_mono hlocators hlocator⟩

theorem Sourced.entries_next {calls : List PoolCall} (h : Sourced calls w)
    (hserving : Serving calls w) {id : String} {handle : Nat}
    (hget : (w.next e).pools.handles.get? id = some handle) :
    OpenedFor (calls ++ e.call?.toList) (w.next e) id handle := by
  have hshift := shift_next w e
  -- An old entry needs no proof again: no store changes its locator.
  have hmono := fun hold : OpenedFor calls w id handle =>
    hold.mono (List.prefix_append calls e.call?.toList) hshift.locators
  cases hshift.onHandles with
  | same hhandles =>
      rw [hhandles] at hget
      exact hmono (h.entries hget)
  | @entered n t _ hstage _ hlocators hhandles =>
      rw [hhandles, Assoc.get?_insert] at hget
      -- The entry is the new one, whose store was opened last, or that of another tenant.
      by_cases hid : t.id == id
      · rw [if_pos hid, Option.some.injEq] at hget
        rcases hserving.serves hstage with ⟨c, hc, rfl⟩
        refine ⟨t, List.mem_append_left _ (List.mem_of_getElem? hc), eq_of_beq hid, ?_⟩
        rw [hlocators, ← hget, List.getElem?_concat_length]
      · rw [if_neg hid] at hget
        exact hmono (h.entries hget)
  | forgot keeps _ _ _ hhandles =>
      rw [hhandles, Assoc.get?_filter] at hget
      by_cases hkeeps : keeps id = true
      · rw [if_pos hkeeps] at hget
        exact hmono (h.entries hget)
      · rw [if_neg hkeeps] at hget
        exact absurd hget (Option.some_ne_none _).symm

theorem Sourced.next {calls : List PoolCall} (h : Sourced calls w) (hserving : Serving calls w)
    (hsound : Sound w) : Sourced (calls ++ e.call?.toList) (w.next e) := by
  refine ⟨h.entries_next hserving, fun {n handle t} hcall hdone => ?_⟩
  -- A task that was there before had its call already.
  have hold : ∀ stage, w.stages[n]? = some stage →
      calls[n]? = some (.get t) ∧ stage.Serves (.get t) := by
    intro stage hstage
    rcases hserving.serves hstage with ⟨c, hc, hserves⟩
    rw [getElem?_mono (List.prefix_append calls _) hc, Option.some.injEq] at hcall
    subst hcall
    exact ⟨hc, hserves⟩
  by_cases hbefore : w.Got n handle
  · exact (h.replies (hold _ hbefore).1 hbefore).mono (List.prefix_append _ _)
      (shift_next w e).locators
  · have hreturns : w.Returns e n handle := ⟨hbefore, hdone⟩
    exact h.entries_next hserving (hreturns.get? hsound fun stage hstage => (hold stage hstage).2).1

theorem sourced_after (stores : Stores) (settings : PoolSettings) (history : List PoolEvent) :
    Sourced (calls history) (after stores settings history) := by
  refine prefix_induction (P := fun h => Sourced (calls h) (after stores settings h))
    List.nil_prefix ⟨fun hget => absurd hget (Option.some_ne_none _).symm,
      fun _ hdone => absurd hdone (Option.some_ne_none _).symm⟩ fun h e _ _ ih => ?_
  rw [after_concat, calls_concat]
  exact ih.next (serving_after stores settings h) (sound_after stores settings h)

/-! ### One store for each tenant -/

/-- Whatever calls are made, and however they take turns, fail and are dropped.
    An open starts only while the store is not open, and no other is under way
    then or later. Tasks that return for one tenant, with no removal of its
    store in between, return with the same store. A task that gets no store
    leaves the open stores and the number of those that were opened as they
    are. Those are the stores that are open, one for each tenant, and those
    that were removed, which only a task that is to remove stores does. And the
    store with which a task returns is the one that its tenant's locator names,
    if tenants of one id have one locator. -/
theorem one_store_each (stores : Stores) (settings : PoolSettings) (history : List PoolEvent) :
    (∀ e n t, (after stores settings history).Opens e n t →
      (after stores settings history).pools.handles.get? t.id = none ∧
        ∀ m t', ¬(after stores settings history).Opening m t') ∧
    (∀ m n t t', (after stores settings history).Opening m t →
      (after stores settings history).Opening n t' → m = n) ∧
    (∀ p e q e' m n t t' handle other, p ++ [e] <+: q → q ++ [e'] <+: history →
      Wants history m t → Wants history n t' → t.id = t'.id →
      (after stores settings p).Returns e m handle →
      (after stores settings q).Returns e' n other →
      (∀ r a, p ++ [e] <+: r → r ++ [a] <+: q →
        ¬(after stores settings r).Removes a t.id) → handle = other) ∧
    (∀ p e n t, p ++ [e] <+: history → Wants history n t → (e = .step n ∨ e = .cancel n) →
      (after stores settings history).Fails n →
      (after stores settings (p ++ [e])).pools.handles = (after stores settings p).pools.handles ∧
        (after stores settings (p ++ [e])).pools.opened =
          (after stores settings p).pools.opened) ∧
    ((after stores settings history).pools.handles.keys.Nodup ∧
      (after stores settings history).pools.opened =
        (after stores settings history).pools.handles.length +
          ((after stores settings []).removals history).length) ∧
    (∀ p e, p ++ [e] <+: history → (after stores settings p).removed e ≠ [] →
      ∃ n c, e = .step n ∧ (calls history)[n]? = some c ∧ ∀ t, c ≠ .get t) ∧
    ((∀ t t', .get t ∈ calls history → .get t' ∈ calls history → t.id = t'.id →
        t.storeLocator = t'.storeLocator) →
      ∀ n t handle, Wants history n t → (after stores settings history).Got n handle →
        ∃ store, (after stores settings history).stores.handles[handle]? = some store ∧
          store.locator = t.storeLocator) := by
  have hsound := sound_after stores settings history
  refine ⟨fun e n t hopens => hopens.alone hsound, fun m n t t' => hsound.opening_unique,
    fun p e q e' m n t t' handle other => returns_same,
    fun p e n t hp hwants he hfails => hfails.unchanged hp hwants he, ⟨hsound.keys, ?_⟩,
    fun p e hp hremoved => ?_, fun hlocators n t handle hwants hgot => ?_⟩
  · -- Nothing was open and nothing had been opened at the start.
    have hopened := opened_run (sound_after stores settings []) history
    have hrun : (after stores settings []).run history = after stores settings history := rfl
    have hnone : (after stores settings []).pools.handles.length = 0 := rfl
    have hzero : (after stores settings []).pools.opened = 0 := rfl
    rw [hrun, hnone, hzero] at hopened
    omega
  · -- A task that removes stores still has its call, which is not one to get a store.
    rcases removed_cases (sound_after stores settings p) e with
      ⟨hnone, -⟩ | ⟨n, c, he, hstage, hcall, -⟩
    · exact absurd hnone hremoved
    · rcases (serving_after stores settings p).serves hstage with ⟨d, hd, rfl⟩
      exact ⟨n, c, he, getElem?_mono
        (calls_mono ((List.prefix_append p [e]).trans hp)) hd, hcall⟩
  · -- The store was opened for some call with this id, and such calls name one locator.
    rcases (sourced_after stores settings history).replies hwants hgot with
      ⟨t', ht', hid, hlocator⟩
    rw [Stores.locators, List.getElem?_map, Option.map_eq_some_iff] at hlocator
    rcases hlocator with ⟨store, hstore, hlocator⟩
    exact ⟨store, hstore, hlocator.trans (hlocators t' t ht' (List.mem_of_getElem? hwants) hid)⟩

/-- A tenant whose store is in memory. -/
def memoryTenant : Tenant :=
  { Tenant.new "acme" "Acme" ⟨0, 0⟩ with storeLocator := "sqlite::memory:" }

/-- A tenant without a store. -/
def storelessTenant : Tenant := Tenant.new "b" "B" ⟨0, 0⟩

/-- Two tasks want the store of one tenant, and the first one has opened it
    after its last step. A third task wants one that there is not. -/
def firstOpen : List PoolEvent :=
  [.start (.get memoryTenant), .start (.get memoryTenant), .step 0, .step 1, .step 0, .step 1,
    .start (.get storelessTenant), .step 2, .step 0]

/-- Then the second one returns, and the store is removed. -/
def openThenEvict : List PoolEvent :=
  firstOpen ++ [.step 1, .start (.evict "acme"), .step 3, .step 3]

theorem one_store_each_acme :
    (∃ handle, (after {} .tenant firstOpen.dropLast).Returns (.step 0) 0 handle ∧
      (after {} .tenant firstOpen).Returns (.step 1) 1 handle ∧
      ∀ other, (after {} .tenant firstOpen).Returns (.step 1) 1 other → handle = other) ∧
    (after {} .tenant openThenEvict).Fails 2 ∧
    (after {} .tenant (firstOpen.take 8)).pools.handles =
      (after {} .tenant (firstOpen.take 7)).pools.handles ∧
    ∃ store, (after {} .tenant openThenEvict).stores.handles[0]? = some store ∧
      store.locator = "sqlite::memory:" := by
  have hpromise := one_store_each {} .tenant openThenEvict
  rcases hpromise with ⟨-, -, hsame, hfails, -, -, hlocators⟩
  have hfirst : (after {} .tenant firstOpen.dropLast).Returns (.step 0) 0 0 := by
    unfold Returns Got
    decide +kernel
  have hsecond : (after {} .tenant firstOpen).Returns (.step 1) 1 0 := by
    unfold Returns Got
    decide +kernel
  have hfault : (after {} .tenant openThenEvict).Fails 2 := by
    refine Or.inl ⟨.noLocator "b", ?_⟩
    decide +kernel
  have hgot : (after {} .tenant openThenEvict).Got 0 0 := by
    unfold Got
    decide +kernel
  have hzero : Wants openThenEvict 0 memoryTenant := rfl
  have hone : Wants openThenEvict 1 memoryTenant := rfl
  refine ⟨⟨0, hfirst, hsecond, fun other hother => ?_⟩, hfault, ?_, ?_⟩
  · refine hsame firstOpen.dropLast (.step 0) firstOpen (.step 1) 0 1 memoryTenant memoryTenant 0
      other ?_ ?_ hzero hone rfl hfirst hother fun r a hr ha => ?_
    · exact List.prefix_refl _
    · exact List.prefix_append _ _
    · -- Nothing comes between the two.
      have hle : 9 ≤ r.length := hr.length_le
      have hlt : (r ++ [a]).length ≤ 9 := ha.length_le
      rw [List.length_append, List.length_singleton] at hlt
      omega
  · exact (hfails (firstOpen.take 7) (.step 2) 2 storelessTenant ⟨_, rfl⟩ rfl (Or.inl rfl)
      hfault).1
  · have hnames : ∀ t, .get t ∈ calls openThenEvict →
        t.storeLocator = if t.id = "acme" then "sqlite::memory:" else "" := by
      have hcalls : calls openThenEvict = [.get memoryTenant, .get memoryTenant,
        .get storelessTenant, .evict "acme"] := rfl
      intro t ht
      simp only [hcalls, List.mem_cons, PoolCall.get.injEq, reduceCtorEq, List.not_mem_nil,
        or_false] at ht
      rcases ht with rfl | rfl | rfl <;> rfl
    refine hlocators (fun t t' ht ht' hid => ?_) 0 memoryTenant 0 hzero hgot
    rw [hnames t ht, hnames t' ht', hid]

end PoolTraffic

end Multitenancy
