import Mathlib.Algebra.Order.Ring.Int
import Mathlib.Data.List.Chain
import NotificationBroker.Framework.Outcomes
import NotificationBroker.Framework.RelyGuarantee

/-!
# A cache behind a double-checked lock

Threads look at a state that moves on its own through the cells of a `Cache`. A thread that finds
the cache refreshed less than `interval` ago uses the cells as they are. Any other thread takes
the lock and looks again, since it may have waited for a thread that has refreshed them; if they
are still old, it computes all cells anew, and notes the time at which it has started.

`Cache.Step` is what the threads may do, whatever their programs are, and `cacheContract` the
contract that makes it fit together: a thread with the lock relies on the cells and on the time of
the last refresh, and the others rely on the latter not to go back. The invariant is that each
cell shows the state at moments since the last refresh (`Cache.Showing`). A thread that raises
leaves some of the cells newer than the rest, which does no harm.
-/

namespace Interleave

/-- The cells with their lock, and the state that they are computed from. `past` are the moments
of that state so far; no thread reads it. -/
structure Cache (Pid Cell Value Moment : Type) where
  now : Moment
  past : List Moment
  lock : Option Pid
  refreshedAt : Option ℤ
  cells : Cell → Option Value

/-- What a cell shows, and for how long that is new enough. A cell that shows the state at some
moments shows it at more moments. -/
structure CacheRules (Cell Value Moment : Type) where
  time : Moment → ℤ
  interval : ℤ
  Shows : (Moment → Prop) → Cell → Value → Prop
  mono : ∀ {S S' cell value}, (∀ m, S m → S' m) → Shows S cell value → Shows S' cell value

namespace Cache

variable {Pid Choice Cell Value Moment ε α β : Type} [DecidableEq Pid] [DecidableEq Cell]
  {rules : CacheRules Cell Value Moment}

/-- Before the first refresh. -/
def start (now : Moment) (cells : Cell → Option Value) : Cache Pid Cell Value Moment where
  now := now
  past := [now]
  lock := none
  refreshedAt := none
  cells := cells

/-- The state moves on. -/
def advance (now : Moment) (w : Cache Pid Cell Value Moment) : Cache Pid Cell Value Moment :=
  { w with now := now, past := w.past ++ [now] }

/-- A thread that ends, for whatever reason, lets go of the lock. -/
def letGo (p : Pid) (w : Cache Pid Cell Value Moment) : Cache Pid Cell Value Moment :=
  if w.lock = some p then { w with lock := none } else w

/-- The moments from the time `t` on. -/
def Since (rules : CacheRules Cell Value Moment) (w : Cache Pid Cell Value Moment) (t : ℤ)
    (m : Moment) : Prop :=
  m ∈ w.past ∧ t ≤ rules.time m

/-- A cell shows moments from the time `t` on. -/
def Showing (rules : CacheRules Cell Value Moment) (w : Cache Pid Cell Value Moment) (t : ℤ)
    (cell : Cell) : Prop :=
  ∃ value, w.cells cell = some value ∧ rules.Shows (w.Since rules t) cell value

/-- The state, whose time does not go back, and the threads. -/
def machine (rules : CacheRules Cell Value Moment) :
    Machine Pid Moment (Cache Pid Cell Value Moment) where
  env m w := if rules.time w.now ≤ rules.time m then some (w.advance m) else none
  abort := letGo

/-! ### Steps -/

/-- What an action of `p` can do to the cache. Only the thread with the lock writes. -/
inductive Step (rules : CacheRules Cell Value Moment) (p : Pid) (w : Cache Pid Cell Value Moment) :
    Cache Pid Cell Value Moment → Prop
  | look : Step rules p w w
  | acquire (h_free : w.lock = none) : Step rules p w { w with lock := some p }
  | release (h_lock : w.lock = some p) : Step rules p w { w with lock := none }
  | write (cell : Cell) (value : Value) (h_lock : w.lock = some p)
      (h_shows : ∃ t, (∀ last ∈ w.refreshedAt, last ≤ t) ∧
        rules.Shows (w.Since rules t) cell value) :
      Step rules p w { w with cells := Function.update w.cells cell (some value) }
  | refreshed (t : ℤ) (h_lock : w.lock = some p) (h_time : t ≤ rules.time w.now)
      (h_due : ∀ last ∈ w.refreshedAt, last ≤ t ∧ rules.interval ≤ t - last)
      (h_cells : ∀ cell, w.Showing rules t cell) :
      Step rules p w { w with refreshedAt := some t }

/-- Every cell shows moments since the last refresh. -/
structure Fresh (rules : CacheRules Cell Value Moment) (w : Cache Pid Cell Value Moment) :
    Prop where
  current : w.now ∈ w.past
  ordered : ∀ m ∈ w.past, rules.time m ≤ rules.time w.now
  refreshed : ∀ last ∈ w.refreshedAt, last ≤ rules.time w.now ∧ ∀ cell, w.Showing rules last cell

/-- What never goes back: the past, the time and the last refresh. -/
structure Grows (rules : CacheRules Cell Value Moment) (w w' : Cache Pid Cell Value Moment) :
    Prop where
  past : w.past ⊆ w'.past
  time : rules.time w.now ≤ rules.time w'.now
  refreshed : ∀ last ∈ w.refreshedAt, ∃ last' ∈ w'.refreshedAt, last ≤ last'

/-- What `p` can rely on: the lock of `p` is its own, and so is the cache as long as `p` has it. -/
structure Relies (rules : CacheRules Cell Value Moment) (p : Pid)
    (w w' : Cache Pid Cell Value Moment) : Prop extends Grows rules w w' where
  held : w.lock = some p → w'.lock = some p ∧ w'.refreshedAt = w.refreshedAt ∧ w'.cells = w.cells
  free : w.lock ≠ some p → w'.lock ≠ some p

section Steps

variable {p q : Pid} {w w' w'' : Cache Pid Cell Value Moment} {t : ℤ} {cell : Cell}

omit [DecidableEq Pid] [DecidableEq Cell]

theorem Grows.of_eq (h_past : w'.past = w.past) (h_now : w'.now = w.now)
    (h_refreshed : w'.refreshedAt = w.refreshedAt) : w.Grows rules w' where
  past := h_past ▸ List.Subset.refl _
  time := h_now ▸ le_rfl
  refreshed last h := ⟨last, h_refreshed ▸ h, le_rfl⟩

theorem Grows.trans (h : w.Grows rules w') (h' : w'.Grows rules w'') : w.Grows rules w'' where
  past := List.Subset.trans h.past h'.past
  time := h.time.trans h'.time
  refreshed last h_last := by
    obtain ⟨last', h_last', h_le⟩ := h.refreshed last h_last
    obtain ⟨last'', h_last'', h_le'⟩ := h'.refreshed last' h_last'
    exact ⟨last'', h_last'', h_le.trans h_le'⟩

theorem Relies.refl (p : Pid) (w : Cache Pid Cell Value Moment) : w.Relies rules p w where
  toGrows := .of_eq rfl rfl rfl
  held h := ⟨h, rfl, rfl⟩
  free h := h

theorem Relies.trans (h : w.Relies rules p w') (h' : w'.Relies rules p w'') :
    w.Relies rules p w'' where
  toGrows := h.toGrows.trans h'.toGrows
  held h_lock := by
    obtain ⟨h_lock', h_refreshed, h_cells⟩ := h.held h_lock
    obtain ⟨h_lock'', h_refreshed', h_cells'⟩ := h'.held h_lock'
    exact ⟨h_lock'', h_refreshed'.trans h_refreshed, h_cells'.trans h_cells⟩
  free h_lock := h'.free (h.free h_lock)

/-- A cell that is not written keeps showing what it shows. -/
theorem Showing.of_eq {cell : Cell} (h : w.Showing rules t cell)
    (h_cell : w'.cells cell = w.cells cell) (h_past : w.past ⊆ w'.past) :
    w'.Showing rules t cell := by
  obtain ⟨value, h_value, h_shows⟩ := h
  refine ⟨value, h_cell.trans h_value, rules.mono ?_ h_shows⟩
  intro m hm
  exact ⟨h_past hm.1, hm.2⟩

/-- What shows later moments shows the moments since an earlier time. -/
theorem Showing.mono {t' : ℤ} (h : w.Showing rules t cell) (h_le : t' ≤ t) :
    w.Showing rules t' cell := by
  obtain ⟨value, h_value, h_shows⟩ := h
  refine ⟨value, h_value, rules.mono ?_ h_shows⟩
  intro m hm
  exact ⟨hm.1, h_le.trans hm.2⟩

theorem fresh_start (now : Moment) (cells : Cell → Option Value) :
    (start now cells : Cache Pid Cell Value Moment).Fresh rules where
  current := List.mem_singleton_self now
  ordered m hm := by
    obtain rfl := List.mem_singleton.mp hm
    exact le_rfl
  refreshed _ h := nomatch h

theorem Fresh.advance (h : w.Fresh rules) {m : Moment} (h_time : rules.time w.now ≤ rules.time m) :
    (w.advance m).Fresh rules where
  current := List.mem_append_right _ (List.mem_singleton_self m)
  ordered m' hm' := by
    rcases List.mem_append.mp hm' with hm' | hm'
    · exact (h.ordered m' hm').trans h_time
    · obtain rfl := List.mem_singleton.mp hm'
      exact le_rfl
  refreshed last h_last := by
    obtain ⟨h_le, h_cells⟩ := h.refreshed last h_last
    refine ⟨h_le.trans h_time, fun cell => ?_⟩
    exact (h_cells cell).of_eq rfl (List.subset_append_left ..)

theorem relies_advance {m : Moment} (h_time : rules.time w.now ≤ rules.time m) :
    w.Relies rules p (w.advance m) where
  toGrows := ⟨List.subset_append_left .., h_time, fun last h => ⟨last, h, le_rfl⟩⟩
  held h := ⟨h, rfl, rfl⟩
  free h := h

/-- The lock is no part of what the cells show. -/
theorem Fresh.relock (h : w.Fresh rules) (lock : Option Pid) :
    ({ w with lock := lock } : Cache Pid Cell Value Moment).Fresh rules where
  current := h.current
  ordered := h.ordered
  refreshed := h.refreshed

/-- The lock changes hands, which is no matter to a thread that neither had it nor gets it. -/
theorem relies_relock {lock : Option Pid} (h_before : w.lock ≠ some p) (h_after : lock ≠ some p) :
    w.Relies rules p { w with lock := lock } where
  toGrows := .of_eq rfl rfl rfl
  held h := absurd h h_before
  free _ := h_after

end Steps

section Contract

variable {p q : Pid} {w w' w'' : Cache Pid Cell Value Moment} {t : ℤ} {cell : Cell}

omit [DecidableEq Pid] in
theorem Step.fresh (h : w.Step rules p w') (h_fresh : w.Fresh rules) : w'.Fresh rules := by
  cases h with
  | look => exact h_fresh
  | acquire _ => exact h_fresh.relock _
  | release _ => exact h_fresh.relock _
  | write cell value _ h_shows =>
    refine ⟨h_fresh.current, h_fresh.ordered, fun last h_last => ?_⟩
    obtain ⟨h_le, h_cells⟩ := h_fresh.refreshed last h_last
    refine ⟨h_le, fun cell' => ?_⟩
    by_cases h_eq : cell' = cell
    · -- the new value shows moments since the last refresh
      subst h_eq
      obtain ⟨t, h_since, h_shows⟩ := h_shows
      refine ⟨value, Function.update_self .., rules.mono ?_ h_shows⟩
      intro m hm
      exact ⟨hm.1, (h_since last h_last).trans hm.2⟩
    · exact (h_cells cell').of_eq (Function.update_of_ne h_eq ..) (List.Subset.refl _)
  | refreshed t _ h_time _ h_cells =>
    refine ⟨h_fresh.current, h_fresh.ordered, fun last h_last => ?_⟩
    obtain rfl := Option.some.inj h_last
    exact ⟨h_time, h_cells⟩

omit [DecidableEq Pid] in
theorem Step.relies (h : w.Step rules q w') (h_ne : p ≠ q) : w.Relies rules p w' := by
  have h_other : ∀ {lock : Option Pid}, lock = some q → lock ≠ some p := by
    intro lock h_lock h_eq
    exact h_ne (Option.some.inj (h_eq.symm.trans h_lock))
  cases h with
  | look => exact .refl p w
  | acquire h_free => exact relies_relock (by simp [h_free]) (h_other rfl)
  | release h_lock => exact relies_relock (h_other h_lock) (by simp)
  | write cell value h_lock _ =>
    exact ⟨.of_eq rfl rfl rfl, fun h => absurd h (h_other h_lock), fun h => h⟩
  | refreshed t h_lock _ h_due _ =>
    refine ⟨⟨List.Subset.refl _, le_rfl, fun last h => ⟨t, rfl, (h_due last h).1⟩⟩, ?_, fun h => h⟩
    exact fun h => absurd h (h_other h_lock)

omit [DecidableEq Pid] in
theorem Step.past (h : w.Step rules p w') : w'.past = w.past := by
  cases h with
  | look | acquire _ | release _ | write _ _ _ _ | refreshed _ _ _ _ _ => rfl

theorem letGo_cases (p : Pid) (w : Cache Pid Cell Value Moment) :
    w.Step rules p (w.letGo p) := by
  unfold letGo
  split
  next h_lock => exact .release h_lock
  next => exact .look

end Contract

/-- The contract of the threads. -/
def contract (rules : CacheRules Cell Value Moment) :
    Contract Pid (Cache Pid Cell Value Moment) where
  Inv w := w.Fresh rules
  R p w w' := w.Relies rules p w'
  G p w w' := w.Step rules p w'
  K _ _ := True

theorem discipline (rules : CacheRules Cell Value Moment) :
    (contract rules : Contract Pid (Cache Pid Cell Value Moment)).Discipline (machine rules) where
  rely_refl := .refl
  rely_trans h h' := h.trans h'
  step_inv h_fresh h := h.fresh h_fresh
  step_rely h_ne _ h := h.relies h_ne
  env_inv h_fresh h := by
    obtain ⟨h_time, h_eq⟩ := Option.ite_none_right_eq_some.mp h
    exact Option.some.inj h_eq ▸ h_fresh.advance h_time
  env_rely _ h := by
    obtain ⟨h_time, h_eq⟩ := Option.ite_none_right_eq_some.mp h
    exact Option.some.inj h_eq ▸ relies_advance h_time
  abort_inv h_fresh := (letGo_cases _ _).fresh h_fresh
  abort_rely h_ne _ := (letGo_cases _ _).relies h_ne
  running_stable _ _ := trivial
  running_abort _ := trivial

/-! ### Threads -/

/-- A program of a thread that may raise. -/
abbrev Thread (Pid Choice Cell Value Moment ε α : Type) :=
  ExceptT ε (Prog Pid Choice (Cache Pid Cell Value Moment)) α

/-- Reads of the cache or of the state. -/
def look (f : Cache Pid Cell Value Moment → β) : Thread Pid Choice Cell Value Moment ε β :=
  ExceptT.mk (Prog.act (fun _ _ w => some (Except.ok (f w), w)) .ret)

/-- A look at the state that may fail. -/
def lookup (f : Choice → Moment → Option (Except ε β)) :
    Thread Pid Choice Cell Value Moment ε β :=
  ExceptT.mk (Prog.act (fun _ i w => (f i w.now).map fun r => (r, w)) .ret)

/-- An assignment, of a cell or of the time of the last refresh. -/
def assign (f : Cache Pid Cell Value Moment → Cache Pid Cell Value Moment) :
    Thread Pid Choice Cell Value Moment ε Unit :=
  ExceptT.mk (Prog.act (fun _ _ w => some (Except.ok (), f w)) .ret)

/-- `w` with the cell set to a value. -/
def set (cell : Cell) (value : Value) (w : Cache Pid Cell Value Moment) :
    Cache Pid Cell Value Moment :=
  { w with cells := Function.update w.cells cell (some value) }

/-- `with lock: body`, which waits for the lock and lets go of it however the body ends. -/
def withLock (body : Thread Pid Choice Cell Value Moment ε α) :
    Thread Pid Choice Cell Value Moment ε α :=
  ExceptT.mk do
    Prog.perform fun p _ w => if w.lock = none then some ((), { w with lock := some p }) else none
    let outcome ← body.run
    Prog.perform fun p _ w => some ((), w.letGo p)
    return outcome

/-- `for item in items: f(item)`. -/
def forEach {ι : Type} (f : ι → Thread Pid Choice Cell Value Moment ε Unit) :
    List ι → Thread Pid Choice Cell Value Moment ε Unit
  | [] => return ()
  | item :: items => do
    f item
    forEach f items

section Rules

variable {p : Pid} {w : Cache Pid Cell Value Moment} {t : ℤ}
  {Q : Except ε α → Cache Pid Cell Value Moment → Prop}
  {g : β → Thread Pid Choice Cell Value Moment ε α}

omit [DecidableEq Pid] in
theorem look_safe {f : Cache Pid Cell Value Moment → β}
    (h : ∀ w', w.Relies rules p w' → w'.Fresh rules →
      (contract rules).Safe p Q (g (f w')) w') :
    (contract rules).Safe p Q (look f >>= g : Thread Pid Choice Cell Value Moment ε α) w := by
  refine Contract.Safe.attempt fun w' hR h_fresh => ⟨trivial, fun i r w'' hf => ?_⟩
  obtain ⟨rfl, rfl⟩ := Prod.mk.inj (Option.some.inj hf)
  exact ⟨.look, h w' hR h_fresh⟩

omit [DecidableEq Pid] in
theorem lookup_safe {f : Choice → Moment → Option (Except ε β)}
    (h : ∀ w', w.Relies rules p w' → w'.Fresh rules → ∀ i b, f i w'.now = some (.ok b) →
      (contract rules).Safe p Q (g b) w')
    (h_raise : ∀ w' e i m, w.Relies rules p w' → f i m = some (.error e) → Q (.error e) w') :
    (contract rules).Safe p Q (lookup f >>= g : Thread Pid Choice Cell Value Moment ε α) w := by
  refine Contract.Safe.attempt fun w' hR h_fresh => ⟨trivial, fun i r w'' hf => ?_⟩
  obtain ⟨r', h_some, h_eq⟩ := Option.map_eq_some_iff.mp hf
  obtain ⟨rfl, rfl⟩ := Prod.mk.inj h_eq
  refine ⟨.look, ?_⟩
  cases r' with
  | ok b => exact h w' hR h_fresh i b h_some
  | error e => exact fun w'' hR' _ => h_raise w'' e i w'.now (hR.trans hR') h_some

omit [DecidableEq Pid] in
theorem assign_safe {f : Cache Pid Cell Value Moment → Cache Pid Cell Value Moment}
    {Q : Except ε Unit → Cache Pid Cell Value Moment → Prop}
    (h : ∀ w', w.Relies rules p w' → w'.Fresh rules → w'.Step rules p (f w') ∧
      ∀ w'', (f w').Relies rules p w'' → Q (.ok ()) w'') :
    (contract rules).Safe p Q (assign f : Thread Pid Choice Cell Value Moment ε Unit).run w := by
  intro w' hR h_fresh
  refine ⟨trivial, fun i r w'' hf => ?_⟩
  obtain ⟨rfl, rfl⟩ := Prod.mk.inj (Option.some.inj hf)
  obtain ⟨h_step, h_after⟩ := h w' hR h_fresh
  exact ⟨h_step, fun w₃ hR₃ _ => h_after w₃ hR₃⟩

omit [DecidableEq Cell] in
theorem letGo_lock : (w.letGo p).lock ≠ some p := by
  unfold letGo
  split
  · simp
  next h_lock => exact h_lock

omit [DecidableEq Cell] in
/-- Letting go of the lock is no matter to what never goes back. -/
theorem grows_letGo : w.Grows rules (w.letGo p) := by
  unfold letGo
  split
  · exact .of_eq rfl rfl rfl
  · exact .of_eq rfl rfl rfl

/-- **The lock**: its body has the cache to itself, and what it establishes holds when the lock is
free again. -/
theorem withLock_safe {P : Except ε α → Cache Pid Cell Value Moment → Prop}
    {body : Thread Pid Choice Cell Value Moment ε α}
    (hP : ∀ r w w', w.Grows rules w' → P r w → P r w')
    (h : ∀ w', w.Grows rules w' → w'.Fresh rules → w'.lock = some p →
      (contract rules).Safe p (fun r w₁ => w₁.lock = some p ∧ P r w₁) body.run w') :
    (contract rules).Safe p (fun r w₁ => w₁.lock ≠ some p ∧ P r w₁) (withLock body).run w := by
  -- taking the lock, for which it has to be free
  refine Contract.Safe.perform (discipline rules) fun w₁ hR₁ _ => ⟨trivial, fun i r w₂ hf => ?_⟩
  obtain ⟨h_free, h_some⟩ := Option.ite_none_right_eq_some.mp hf
  obtain ⟨-, rfl⟩ := Prod.mk.inj (Option.some.inj h_some)
  refine ⟨.acquire h_free, fun h_fresh₂ => Contract.Safe.bind (discipline rules) h_fresh₂ ?_⟩
  -- the block, with the lock held
  have h_grows : w.Grows rules { w₁ with lock := some p } := hR₁.toGrows.trans (.of_eq rfl rfl rfl)
  refine (h _ h_grows h_fresh₂ rfl).mono fun outcome w₃ _ h₃ => ?_
  -- letting go of it, however the block has ended
  refine Contract.Safe.perform (discipline rules) fun w₄ hR₄ _ => ⟨trivial, fun i u w₅ hf => ?_⟩
  obtain ⟨-, rfl⟩ := Prod.mk.inj (Option.some.inj hf)
  refine ⟨letGo_cases p w₄, fun _ w₆ hR₆ _ => ⟨hR₆.free letGo_lock, ?_⟩⟩
  exact hP outcome w₃ w₆ ((hR₄.toGrows.trans grows_letGo).trans hR₆.toGrows) h₃.2

end Rules

/-! ### Refreshes -/

/-- A refresh of `p` at work, that has started at the time `t` and is done with some cells. -/
structure Refreshing (rules : CacheRules Cell Value Moment) (p : Pid) (t : ℤ) (done : Cell → Prop)
    (w : Cache Pid Cell Value Moment) : Prop where
  lock : w.lock = some p
  time : t ≤ rules.time w.now
  due : ∀ last ∈ w.refreshedAt, last ≤ t ∧ rules.interval ≤ t - last
  shown : ∀ cell, done cell → w.Showing rules t cell

/-- A part of a refresh is done with some cells or raises, and the lock is still taken. -/
def Advances (rules : CacheRules Cell Value Moment) (p : Pid) (t : ℤ) (done : Cell → Prop)
    (E : ε → Prop) : Except ε α → Cache Pid Cell Value Moment → Prop
  | .ok _, w => w.Refreshing rules p t done
  | .error e, w => w.lock = some p ∧ E e

section Refreshes

variable {p : Pid} {t : ℤ} {done : Cell → Prop} {w w' : Cache Pid Cell Value Moment}
  {E : ε → Prop}

omit [DecidableEq Pid] [DecidableEq Cell] in
theorem Refreshing.stable (h : w.Refreshing rules p t done) (hR : w.Relies rules p w') :
    w'.Refreshing rules p t done := by
  obtain ⟨h_lock, h_refreshed, h_cells⟩ := hR.held h.lock
  refine ⟨h_lock, h.time.trans hR.time, fun last h_last => ?_, fun cell h_done => ?_⟩
  · rw [h_refreshed] at h_last
    exact h.due last h_last
  · exact (h.shown cell h_done).of_eq (congrFun h_cells cell) hR.past

omit [DecidableEq Pid] [DecidableEq Cell] in
/-- The state as it is during a refresh. -/
theorem Refreshing.since (h : w.Refreshing rules p t done) (h_fresh : w.Fresh rules) :
    w.Since rules t w.now :=
  ⟨h_fresh.current, h.time⟩

omit [DecidableEq Pid] in
/-- A refresh sets a cell to what it has found out since it has started. -/
theorem Refreshing.set (h : w.Refreshing rules p t done) {cell : Cell} {value : Value}
    (h_shows : rules.Shows (w.Since rules t) cell value) :
    w.Step rules p (w.set cell value) ∧
      (w.set cell value).Refreshing rules p t fun cell' => cell' = cell ∨ done cell' := by
  refine ⟨.write cell value h.lock ⟨t, fun last h_last => (h.due last h_last).1, h_shows⟩,
    h.lock, h.time, h.due, ?_⟩
  intro cell' h_cell
  by_cases h_eq : cell' = cell
  · subst h_eq
    exact ⟨value, Function.update_self .., h_shows⟩
  · exact (h.shown cell' (h_cell.resolve_left h_eq)).of_eq (Function.update_of_ne h_eq ..)
      (List.Subset.refl _)

omit [DecidableEq Pid] in
/-- A refresh that is done with all cells. -/
theorem Refreshing.finish (h : w.Refreshing rules p t done) (h_all : ∀ cell, done cell) :
    w.Step rules p { w with refreshedAt := some t } :=
  .refreshed t h.lock h.time h.due fun cell => h.shown cell (h_all cell)

omit [DecidableEq Pid] [DecidableEq Cell] in
theorem Refreshing.imp {done' : Cell → Prop} (h : w.Refreshing rules p t done)
    (h_imp : ∀ cell, done' cell → done cell) : w.Refreshing rules p t done' where
  lock := h.lock
  time := h.time
  due := h.due
  shown cell h_done := h.shown cell (h_imp cell h_done)

omit [DecidableEq Pid] in
/-- A part of a refresh that is no more than an assignment. -/
theorem set_safe {value : Value} {cell : Cell} (h : w.Refreshing rules p t done)
    (h_shows : rules.Shows (w.Since rules t) cell value) :
    (contract rules).Safe p
      (Advances rules p t (fun cell' => cell' = cell ∨ done cell') E)
      (assign (set cell value) : Thread Pid Choice Cell Value Moment ε Unit).run w := by
  refine assign_safe fun w₁ hR₁ _ => ?_
  have h_shows₁ : rules.Shows (w₁.Since rules t) cell value := by
    refine rules.mono ?_ h_shows
    intro m hm
    exact ⟨hR₁.past hm.1, hm.2⟩
  obtain ⟨h_step, h_next⟩ := (h.stable hR₁).set h_shows₁
  exact ⟨h_step, fun w₂ hR₂ => h_next.stable hR₂⟩

/-- One part of a refresh after the other. -/
theorem advance_safe {done' : Cell → Prop} {Q : Except ε β → Cache Pid Cell Value Moment → Prop}
    {m : Thread Pid Choice Cell Value Moment ε α} {g : α → Thread Pid Choice Cell Value Moment ε β}
    (h_fresh : w.Fresh rules)
    (h : (contract rules).Safe p (Advances rules p t done' E) m.run w)
    (h_rest : ∀ a w', w'.Fresh rules → w'.Refreshing rules p t done' →
      (contract rules).Safe p Q (g a).run w')
    (h_raise : ∀ e w', w'.lock = some p → E e → Q (.error e) w') :
    (contract rules).Safe p Q (m >>= g : Thread Pid Choice Cell Value Moment ε β).run w := by
  refine Contract.Safe.bind_raising (discipline rules) h_fresh (h.mono fun r w' h_fresh' h' => ?_)
  cases r with
  | ok a => exact h_rest a w' h_fresh' h'
  | error e => exact fun w'' hR _ => h_raise e w'' (hR.held h'.1).1 h'.2

omit [DecidableEq Pid] in
/-- A moment that has been stays in the past. -/
theorem since_frame {Q : Except ε α → Cache Pid Cell Value Moment → Prop}
    {m : Thread Pid Choice Cell Value Moment ε α} {moment : Moment}
    (h : (contract rules).Safe p Q m.run w) (h_moment : w.Since rules t moment) :
    (contract rules).Safe p (fun r w' => Q r w' ∧ w'.Since rules t moment) m.run w := by
  refine h.frame (F := fun w' => w'.Since rules t moment) (fun w' w'' hR h' => ?_)
    (fun w' w'' h_step h' => ?_) h_moment
  · exact ⟨hR.past h'.1, h'.2⟩
  · exact ⟨h_step.past ▸ h'.1, h'.2⟩

/-- A loop whose turns are parts of a refresh, and know of the same moment. -/
theorem forEach_safe {ι : Type} {f : ι → Thread Pid Choice Cell Value Moment ε Unit}
    (turn : ι → Cell → Prop) {moment : Moment} {items : List ι}
    (h_turn : ∀ item ∈ items, ∀ done w, w.Fresh rules → w.Refreshing rules p t done →
      w.Since rules t moment → (contract rules).Safe p
        (Advances rules p t (fun cell => turn item cell ∨ done cell) E) (f item).run w)
    (h_fresh : w.Fresh rules) (h : w.Refreshing rules p t done)
    (h_moment : w.Since rules t moment) :
    (contract rules).Safe p
      (Advances rules p t (fun cell => (∃ item ∈ items, turn item cell) ∨ done cell) E)
      (forEach f items).run w := by
  induction items generalizing done w with
  | nil =>
    intro w' hR _
    exact (h.stable hR).imp fun cell h_cell => h_cell.resolve_left (by simp)
  | cons item items ih =>
    have h_first := h_turn item List.mem_cons_self done w h_fresh h h_moment
    refine Contract.Safe.bind_raising (discipline rules) h_fresh
      ((since_frame h_first h_moment).mono fun r w' h_fresh' h' => ?_)
    cases r with
    | error e => exact fun w'' hR _ => ⟨(hR.held h'.1.1).1, h'.1.2⟩
    | ok _ =>
      -- the other turns, from what the first one has left
      have h_later := ih (fun item' h_item => h_turn item' (List.mem_cons_of_mem _ h_item))
        h_fresh' h'.1 h'.2
      refine h_later.mono fun r w'' _ hr => ?_
      cases r with
      | error e => exact hr
      | ok _ =>
        refine Refreshing.imp hr fun cell h_cell => ?_
        rcases h_cell with ⟨item', h_item, h_cell⟩ | h_done
        · rcases List.mem_cons.mp h_item with rfl | h_item
          · exact .inr (.inl h_cell)
          · exact .inl ⟨item', h_item, h_cell⟩
        · exact .inr (.inr h_done)

end Refreshes

/-! ### Runs -/

/-- The time that a step notes as that of the last refresh. -/
def refreshNoted (w w' : Cache Pid Cell Value Moment) : List ℤ :=
  if w'.refreshedAt = w.refreshedAt then [] else w'.refreshedAt.toList

section Runs

variable {p : Pid} {w w' : Cache Pid Cell Value Moment}
  {Q : Pid → α → Cache Pid Cell Value Moment → Prop}
  {c c' : Config Pid Choice (Cache Pid Cell Value Moment) α} {ls : List (Label Pid Choice Moment)}

/-- What the refreshes of a run have to do with the cache: the last one is the one it has noted. -/
def Noted (rules : CacheRules Cell Value Moment) (times : List ℤ)
    (w : Cache Pid Cell Value Moment) : Prop :=
  times.getLast? = w.refreshedAt ∧ times.IsChain fun t t' => rules.interval ≤ t' - t

/-- A thread that dies lets go of the lock, which is a step of it, too. -/
theorem move_cases (hM : Move (contract rules) (machine rules) w w') :
    (∃ m, w' = w.advance m) ∨ ∃ p, w.Step rules p w' := by
  cases hM with
  | env m h_env =>
    obtain ⟨-, h_eq⟩ := Option.ite_none_right_eq_some.mp h_env
    exact .inl ⟨m, (Option.some.inj h_eq).symm⟩
  | abort p h_abort => exact .inr ⟨p, h_abort ▸ letGo_cases p w⟩
  | act p h_step => exact .inr ⟨p, h_step⟩

theorem Noted.move {times : List ℤ} (h : Noted rules times w)
    (hM : Move (contract rules) (machine rules) w w') :
    Noted rules (times ++ refreshNoted w w') w' := by
  have h_same : w'.refreshedAt = w.refreshedAt → Noted rules (times ++ refreshNoted w w') w' := by
    intro h_eq
    rw [refreshNoted, if_pos h_eq, List.append_nil]
    exact ⟨h.1.trans h_eq.symm, h.2⟩
  rcases move_cases hM with ⟨m, rfl⟩ | ⟨p, h_step⟩
  · exact h_same rfl
  · cases h_step with
    | look | acquire _ | release _ | write _ _ _ _ => exact h_same rfl
    | refreshed t _ _ h_due _ =>
      -- a refresh noted at the reading of the last one adds nothing to the list
      by_cases h_eq : some t = w.refreshedAt
      · exact h_same h_eq
      · rw [refreshNoted, if_neg h_eq]
        refine ⟨List.getLast?_concat, List.isChain_append.mpr ⟨h.2, .singleton t, ?_⟩⟩
        intro last h_last t' ht'
        obtain rfl := Option.some.inj ht'
        rw [h.1] at h_last
        exact (h_due last h_last).2

/-- **Refreshes are spaced**: of any two refreshes of a run that follow each other, the second one
has started at least `interval` after the first one. -/
theorem refreshes_chain (h : c.Verified (contract rules) Q) (h_start : c.world.refreshedAt = none)
    (h_run : (machine rules).run c ls = some c') :
    ((machine rules).collect refreshNoted c ls).IsChain fun t t' => rules.interval ≤ t' - t := by
  have h_noted : Noted rules [] c.world := ⟨h_start.symm, .nil⟩
  exact (h.collected (discipline rules) (fun _ _ _ _ _ hP hM => hP.move hM) h_noted h_run).2

/-- A thread without the lock gets it by a step of its own. -/
theorem free_step (h : c.Verified (contract rules) Q) {l : Label Pid Choice Moment}
    (h_step : (machine rules).step c l = some c') (h_other : ∀ i, l ≠ .run p i)
    (h_free : c.world.lock ≠ some p) : c'.world.lock ≠ some p := by
  cases l with
  | env m =>
    obtain ⟨w, h_env, rfl⟩ := Machine.step_env h_step
    exact ((discipline rules).env_rely h.inv h_env).free h_free
  | crash q =>
    obtain ⟨β, f, k, -, rfl⟩ := Machine.step_crash h_step
    by_cases h_eq : p = q
    · subst h_eq
      exact letGo_lock
    · exact ((discipline rules).abort_rely h_eq h.inv).free h_free
  | run q i =>
    by_cases h_eq : p = q
    · subst h_eq
      -- only a step of its own takes the lock for a process
      exact absurd rfl (h_other i)
    · exact ((discipline rules).step_rely h_eq h.inv (h.act (discipline rules) h_step)).free h_free

/-- A thread that takes no step in a run is where it was, unless it has died. -/
theorem idle_run (h : c.Verified (contract rules) Q) (h_free : c.world.lock ≠ some p)
    (h_run : (machine rules).run c ls = some c') (h_idle : ∀ i, .run p i ∉ ls) :
    c'.world.lock ≠ some p ∧ (c'.prog p = c.prog p ∨ c'.prog p = none) := by
  induction ls generalizing c with
  | nil =>
    cases h_run
    exact ⟨h_free, .inl rfl⟩
  | cons l ls ih =>
    obtain ⟨c₁, h_step, h_rest⟩ := Machine.run_cons h_run
    -- the first step is of another process, which does not hand the lock to this one
    have h_other : ∀ i, l ≠ .run p i := by
      intro i h_eq
      exact h_idle i (h_eq ▸ List.mem_cons_self)
    obtain ⟨h_free', h_prog⟩ := ih (h.step (discipline rules) h_step)
      (free_step h h_step h_other h_free) h_rest fun i h_mem =>
        h_idle i (List.mem_cons_of_mem _ h_mem)
    refine ⟨h_free', ?_⟩
    -- the program is as before, unless it has crashed
    cases h_before : c.prog p with
    | none =>
      exact .inr (Machine.run_none h_rest (Machine.step_none h_step h_before))
    | some m =>
      rcases Machine.prog_cases h_step h_before with
        ⟨_, _, _, i, _, h_eq, -, -, -⟩ | ⟨-, h_after⟩ | h_none
      · exact absurd h_eq (h_other i)
      · exact h_prog.imp_left fun h_same => h_same.trans h_after
      · exact .inr (Machine.run_none h_rest h_none)

/-- **No thread leaves the lock behind**: a thread that has the lock is running. -/
theorem lock_running (hQ : ∀ p a w, Q p a w → w.lock ≠ some p)
    (h : c.Verified (contract rules) Q) (h_start : c.world.lock = none)
    (h_run : (machine rules).run c ls = some c') {p : Pid} (h_lock : c'.world.lock = some p) :
    ∃ (β : Type) (f : Pid → Choice → Cache Pid Cell Value Moment →
      Option (β × Cache Pid Cell Value Moment)) (k : β → Prog Pid Choice _ α),
      c'.prog p = some (.act f k) := by
  have h_verified := h.run (discipline rules) h_run
  -- a thread that dies lets go of the lock, and never takes it again
  have h_dead : c'.prog p = none → c'.world.lock ≠ some p := by
    refine Machine.run_induction_on (P := fun c => c.prog p = none → c.world.lock ≠ some p)
      (fun ls₀ c₀ l c₁ h₀ h_step ih h_none => ?_) (fun _ => by simp [h_start]) h_run
    have h₁ := h.run (discipline rules) h₀
    cases h_before : c₀.prog p with
    | none =>
      refine free_step h₁ h_step (fun i h_eq => ?_) (ih h_before)
      subst h_eq
      obtain ⟨_, _, _, _, _, h_some, -, -⟩ := Machine.step_run h_step
      exact absurd (h_before.symm.trans h_some) (by simp)
    | some m =>
      cases l with
      | crash q =>
        obtain ⟨_, _, _, -, rfl⟩ := Machine.step_crash h_step
        by_cases h_eq : p = q
        · subst h_eq
          exact letGo_lock
        · replace h_none := (Function.update_of_ne h_eq ..).symm.trans h_none
          exact absurd (h_before.symm.trans h_none) (by simp)
      | env m' =>
        obtain ⟨_, -, rfl⟩ := Machine.step_env h_step
        exact absurd (h_before.symm.trans h_none) (by simp)
      | run q i =>
        obtain ⟨_, _, _, _, _, -, -, rfl⟩ := Machine.step_run h_step
        by_cases h_eq : p = q
        · subst h_eq
          exact absurd (h_none.symm.trans (Function.update_self ..)) (by simp)
        · replace h_none := (Function.update_of_ne h_eq ..).symm.trans h_none
          exact absurd (h_before.symm.trans h_none) (by simp)
  cases h_prog : c'.prog p with
  | none => exact absurd h_lock (h_dead h_prog)
  | some m =>
    cases m with
    | ret a => exact absurd h_lock (hQ p a _ (h_verified.result (discipline rules) h_prog))
    | act f k => exact ⟨_, f, k, rfl⟩

/-- The past is what the state has been in the run. -/
theorem mem_past (h : c.Verified (contract rules) Q)
    (h_run : (machine rules).run c ls = some c') {m : Moment} (hm : m ∈ c'.world.past) :
    m ∈ c.world.past ∨ ∃ ls₀ ls₁ c₀, ls = ls₀ ++ ls₁ ∧ (machine rules).run c ls₀ = some c₀ ∧
      c₀.world.now = m := by
  by_cases h_before : m ∈ c.world.past
  · exact .inl h_before
  · obtain ⟨ls₀, l, ls₁, c₀, c₁, rfl, h₀, h_step, -, h_not, h_mem⟩ :=
      Machine.exists_moment (P := fun c => m ∈ c.world.past) h_before h_run hm
    refine .inr ⟨ls₀ ++ [l], ls₁, c₁, by simp, Machine.run_snoc h₀ h_step, ?_⟩
    have hM := (h.run (discipline rules) h₀).move (discipline rules) h_step
    -- of all moves only the one of the surroundings adds a moment
    rcases move_cases hM with ⟨m', h_world⟩ | ⟨p, h_step'⟩
    · rw [h_world] at h_mem ⊢
      rcases List.mem_append.mp h_mem with h_old | h_new
      · exact absurd h_old h_not
      · exact (List.mem_singleton.mp h_new).symm
    · exact absurd (h_step'.past ▸ h_mem) h_not

end Runs

end Cache

end Interleave
