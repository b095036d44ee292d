import Mathlib.Data.List.Perm.Basic
import Mathlib.Data.List.Pairwise
import NotificationBroker.Framework.Growth

/-!
# Tables under READ COMMITTED

A table as concurrent transactions see it: the committed rows, and the rows
that transactions still open have inserted. A statement of the transaction `p`
sees the committed rows and its own (`Table.visible`).

A unique index is checked against all of them. Inserting a row that conflicts
with a visible one is a duplicate; inserting one that conflicts with a row of
another open transaction has to wait until that transaction ends
(`Table.verdict`). `ON CONFLICT DO NOTHING` skips the duplicate and a plain
`INSERT` fails on it, so both read the same verdict.

`Table.Unique` is what the index enforces: no two rows conflict, whether they
are committed or not. It is kept by every operation (`Unique.insert`,
`Unique.commit`, `Unique.abort`, `Unique.modify`). `Table.Change` lists the
operations of a transaction that never deletes: another transaction keeps its own
rows (`Change.own_of_ne`) and sees the committed ones grow (`Change.grows`), and
every row comes from somewhere (`Change.origin`).
-/

namespace ReadCommitted

/-- The committed rows, and the uncommitted insertions of open transactions. -/
structure Table (Pid Row : Type) where
  committed : List Row
  pending : List (Pid × Row)

/-- What a unique index says about an insertion. -/
inductive Verdict
  | duplicate
  | wait
  | free
deriving DecidableEq

namespace Table

variable {Pid Row : Type}

/-- The table of a fresh database. -/
def empty : Table Pid Row := ⟨[], []⟩

/-- All rows the indexes know of. -/
def rows (t : Table Pid Row) : List Row := t.committed ++ t.pending.map Prod.snd

/-- `p` inserts `r`. -/
def insert (t : Table Pid Row) (p : Pid) (r : Row) : Table Pid Row :=
  { t with pending := t.pending ++ [(p, r)] }

/-- An update of committed rows. -/
def modify (t : Table Pid Row) (f : Row → Row) : Table Pid Row :=
  { t with committed := t.committed.map f }

section Fields

variable {t : Table Pid Row} {p : Pid} {r : Row}

@[simp] theorem committed_empty : (empty : Table Pid Row).committed = [] := rfl

@[simp] theorem committed_insert : (t.insert p r).committed = t.committed := rfl

@[simp] theorem committed_modify (f : Row → Row) :
    (t.modify f).committed = t.committed.map f := rfl

@[simp] theorem pending_modify (f : Row → Row) : (t.modify f).pending = t.pending := rfl

theorem rows_insert_perm : (t.insert p r).rows.Perm (r :: t.rows) := by
  simp only [rows, insert, List.map_append, List.map_cons, List.map_nil, ← List.append_assoc]
  exact List.perm_append_singleton r _

end Fields

variable [DecidableEq Pid]

/-- The rows the open transaction `p` has inserted. -/
def own (t : Table Pid Row) (p : Pid) : List Row :=
  (t.pending.filter fun x => x.1 = p).map Prod.snd

/-- The rows a statement of `p` sees. -/
def visible (t : Table Pid Row) (p : Pid) : List Row := t.committed ++ t.own p

/-- The unique index's answer to the insertion of `r` by `p`. -/
def verdict (conflict : Row → Row → Bool) (t : Table Pid Row) (p : Pid) (r : Row) : Verdict :=
  if (t.visible p).any (conflict r) then .duplicate
  else if t.pending.any (fun x => conflict r x.2) then .wait
  else .free

/-- `p` commits: its rows become visible to everyone. -/
def commit (t : Table Pid Row) (p : Pid) : Table Pid Row where
  committed := t.committed ++ t.own p
  pending := t.pending.filter fun x => x.1 ≠ p

/-- `p` rolls back. -/
def abort (t : Table Pid Row) (p : Pid) : Table Pid Row :=
  { t with pending := t.pending.filter fun x => x.1 ≠ p }

variable {t : Table Pid Row} {p q : Pid} {r : Row}

@[simp] theorem own_empty : (empty : Table Pid Row).own p = [] := rfl

@[simp] theorem committed_commit : (t.commit p).committed = t.committed ++ t.own p := rfl

@[simp] theorem committed_abort : (t.abort p).committed = t.committed := rfl

/-! ### Membership -/

theorem mem_own : r ∈ t.own p ↔ (p, r) ∈ t.pending := by
  simp only [own, List.mem_map, List.mem_filter, decide_eq_true_eq]
  constructor
  · rintro ⟨⟨q, r'⟩, ⟨h_mem, rfl⟩, rfl⟩
    exact h_mem
  · exact fun h => ⟨(p, r), ⟨h, rfl⟩, rfl⟩

theorem mem_visible : r ∈ t.visible p ↔ r ∈ t.committed ∨ r ∈ t.own p :=
  List.mem_append

theorem mem_rows : r ∈ t.rows ↔ r ∈ t.committed ∨ ∃ p, r ∈ t.own p := by
  simp only [rows, List.mem_append, List.mem_map, Prod.exists, exists_eq_right, mem_own]

theorem mem_rows_of_committed (h : r ∈ t.committed) : r ∈ t.rows := mem_rows.mpr (.inl h)

theorem mem_rows_of_own (h : r ∈ t.own p) : r ∈ t.rows := mem_rows.mpr (.inr ⟨p, h⟩)

theorem mem_rows_of_visible (h : r ∈ t.visible p) : r ∈ t.rows :=
  (mem_visible.mp h).elim mem_rows_of_committed mem_rows_of_own

omit [DecidableEq Pid] in
theorem committed_sublist_rows : t.committed.Sublist t.rows := List.sublist_append_left _ _

theorem visible_sublist_rows : (t.visible p).Sublist t.rows :=
  List.Sublist.append_left (List.filter_sublist.map _) _

/-- A row is not both committed and uncommitted. -/
theorem key_ne_of_own {β : Type} {f : Row → β} (h : (t.rows.map f).Nodup) {r' : Row}
    (hr : r ∈ t.committed) (hr' : r' ∈ t.own p) : f r ≠ f r' := by
  rw [rows, List.map_append] at h
  have h_pending : r' ∈ t.pending.map Prod.snd := List.mem_map.mpr ⟨(p, r'), mem_own.mp hr', rfl⟩
  exact (List.nodup_append.mp h).2.2 _ (List.mem_map_of_mem hr) _ (List.mem_map_of_mem h_pending)

/-! ### The rows of each transaction -/

@[simp] theorem own_insert_self : (t.insert p r).own p = t.own p ++ [r] := by
  simp [own, insert]

@[simp] theorem own_insert_of_ne (h : p ≠ q) : (t.insert q r).own p = t.own p := by
  simp [own, insert, Ne.symm h]

theorem own_filter_self (f : Pid × Row → Bool) (hf : ∀ x, f x = decide (x.1 ≠ p)) :
    (⟨t.committed, t.pending.filter f⟩ : Table Pid Row).own p = [] := by
  simp [own, List.filter_filter, hf]

theorem own_filter_of_ne (h : p ≠ q) (f : Pid × Row → Bool)
    (hf : ∀ x, f x = decide (x.1 ≠ q)) :
    (⟨t.committed, t.pending.filter f⟩ : Table Pid Row).own p = t.own p := by
  simp only [own, List.filter_filter]
  congr 1
  refine List.filter_congr fun x _ => ?_
  rw [hf]
  by_cases hx : x.1 = p <;> simp [hx, h]

@[simp] theorem own_commit_self : (t.commit p).own p = [] :=
  own_filter_self (t := ⟨t.committed ++ t.own p, t.pending⟩) _ fun _ => rfl

@[simp] theorem own_commit_of_ne (h : p ≠ q) : (t.commit q).own p = t.own p :=
  own_filter_of_ne (t := ⟨t.committed ++ t.own q, t.pending⟩) h _ fun _ => rfl

@[simp] theorem own_abort_self : (t.abort p).own p = [] := own_filter_self _ fun _ => rfl

@[simp] theorem own_abort_of_ne (h : p ≠ q) : (t.abort q).own p = t.own p :=
  own_filter_of_ne h _ fun _ => rfl

@[simp] theorem own_modify (f : Row → Row) : (t.modify f).own p = t.own p := rfl

/-- A transaction that has inserted nothing sees the committed rows. -/
theorem visible_of_own_nil (h : t.own p = []) : t.visible p = t.committed := by
  rw [visible, h, List.append_nil]

/-- There is nothing to roll back in a transaction that has inserted nothing. -/
theorem abort_of_own_nil (h : t.own p = []) : t.abort p = t := by
  have h_others : ∀ x ∈ t.pending, decide (x.1 ≠ p) = true := by
    intro x hx
    refine decide_eq_true fun h_pid => ?_
    have h_mem : x.2 ∈ t.own p := mem_own.mpr (h_pid ▸ hx)
    exact absurd (h ▸ h_mem) List.not_mem_nil
  exact congrArg (mk t.committed) (List.filter_eq_self.mpr h_others)

/-! ### Unique indexes -/

section Unique

variable (conflict : Row → Row → Bool)

/-- No two rows, committed or not, conflict. -/
def Unique (t : Table Pid Row) : Prop := t.rows.Pairwise fun a b => conflict a b = false

omit [DecidableEq Pid] in
theorem unique_empty : (empty : Table Pid Row).Unique conflict := List.Pairwise.nil

variable {conflict}

/-- A free verdict means that no row conflicts. -/
theorem verdict_free (h : t.verdict conflict p r = .free) {x : Row} (hx : x ∈ t.rows) :
    conflict r x = false := by
  unfold verdict at h
  split at h
  · exact absurd h (by simp)
  next h_vis =>
    split at h
    · exact absurd h (by simp)
    next h_pend =>
      simp only [List.any_eq_true, not_exists, not_and, Bool.not_eq_true] at h_vis h_pend
      rcases mem_rows.mp hx with h_com | ⟨q, h_own⟩
      · exact h_vis x (mem_visible.mpr (.inl h_com))
      · exact h_pend (q, x) (mem_own.mp h_own)

/-- A duplicate verdict exhibits the row that is in the way. -/
theorem verdict_duplicate (h : t.verdict conflict p r = .duplicate) :
    ∃ x ∈ t.visible p, conflict r x = true := by
  unfold verdict at h
  split at h
  next h_vis => exact List.any_eq_true.mp h_vis
  · split at h <;> exact absurd h (by simp)

/-- Committing moves rows between the two parts and keeps them all. -/
theorem rows_commit_perm : (t.commit p).rows.Perm t.rows := by
  simp only [rows, commit, own, List.append_assoc, ← List.map_append]
  refine List.Perm.append_left _ (List.Perm.map _ ?_)
  simpa using List.filter_append_perm (fun x : Pid × Row => x.1 = p) t.pending

theorem rows_abort_sublist : (t.abort p).rows.Sublist t.rows :=
  List.Sublist.append_left (List.filter_sublist.map _) _

theorem Unique.insert (h_symm : ∀ a b, conflict a b = conflict b a) (h : t.Unique conflict)
    (h_free : t.verdict conflict p r = .free) : (t.insert p r).Unique conflict := by
  refine (rows_insert_perm.pairwise_iff fun {a b} hab => by rw [h_symm]; exact hab).mpr ?_
  exact List.pairwise_cons.mpr ⟨fun x hx => verdict_free h_free hx, h⟩

theorem Unique.commit (h_symm : ∀ a b, conflict a b = conflict b a) (h : t.Unique conflict) :
    (t.commit p).Unique conflict :=
  (rows_commit_perm.pairwise_iff fun {a b} hab => by rw [h_symm]; exact hab).mpr h

theorem Unique.abort (h : t.Unique conflict) : (t.abort p).Unique conflict :=
  List.Pairwise.sublist rows_abort_sublist h

omit [DecidableEq Pid] in
/-- An update that leaves the indexed columns alone keeps the index. -/
theorem Unique.modify {f : Row → Row} (hf : ∀ a b, conflict (f a) b = conflict a b)
    (hf' : ∀ a b, conflict a (f b) = conflict a b) (h : t.Unique conflict) :
    (t.modify f).Unique conflict := by
  unfold Unique rows at h ⊢
  rw [List.pairwise_append] at h ⊢
  obtain ⟨h_com, h_pend, h_cross⟩ := h
  refine ⟨?_, h_pend, ?_⟩
  · exact List.pairwise_map.mpr (h_com.imp fun {a b} hab => by rw [hf, hf']; exact hab)
  · intro a ha b hb
    obtain ⟨a', ha', rfl⟩ := List.mem_map.mp ha
    rw [hf]
    exact h_cross a' ha' b hb

omit [DecidableEq Pid] in
/-- Two rows that conflict are the same row. -/
theorem Unique.eq_of_conflict (h_symm : ∀ a b, conflict a b = conflict b a)
    (h : t.Unique conflict) {a b : Row} (ha : a ∈ t.rows) (hb : b ∈ t.rows)
    (hab : conflict a b = true) : a = b := by
  have h_instance : Std.Symm fun a b => conflict a b = false :=
    ⟨fun a b hab => by rw [h_symm]; exact hab⟩
  by_contra h_ne
  have h_false := h.forall ha hb h_ne
  exact absurd hab (by rw [h_false]; simp)

end Unique

/-! ### Inserting many rows -/

/-- The table after `p` has inserted a row for each of `values` (which leave the
identifier open), skipping duplicates. -/
structure Filled {Id : Type} (conflict : Row → Row → Bool) (p : Pid) (values : List (Id → Row))
    (t t' : Table Pid Row) : Prop where
  committed : t'.committed = t.committed
  kept : ∀ r ∈ t.own p, r ∈ t'.own p
  own : ∀ r ∈ t'.own p, r ∈ t.own p ∨ ∃ value ∈ values, ∃ id, r = value id
  covered : ∀ value ∈ values, ∃ r ∈ t'.visible p, ∃ id, conflict (value id) r = true
  untouched : values = [] → t' = t

namespace Filled

variable {Id : Type} {conflict : Row → Row → Bool} {value : Id → Row} {values : List (Id → Row)}
  {t' : Table Pid Row}

theorem nil : Filled conflict p ([] : List (Id → Row)) t t :=
  ⟨rfl, fun _ h => h, fun _ h => .inl h, fun _ h => absurd h List.not_mem_nil, fun _ => rfl⟩

/-- A row that is there already. -/
theorem skip (id : Id) (h_verdict : t.verdict conflict p (value id) = .duplicate)
    (h : Filled conflict p values t t') : Filled conflict p (value :: values) t t' where
  committed := h.committed
  kept := h.kept
  own r hr := (h.own r hr).imp_right fun ⟨v, hv, h_id⟩ => ⟨v, List.mem_cons_of_mem _ hv, h_id⟩
  covered v hv := by
    rcases List.mem_cons.mp hv with rfl | hv
    · obtain ⟨r, hr, h_conflict⟩ := verdict_duplicate h_verdict
      refine ⟨r, mem_visible.mpr ?_, id, h_conflict⟩
      exact (mem_visible.mp hr).imp (fun h_com => h.committed ▸ h_com) (h.kept r)
    · exact h.covered v hv
  untouched h_nil := absurd h_nil (List.cons_ne_nil _ _)

/-- A row that is inserted. -/
theorem add (id : Id) (h_refl : ∀ r, conflict r r = true)
    (h : Filled conflict p values (t.insert p (value id)) t') :
    Filled conflict p (value :: values) t t' where
  committed := h.committed
  kept r hr := h.kept r (by rw [own_insert_self]; exact List.mem_append_left _ hr)
  own r hr := by
    rcases h.own r hr with hr | ⟨v, hv, h_id⟩
    · rw [own_insert_self] at hr
      rcases List.mem_append.mp hr with hr | hr
      · exact .inl hr
      · exact .inr ⟨value, List.mem_cons_self, id, List.mem_singleton.mp hr⟩
    · exact .inr ⟨v, List.mem_cons_of_mem _ hv, h_id⟩
  covered v hv := by
    rcases List.mem_cons.mp hv with rfl | hv
    · refine ⟨v id, mem_visible.mpr (.inr (h.kept _ ?_)), id, h_refl _⟩
      rw [own_insert_self]
      exact List.mem_append_right _ (List.mem_singleton.mpr rfl)
    · exact h.covered v hv
  untouched h_nil := absurd h_nil (List.cons_ne_nil _ _)

end Filled

/-! ### What one action does to a table -/

/-- An action of `p`: it leaves the table alone, updates committed rows by `S`,
inserts a row with `I`, commits or rolls back. -/
inductive Change (S : Row → Row → Prop) (I : Row → Prop) (p : Pid) (t : Table Pid Row) :
    Table Pid Row → Prop
  | keep : Change S I p t t
  | modify (f : Row → Row) (hf : ∀ r ∈ t.committed, S r (f r)) : Change S I p t (t.modify f)
  | insert (r : Row) (hr : I r) : Change S I p t (t.insert p r)
  | commit : Change S I p t (t.commit p)
  | abort : Change S I p t (t.abort p)

namespace Change

variable {S : Row → Row → Prop} {I : Row → Prop} {t' : Table Pid Row}

/-- The uncommitted rows of another transaction are untouched. -/
theorem own_of_ne (h : Change S I q t t') (h_ne : p ≠ q) : t'.own p = t.own p := by
  cases h with
  | keep => rfl
  | modify f _ => exact own_modify f
  | insert r _ => exact own_insert_of_ne h_ne
  | commit => exact own_commit_of_ne h_ne
  | abort => exact own_abort_of_ne h_ne

theorem imp {I' : Row → Prop} (h_imp : ∀ r, I r → I' r) (h : Change S I p t t') :
    Change S I' p t t' := by
  cases h with
  | keep => exact .keep
  | modify f hf => exact .modify f hf
  | insert r hr => exact .insert r (h_imp r hr)
  | commit => exact .commit
  | abort => exact .abort

/-- The committed rows are updated by `S` and appended to. -/
theorem grows (hS : ∀ r, S r r) (h : Change S I p t t') : Grows S t.committed t'.committed := by
  cases h with
  | keep | insert _ _ | abort => exact .refl hS _
  | modify f hf => exact .map hf
  | commit => exact .append hS _ _

/-- Uncommitted rows are never updated: they are there since their insertion. -/
theorem own_origin (h : Change S I p t t') {r : Row} (hr : r ∈ t'.own q) :
    r ∈ t.own q ∨ (q = p ∧ I r) := by
  by_cases h_ne : q = p
  · subst h_ne
    cases h with
    | keep | modify _ _ => exact .inl hr
    | insert r' hr' =>
      rw [own_insert_self] at hr
      rcases List.mem_append.mp hr with hr | hr
      · exact .inl hr
      · exact .inr ⟨rfl, List.mem_singleton.mp hr ▸ hr'⟩
    | commit => rw [own_commit_self] at hr; exact absurd hr List.not_mem_nil
    | abort => rw [own_abort_self] at hr; exact absurd hr List.not_mem_nil
  · exact .inl (h.own_of_ne h_ne ▸ hr)

/-- Every row, committed or not, was there before, up to an update, or is new. -/
theorem origin (hS : ∀ r, S r r) (h : Change S I p t t') {r' : Row} (hr' : r' ∈ t'.rows) :
    (∃ r ∈ t.rows, S r r') ∨ I r' := by
  cases h with
  | keep => exact .inl ⟨r', hr', hS r'⟩
  | modify f hf =>
    -- the update changes committed rows only
    rcases List.mem_append.mp hr' with h_com | h_pend
    · obtain ⟨r, hr, rfl⟩ := List.mem_map.mp h_com
      exact .inl ⟨r, mem_rows_of_committed hr, hf r hr⟩
    · exact .inl ⟨r', List.mem_append_right _ h_pend, hS r'⟩
  | insert r hr =>
    rcases List.mem_cons.mp (rows_insert_perm.mem_iff.mp hr') with rfl | hr'
    · exact .inr hr
    · exact .inl ⟨r', hr', hS r'⟩
  | commit => exact .inl ⟨r', rows_commit_perm.mem_iff.mp hr', hS r'⟩
  | abort => exact .inl ⟨r', rows_abort_sublist.subset hr', hS r'⟩

/-- What updates keep and inserted rows satisfy holds of every row. -/
theorem forall_rows {P : Row → Prop} (h : Change (fun r r' => P r → P r') P p t t')
    (ht : ∀ r ∈ t.rows, P r) : ∀ r ∈ t'.rows, P r := by
  intro r' hr'
  rcases h.origin (fun _ hr => hr) hr' with ⟨r, hr, h_step⟩ | h_new
  · exact h_step (ht r hr)
  · exact h_new

end Change

end Table

end ReadCommitted
