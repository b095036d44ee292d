import Mathlib.Data.List.Basic
import Mathlib.Data.List.Range
import Mathlib.Algebra.Ring.Nat

/-!
# Counters that transactions increment

A table of counters under `INSERT … ON CONFLICT DO UPDATE SET count = count + 1
RETURNING count`, at the isolation level of `ReadCommitted`. The first transaction that
increments a counter holds it locked (`Counters.Locked`) until it commits or aborts, and
what it has not committed is undone by an abort.

The tickets are the returned values. `Counters.Serial` is the invariant of every run: the
tickets of a counter, first the committed and then the open ones, are numbered 1, 2, 3, …
without gaps, and only one transaction has open ones. So the committed tickets of a counter
are exactly the numbers from 1 to its value (`Serial.counts_handed`), and of `n` of them
`min n limit` are at most `limit` (`countP_le_range'`).
-/

namespace ReadCommitted

/-- An increment of a counter: by whom, and the value it returned. -/
structure Ticket (Pid Key : Type) where
  pid : Pid
  key : Key
  count : ℕ

/-- The committed values, the uncommitted tickets, the newest first, and the committed
tickets in the order of their commits. A counter without a row has the value 0. -/
structure Counters (Pid Key : Type) where
  committed : Key → ℕ
  pending : List (Ticket Pid Key)
  handed : List (Ticket Pid Key)

namespace Counters

variable {Pid Key : Type}

/-- No rows. -/
def empty : Counters Pid Key := ⟨fun _ => 0, [], []⟩

variable [DecidableEq Pid] [DecidableEq Key]

/-- The uncommitted tickets of a counter, the newest first. -/
def openOf (t : Counters Pid Key) (key : Key) : List (Ticket Pid Key) :=
  t.pending.filter (·.key = key)

/-- The committed tickets of a counter. -/
def handedOf (t : Counters Pid Key) (key : Key) : List (Ticket Pid Key) :=
  t.handed.filter (·.key = key)

/-- All tickets of a counter, in the order in which they were returned. -/
def tickets (t : Counters Pid Key) (key : Key) : List (Ticket Pid Key) :=
  t.handedOf key ++ (t.openOf key).reverse

/-- The uncommitted tickets of a transaction. -/
def own (t : Counters Pid Key) (p : Pid) : List (Ticket Pid Key) :=
  t.pending.filter (·.pid = p)

/-- The committed tickets of a transaction. -/
def handedTo (t : Counters Pid Key) (p : Pid) : List (Ticket Pid Key) :=
  t.handed.filter (·.pid = p)

/-- Another transaction holds the row. -/
def Locked (t : Counters Pid Key) (p : Pid) (key : Key) : Prop :=
  ∃ x ∈ t.pending, x.key = key ∧ x.pid ≠ p

instance (t : Counters Pid Key) (p : Pid) (key : Key) : Decidable (t.Locked p key) := by
  unfold Locked; infer_instance

/-- The value in the newest version of the row. -/
def latest (t : Counters Pid Key) (key : Key) : ℕ :=
  match t.pending.find? (·.key = key) with
  | some x => x.count
  | none => t.committed key

/-- `p` increments the counter. -/
def increment (t : Counters Pid Key) (p : Pid) (key : Key) : Counters Pid Key :=
  { t with pending := ⟨p, key, t.latest key + 1⟩ :: t.pending }

/-- `p` commits: its newest versions of the rows become the committed ones. -/
def commit (t : Counters Pid Key) (p : Pid) : Counters Pid Key where
  committed key :=
    match (t.own p).find? (·.key = key) with
    | some x => x.count
    | none => t.committed key
  pending := t.pending.filter (·.pid ≠ p)
  handed := t.handed ++ (t.own p).reverse

/-- `p` rolls back. -/
def abort (t : Counters Pid Key) (p : Pid) : Counters Pid Key :=
  { t with pending := t.pending.filter (·.pid ≠ p) }

variable {t : Counters Pid Key} {p q : Pid} {key : Key}

/-! ### The tickets of each transaction -/

omit [DecidableEq Key] in
theorem mem_own {x : Ticket Pid Key} : x ∈ t.own p ↔ x ∈ t.pending ∧ x.pid = p := by
  simp only [own, List.mem_filter, decide_eq_true_eq]

omit [DecidableEq Key] in
theorem mem_handedTo {x : Ticket Pid Key} : x ∈ t.handedTo p ↔ x ∈ t.handed ∧ x.pid = p := by
  simp only [handedTo, List.mem_filter, decide_eq_true_eq]

@[simp] theorem own_increment_self :
    (t.increment p key).own p = ⟨p, key, t.latest key + 1⟩ :: t.own p := by
  simp [own, increment]

@[simp] theorem own_increment_of_ne (h : p ≠ q) : (t.increment q key).own p = t.own p := by
  simp [own, increment, Ne.symm h]

omit [DecidableEq Key] in
@[simp] theorem own_abort_self : (t.abort p).own p = [] := by
  simp [own, abort]

omit [DecidableEq Key] in
/-- Without open tickets there is nothing to undo. -/
theorem abort_of_own_nil (h : t.own p = []) : t.abort p = t := by
  have h_filter : t.pending.filter (fun x => x.pid ≠ p) = t.pending :=
    List.filter_eq_self.mpr fun x hx => by
      have h_not := List.filter_eq_nil_iff.mp h x hx
      simpa using h_not
  rw [abort, h_filter]

omit [DecidableEq Key] in
@[simp] theorem own_abort_of_ne (h : p ≠ q) : (t.abort q).own p = t.own p := by
  simp only [own, abort, List.filter_filter]
  refine List.filter_congr fun x _ => ?_
  by_cases hx : x.pid = p <;> simp [hx, h]

@[simp] theorem own_commit_self : (t.commit p).own p = [] :=
  own_abort_self (t := t)

@[simp] theorem own_commit_of_ne (h : p ≠ q) : (t.commit q).own p = t.own p :=
  own_abort_of_ne (t := t) h

@[simp] theorem handedTo_increment : (t.increment q key).handedTo p = t.handedTo p := rfl

omit [DecidableEq Key] in
@[simp] theorem handedTo_abort : (t.abort q).handedTo p = t.handedTo p := rfl

@[simp] theorem handedTo_commit_self :
    (t.commit p).handedTo p = t.handedTo p ++ (t.own p).reverse := by
  have h_own : (t.own p).reverse.filter (·.pid = p) = (t.own p).reverse := by
    refine List.filter_eq_self.mpr fun x hx => decide_eq_true ?_
    exact (mem_own.mp (List.mem_reverse.mp hx)).2
  rw [handedTo, commit, List.filter_append, h_own, handedTo]

@[simp] theorem handedTo_commit_of_ne (h : p ≠ q) : (t.commit q).handedTo p = t.handedTo p := by
  have h_own : (t.own q).reverse.filter (·.pid = p) = [] := by
    refine List.filter_eq_nil_iff.mpr fun x hx => ?_
    rw [(mem_own.mp (List.mem_reverse.mp hx)).2]
    simpa using Ne.symm h
  rw [handedTo, commit, List.filter_append, h_own, List.append_nil, handedTo]

/-! ### Serial numbering -/

/-- The tickets of every counter are numbered from 1, and one transaction at most has open
ones. -/
structure Serial (t : Counters Pid Key) : Prop where
  exclusive : ∀ x ∈ t.pending, ∀ y ∈ t.pending, x.key = y.key → x.pid = y.pid
  numbered : ∀ key, (t.tickets key).map Ticket.count = List.range' 1 (t.tickets key).length
  counted : ∀ key, t.committed key = (t.handedOf key).length

omit [DecidableEq Pid] in
theorem serial_empty : (empty : Counters Pid Key).Serial where
  exclusive _ h := absurd h List.not_mem_nil
  numbered _ := rfl
  counted _ := rfl

/-- The open tickets of a counter are all of `p`, or none is. -/
theorem Serial.openOf_cases (h : t.Serial) (p : Pid) (key : Key) :
    (∀ x ∈ t.openOf key, x.pid = p) ∨ ∀ x ∈ t.openOf key, x.pid ≠ p := by
  by_cases h_mem : ∃ x ∈ t.openOf key, x.pid = p
  · obtain ⟨x, hx, rfl⟩ := h_mem
    refine .inl fun y hy => ?_
    obtain ⟨h_open, h_key⟩ := List.mem_filter.mp hx
    obtain ⟨h_open', h_key'⟩ := List.mem_filter.mp hy
    exact h.exclusive y h_open' x h_open
      ((of_decide_eq_true h_key').trans (of_decide_eq_true h_key).symm)
  · exact .inr fun x hx h_eq => h_mem ⟨x, hx, h_eq⟩

omit [DecidableEq Pid] in
theorem latest_eq : t.latest key =
    ((t.openOf key).head?.map Ticket.count).getD (t.committed key) := by
  rw [openOf, List.head?_filter, latest]
  cases t.pending.find? (·.key = key) <;> rfl

omit [DecidableEq Pid] in
/-- The newest ticket of a counter has its number. -/
theorem Serial.latest (h : t.Serial) (key : Key) : t.latest key = (t.tickets key).length := by
  have h_numbered := h.numbered key
  rw [latest_eq]
  cases h_open : t.openOf key with
  | nil => simp [tickets, h_open, h.counted key]
  | cons x rest =>
    -- the newest ticket is the open one, and the last of the numbering
    have h_split : t.tickets key = (t.handedOf key ++ rest.reverse) ++ [x] := by
      simp [tickets, h_open]
    rw [h_split, List.map_append, List.length_append, List.length_singleton, List.range'_concat]
      at h_numbered
    have h_last := (List.append_inj' h_numbered rfl).2
    rw [h_split, List.length_append, List.length_singleton]
    simp only [List.map_cons, List.map_nil, List.cons.injEq, and_true] at h_last
    simp only [List.head?_cons, Option.map_some, Option.getD_some]
    omega

omit [DecidableEq Pid] in
theorem tickets_increment (key' : Key) : (t.increment p key).tickets key' =
    t.tickets key' ++ if key = key' then [⟨p, key, t.latest key + 1⟩] else [] := by
  by_cases h : key = key'
  · simp [tickets, handedOf, openOf, increment, h]
  · simp [tickets, handedOf, openOf, increment, h]

theorem Serial.increment (h : t.Serial) (h_free : ¬ t.Locked p key) :
    (t.increment p key).Serial where
  exclusive x hx y hy h_key := by
    -- the key is not locked, so its pending tickets are those of `p`
    have h_own : ∀ z ∈ t.pending, z.key = key → z.pid = p := by
      intro z hz h_eq
      by_contra h_ne
      exact h_free ⟨z, hz, h_eq, h_ne⟩
    rcases List.mem_cons.mp hx with rfl | hx
    · rcases List.mem_cons.mp hy with rfl | hy
      · rfl
      · exact (h_own y hy h_key.symm).symm
    · rcases List.mem_cons.mp hy with rfl | hy
      · exact h_own x hx h_key
      · exact h.exclusive x hx y hy h_key
  numbered key' := by
    rw [tickets_increment, List.map_append, List.length_append, h.numbered]
    by_cases h_eq : key = key'
    · subst h_eq
      -- the new ticket has the next number
      rw [if_pos rfl, h.latest, List.length_singleton, List.range'_concat, one_mul, Nat.add_comm 1]
      rfl
    · simp [h_eq]
  counted := h.counted

/-- Among the open tickets of one counter, `p` keeps all or none. -/
theorem Serial.openOf_filter (h : t.Serial) (p : Pid) (key : Key) :
    ((t.own p).filter (·.key = key) = t.openOf key ∧
      (t.pending.filter (·.pid ≠ p)).filter (·.key = key) = []) ∨
    ((t.own p).filter (·.key = key) = [] ∧
      (t.pending.filter (·.pid ≠ p)).filter (·.key = key) = t.openOf key) := by
  have h_comm : ∀ f : Ticket Pid Key → Bool,
      (t.pending.filter f).filter (·.key = key) = (t.openOf key).filter f := by
    intro f
    rw [openOf, List.filter_comm]
  rw [own, h_comm, h_comm]
  -- the one open ticket of a key is the process's own or another's
  rcases h.openOf_cases p key with h_all | h_none
  · refine .inl ⟨List.filter_eq_self.mpr fun x hx => ?_, List.filter_eq_nil_iff.mpr fun x hx => ?_⟩
    · exact decide_eq_true (h_all x hx)
    · simp [h_all x hx]
  · refine .inr ⟨List.filter_eq_nil_iff.mpr fun x hx => ?_, List.filter_eq_self.mpr fun x hx => ?_⟩
    · simp [h_none x hx]
    · exact decide_eq_true (h_none x hx)

theorem handedOf_commit : (t.commit p).handedOf key =
    t.handedOf key ++ ((t.own p).filter (·.key = key)).reverse := by
  rw [handedOf, commit, List.filter_append, List.filter_reverse, handedOf]

/-- Committing moves tickets from one part of the table to the other. -/
theorem Serial.tickets_commit (h : t.Serial) (p : Pid) (key : Key) :
    (t.commit p).tickets key = t.tickets key := by
  have h_open : (t.commit p).openOf key =
      (t.pending.filter (·.pid ≠ p)).filter (·.key = key) := rfl
  rw [tickets, handedOf_commit, h_open, tickets]
  rcases h.openOf_filter p key with ⟨h_own, h_rest⟩ | ⟨h_own, h_rest⟩
  · rw [h_own, h_rest, List.reverse_nil, List.append_nil]
  · rw [h_own, h_rest, List.reverse_nil, List.append_nil]

theorem Serial.commit (h : t.Serial) (p : Pid) : (t.commit p).Serial where
  exclusive x hx y hy := h.exclusive x (List.mem_filter.mp hx).1 y (List.mem_filter.mp hy).1
  numbered key := by rw [h.tickets_commit]; exact h.numbered key
  counted key := by
    have h_find : (t.own p).find? (·.key = key) = ((t.own p).filter (·.key = key)).head? :=
      List.head?_filter.symm
    have h_committed : (t.commit p).committed key =
        (((t.own p).filter (·.key = key)).head?.map Ticket.count).getD (t.committed key) := by
      rw [← h_find]
      simp only [Counters.commit]
      cases (t.own p).find? (·.key = key) <;> rfl
    rw [h_committed, handedOf_commit]
    rcases h.openOf_filter p key with ⟨h_own, -⟩ | ⟨h_own, -⟩
    · -- its own newest version is the newest there is
      rw [h_own, ← latest_eq, h.latest, tickets]
    · rw [h_own, h.counted key]
      simp

theorem Serial.abort (h : t.Serial) (p : Pid) : (t.abort p).Serial where
  exclusive x hx y hy := h.exclusive x (List.mem_filter.mp hx).1 y (List.mem_filter.mp hy).1
  numbered key := by
    have h_open : (t.abort p).openOf key =
      (t.pending.filter (·.pid ≠ p)).filter (·.key = key) := rfl
    have h_handed : (t.abort p).handedOf key = t.handedOf key := rfl
    have h_numbered := h.numbered key
    rcases h.openOf_filter p key with ⟨-, h_rest⟩ | ⟨-, h_rest⟩
    · -- what is left are the committed tickets, a first part of the numbering
      rw [tickets, List.map_append, List.length_append, ← List.range'_append_1] at h_numbered
      rw [tickets, h_handed, h_open, h_rest, List.reverse_nil, List.append_nil]
      exact (List.append_inj h_numbered (by simp)).1
    · rw [tickets, h_handed, h_open, h_rest]
      exact h_numbered
  counted := h.counted

omit [DecidableEq Pid] in
/-- **The committed tickets of a counter** are the numbers up to its value. -/
theorem Serial.counts_handed (h : t.Serial) (key : Key) :
    (t.handedOf key).map Ticket.count = List.range' 1 (t.handedOf key).length := by
  have h_numbered := h.numbered key
  rw [tickets, List.map_append, List.length_append, ← List.range'_append_1] at h_numbered
  exact (List.append_inj h_numbered (by simp)).1

/-- Of the first `n` numbers, `min n limit` are at most `limit`. -/
theorem countP_le_range' (n limit : ℕ) :
    (List.range' 1 n).countP (· ≤ limit) = min n limit := by
  induction n with
  | zero => simp
  | succ n ih =>
    rw [List.range'_concat, List.countP_append, ih, List.countP_singleton]
    by_cases h : n + 1 ≤ limit
    · rw [if_pos (by simp; omega)]
      omega
    · rw [if_neg (by simp; omega)]
      omega

end Counters

end ReadCommitted
