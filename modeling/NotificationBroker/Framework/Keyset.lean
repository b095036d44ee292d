import Mathlib.Data.List.Sort
import Mathlib.Order.Basic

/-!
# Keyset pagination

Rows with a key are listed from the largest key down, a page at a time. A page begins behind
the key at which the one before has ended, and one row more than the page holds is fetched, to
see whether another page follows.

The rows may change between two pages: `Traversal` reads each page from a snapshot of its own.
Its keys descend over all pages (`Traversal.pairwise`), a key that is in every snapshot is met
(`Traversal.mem_of_forall`), and if the snapshots are the same the pages are the consecutive
parts of one list (`Traversal.unchanged`).
-/

namespace Keyset

variable {Row Key : Type} [LinearOrder Key]

/-- The key lies behind the one at which the last page has ended. -/
def Behind (after : Option Key) (k : Key) : Prop := ∀ last ∈ after, k < last

instance (after : Option Key) (k : Key) : Decidable (Behind after k) :=
  match after with
  | none => .isTrue fun _ h => absurd h (by simp)
  | some last => decidable_of_iff (k < last) (by simp [Behind])

/-- The rows of a page, and the key at which the next one begins. -/
structure Page (Row Key : Type) where
  rows : List Row
  next : Option Key

variable (key : Row → Key)

/-- The rows behind a key, from the largest key down. -/
def listing (rows : List Row) (after : Option Key) : List Row :=
  (rows.filter fun r => Behind after (key r)).insertionSort fun a b => key b ≤ key a

/-- The page of at most `limit` rows. -/
def page (limit : ℕ) (rows : List Row) (after : Option Key) : Page Row Key :=
  let found := (listing key rows after).take (limit + 1)
  ⟨found.take limit, if limit < found.length then (found.take limit).getLast?.map key else none⟩

/-- Pages that follow one another, each with the snapshot it is read from. The last one need
not be the end. -/
inductive Traversal (limit : ℕ) : Option Key → List (List Row × Page Row Key) → Prop
  | first (rows : List Row) (after : Option Key) :
      Traversal limit after [(rows, page key limit rows after)]
  | next (rows : List Row) (after : Option Key) {last : Key}
      {visits : List (List Row × Page Row Key)}
      (h_next : (page key limit rows after).next = some last)
      (h_rest : Traversal limit (some last) visits) :
      Traversal limit after ((rows, page key limit rows after) :: visits)

/-- The last page is the end. -/
def Complete (visits : List (List Row × Page Row Key)) : Prop :=
  ∀ visit ∈ visits.getLast?, visit.2.next = none

variable {key} {limit : ℕ} {rows : List Row} {after : Option Key} {last : Key}
  {visits : List (List Row × Page Row Key)}

/-! ### One page -/

theorem mem_listing {r : Row} : r ∈ listing key rows after ↔ r ∈ rows ∧ Behind after (key r) := by
  rw [listing, List.mem_insertionSort, List.mem_filter, decide_eq_true_eq]

/-- A sorted list is determined by its members, if the order tells them apart. -/
theorem insertionSort_eq_of_mem_iff {r : Row → Row → Prop} [DecidableRel r] [Std.Total r]
    [IsTrans Row r] {l₁ l₂ : List Row} (h_nodup₁ : l₁.Nodup) (h_nodup₂ : l₂.Nodup)
    (h_mem : ∀ a, a ∈ l₁ ↔ a ∈ l₂) (h_antisymm : ∀ a ∈ l₁, ∀ b ∈ l₁, r a b → r b a → a = b) :
    l₁.insertionSort r = l₂.insertionSort r := by
  have h_perm : (l₁.insertionSort r).Perm (l₂.insertionSort r) := by
    calc List.Perm (l₁.insertionSort r) l₁ := List.perm_insertionSort r l₁
      List.Perm l₁ l₂ := (List.perm_ext_iff_of_nodup h_nodup₁ h_nodup₂).mpr h_mem
      List.Perm l₂ (l₂.insertionSort r) := (List.perm_insertionSort r l₂).symm
  refine h_perm.eq_of_pairwise (fun a b h_a h_b => ?_) (List.pairwise_insertionSort r l₁)
    (List.pairwise_insertionSort r l₂)
  rw [List.mem_insertionSort] at h_a h_b
  exact h_antisymm a h_a b ((h_mem b).mpr h_b)

/-- Two tables with the same rows are listed in the same way. -/
theorem listing_congr {rows' : List Row} (h : (rows.map key).Nodup) (h' : (rows'.map key).Nodup)
    (h_mem : ∀ r, r ∈ rows ↔ r ∈ rows') : listing key rows after = listing key rows' after := by
  have h_total : Std.Total fun a b : Row => key b ≤ key a := ⟨fun a b => le_total (key b) (key a)⟩
  have h_trans : IsTrans Row fun a b => key b ≤ key a := ⟨fun _ _ _ h h' => h'.trans h⟩
  refine insertionSort_eq_of_mem_iff (h.of_map.filter _) (h'.of_map.filter _) (fun r => ?_) ?_
  · rw [List.mem_filter, List.mem_filter, h_mem r]
  · intro a h_a b h_b h_ab h_ba
    exact List.inj_on_of_nodup_map h (List.mem_filter.mp h_a).1 (List.mem_filter.mp h_b).1
      (le_antisymm h_ba h_ab)

/-- **The keys of a listing descend.** -/
theorem listing_pairwise (h : (rows.map key).Nodup) :
    (listing key rows after).Pairwise fun a b => key b < key a := by
  have h_total : Std.Total fun a b : Row => key b ≤ key a := ⟨fun a b => le_total (key b) (key a)⟩
  have h_trans : IsTrans Row fun a b => key b ≤ key a := ⟨fun _ _ _ h h' => h'.trans h⟩
  have h_sorted : (listing key rows after).Pairwise fun a b => key b ≤ key a :=
    List.pairwise_insertionSort _ _
  have h_perm : (listing key rows after).Perm (rows.filter fun r => Behind after (key r)) :=
    List.perm_insertionSort _ _
  have h_nodup : ((listing key rows after).map key).Nodup :=
    (h_perm.map key).nodup_iff.mpr (h.sublist (List.filter_sublist.map key))
  exact (h_sorted.and (List.pairwise_map.mp h_nodup)).imp
    fun h_ab => lt_of_le_of_ne h_ab.1 (Ne.symm h_ab.2)

theorem rows_page : (page key limit rows after).rows = (listing key rows after).take limit := by
  rw [page, List.take_take, Nat.min_eq_left (Nat.le_succ limit)]

theorem next_page : (page key limit rows after).next =
    if limit < (listing key rows after).length then
      ((listing key rows after).take limit).getLast?.map key
    else none := by
  have h_more : limit < ((listing key rows after).take (limit + 1)).length ↔
      limit < (listing key rows after).length := by
    rw [List.length_take]
    omega
  simp only [page, h_more, List.take_take, Nat.min_eq_left (Nat.le_succ limit)]

/-- There is no next page just if the page holds all rows. -/
theorem next_eq_none_iff (h_limit : 1 ≤ limit) : (page key limit rows after).next = none ↔
    (listing key rows after).length ≤ limit := by
  rw [next_page]
  split
  next h_more =>
    have h_ne : (listing key rows after).take limit ≠ [] := fun h_nil => by
      have h_length := congrArg List.length h_nil
      rw [List.length_take, List.length_nil] at h_length
      omega
    rw [List.getLast?_eq_some_getLast h_ne]
    exact ⟨fun h => absurd h (by simp), fun h => absurd h (by omega)⟩
  next h_all => exact ⟨fun _ => by omega, fun _ => rfl⟩

/-- Where another page follows, it begins behind the last row of this one. -/
theorem exists_last (h : (page key limit rows after).next = some last) :
    ∃ l r, (listing key rows after).take limit = l ++ [r] ∧ key r = last := by
  rw [next_page] at h
  obtain ⟨-, h⟩ := Option.ite_none_right_eq_some.mp h
  obtain ⟨r, h_r, rfl⟩ := Option.map_eq_some_iff.mp h
  obtain ⟨l, h_l⟩ := List.getLast?_eq_some_iff.mp h_r
  exact ⟨l, r, h_l, rfl⟩

/-- **A page ends with its smallest key**, and all that follows is smaller. -/
theorem split_page (h_nodup : (rows.map key).Nodup)
    (h : (page key limit rows after).next = some last) :
    (∀ r ∈ (page key limit rows after).rows, last ≤ key r) ∧
      ∀ r ∈ (listing key rows after).drop limit, key r < last := by
  obtain ⟨l, m, h_take, rfl⟩ := exists_last h
  have h_sorted : (listing key rows after).Pairwise fun a b => key b < key a :=
    listing_pairwise h_nodup
  rw [← List.take_append_drop limit (listing key rows after), h_take, List.pairwise_append,
    List.pairwise_append] at h_sorted
  obtain ⟨⟨-, -, h_init⟩, -, h_rest⟩ := h_sorted
  -- the listing descends: its last row is the least of the page, above the rest
  rw [rows_page, h_take]
  refine ⟨fun r h_r => ?_, fun r h_r => ?_⟩
  · rcases List.mem_append.mp h_r with h_r | h_r
    · exact (h_init r h_r m (List.mem_singleton_self m)).le
    · rw [List.mem_singleton.mp h_r]
  · exact h_rest m (List.mem_append_right l (List.mem_singleton_self m)) r h_r

/-- The key of a page's end lies behind the one of the page before. -/
theorem last_behind (h : (page key limit rows after).next = some last) : Behind after last := by
  obtain ⟨l, r, h_take, rfl⟩ := exists_last h
  have h_r : r ∈ (listing key rows after).take limit := h_take ▸ List.mem_append_right l (by simp)
  exact (mem_listing.mp (List.mem_of_mem_take h_r)).2

/-! ### The pages together -/

/-- A page has rows of its snapshot. -/
theorem Traversal.mem_snapshot (h : Traversal key limit after visits) :
    ∀ visit ∈ visits, ∀ r ∈ visit.2.rows, r ∈ visit.1 := by
  have h_page : ∀ rows after, ∀ r ∈ (page key limit rows after).rows, r ∈ rows := by
    intro rows after r h_r
    rw [rows_page] at h_r
    exact (mem_listing.mp (List.mem_of_mem_take h_r)).1
  -- by the pages of the traversal, each a part of its own snapshot
  induction h with
  | first rows after =>
    intro visit h_visit
    obtain rfl := List.mem_singleton.mp h_visit
    exact h_page rows after
  | next rows after h_next h_rest ih =>
    intro visit h_visit
    rcases List.mem_cons.mp h_visit with rfl | h_visit
    · exact h_page rows after
    · exact ih visit h_visit

/-- **The keys descend over all pages.** -/
theorem Traversal.pairwise (h : Traversal key limit after visits)
    (h_nodup : ∀ visit ∈ visits, (visit.1.map key).Nodup) :
    (visits.flatMap fun visit => visit.2.rows).Pairwise (fun a b => key b < key a) ∧
      ∀ r ∈ visits.flatMap fun visit => visit.2.rows, Behind after (key r) := by
  -- one page is sorted and behind its cursor, whatever table it is of
  have h_page : ∀ rows after, (rows.map key).Nodup →
      (page key limit rows after).rows.Pairwise (fun a b => key b < key a) ∧
        ∀ r ∈ (page key limit rows after).rows, Behind after (key r) := by
    intro rows after h_rows
    rw [rows_page]
    exact ⟨(listing_pairwise h_rows).sublist (List.take_sublist _ _),
      fun r h_r => (mem_listing.mp (List.mem_of_mem_take h_r)).2⟩
  induction h with
  | first rows after =>
    simpa using h_page rows after (h_nodup _ (List.mem_singleton_self _))
  | next rows after h_next h_rest ih =>
    obtain ⟨h_sorted, h_behind⟩ := ih fun visit h_visit =>
      h_nodup visit (List.mem_cons_of_mem _ h_visit)
    obtain ⟨h_first, h_first_behind⟩ := h_page rows after (h_nodup _ List.mem_cons_self)
    have h_split := split_page (h_nodup _ List.mem_cons_self) h_next
    rw [List.flatMap_cons, List.pairwise_append]
    refine ⟨⟨h_first, h_sorted, fun a h_a b h_b => ?_⟩, fun r h_r => ?_⟩
    · -- across two pages: the later rows are behind the last one of this page
      exact (h_behind b h_b _ rfl).trans_le (h_split.1 a h_a)
    · rcases List.mem_append.mp h_r with h_r | h_r
      · exact h_first_behind r h_r
      · exact fun k h_k => (h_behind r h_r _ rfl).trans (last_behind h_next k h_k)

/-- **A key that is in every snapshot is met.** -/
theorem Traversal.mem_of_forall (h : Traversal key limit after visits)
    (h_nodup : ∀ visit ∈ visits, (visit.1.map key).Nodup) (h_limit : 1 ≤ limit)
    (h_complete : Complete visits) {k : Key} (h_behind : Behind after k)
    (h_mem : ∀ visit ∈ visits, k ∈ visit.1.map key) :
    k ∈ (visits.flatMap fun visit => visit.2.rows).map key := by
  induction h with
  | first rows after =>
    obtain ⟨r, h_r, rfl⟩ := List.mem_map.mp (h_mem _ (List.mem_singleton_self _))
    -- this page is the last one, so it has everything behind the cursor
    have h_all := (next_eq_none_iff h_limit).mp (h_complete _ rfl)
    refine List.mem_map_of_mem ?_
    rw [List.flatMap_singleton, rows_page, List.take_of_length_le h_all]
    exact mem_listing.mpr ⟨h_r, h_behind⟩
  | next rows after h_next h_rest ih =>
    rename_i last visits
    obtain ⟨r, h_r, rfl⟩ := List.mem_map.mp (h_mem _ List.mem_cons_self)
    have h_listed : r ∈ listing key rows after := mem_listing.mpr ⟨h_r, h_behind⟩
    rw [← List.take_append_drop limit (listing key rows after), ← rows_page] at h_listed
    -- the row is on this page or behind it
    rw [List.flatMap_cons, List.map_append]
    rcases List.mem_append.mp h_listed with h_here | h_later
    · exact List.mem_append_left _ (List.mem_map_of_mem h_here)
    · -- the row is behind this page, so one of the next ones has it
      have h_lt := (split_page (h_nodup _ List.mem_cons_self) h_next).2 r h_later
      refine List.mem_append_right _ (ih
        (fun visit h_visit => h_nodup visit (List.mem_cons_of_mem _ h_visit)) ?_ ?_
        fun visit h_visit => h_mem visit (List.mem_cons_of_mem _ h_visit))
      · have h_ne : visits ≠ [] := by
          rintro rfl
          cases h_rest
        intro visit h_visit
        exact h_complete visit (by rwa [List.getLast?_cons_of_ne_nil h_ne])
      · intro k h_k
        obtain rfl := Option.some.inj h_k
        exact h_lt

/-- In the same rows, the next page lists what this one has left. -/
theorem listing_next (h_nodup : (rows.map key).Nodup)
    (h : (page key limit rows after).next = some last) :
    listing key rows (some last) = (listing key rows after).drop limit := by
  have h_drop : ((listing key rows after).drop limit).Pairwise fun a b => key b < key a :=
    (listing_pairwise h_nodup).sublist (List.drop_sublist limit _)
  have h_split := split_page h_nodup h
  rw [rows_page] at h_split
  -- two sorted lists with the same elements are equal, so the elements are compared
  have h_ne : ∀ {l : List Row}, l.Pairwise (fun a b => key b < key a) → l.Nodup :=
    fun h_l => h_l.imp fun h_lt h_eq => absurd (h_eq ▸ h_lt) (lt_irrefl _)
  have h_listing : (listing key rows (some last)).Pairwise fun a b => key b < key a :=
    listing_pairwise h_nodup
  have h_perm : (listing key rows (some last)).Perm ((listing key rows after).drop limit) := by
    refine (List.perm_ext_iff_of_nodup (h_ne h_listing) (h_ne h_drop)).mpr fun r => ?_
    rw [mem_listing]
    constructor
    · rintro ⟨h_r, h_lt⟩
      have h_all : r ∈ listing key rows after :=
        mem_listing.mpr ⟨h_r, fun k h_k => (h_lt last rfl).trans (last_behind h k h_k)⟩
      rw [← List.take_append_drop limit (listing key rows after)] at h_all
      rcases List.mem_append.mp h_all with h_take | h_r
      · exact absurd (h_split.1 r h_take) (not_le.mpr (h_lt last rfl))
      · exact h_r
    · intro h_r
      refine ⟨(mem_listing.mp (List.mem_of_mem_drop h_r)).1, fun k h_k => ?_⟩
      obtain rfl := Option.some.inj h_k
      exact h_split.2 r h_r
  exact h_perm.eq_of_pairwise (fun a b _ _ h_ab h_ba => absurd (h_ab.trans h_ba) (lt_irrefl _))
    h_listing h_drop

/-- **Without changes the pages are the parts of one list**, and the one that reaches its end
is the last. -/
theorem Traversal.unchanged (h : Traversal key limit after visits) (h_nodup : (rows.map key).Nodup)
    (h_limit : 1 ≤ limit) (h_same : ∀ visit ∈ visits, visit.1 = rows) (j : ℕ)
    (h_j : j < visits.length) :
    ((visits.take (j + 1)).flatMap fun visit => visit.2.rows) =
        (listing key rows after).take (limit * (j + 1)) ∧
      ((visits[j]).2.next = none ↔ (listing key rows after).length ≤ limit * (j + 1)) := by
  induction h generalizing j with
  | first table after =>
    obtain rfl : table = rows := h_same _ (List.mem_singleton_self _)
    obtain rfl : j = 0 := by simpa using h_j
    simpa [rows_page] using next_eq_none_iff h_limit
  | next table after h_next h_rest ih =>
    obtain rfl : table = rows := h_same _ List.mem_cons_self
    cases j with
    | zero => simpa [rows_page] using next_eq_none_iff h_limit
    | succ j =>
      have h_rest_same := fun visit h_visit => h_same visit (List.mem_cons_of_mem _ h_visit)
      obtain ⟨h_rows, h_end⟩ := ih h_rest_same j (by simpa using h_j)
      -- the listing behind the next cursor is the rest of the listing
      rw [listing_next h_nodup h_next] at h_rows h_end
      have h_mul : limit * (j + 1 + 1) = limit + limit * (j + 1) := by
        rw [Nat.mul_succ limit (j + 1), Nat.add_comm]
      refine ⟨?_, ?_⟩
      · rw [List.take_succ_cons, List.flatMap_cons, h_rows, rows_page, h_mul, List.take_add]
      · rw [List.getElem_cons_succ, h_end, List.length_drop, h_mul]
        omega

end Keyset
