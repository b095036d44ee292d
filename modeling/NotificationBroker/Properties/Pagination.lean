import NotificationBroker.Properties.KeysetPages

/-!
# Following the cursors

A user lists notifications page by page, each page with the cursor of the one before, while
other calls deliver notifications and mark them as read.

A traversal shows a traversal of keyset pages (`Traversal.refines`), and a delivery that has
been delivered keeps its key in every run (`place_kept`). So a delivery that is in the list at
every request is met once, and every cursor is answered (`traversal_exact`); without changes
the traversal ends (`exists_traversal`).

The pages are those of `UserRoutes.page`. What `UserRoutes.listNotifications` answers in a run is
such a page of the state that its query has read (`ServerDeployment.Run.listed`).
-/

namespace NotificationBroker

open Interleave Python
open ReadCommitted (Table Grows)

/-! ### Traversals -/

section Traversals

/-- A user follows the cursors from the request at the first state to the one at the last.
Each request reads the database as it is then, and answers with a page; between two requests
the system takes steps. -/
inductive Traversal (hmacSha256 : List UInt8 → List UInt8 → List UInt8)
    (floatOf : List Char → PyFloat) (codec : WebNotificationCursorCodec) (userId : UUID)
    (status : WebNotificationStatus) (limit : ℕ) :
    State → Option String → List (World × WebNotificationPage) → State → Prop
  | first {c : State} {cursor : Option String} {shown : WebNotificationPage}
      (h_page : UserRoutes.page hmacSha256 floatOf codec c.world.deliveries.committed
        c.world.notifications.committed userId status limit cursor = .ok shown) :
      Traversal hmacSha256 floatOf codec userId status limit c cursor [(c.world, shown)] c
  | next {c c' c'' : State} {cursor : Option String} {shown : WebNotificationPage}
      {visits : List (World × WebNotificationPage)} {next : String} {ls : Schedule}
      (h_page : UserRoutes.page hmacSha256 floatOf codec c.world.deliveries.committed
        c.world.notifications.committed userId status limit cursor = .ok shown)
      (h_next : shown.nextCursor = some next) (h_run : surroundings.run c ls = some c')
      (h_rest : Traversal hmacSha256 floatOf codec userId status limit c' (some next) visits c'') :
      Traversal hmacSha256 floatOf codec userId status limit c cursor
        ((c.world, shown) :: visits) c''

/-- The items of all pages. -/
def itemsOf (visits : List (World × WebNotificationPage)) : List WebNotificationRow :=
  visits.flatMap fun visit => visit.2.rows

/-- The cursor of the last page is null. -/
def EndReached (visits : List (World × WebNotificationPage)) : Prop :=
  ∀ visit ∈ visits.getLast?, visit.2.nextCursor = none

variable {hmacSha256 : List UInt8 → List UInt8 → List UInt8} {floatOf : List Char → PyFloat}
  {codec : WebNotificationCursorCodec} {userId : UUID} {status : WebNotificationStatus}
  {limit : ℕ} {d : Deployment} {clock : Instant} {directory : Directory} {ls : Schedule}
  {c c' : State} {cursor : Option String} {visits : List (World × WebNotificationPage)}

/-- A visit and the keyset page it shows. -/
def Refines (userId : UUID) (status : WebNotificationStatus) (visit : World × WebNotificationPage)
    (page : List VisibleWebDelivery × Keyset.Page VisibleWebDelivery (ℤ ×ₗ UUID)) : Prop :=
  page.1 = visit.1.snapshot userId status ∧ Shows visit.2 page.2

/-- **A traversal shows a keyset traversal** of the snapshots. -/
theorem Traversal.refines {after : Option (ℤ ×ₗ UUID)}
    (h : Traversal hmacSha256 floatOf codec userId status limit c cursor visits c')
    (h_cursor : CursorAt hmacSha256 floatOf codec cursor after) :
    ∃ pages, Keyset.Traversal VisibleWebDelivery.key limit after pages ∧
      List.Forall₂ (Refines userId status) visits pages := by
  induction h generalizing after with
  | first h_page =>
    obtain ⟨h_shows, -⟩ := page_refines h_cursor h_page
    exact ⟨_, .first _ _, .cons ⟨rfl, h_shows⟩ .nil⟩
  | next h_page h_next h_run h_rest ih =>
    obtain ⟨h_shows, h_last⟩ := page_refines h_cursor h_page
    obtain ⟨last, h_last, h_cursor'⟩ := h_last _ h_next
    obtain ⟨pages, h_pages, h_all⟩ := ih h_cursor'
    exact ⟨_, .next _ _ h_last h_pages, .cons ⟨rfl, h_shows⟩ h_all⟩

/-- Every request reads a state of the run, and the deliveries it reads are still there at the
end, with their times if they have been delivered. -/
theorem Traversal.reaches (h_run : d.Run clock directory ls c)
    (h : Traversal hmacSha256 floatOf codec userId status limit c cursor visits c') :
    ∃ ls', surroundings.run c ls' = some c' ∧ ∀ visit ∈ visits,
      (Sound visit.1 ∧ FanoutRows visit.1) ∧
        Grows Delivery.Follows visit.1.deliveries.committed c'.world.deliveries.committed := by
  induction h generalizing ls with
  | first h_page =>
    refine ⟨[], rfl, fun visit h_visit => ?_⟩
    obtain rfl := List.mem_singleton.mp h_visit
    exact ⟨⟨h_run.sound, h_run.fanoutRows⟩, .refl Delivery.Follows.refl _⟩
  | next h_page h_next h_steps h_rest ih =>
    obtain ⟨ls', h_end, h_visits⟩ := ih (Machine.run_trans h_run h_steps)
    have h_reach := Machine.run_trans h_steps h_end
    refine ⟨_, h_reach, fun visit h_visit => ?_⟩
    -- the page at hand, or one of a later query
    rcases List.mem_cons.mp h_visit with rfl | h_visit
    · exact ⟨⟨h_run.sound, h_run.fanoutRows⟩, h_run.deliveries_follow h_reach⟩
    · exact h_visits visit h_visit

/-! ### What the pages show -/

section Shown

variable {pages : List (List VisibleWebDelivery × Keyset.Page VisibleWebDelivery (ℤ ×ₗ UUID))}
  {after : Option (ℤ ×ₗ UUID)}

theorem keys_of_refines (h : List.Forall₂ (Refines userId status) visits pages) :
    (itemsOf visits).map WebNotificationRow.key =
      (pages.flatMap fun page => page.2.rows).map VisibleWebDelivery.key := by
  induction h with
  | nil => rfl
  | cons h_visit _ ih =>
    rw [itemsOf, List.flatMap_cons, List.flatMap_cons, List.map_append, List.map_append,
      h_visit.2.rows]
    exact congrArg _ ih

/-- The snapshots of the pages are those of the visits. -/
theorem exists_visit (h : List.Forall₂ (Refines userId status) visits pages) :
    ∀ page ∈ pages, ∃ visit ∈ visits, Refines userId status visit page := by
  induction h with
  | nil => exact fun _ h_page => absurd h_page List.not_mem_nil
  | @cons visit page visits pages h_visit _ ih =>
    intro page' h_page
    rcases List.mem_cons.mp h_page with rfl | h_page
    · exact ⟨visit, List.mem_cons_self, h_visit⟩
    · obtain ⟨visit', h_mem, h_refines⟩ := ih page' h_page
      exact ⟨visit', List.mem_cons_of_mem _ h_mem, h_refines⟩

theorem complete_of_endReached (h : List.Forall₂ (Refines userId status) visits pages)
    (h_end : EndReached visits) : Keyset.Complete pages := by
  intro page h_page
  have h_reverse := List.forall₂_reverse_iff.mpr h
  rw [EndReached, ← List.head?_reverse] at h_end
  rw [← List.head?_reverse] at h_page
  generalize visits.reverse = visits' at h_reverse h_end
  generalize pages.reverse = pages' at h_reverse h_page
  cases h_reverse with
  | nil => exact absurd h_page (by simp)
  | cons h_visit _ =>
    obtain rfl := Option.some.inj h_page
    exact h_visit.2.ends.mp (h_end _ rfl)

theorem exists_page (h : List.Forall₂ (Refines userId status) visits pages) :
    ∀ visit ∈ visits, ∃ page ∈ pages, Refines userId status visit page := by
  induction h with
  | nil => exact fun _ h_visit => absurd h_visit List.not_mem_nil
  | @cons visit page visits pages h_refines _ ih =>
    intro visit' h_visit
    rcases List.mem_cons.mp h_visit with rfl | h_visit
    · exact ⟨page, List.mem_cons_self, h_refines⟩
    · obtain ⟨page', h_mem, h_refines'⟩ := ih visit' h_visit
      exact ⟨page', List.mem_cons_of_mem _ h_mem, h_refines'⟩

/-- An item is a delivery that is in the list of its request, at its time. -/
theorem item_lists (h : List.Forall₂ (Refines userId status) visits pages)
    (h_pages : Keyset.Traversal VisibleWebDelivery.key limit after pages)
    {r : WebNotificationRow} (hr : r ∈ itemsOf visits) :
    ∃ visit ∈ visits, ∃ x ∈ visit.1.deliveries.committed, x.id = r.id ∧
      x.deliveredAt = some r.deliveredAt.val ∧ x.listedFor userId status = true := by
  obtain ⟨visit, h_visit, hr⟩ := List.mem_flatMap.mp hr
  obtain ⟨page, h_page, h_snapshot, h_shows⟩ := exists_page h visit h_visit
  have h_key : r.key ∈ page.2.rows.map VisibleWebDelivery.key :=
    h_shows.rows ▸ List.mem_map_of_mem hr
  have h_mem : r.key ∈ (visit.1.snapshot userId status).map VisibleWebDelivery.key := by
    obtain ⟨row, h_row, h_eq⟩ := List.mem_map.mp h_key
    exact h_snapshot ▸ List.mem_map.mpr ⟨row, h_pages.mem_snapshot page h_page row h_row, h_eq⟩
  exact ⟨visit, h_visit, lists_of_mem_snapshot h_mem⟩

end Shown

/-- A delivery that is in a list is delivered. -/
theorem Delivery.listedFor_delivered {x : Delivery} (h : x.listedFor userId status = true) :
    x.status = .delivered := by
  simp only [Delivery.listedFor, Bool.and_eq_true, decide_eq_true_eq] at h
  exact h.1.2

/-- A delivery keeps its place in the list for good. -/
theorem place_kept {w w' : World}
    (h : Grows Delivery.Follows w.deliveries.committed w'.deliveries.committed) {x : Delivery}
    (hx : x ∈ w.deliveries.committed) (h_status : x.status = .delivered) :
    ∃ x' ∈ w'.deliveries.committed, x'.id = x.id ∧ x'.deliveredAt = x.deliveredAt := by
  obtain ⟨x', hx', h_follows⟩ := h.mem hx
  exact ⟨x', hx', h_follows.id, (h_follows.settled (.inl h_status)).2.2.1⟩

/-- What a traversal from the first page shows. -/
structure ExactListing (userId : UUID) (status : WebNotificationStatus) (first : World)
    (visits : List (World × WebNotificationPage)) : Prop where
  /-- the items descend over all pages -/
  descend : (itemsOf visits).Pairwise fun a b => b.deliveredAt.val < a.deliveredAt.val ∨
    (b.deliveredAt.val = a.deliveredAt.val ∧ b.id < a.id)
  /-- none is returned twice -/
  nodup : ((itemsOf visits).map WebNotificationRow.id).Nodup
  /-- a delivery that is in the list at every request is returned once -/
  once : EndReached visits → ∀ id, (∀ visit ∈ visits, visit.1.Lists userId status id) →
    ((itemsOf visits).map WebNotificationRow.id).count id = 1
  /-- without changes the pages are the list, and the last one has no cursor -/
  unchanged : (∀ visit ∈ visits, visit.1.deliveries.committed = first.deliveries.committed ∧
      visit.1.notifications.committed = first.notifications.committed) →
    (EndReached visits → ∀ id, id ∈ (itemsOf visits).map WebNotificationRow.id ↔
      first.Lists userId status id) ∧
    ∀ (j : ℕ) (h_j : j < visits.length), (visits[j]).2.nextCursor = none ↔
      ∀ id, first.Lists userId status id →
        id ∈ (itemsOf (visits.take (j + 1))).map WebNotificationRow.id

/-- The first page begins at the beginning. -/
theorem cursorAt_none : CursorAt hmacSha256 floatOf codec none none := rfl

section From

variable {pages : List (List VisibleWebDelivery × Keyset.Page VisibleWebDelivery (ℤ ×ₗ UUID))}

theorem descend_of_pages (h_all : List.Forall₂ (Refines userId status) visits pages)
    (h_pages : Keyset.Traversal VisibleWebDelivery.key limit none pages)
    (h_sound : ∀ visit ∈ visits, Sound visit.1) :
    (itemsOf visits).Pairwise fun a b => b.key < a.key := by
  have h_nodup : ∀ page ∈ pages, (page.1.map VisibleWebDelivery.key).Nodup := by
    intro page h_page
    obtain ⟨visit, h_visit, h_snapshot, -⟩ := exists_visit h_all page h_page
    exact h_snapshot ▸ (h_sound visit h_visit).snapshot_nodup
  rw [← List.pairwise_map (f := WebNotificationRow.key) (R := fun a b => b < a),
    keys_of_refines h_all, List.pairwise_map]
  exact (h_pages.pairwise h_nodup).1

/-- Two items with one identifier are at one place: the delivery's place at the end. -/
theorem nodup_of_descend {w : World} (hS : Sound w)
    (h_descend : (itemsOf visits).Pairwise fun a b => b.key < a.key)
    (h_kept : ∀ r ∈ itemsOf visits, ∃ x ∈ w.deliveries.committed, x.id = r.id ∧
      x.deliveredAt = some r.deliveredAt.val) :
    ((itemsOf visits).map WebNotificationRow.id).Nodup := by
  refine List.pairwise_map.mpr (h_descend.imp_of_mem fun {a b} ha hb h_lt h_id => ?_)
  obtain ⟨x, hx, h_x, h_time⟩ := h_kept a ha
  obtain ⟨y, hy, h_y, h_time'⟩ := h_kept b hb
  obtain rfl : x = y := hS.committed_delivery_eq hx hy (h_x.trans (h_id.trans h_y.symm))
  have h_key : b.key = a.key := by
    rw [WebNotificationRow.key, WebNotificationRow.key, h_id,
      Option.some.inj (h_time.symm.trans h_time')]
  exact absurd h_lt (h_key ▸ lt_irrefl _)

theorem exists_mem_of_id {rows : List WebNotificationRow} {id : UUID} :
    id ∈ rows.map WebNotificationRow.id ↔
      ∃ t, toLex (t, id) ∈ rows.map WebNotificationRow.key := by
  constructor
  · intro h
    obtain ⟨r, hr, rfl⟩ := List.mem_map.mp h
    exact ⟨r.deliveredAt.val, List.mem_map_of_mem hr⟩
  · rintro ⟨t, h⟩
    obtain ⟨r, hr, h_key⟩ := List.mem_map.mp h
    exact List.mem_map.mpr ⟨r, hr, congrArg (fun place => (ofLex place).2) h_key⟩

/-- The list of a world by the places in its snapshot. -/
theorem lists_iff {w : World} (hR : FanoutRows w) {id : UUID} : w.Lists userId status id ↔
    ∃ t, toLex (t, id) ∈ (w.snapshot userId status).map VisibleWebDelivery.key := by
  constructor
  · rintro ⟨r, hr, rfl, h_time, h_listed⟩
    obtain ⟨t, h_t⟩ := Option.isSome_iff_exists.mp h_time
    exact ⟨t, hR.mem_snapshot hr h_t h_listed⟩
  · rintro ⟨t, h⟩
    obtain ⟨r, hr, h_id, h_time, h_listed⟩ := lists_of_mem_snapshot h
    exact ⟨r, hr, h_id, by rw [h_time]; rfl, h_listed⟩

/-- A delivery is at one place of a snapshot. -/
theorem place_unique {w : World} (hS : Sound w) {id : UUID} {t t' : Instant}
    (h : toLex (t, id) ∈ (w.snapshot userId status).map VisibleWebDelivery.key)
    (h' : toLex (t', id) ∈ (w.snapshot userId status).map VisibleWebDelivery.key) : t = t' := by
  obtain ⟨r, hr, h_id, h_time, -⟩ := lists_of_mem_snapshot h
  obtain ⟨r', hr', h_id', h_time', -⟩ := lists_of_mem_snapshot h'
  obtain rfl : r = r' := hS.committed_delivery_eq hr hr' (h_id.trans h_id'.symm)
  exact Option.some.inj (h_time.symm.trans h_time')

/-- **A delivery that is in the list at every request is met.** -/
theorem mem_items (h_all : List.Forall₂ (Refines userId status) visits pages)
    (h_pages : Keyset.Traversal VisibleWebDelivery.key limit none pages) (h_limit : 1 ≤ limit)
    (h_end : EndReached visits) {w : World} (hS : Sound w)
    (h_visits : ∀ visit ∈ visits, (Sound visit.1 ∧ FanoutRows visit.1) ∧
      Grows Delivery.Follows visit.1.deliveries.committed w.deliveries.committed)
    {id : UUID} (h_lists : ∀ visit ∈ visits, visit.1.Lists userId status id) :
    id ∈ (itemsOf visits).map WebNotificationRow.id := by
  -- at every request the delivery is at the place it has at the end
  have h_place : ∀ visit ∈ visits, ∃ t, (∃ x ∈ w.deliveries.committed, x.id = id ∧
      x.deliveredAt = some t) ∧
        toLex (t, id) ∈ (visit.1.snapshot userId status).map VisibleWebDelivery.key := by
    intro visit h_visit
    obtain ⟨⟨-, hR⟩, h_grows⟩ := h_visits visit h_visit
    obtain ⟨r, hr, rfl, h_time, h_listed⟩ := h_lists visit h_visit
    obtain ⟨t, h_t⟩ := Option.isSome_iff_exists.mp h_time
    obtain ⟨x, hx, h_id, h_kept⟩ := place_kept h_grows hr (Delivery.listedFor_delivered h_listed)
    exact ⟨t, ⟨x, hx, h_id, h_kept.trans h_t⟩, hR.mem_snapshot hr h_t h_listed⟩
  obtain ⟨first, h_first⟩ : ∃ visit, visit ∈ visits := by
    cases h_pages with
    | first rows =>
      obtain ⟨visit, h_visit, -⟩ := exists_visit h_all _ (List.mem_singleton_self _)
      exact ⟨visit, h_visit⟩
    | next rows =>
      obtain ⟨visit, h_visit, -⟩ := exists_visit h_all _ List.mem_cons_self
      exact ⟨visit, h_visit⟩
  obtain ⟨t, ⟨x, hx, h_id, h_time⟩, -⟩ := h_place first h_first
  have h_mem : ∀ page ∈ pages, toLex (t, id) ∈ page.1.map VisibleWebDelivery.key := by
    intro page h_page
    obtain ⟨visit, h_visit, h_snapshot, -⟩ := exists_visit h_all page h_page
    obtain ⟨t', ⟨y, hy, h_id', h_time'⟩, h_key⟩ := h_place visit h_visit
    obtain rfl : x = y := hS.committed_delivery_eq hx hy (h_id.trans h_id'.symm)
    obtain rfl := Option.some.inj (h_time.symm.trans h_time')
    exact h_snapshot ▸ h_key
  have h_nodup : ∀ page ∈ pages, (page.1.map VisibleWebDelivery.key).Nodup := by
    intro page h_page
    obtain ⟨visit, h_visit, h_snapshot, -⟩ := exists_visit h_all page h_page
    exact h_snapshot ▸ (h_visits visit h_visit).1.1.snapshot_nodup
  have h_met := h_pages.mem_of_forall h_nodup h_limit (complete_of_endReached h_all h_end)
    (fun _ h_k => absurd h_k (by simp)) h_mem
  rw [← keys_of_refines h_all] at h_met
  exact exists_mem_of_id.mpr ⟨t, h_met⟩

/-- **Without changes** the pages are consecutive parts of the list, and the one that reaches
its end has no cursor. -/
theorem items_unchanged (h_all : List.Forall₂ (Refines userId status) visits pages)
    (h_pages : Keyset.Traversal VisibleWebDelivery.key limit none pages) (h_limit : 1 ≤ limit)
    {w : World} (hS : Sound w) (hR : FanoutRows w)
    (h_same : ∀ visit ∈ visits, visit.1.snapshot userId status = w.snapshot userId status)
    (j : ℕ) (h_j : j < visits.length) : (visits[j]).2.nextCursor = none ↔
      ∀ id, w.Lists userId status id →
        id ∈ (itemsOf (visits.take (j + 1))).map WebNotificationRow.id := by
  have h_snapshots : ∀ page ∈ pages, page.1 = w.snapshot userId status := by
    intro page h_page
    obtain ⟨visit, h_visit, h_snapshot, -⟩ := exists_visit h_all page h_page
    rw [h_snapshot, h_same visit h_visit]
  have h_length := h_all.length_eq
  obtain ⟨h_rows, h_next⟩ := h_pages.unchanged hS.snapshot_nodup h_limit h_snapshots j
    (h_length ▸ h_j)
  have h_keys := keys_of_refines (List.forall₂_take (j + 1) h_all)
  have h_listing : ∀ row, row ∈ Keyset.listing VisibleWebDelivery.key (w.snapshot userId status)
      none ↔ row ∈ w.snapshot userId status := fun row => by
    rw [Keyset.mem_listing]
    exact ⟨fun h => h.1, fun h => ⟨h, fun _ h_k => absurd h_k (by simp)⟩⟩
  have h_sorted : (Keyset.listing VisibleWebDelivery.key (w.snapshot userId status) none).Pairwise
      fun a b => b.key < a.key := Keyset.listing_pairwise hS.snapshot_nodup
  rw [h_rows] at h_keys
  generalize Keyset.listing VisibleWebDelivery.key (w.snapshot userId status) none = listing at *
  have h_ends : (visits[j]).2.nextCursor = none ↔ listing.length ≤ limit * (j + 1) := by
    rw [← h_next]
    exact (List.forall₂_iff_get.mp h_all).2 j h_j (h_length ▸ h_j) |>.2.ends
  rw [h_ends]
  constructor
  · intro h_le id h_lists
    obtain ⟨t, h_t⟩ := (lists_iff hR).mp h_lists
    obtain ⟨row, h_row, h_key⟩ := List.mem_map.mp h_t
    refine exists_mem_of_id.mpr ⟨t, ?_⟩
    rw [h_keys, List.take_of_length_le h_le, ← h_key]
    exact List.mem_map_of_mem ((h_listing row).mpr h_row)
  · intro h_met
    -- all places of the list are among those of the first pages
    have h_subset : listing.map VisibleWebDelivery.key ⊆
        (listing.take (limit * (j + 1))).map VisibleWebDelivery.key := by
      intro place h_place
      obtain ⟨row, h_row, rfl⟩ := List.mem_map.mp h_place
      have h_here : toLex (row.deliveredAt, row.delivery.id) ∈
          (w.snapshot userId status).map VisibleWebDelivery.key :=
        List.mem_map_of_mem ((h_listing row).mp h_row)
      obtain ⟨t, h_t⟩ := exists_mem_of_id.mp
        (h_met row.delivery.id ((lists_iff hR).mpr ⟨_, h_here⟩))
      rw [h_keys] at h_t
      obtain ⟨row', h_row', h_key⟩ := List.mem_map.mp h_t
      have h_there := List.mem_map_of_mem (f := VisibleWebDelivery.key)
        ((h_listing row').mp (List.mem_of_mem_take h_row'))
      rw [h_key] at h_there
      rw [VisibleWebDelivery.key, place_unique hS h_here h_there]
      exact h_t
    have h_nodup : (listing.map VisibleWebDelivery.key).Nodup :=
      List.pairwise_map.mpr (h_sorted.imp fun h_lt h_eq => absurd (h_eq ▸ h_lt) (lt_irrefl _))
    have h_le := (List.subperm_of_subset h_nodup h_subset).length_le
    rw [List.length_map, List.length_map, List.length_take] at h_le
    omega

end From

/-! ### The cursors are answered -/

/-- The times of the list are those of `datetime`s. -/
def World.Loads (w : World) (userId : UUID) (status : WebNotificationStatus) : Prop :=
  ∀ row ∈ w.snapshot userId status, ∃ loaded, row.load = .ok loaded

theorem exists_mapM {α β : Type} {f : α → Except PyError β} {l : List α}
    (h : ∀ a ∈ l, ∃ b, f a = .ok b) : ∃ bs, l.mapM f = .ok bs := by
  induction l with
  | nil => exact ⟨[], rfl⟩
  | cons a l ih =>
    obtain ⟨b, h_b⟩ := h a List.mem_cons_self
    obtain ⟨bs, h_bs⟩ := ih fun x h_x => h x (List.mem_cons_of_mem a h_x)
    refine ⟨b :: bs, ?_⟩
    rw [List.mapM_cons, h_b, h_bs]
    rfl

theorem exists_shown (limit : ℕ) {after : Option (ℤ ×ₗ UUID)}
    (h_cursor : CursorAt hmacSha256 floatOf codec cursor after)
    (h_loads : c.world.Loads userId status) :
    ∃ shown, UserRoutes.page hmacSha256 floatOf codec c.world.deliveries.committed
      c.world.notifications.committed userId status limit cursor = .ok shown := by
  have h_rows : ∃ rows, listWebNotificationsForUser c.world.deliveries.committed
      c.world.notifications.committed userId status (limit + 1) (after.map ofLex) = .ok rows := by
    refine exists_mapM fun row h_row => h_loads row ?_
    exact List.mem_of_mem_filter ((List.mem_insertionSort _).mp (List.mem_of_mem_take h_row))
  obtain ⟨rows, h_rows⟩ := h_rows
  refine ⟨UserRoutes.pageOfRows hmacSha256 codec limit rows, ?_⟩
  rw [UserRoutes.page, h_cursor]
  simp only [bind, Except.bind, h_rows]

/-- A request with the cursor is answered with a page, whatever has happened since it was
issued, as long as the times of the list can be loaded. -/
def CursorAnswered (hmacSha256 : List UInt8 → List UInt8 → List UInt8)
    (floatOf : List Char → PyFloat) (codec : WebNotificationCursorCodec) (userId : UUID)
    (status : WebNotificationStatus) (limit : ℕ) (cursor : String) : Prop :=
  ∀ c : State, c.world.Loads userId status → ∃ shown, UserRoutes.page hmacSha256 floatOf codec
    c.world.deliveries.committed c.world.notifications.committed userId status limit (some cursor) =
      .ok shown

/-- A page's cursor is at the place of its last row. -/
theorem answered_of_page {after : Option (ℤ ×ₗ UUID)} {shown : WebNotificationPage}
    (h_cursor : CursorAt hmacSha256 floatOf codec cursor after)
    (h_page : UserRoutes.page hmacSha256 floatOf codec c.world.deliveries.committed
      c.world.notifications.committed userId status limit cursor = .ok shown) :
    ∀ next ∈ shown.nextCursor,
      CursorAnswered hmacSha256 floatOf codec userId status limit next := by
  intro next h_next c' h_loads
  obtain ⟨last, -, h_cursor'⟩ := (page_refines h_cursor h_page).2 next h_next
  exact exists_shown limit h_cursor' h_loads

theorem Traversal.answered {after : Option (ℤ ×ₗ UUID)}
    (h : Traversal hmacSha256 floatOf codec userId status limit c cursor visits c')
    (h_cursor : CursorAt hmacSha256 floatOf codec cursor after) :
    ∀ visit ∈ visits, ∀ next ∈ visit.2.nextCursor,
      CursorAnswered hmacSha256 floatOf codec userId status limit next := by
  induction h generalizing after with
  | first h_page =>
    intro visit h_visit
    obtain rfl := List.mem_singleton.mp h_visit
    exact answered_of_page h_cursor h_page
  | next h_page h_next h_run h_rest ih =>
    intro visit h_visit
    rcases List.mem_cons.mp h_visit with rfl | h_visit
    · exact answered_of_page h_cursor h_page
    · obtain ⟨last, -, h_cursor'⟩ := (page_refines h_cursor h_page).2 _ h_next
      exact ih h_cursor' visit h_visit

/-- **Following the cursors from the first page** shows the list: in order over all pages, a
delivery that is in it at every request once, and exactly the list when nothing changes. Every
cursor that is issued is answered. -/
theorem traversal_exact (h_run : d.Run clock directory ls c) (h_limit : 1 ≤ limit)
    (h : Traversal hmacSha256 floatOf codec userId status limit c none visits c') :
    ExactListing userId status c.world visits ∧
      ∀ visit ∈ visits, ∀ next ∈ visit.2.nextCursor,
        CursorAnswered hmacSha256 floatOf codec userId status limit next := by
  obtain ⟨pages, h_pages, h_all⟩ := h.refines cursorAt_none
  obtain ⟨ls', h_end, h_visits⟩ := h.reaches h_run
  have hS' : Sound c'.world := Deployment.Run.sound (Machine.run_trans h_run h_end)
  have h_descend := descend_of_pages h_all h_pages fun visit h_visit => (h_visits visit h_visit).1.1
  -- a delivery keeps its place while the pages are read, so it is on one of them
  have h_nodup : ((itemsOf visits).map WebNotificationRow.id).Nodup := by
    refine nodup_of_descend hS' h_descend fun r hr => ?_
    obtain ⟨visit, h_visit, x, hx, h_id, h_time, h_listed⟩ := item_lists h_all h_pages hr
    obtain ⟨x', hx', h_id', h_time'⟩ := place_kept (h_visits visit h_visit).2 hx
      (Delivery.listedFor_delivered h_listed)
    exact ⟨x', hx', h_id'.trans h_id, h_time'.trans h_time⟩
  refine ⟨⟨?_, h_nodup, fun h_done id h_lists => ?_, fun h_same => ?_⟩, h.answered cursorAt_none⟩
  · refine h_descend.imp fun {a b} h_lt => ?_
    rw [WebNotificationRow.key, WebNotificationRow.key, Prod.Lex.toLex_lt_toLex] at h_lt
    exact h_lt
  · exact List.count_eq_one_of_mem h_nodup
      (mem_items h_all h_pages h_limit h_done hS' h_visits h_lists)
  · -- nothing has changed in between: all pages are of one listing
    have h_snapshots : ∀ visit ∈ visits,
        visit.1.snapshot userId status = c.world.snapshot userId status := by
      intro visit h_visit
      obtain ⟨h_deliveries, h_notifications⟩ := h_same visit h_visit
      rw [World.snapshot, World.snapshot, h_deliveries, h_notifications]
    have h_cursors := items_unchanged h_all h_pages h_limit h_run.sound h_run.fanoutRows h_snapshots
    refine ⟨fun h_done id => ⟨fun h_id => ?_, fun h_lists => ?_⟩, h_cursors⟩
    · obtain ⟨r, hr, rfl⟩ := List.mem_map.mp h_id
      obtain ⟨visit, h_visit, x, hx, h_x, h_time, h_listed⟩ := item_lists h_all h_pages hr
      exact ⟨x, (h_same visit h_visit).1 ▸ hx, h_x, by rw [h_time]; rfl, h_listed⟩
    · have h_all_lists : ∀ visit ∈ visits, visit.1.Lists userId status id := by
        intro visit h_visit
        rw [World.Lists, (h_same visit h_visit).1]
        exact h_lists
      exact mem_items h_all h_pages h_limit h_done hS' h_visits h_all_lists

/-! ### The traversal ends -/

/-- **Without changes the traversal ends**: the list behind a page is shorter. -/
theorem exists_traversal (h_limit : 1 ≤ limit) (hS : Sound c.world)
    (h_loads : c.world.Loads userId status) {after : Option (ℤ ×ₗ UUID)}
    (h_cursor : CursorAt hmacSha256 floatOf codec cursor after) :
    ∃ visits, Traversal hmacSha256 floatOf codec userId status limit c cursor visits c ∧
      EndReached visits ∧ ∀ visit ∈ visits, visit.1 = c.world := by
  -- the induction is on the number of rows behind the cursor
  induction h_length : (Keyset.listing VisibleWebDelivery.key (c.world.snapshot userId status)
    after).length using Nat.strong_induction_on generalizing cursor after with
  | _ n ih =>
    obtain ⟨shown, h_page⟩ := exists_shown limit h_cursor h_loads
    obtain ⟨h_shows, h_last⟩ := page_refines h_cursor h_page
    cases h_next : shown.nextCursor with
    | none =>
      refine ⟨[(c.world, shown)], .first h_page, fun visit h_visit => ?_, fun visit h_visit => ?_⟩
      · obtain rfl := Option.some.inj h_visit
        exact h_next
      · obtain rfl := List.mem_singleton.mp h_visit
        rfl
    | some next =>
      obtain ⟨last, h_last, h_cursor'⟩ := h_last next h_next
      have h_rest := Keyset.listing_next hS.snapshot_nodup h_last
      -- the page has a cursor, so there are more rows than the limit, and fewer behind its last one
      have h_more : ¬ (Keyset.listing VisibleWebDelivery.key (c.world.snapshot userId status)
          after).length ≤ limit := fun h_le => by
        have h_none := (Keyset.next_eq_none_iff h_limit).mpr h_le
        exact absurd (h_none.symm.trans h_last) (by simp)
      have h_shorter : (Keyset.listing VisibleWebDelivery.key (c.world.snapshot userId status)
          (some last)).length < n := by
        rw [h_rest, List.length_drop]
        omega
      obtain ⟨visits, h_traversal, h_end, h_same⟩ := ih _ h_shorter h_cursor' rfl
      have h_here : surroundings.run c [] = some c := rfl
      refine ⟨(c.world, shown) :: visits, .next h_page h_next h_here h_traversal, ?_, ?_⟩
      · have h_ne : visits ≠ [] := by
          rintro rfl
          cases h_traversal
        intro visit h_visit
        rw [List.getLast?_cons_of_ne_nil h_ne] at h_visit
        exact h_end visit h_visit
      · intro visit h_visit
        rcases List.mem_cons.mp h_visit with rfl | h_visit
        · rfl
        · exact h_same visit h_visit

end Traversals

/-! ### A traversal with changes -/

/-- Two web notifications that one batch delivers, one that is delivered later, and a call that
marks the first as read. -/
def listedDeployment : Deployment := .ofCalls id [
  .createNotification ⟨3600000000⟩ "orders" (.toAll [.web] postInit_web) none,
  .consume {} "consumer" (.requested 11 10),
  .createNotification ⟨3600000000⟩ "billing" (.toAll [.web] postInit_web) none,
  .consume {} "consumer" (.requested 41 40),
  .processDueDeliveries ⟨[.web], none, "worker", 60000000, 30000000⟩ 10,
  .createNotification ⟨3600000000⟩ "alerts" (.toAll [.web] postInit_web) none,
  .consume {} "consumer" (.requested 71 70),
  .processDueDeliveries ⟨[.web], none, "worker", 60000000, 30000000⟩ 10,
  .markRead 1 22]

/-- The first two notifications are delivered at one time. -/
def listedSchedule : Schedule := [
  .run 0 (.time (.ofInstant 0)), .run 0 .go, .run 0 (.fresh 10), .run 0 (.fresh 11),
  .run 1 .go, .run 1 (.time (.ofInstant 0)), .run 1 .go, .run 1 .go, .run 1 .go,
  .run 1 (.fresh 21), .run 1 .go, .run 1 .go, .run 1 (.fresh 22), .run 1 .go, .run 1 .go,
  .run 2 (.time (.ofInstant 0)), .run 2 .go, .run 2 (.fresh 40), .run 2 (.fresh 41),
  .run 3 .go, .run 3 (.time (.ofInstant 0)), .run 3 .go, .run 3 .go, .run 3 .go,
  .run 3 (.fresh 51), .run 3 .go, .run 3 .go, .run 3 (.fresh 52), .run 3 .go, .run 3 .go,
  .run 4 (.time (.ofInstant 5)), .run 4 (.claim [] [31, 32]),
  .run 4 .go, .run 4 .go, .run 4 (.adapter (.ok ⟨.delivered, none, none, none⟩)),
  .run 4 (.fresh 33),
  .run 4 .go, .run 4 .go, .run 4 (.adapter (.ok ⟨.delivered, none, none, none⟩)),
  .run 4 (.fresh 34)]

/-- A third notification is delivered, and the first is marked as read. -/
def changesSchedule : Schedule := [
  .run 5 (.time (.ofInstant 6)), .run 5 .go, .run 5 (.fresh 70), .run 5 (.fresh 71),
  .run 6 .go, .run 6 (.time (.ofInstant 6)), .run 6 .go, .run 6 .go, .run 6 .go,
  .run 6 (.fresh 81), .run 6 .go, .run 6 .go, .run 6 (.fresh 82), .run 6 .go, .run 6 .go,
  .run 7 (.time (.ofInstant 9)), .run 7 (.claim [] [91]),
  .run 7 .go, .run 7 .go, .run 7 (.adapter (.ok ⟨.delivered, none, none, none⟩)),
  .run 7 (.fresh 93),
  .run 8 (.time (.ofInstant 12)), .run 8 .go, .run 8 .go]

instance (w : World) (userId : UUID) (status : WebNotificationStatus) (id : UUID) :
    Decidable (w.Lists userId status id) := by
  unfold World.Lists; infer_instance

/-- The list of user 1 has the first two notifications, and its times can be loaded. -/
def World.listsBoth (w : World) : Bool :=
  decide (w.Lists 1 .all 22) && decide (w.Lists 1 .all 52) &&
    (w.snapshot 1 .all).all fun row => row.load.isOk

theorem loads_of_listsBoth {w : World} (h : w.listsBoth = true) :
    w.Lists 1 .all 22 ∧ w.Lists 1 .all 52 ∧ w.Loads 1 .all := by
  simp only [World.listsBoth, Bool.and_eq_true, decide_eq_true_eq, List.all_eq_true] at h
  refine ⟨h.1.1, h.1.2, fun row h_row => ?_⟩
  have h_ok := h.2 row h_row
  cases h_load : row.load with
  | ok loaded => exact ⟨loaded, rfl⟩
  | error e => exact absurd h_ok (by simp [h_load, Except.isOk, Except.toBool])

/-- The digest of the first page's cursor under the key `"secret"`: the time 5 and the
delivery with the identifier 52. -/
def firstDigest : List UInt8 :=
  [100, 227, 207, 229, 6, 86, 157, 208, 181, 162, 250, 98, 220, 166, 228, 66, 225, 109, 80, 198,
    249, 224, 40, 129, 191, 141, 134, 132, 100, 51, 53, 142]

/-- Pages of one item, with the changes between them: both deliveries are met once. -/
theorem traversal_exact_changes :
    ∃ c c' visits, listedDeployment.Run 0 (.ofUsers [1] (by decide)) listedSchedule c ∧
      surroundings.run c changesSchedule = some c' ∧
      Traversal (fun _ _ => firstDigest) (fun _ => .nan) ⟨"secret"⟩ 1 .all 1 c none visits c' ∧
      EndReached visits ∧ ((itemsOf visits).map WebNotificationRow.id).count 22 = 1 ∧
      ((itemsOf visits).map WebNotificationRow.id).count 52 = 1 := by
  obtain ⟨c, h_run, h_c⟩ := listedDeployment.exists_run 0 (.ofUsers [1] (by decide))
    listedSchedule (fun c => decide (c.world.listsBoth = true ∧
      (c.world.snapshot 1 .all).length = 2 ∧
      ((surroundings.run c changesSchedule).map fun c' => c'.world.listsBoth) = some true))
    (by decide +kernel)
  obtain ⟨h_first, h_two, h_after⟩ := of_decide_eq_true h_c
  obtain ⟨c', h_steps, h_second⟩ := Option.map_eq_some_iff.mp h_after
  obtain ⟨h_22, h_52, h_loads⟩ := loads_of_listsBoth h_first
  obtain ⟨h_22', h_52', h_loads'⟩ := loads_of_listsBoth h_second
  have h_run' := Machine.run_trans h_run h_steps
  -- the first page has a cursor, since there are two deliveries
  have h_none : CursorAt (fun _ _ => firstDigest) (fun _ => .nan) ⟨"secret"⟩ none none :=
    cursorAt_none
  obtain ⟨shown, h_page⟩ := exists_shown 1 h_none h_loads
  obtain ⟨h_shows, h_last⟩ := page_refines h_none h_page
  have h_listing : (Keyset.listing VisibleWebDelivery.key (c.world.snapshot 1 .all) none).length =
      2 := by
    rw [Keyset.listing, List.length_insertionSort, List.filter_eq_self.mpr fun _ _ => ?_, h_two]
    exact decide_eq_true fun _ h_k => absurd h_k (by simp)
  cases h_next : shown.nextCursor with
  | none =>
    have h_le := (Keyset.next_eq_none_iff (le_refl 1)).mp (h_shows.ends.mp h_next)
    exact absurd (h_listing.symm.le.trans h_le) (by decide)
  | some next =>
    obtain ⟨last, -, h_cursor⟩ := h_last next h_next
    obtain ⟨visits, h_rest, h_end, h_same⟩ := exists_traversal (le_refl 1)
      (Deployment.Run.sound h_run') h_loads' h_cursor
    have h_visits := Traversal.next h_page h_next h_steps h_rest
    have h_done : EndReached ((c.world, shown) :: visits) := by
      have h_ne : visits ≠ [] := by
        rintro rfl
        cases h_rest
      intro visit h_visit
      rw [List.getLast?_cons_of_ne_nil h_ne] at h_visit
      exact h_end visit h_visit
    obtain ⟨h_exact, -⟩ := traversal_exact h_run (le_refl 1) h_visits
    refine ⟨c, c', _, h_run, h_steps, h_visits, h_done, h_exact.once h_done 22 ?_,
      h_exact.once h_done 52 ?_⟩
    · intro visit h_visit
      rcases List.mem_cons.mp h_visit with rfl | h_visit
      · exact h_22
      · exact h_same visit h_visit ▸ h_22'
    · intro visit h_visit
      rcases List.mem_cons.mp h_visit with rfl | h_visit
      · exact h_52
      · exact h_same visit h_visit ▸ h_52'

end NotificationBroker
