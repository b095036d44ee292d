import Mathlib.Data.Finset.Dedup
import NotificationBroker.Python.IsoFormat
import NotificationBroker.Services.Idempotency

/-!
# What the request hashes tell apart

Two requests are the same (`NotificationCreationInput.Same`) if they have the same message,
severity and audience and the same channels, whatever the order of the channels and of the
labels. `requestHashes_eq_iff` says that the fingerprint tells exactly the other requests
apart, and that the fallback hash tells apart the source services and the windows of the
clock readings as well.

One direction is that the canonical payload does not depend on the orders, the other that
its text determines it (`payloadFields_inj`, `deduplicationPayload_inj`).
-/

namespace NotificationBroker

open Python

/-! ### The same request -/

/-- The labels of an audience, as a set. -/
def AudienceSelection.labelSet (audience : AudienceSelection) : Option (Finset (String × String)) :=
  audience.labels.map List.toFinset

/-- The same audience, with the labels in any order. -/
structure AudienceSelection.Same (a a' : AudienceSelection) : Prop where
  type : a.type = a'.type
  group : a.group = a'.group
  labels : a.labelSet = a'.labelSet

/-- The same request, with the channels and the labels in any order. -/
structure NotificationCreationInput.Same (r r' : NotificationCreationInput) : Prop where
  message : r.message = r'.message
  severity : r.severity = r'.severity
  channels : r.channels.toFinset = r'.channels.toFinset
  audience : r.audience.Same r'.audience

/-! ### Canonical values -/

theorem Severity.value_injective : Function.Injective Severity.value := by
  intro a b h
  cases a <;> cases b <;> first | rfl | exact absurd h (by decide)

theorem labelsObject_injective {labels labels' : List (String × String)}
    (h : labelsObject labels = labelsObject labels') : sortKeys labels = sortKeys labels' := by
  have h_label : Function.Injective fun label : String × String => (label.1, Json.str label.2) := by
    intro a b h_eq
    obtain ⟨h_key, h_value⟩ := Prod.mk.inj h_eq
    exact Prod.ext h_key (Json.str.inj h_value)
  exact List.map_injective_iff.mpr h_label (Json.obj.inj h)

/-- The canonical labels are the set of the labels. -/
theorem labelsObject_eq_iff {labels labels' : List (String × String)}
    (h_nodup : (labels.map Prod.fst).Nodup) (h_nodup' : (labels'.map Prod.fst).Nodup) :
    labelsObject labels = labelsObject labels' ↔ labels.toFinset = labels'.toFinset := by
  constructor
  · intro h
    have h_keys := labelsObject_injective h
    ext label
    rw [List.mem_toFinset, List.mem_toFinset, ← (sortKeys_perm labels).mem_iff, h_keys,
      (sortKeys_perm labels').mem_iff]
  · intro h
    have h_perm : labels.Perm labels' := by
      refine (List.perm_ext_iff_of_nodup (.of_map _ h_nodup) (.of_map _ h_nodup')).mpr
        fun label => ?_
      rw [← List.mem_toFinset, h, List.mem_toFinset]
    rw [labelsObject, labelsObject, sortKeys_eq_of_perm h_perm h_nodup]

/-- The canonical channels are the set of the channels. -/
theorem sortedChannels_eq_iff {channels channels' : List Channel} (h_nodup : channels.Nodup)
    (h_nodup' : channels'.Nodup) :
    sortedChannels channels = sortedChannels channels' ↔
      channels.toFinset = channels'.toFinset := by
  have h_mem : ∀ (cs : List Channel) (c : Channel),
      c.value ∈ (cs.map Channel.value).insertionSort (· ≤ ·) ↔ c ∈ cs := by
    intro cs c
    rw [List.mem_insertionSort, List.mem_map_of_injective Channel.value_injective]
  constructor
  · intro h
    have h_texts := List.map_injective_iff.mpr (fun _ _ => Json.str.inj) (Json.arr.inj h)
    ext c
    rw [List.mem_toFinset, List.mem_toFinset, ← h_mem channels, h_texts, h_mem]
  · intro h
    -- two lists without repetitions and with the same elements have one sorted list
    have h_perm : channels.Perm channels' := by
      refine (List.perm_ext_iff_of_nodup h_nodup h_nodup').mpr fun c => ?_
      rw [← List.mem_toFinset, h, List.mem_toFinset]
    have h_total : Std.Total fun a b : String => a ≤ b := ⟨String.le_total⟩
    have h_trans : IsTrans String fun a b => a ≤ b := ⟨fun _ _ _ => String.le_trans⟩
    have h_sorted : (channels.map Channel.value).insertionSort (· ≤ ·) =
        (channels'.map Channel.value).insertionSort (· ≤ ·) := by
      refine List.Perm.eq_of_pairwise (fun _ _ _ _ => String.le_antisymm)
        (List.pairwise_insertionSort _ _) (List.pairwise_insertionSort _ _) ?_
      exact (List.perm_insertionSort _ _).trans
        ((h_perm.map _).trans (List.perm_insertionSort _ _).symm)
    rw [sortedChannels, sortedChannels, h_sorted]

/-- **The canonical audience is the audience**, with its labels as a set. -/
theorem canonicalAudience_eq_iff {a a' : AudienceSelection} :
    canonicalAudience a = canonicalAudience a' ↔ a.Same a' := by
  have h_same : a.Same a' ↔ a.type = a'.type ∧ a.group = a'.group ∧ a.labelSet = a'.labelSet :=
    ⟨fun h => ⟨h.type, h.group, h.labels⟩, fun h => ⟨h.1, h.2.1, h.2.2⟩⟩
  rw [h_same]
  cases a.shape with
  | all h_type h_group h_labels =>
    cases a'.shape <;> simp [canonicalAudience, AudienceSelection.labelSet, *]
  | group name h_type h_group h_labels =>
    cases a'.shape <;> simp [canonicalAudience, AudienceSelection.labelSet, *]
  | labels items h_type h_group h_labels h_ne h_nodup =>
    cases a'.shape with
    | labels items' h_type' h_group' h_labels' h_ne' h_nodup' =>
      simp [canonicalAudience, AudienceSelection.labelSet, h_type, h_group, h_labels, h_type',
        h_group', h_labels', labelsObject_eq_iff h_nodup h_nodup']
    | _ => simp [canonicalAudience, AudienceSelection.labelSet, *]

theorem payloadFields_eq_iff {r r' : NotificationCreationInput} :
    payloadFields r = payloadFields r' ↔ r.Same r' := by
  have h_channels := sortedChannels_eq_iff r.channels_nodup r'.channels_nodup
  constructor
  · intro h
    simp only [payloadFields, List.cons.injEq, Prod.mk.injEq, true_and, and_true,
      Json.str.injEq] at h
    obtain ⟨h_audience, h_sorted, h_message, h_severity⟩ := h
    exact ⟨h_message, Severity.value_injective h_severity, h_channels.mp h_sorted,
      canonicalAudience_eq_iff.mp h_audience⟩
  · intro h
    rw [payloadFields, payloadFields, canonicalAudience_eq_iff.mpr h.audience,
      h_channels.mpr h.channels, h.message, h.severity]

/-! ### Windows -/

/-- The window of a clock reading, counted from the epoch: that of the whole second the
reading is truncated to. -/
def windowBucket (now window : ℤ) : ℤ := now.tdiv 1000000 / (window / 1000000)

/-- From 1970 on, the windows divide the time evenly. -/
theorem windowBucket_of_nonneg {now window : ℤ} (h_now : 0 ≤ now) (h_pos : 0 < window)
    (h_whole : window % 1000000 = 0) : windowBucket now window = now / window := by
  obtain ⟨seconds, rfl⟩ := Int.dvd_of_emod_eq_zero h_whole
  rw [windowBucket, Int.tdiv_eq_ediv_of_nonneg h_now, Int.mul_ediv_cancel_left _ (by decide),
    Int.ediv_ediv_of_nonneg (by decide)]

/-- A window starts at a multiple of its length. -/
theorem deduplicationWindowStart_ok_iff {now window start : ℤ} :
    deduplicationWindowStart now window = .ok start ↔
      0 < window ∧ window % 1000000 = 0 ∧ Datetime.InRange start ∧
        start = windowBucket now window * window := by
  unfold deduplicationWindowStart
  dsimp only
  split
  next h_window =>
    refine ⟨fun h => absurd h (by simp), fun ⟨h_pos, h_whole, _⟩ => ?_⟩
    rcases h_window with h_le | h_ne
    · exact absurd h_pos (by omega)
    · exact absurd h_whole h_ne
  next h_window =>
    have h_valid : 0 < window ∧ window % 1000000 = 0 := by omega
    -- the code truncates to seconds first, the bucket is of microseconds: the same for whole
    -- windows
    have h_start : (now.tdiv 1000000 - now.tdiv 1000000 % (window / 1000000)) * 1000000 =
        windowBucket now window * window := by
      obtain ⟨seconds, rfl⟩ := Int.dvd_of_emod_eq_zero h_valid.2
      rw [windowBucket, Int.mul_ediv_cancel_left _ (by decide), Int.emod_def]
      ring
    rw [h_start]
    split
    next h_range =>
      refine ⟨fun h => ?_, fun h => by rw [h.2.2.2]⟩
      obtain rfl := Except.ok.inj h
      exact ⟨h_valid.1, h_valid.2, h_range, rfl⟩
    next h_range =>
      exact ⟨fun h => absurd h (by simp), fun h => absurd (h.2.2.2 ▸ h.2.2.1) h_range⟩

theorem isoformat_injective {t t' : ℤ} (h : Datetime.InRange t) (h' : Datetime.InRange t')
    (h_text : (Datetime.ofInstant t).isoformat = (Datetime.ofInstant t').isoformat) : t = t' := by
  have h_read := Datetime.fromisoformat_isoformat h
  rw [h_text, Datetime.fromisoformat_isoformat h'] at h_read
  exact (congrArg Datetime.wall (Option.some.inj h_read)).symm

/-! ### The hashes -/

theorem fallbackDeduplicationHash_ok_iff {sha256 : String → String}
    {request : NotificationCreationInput} {sourceService hash : String} {now window : ℤ} :
    fallbackDeduplicationHash sha256 request sourceService now window = .ok hash ↔
      ∃ start, deduplicationWindowStart now window = .ok start ∧
        hash = hashPayload sha256 (deduplicationPayload request sourceService start) := by
  unfold fallbackDeduplicationHash
  cases deduplicationWindowStart now window with
  | error e => simp [bind, Except.bind]
  | ok start => simp [bind, Except.bind, pure, Except.pure, eq_comm]

/-- **What the hashes tell apart**: the fingerprint exactly the requests that are not the
same, the fallback hash the source services and the windows as well. A fallback hash exists
for every window of whole seconds, unless the window of the reading starts before the
year 1. -/
theorem requestHashes_eq_iff {sha256 : String → String} (h_inj : Function.Injective sha256) :
    (∀ r r', payloadFingerprint sha256 r = payloadFingerprint sha256 r' ↔ r.Same r') ∧
    (∀ r r' sourceService sourceService' now now' window hash hash',
      fallbackDeduplicationHash sha256 r sourceService now window = .ok hash →
      fallbackDeduplicationHash sha256 r' sourceService' now' window = .ok hash' →
      (hash = hash' ↔ r.Same r' ∧ sourceService = sourceService' ∧
        windowBucket now window = windowBucket now' window)) ∧
    ∀ r sourceService now window,
      (∃ hash, fallbackDeduplicationHash sha256 r sourceService now window = .ok hash) ↔
        0 < window ∧ window % 1000000 = 0 ∧
          Datetime.InRange (windowBucket now window * window) := by
  refine ⟨fun r r' => ?_, fun r r' sourceService sourceService' now now' window hash hash' h h' =>
    ?_, fun r sourceService now window => ?_⟩
  · rw [← payloadFields_eq_iff, payloadFingerprint, payloadFingerprint]
    exact ⟨fun h => payloadFields_inj (h_inj h), fun h => by rw [h]⟩
  · obtain ⟨start, h_start, rfl⟩ := fallbackDeduplicationHash_ok_iff.mp h
    obtain ⟨start', h_start', rfl⟩ := fallbackDeduplicationHash_ok_iff.mp h'
    obtain ⟨h_pos, -, h_range, h_eq⟩ := deduplicationWindowStart_ok_iff.mp h_start
    obtain ⟨-, -, h_range', h_eq'⟩ := deduplicationWindowStart_ok_iff.mp h_start'
    rw [← payloadFields_eq_iff]
    constructor
    · intro h_hash
      -- the hashed text determines its fields, and the written time the bucket
      obtain ⟨h_fields, h_source, h_text⟩ := deduplicationPayload_inj (h_inj h_hash)
      have h_bucket := isoformat_injective h_range h_range' h_text
      rw [h_eq, h_eq'] at h_bucket
      exact ⟨h_fields, h_source, Int.eq_of_mul_eq_mul_right h_pos.ne' h_bucket⟩
    · rintro ⟨h_fields, rfl, h_bucket⟩
      rw [deduplicationPayload, deduplicationPayload, canonicalCreationPayload,
        canonicalCreationPayload, h_fields, h_eq, h_eq', h_bucket]
  · constructor
    · rintro ⟨hash, h⟩
      obtain ⟨start, h_start, -⟩ := fallbackDeduplicationHash_ok_iff.mp h
      obtain ⟨h_pos, h_whole, h_range, rfl⟩ := deduplicationWindowStart_ok_iff.mp h_start
      exact ⟨h_pos, h_whole, h_range⟩
    · rintro ⟨h_pos, h_whole, h_range⟩
      exact ⟨_, fallbackDeduplicationHash_ok_iff.mpr
        ⟨_, deduplicationWindowStart_ok_iff.mpr ⟨h_pos, h_whole, h_range, rfl⟩, rfl⟩⟩

/-- A request for the users with two labels. -/
def labelledRequest (labels : List (String × String)) (channels : List Channel)
    (h_labels : AudienceSelection.postInit .labels none (some labels) = .ok ())
    (h_channels : NotificationCreationInput.postInit "say \"hi\"" channels = .ok ()) :
    NotificationCreationInput :=
  ⟨"say \"hi\"", .info, ⟨.labels, none, some labels, h_labels⟩, channels, h_channels⟩

/-- The orders do not matter, the two ends of one window do not, and two windows do. -/
theorem requestHashes_reordered :
    ∃ r r' : NotificationCreationInput,
      r.channels = [.web, .email] ∧ r'.channels = [.email, .web] ∧
      payloadFingerprint id r = payloadFingerprint id r' ∧
      ∃ hash₁ hash₂ hash₃,
        fallbackDeduplicationHash id r "billing" 600000000 600000000 = .ok hash₁ ∧
        fallbackDeduplicationHash id r' "billing" 1199999999 600000000 = .ok hash₂ ∧
        fallbackDeduplicationHash id r' "billing" 1200000000 600000000 = .ok hash₃ ∧
        hash₁ = hash₂ ∧ hash₁ ≠ hash₃ := by
  obtain ⟨h_fingerprint, h_hash, h_ok⟩ := requestHashes_eq_iff
    (Function.injective_id : Function.Injective (id : String → String))
  let r := labelledRequest [("tier", "gold"), ("region", "EU")] [.web, .email] rfl rfl
  let r' := labelledRequest [("region", "EU"), ("tier", "gold")] [.email, .web] rfl rfl
  -- the order of channels and labels is no part of the request
  have h_same : r.Same r' := ⟨rfl, rfl, by decide, rfl, rfl, by decide⟩
  obtain ⟨hash₁, h₁⟩ := (h_ok r "billing" 600000000 600000000).mpr (by decide)
  obtain ⟨hash₂, h₂⟩ := (h_ok r' "billing" 1199999999 600000000).mpr (by decide)
  obtain ⟨hash₃, h₃⟩ := (h_ok r' "billing" 1200000000 600000000).mpr (by decide)
  refine ⟨r, r', rfl, rfl, (h_fingerprint r r').mpr h_same, hash₁, hash₂, hash₃, h₁, h₂, h₃,
    (h_hash _ _ _ _ _ _ _ _ _ h₁ h₂).mpr ⟨h_same, rfl, by decide⟩, fun h_eq => ?_⟩
  exact absurd ((h_hash _ _ _ _ _ _ _ _ _ h₁ h₃).mp h_eq).2.2 (by decide)

end NotificationBroker
