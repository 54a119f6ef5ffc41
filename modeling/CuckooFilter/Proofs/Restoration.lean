import CuckooFilter.Proofs.ExpiringFilter.Alignment
import CuckooFilter.Proofs.PlainFilter.Occupancy
import CuckooFilter.Proofs.Snapshot

/-!
# Restoring is all or nothing

What becomes of an image is decided by its version and its length alone, the version first
(`RestoreStatus.Judges`), and what becomes of a snapshot by whether it fits the filter (`Admits`) and
then by its image. Whenever the answer is not that all was restored, the filter is what it was, down to
the words it draws. When it is, the filter has the buckets of the image, counted anew, and nothing else
has changed but the ring of an expiring filter (`Loaded`). That is what `RestoresWhole` says, and it
holds of both kinds of filter in every state (`restores_whole`).
-/

namespace CuckooFilter

variable {w v : Nat} {R : Type}

/-- The answer to an image where images have `size` bytes. One without a version counts as one of the
right version. -/
structure RestoreStatus.Judges (size : Nat) (image : Bytes) (version : Option Nat)
    (status : RestoreStatus) : Prop where
  restored_iff : status = .restored ↔
    (version = none ∨ version = some formatVersion) ∧ image.length = size
  /-- A wrong version is what counts, even if the length is wrong too. -/
  of_version : ∀ n, version = some n → n ≠ formatVersion → status = .unsupportedVersion n
  of_length : version = none ∨ version = some formatVersion → image.length ≠ size →
    status = .sizeMismatch size image.length

namespace Table

/-- `t'` is `t` but for its buckets, which are those of the image. -/
structure Loaded (t t' : Table w v R) (image : Bytes) : Prop where
  toBytes_eq : t'.toBytes = image
  size_eq : t'.size = t.size
  hash_eq : t'.hash = t.hash
  words_eq : t'.words = t.words

/-- An image of another version is refused, whatever its length. -/
theorem restore_of_version {n : Nat} (hn : n ≠ formatVersion) (t : Table w v R) (image : Bytes) :
    (t.restore image (some n)).answer = .unsupportedVersion n ∧
      (t.restore image (some n)).state = t := by
  have hfilter : (some n).filter (· != formatVersion) = some n := by simp [hn]
  rw [restore, hfilter]
  exact ⟨rfl, rfl⟩

section Version

variable {version : Option Nat} (hversion : version = none ∨ version = some formatVersion)
  (t : Table w v R) {image : Bytes}

include hversion

theorem filter_version : version.filter (· != formatVersion) = none := by
  obtain rfl | rfl := hversion
  · rfl
  · rfl

theorem restore_of_length (hlen : image.length ≠ t.byteSize) :
    (t.restore image version).answer = .sizeMismatch t.byteSize image.length ∧
      (t.restore image version).state = t := by
  have hload : t.load? image = none := if_neg hlen
  rw [restore, filter_version hversion, hload]
  exact ⟨rfl, rfl⟩

theorem restore_of_fits (hw : 8 ∣ w) (hv : 8 ∣ v) (hlen : image.length = t.byteSize) :
    (t.restore image version).answer = .restored ∧
      t.Loaded (t.restore image version).state image := by
  have hload : t.load? image = some { t with buckets := Bucket.readArray t.size image #[] } :=
    if_pos hlen
  have hbytes := toBytes_load? hw hv hload
  rw [restore, filter_version hversion, hload]
  exact ⟨rfl, hbytes, by simp [size], rfl, rfl⟩

end Version

variable (hw : 8 ∣ w) (hv : 8 ∣ v) (t : Table w v R) (image : Bytes) (version : Option Nat)

include hw hv

/-- Of the three answers each is given in its own case, and only one of them comes with a change. -/
theorem restore_spec :
    (t.restore image version).answer.Judges t.byteSize image version ∧
      ((t.restore image version).answer = .restored →
        t.Loaded (t.restore image version).state image) ∧
      ((t.restore image version).answer ≠ .restored → (t.restore image version).state = t) := by
  by_cases hversion : version = none ∨ version = some formatVersion
  · have hother : ∀ n, version = some n → n ≠ formatVersion → False := by
      rintro n rfl hn
      exact hversion.elim (Option.some_ne_none n) fun h => hn (Option.some.inj h)
    by_cases hlen : image.length = t.byteSize
    · obtain ⟨hanswer, hloaded⟩ := restore_of_fits hversion t hw hv hlen
      refine ⟨⟨iff_of_true hanswer ⟨hversion, hlen⟩, fun n h hn => (hother n h hn).elim,
        fun _ h => absurd hlen h⟩, fun _ => hloaded, fun h => absurd hanswer h⟩
    · obtain ⟨hanswer, hstate⟩ := restore_of_length hversion t hlen
      have hne : (t.restore image version).answer ≠ .restored := by
        rw [hanswer]
        exact nofun
      exact ⟨⟨iff_of_false hne fun h => hlen h.2, fun n h hn => (hother n h hn).elim,
        fun _ _ => hanswer⟩, fun h => absurd h hne, fun _ => hstate⟩
  · obtain ⟨n, rfl⟩ := Option.ne_none_iff_exists'.1 fun h => hversion (.inl h)
    have hn : n ≠ formatVersion := fun h => hversion (.inr (congrArg some h))
    obtain ⟨hanswer, hstate⟩ := restore_of_version hn t image
    have hne : (t.restore image (some n)).answer ≠ .restored := by
      rw [hanswer]
      exact nofun
    refine ⟨⟨iff_of_false hne fun h => hversion h.1, fun m hm _ => ?_, fun h => absurd h hversion⟩,
      fun h => absurd h hne, fun _ => hstate⟩
    obtain rfl := Option.some.inj hm
    exact hanswer

end Table

/-! ## Filters -/

section Filters

variable {σ : Type}

/-- What there is to say about restoring into the filter `f`, whose images have `size` bytes. -/
structure RestoresWhole (f : σ) (size : Nat) (Admits : Snapshot → Prop)
    (Loaded : σ → Bytes → Option Ring → Prop)
    (restore : Nat → Bytes → Option Nat → Step σ RestoreStatus)
    (restoreSnapshot : Snapshot → Step σ (Except Mismatch RestoreStatus)) : Prop where
  judges : ∀ claimed image version,
    (restore claimed image version).answer.Judges size image version
  loaded : ∀ claimed image version, (restore claimed image version).answer = .restored →
    Loaded (restore claimed image version).state image none
  unchanged : ∀ claimed image version, (restore claimed image version).answer ≠ .restored →
    (restore claimed image version).state = f
  mismatch_iff : ∀ s, (∃ cause, (restoreSnapshot s).answer.mapError Mismatch.toError =
    .error (.snapshotMismatch cause)) ↔ ¬ Admits s
  answer_snapshot : ∀ s, Admits s →
    (restoreSnapshot s).answer = .ok (restore s.count s.data (some s.version)).answer
  loaded_snapshot : ∀ s, (restoreSnapshot s).answer = .ok .restored →
    Loaded (restoreSnapshot s).state s.data s.ring
  unchanged_snapshot : ∀ s, (restoreSnapshot s).answer ≠ .ok .restored →
    (restoreSnapshot s).state = f

/-- A snapshot that does not fit is refused for that alone; one that fits has the answer that its image
has. -/
inductive SnapshotOutcome (f : σ) (Admits : Snapshot → Prop) (Loaded : σ → Bytes → Option Ring → Prop)
    (s : Snapshot) (status : RestoreStatus) : Step σ (Except Mismatch RestoreStatus) → Prop
  | mismatch (h : ¬ Admits s) (m : Mismatch) (events : List Event) :
    SnapshotOutcome f Admits Loaded s status ⟨f, .error m, events⟩
  | refused (h : Admits s) (hstatus : status ≠ .restored) (events : List Event) :
    SnapshotOutcome f Admits Loaded s status ⟨f, .ok status, events⟩
  | loaded (h : Admits s) (hstatus : status = .restored) {g : σ} (hg : Loaded g s.data s.ring)
      (events : List Event) :
    SnapshotOutcome f Admits Loaded s status ⟨g, .ok status, events⟩

namespace RestoresWhole

variable {f : σ} {size : Nat} {Admits : Snapshot → Prop} {Loaded : σ → Bytes → Option Ring → Prop}
  {restore : Nat → Bytes → Option Nat → Step σ RestoreStatus}
  {restoreSnapshot : Snapshot → Step σ (Except Mismatch RestoreStatus)}

theorem of_outcome
    (hjudges : ∀ claimed image version,
      (restore claimed image version).answer.Judges size image version)
    (hloaded : ∀ claimed image version, (restore claimed image version).answer = .restored →
      Loaded (restore claimed image version).state image none)
    (hunchanged : ∀ claimed image version, (restore claimed image version).answer ≠ .restored →
      (restore claimed image version).state = f)
    (hsnapshot : ∀ s, SnapshotOutcome f Admits Loaded s
      (restore s.count s.data (some s.version)).answer (restoreSnapshot s)) :
    RestoresWhole f size Admits Loaded restore restoreSnapshot where
  judges := hjudges
  loaded := hloaded
  unchanged := hunchanged
  mismatch_iff s := by
    have h := hsnapshot s
    generalize restoreSnapshot s = r at h ⊢
    cases h with
    | mismatch h m events => exact iff_of_true ⟨m.message, rfl⟩ h
    | refused h hstatus events => exact iff_of_false (fun ⟨_, hcause⟩ => nomatch hcause) (not_not.2 h)
    | loaded h hstatus hg events => exact iff_of_false (fun ⟨_, hcause⟩ => nomatch hcause) (not_not.2 h)
  answer_snapshot s hadmits := by
    have h := hsnapshot s
    generalize restoreSnapshot s = r at h ⊢
    cases h with
    | mismatch h m events => exact absurd hadmits h
    | refused h hstatus events => rfl
    | loaded h hstatus hg events => rfl
  loaded_snapshot s hrestored := by
    have h := hsnapshot s
    generalize restoreSnapshot s = r at h hrestored ⊢
    cases h with
    | mismatch h m events => cases hrestored
    | refused h hstatus events => exact absurd (Except.ok.inj hrestored) hstatus
    | loaded h hstatus hg events => exact hg
  unchanged_snapshot s hrefused := by
    have h := hsnapshot s
    generalize restoreSnapshot s = r at h hrefused ⊢
    cases h with
    | mismatch h m events => rfl
    | refused h hstatus events => rfl
    | loaded h hstatus hg events => exact absurd (congrArg Except.ok hstatus) hrefused

end RestoresWhole

end Filters

namespace PlainFilter

/-- The snapshot is of a plain filter with as many slots. -/
def Admits (f : PlainFilter R) (s : Snapshot) : Prop :=
  s.kind = .plain ∧ s.capacity = f.capacity

/-- `g` is `f` with the buckets of an image, which are counted: there are as many entries as the image
shows fingerprints other than zero. A ring that comes with the image makes no difference. -/
def Loaded (f g : PlainFilter R) (image : Bytes) (_ring : Option Ring) : Prop :=
  ∃ t, f.table.Loaded t image ∧ t.Agrees t.occupied ∧
    g = { f with table := t, count := t.occupied }

variable (f : PlainFilter R) {claimed : Nat} {image : Bytes} {version : Option Nat}

theorem loaded_restore (h : (f.restore claimed image version).answer = .restored)
    (ring : Option Ring) : f.Loaded (f.restore claimed image version).state image ring := by
  rw [answer_restore] at h
  obtain ⟨-, hloaded, -⟩ := f.table.restore_spec (by decide) (by decide) image version
  refine ⟨_, hloaded h, Table.agrees_occupied (by decide) (by decide) _, ?_⟩
  rw [state_restore, h]

theorem state_restore_of_refused (h : (f.restore claimed image version).answer ≠ .restored) :
    (f.restore claimed image version).state = f := by
  rw [answer_restore] at h
  rw [state_restore]
  split
  · rename_i hrestored
    exact absurd hrestored h
  · rfl

theorem snapshotOutcome (s : Snapshot) : SnapshotOutcome f f.Admits f.Loaded s
    (f.restore s.count s.data (some s.version)).answer (f.restoreSnapshot s) := by
  unfold restoreSnapshot
  cases hcheck : s.checkShape .plain f.capacity with
  | error mismatch =>
    refine .mismatch (fun h => ?_) mismatch []
    rw [Snapshot.checkShape_eq_ok_iff.2 h] at hcheck
    cases hcheck
  | ok _ =>
    have hadmits : f.Admits s := Snapshot.checkShape_eq_ok_iff.1 hcheck
    by_cases hstatus : (f.restore s.count s.data (some s.version)).answer = .restored
    · exact .loaded hadmits hstatus (f.loaded_restore hstatus s.ring) _
    · have hstate := f.state_restore_of_refused hstatus
      dsimp only
      rw [hstate]
      exact .refused hadmits hstatus _

theorem restoresWhole :
    RestoresWhole f f.table.byteSize f.Admits f.Loaded f.restore f.restoreSnapshot := by
  refine .of_outcome (fun claimed image version => ?_) (fun _ _ _ h => f.loaded_restore h none)
    (fun _ _ _ h => f.state_restore_of_refused h) f.snapshotOutcome
  rw [answer_restore]
  exact (f.table.restore_spec (by decide) (by decide) image version).1

end PlainFilter

namespace ExpiringFilter

/-- The snapshot is of an expiring filter with as many slots and the same interval; and its ring, if it
has one, stands on the start of an interval, at the position of that interval, at a time that fits in
64 bits of nanoseconds. -/
def Admits (f : ExpiringFilter R) (s : Snapshot) : Prop :=
  s.kind = .expiring ∧ s.capacity = f.capacity ∧
    s.intervalMinutes = some f.config.intervalMinutes ∧
    ∀ r ∈ s.ring, r.time % f.intervalSeconds = 0 ∧
      position (r.time / f.intervalSeconds) = r.current ∧ r.time * nanosPerSecond < 2 ^ 64

/-- `g` is `f` with the buckets of an image, which are counted as in a plain filter, and the ring that
came with it. Without one, the ring stays where it is and has no cursor. -/
def Loaded (f g : ExpiringFilter R) (image : Bytes) (ring : Option Ring) : Prop :=
  ∃ t, f.table.Loaded t image ∧ t.Agrees t.occupied ∧
    g = { f with
      table := t
      count := t.occupied
      ring := ring.getD { f.ring with lru := none } }

variable (f : ExpiringFilter R) {claimed : Nat} {image : Bytes} {version : Option Nat}

theorem checkSnapshot_eq_ok_iff {s : Snapshot} : f.checkSnapshot s = .ok () ↔ f.Admits s := by
  unfold checkSnapshot Admits
  cases hshape : s.checkShape .expiring f.capacity with
  | error mismatch =>
    refine iff_of_false nofun fun ⟨hkind, hcapacity, _⟩ => ?_
    rw [Snapshot.checkShape_eq_ok_iff.2 ⟨hkind, hcapacity⟩] at hshape
    cases hshape
  | ok _ =>
    obtain ⟨hkind, hcapacity⟩ := Snapshot.checkShape_eq_ok_iff.1 hshape
    by_cases hminutes : s.intervalMinutes = some f.config.intervalMinutes
    · cases hring : s.ring with
      | none => simp [hkind, hcapacity, hminutes]
      | some r => simp [hkind, hcapacity, hminutes, ringFits_iff]
    · simp [hminutes]

theorem loaded_restore (h : (f.restore claimed image version).answer = .restored) :
    f.Loaded (f.restore claimed image version).state image none := by
  rw [answer_restore] at h
  obtain ⟨-, hloaded, -⟩ := f.table.restore_spec (by decide) (by decide) image version
  refine ⟨_, hloaded h, Table.agrees_occupied (by decide) (by decide) _, ?_⟩
  rw [state_restore, h]
  rfl

theorem state_restore_of_refused (h : (f.restore claimed image version).answer ≠ .restored) :
    (f.restore claimed image version).state = f := by
  rw [answer_restore] at h
  rw [state_restore]
  split
  · rename_i hrestored
    exact absurd hrestored h
  · rfl

theorem snapshotOutcome (s : Snapshot) : SnapshotOutcome f f.Admits f.Loaded s
    (f.restore s.count s.data (some s.version)).answer (f.restoreSnapshot s) := by
  unfold restoreSnapshot
  cases hcheck : f.checkSnapshot s with
  | error mismatch =>
    refine .mismatch (fun h => ?_) mismatch []
    rw [f.checkSnapshot_eq_ok_iff.2 h] at hcheck
    cases hcheck
  | ok _ =>
    have hadmits := f.checkSnapshot_eq_ok_iff.1 hcheck
    have hloaded := @loaded_restore R f s.count s.data (some s.version)
    have hunchanged := @state_restore_of_refused R f s.count s.data (some s.version)
    generalize f.restore s.count s.data (some s.version) = restored at hloaded hunchanged ⊢
    obtain ⟨g, status, events⟩ := restored
    cases status with
    | restored =>
      obtain ⟨t, ht, hagrees, rfl⟩ := hloaded rfl
      exact .loaded hadmits rfl ⟨t, ht, hagrees, rfl⟩ events
    | sizeMismatch expected found =>
      obtain rfl := hunchanged nofun
      dsimp only
      exact .refused hadmits (by simp) events
    | unsupportedVersion n =>
      obtain rfl := hunchanged nofun
      dsimp only
      exact .refused hadmits (by simp) events

theorem restoresWhole :
    RestoresWhole f f.table.byteSize f.Admits f.Loaded f.restore f.restoreSnapshot := by
  refine .of_outcome (fun claimed image version => ?_) (fun _ _ _ h => f.loaded_restore h)
    (fun _ _ _ h => f.state_restore_of_refused h) f.snapshotOutcome
  rw [answer_restore]
  exact (f.table.restore_spec (by decide) (by decide) image version).1

end ExpiringFilter

/-- In every state of either filter, what is restored is restored whole, and only what fits. -/
theorem restores_whole {R : Type} :
    (∀ f : PlainFilter R,
        RestoresWhole f f.table.byteSize f.Admits f.Loaded f.restore f.restoreSnapshot) ∧
      ∀ f : ExpiringFilter R,
        RestoresWhole f f.table.byteSize f.Admits f.Loaded f.restore f.restoreSnapshot :=
  ⟨PlainFilter.restoresWhole, ExpiringFilter.restoresWhole⟩

/-- Eight slots and an image of ones, which is claimed to hold three entries: it is taken, has eight,
and the cursor is gone. With a wrong version, or a byte less, it makes no difference. -/
theorem restores_whole_full :
    let f : ExpiringFilter (Nat → UInt64) :=
      { config := { capacity := 8 }
        table := .ofSize 2 Murmur.hash fun _ => 0
        count := 0
        ring := { Ring.start 60 with lru := some 7 } }
    let image : Bytes := List.replicate 40 255
    let restored := f.restore 3 image none
    restored.answer = .restored ∧ restored.state.table.toBytes = image ∧ restored.state.count = 8 ∧
      restored.state.ring = Ring.start 60 ∧
      (f.restore 3 image (some 2)).answer = .unsupportedVersion 2 ∧
      (f.restore 3 image (some 2)).state = f ∧
      (f.restore 3 image.tail none).answer = .sizeMismatch 40 39 ∧
      (f.restore 3 image.tail none).state = f := by
  intro f image restored
  have hsize : f.table.byteSize = 40 := by decide +kernel
  have hwhole := (restores_whole (R := Nat → UInt64)).2 f
  rw [hsize] at hwhole
  have hanswer := (hwhole.judges 3 image none).restored_iff.2 ⟨.inl rfl, List.length_replicate⟩
  obtain ⟨t, hloaded, hagrees, hstate⟩ := hwhole.loaded 3 image none hanswer
  have hcount : t.occupied = 8 := by
    rw [hagrees.image, hloaded.toBytes_eq]
    decide
  have hversion := (hwhole.judges 3 image (some 2)).of_version 2 rfl (by decide)
  have hlength : (f.restore 3 image.tail none).answer = .sizeMismatch 40 39 :=
    (hwhole.judges 3 image.tail none).of_length (.inl rfl) (by decide)
  refine ⟨hanswer, ?_, ?_, ?_, hversion, ?_, hlength, ?_⟩
  · exact (congrArg (·.table.toBytes) hstate).trans hloaded.toBytes_eq
  · exact (congrArg (·.count) hstate).trans hcount
  · exact congrArg (·.ring) hstate
  · refine hwhole.unchanged 3 image (some 2) ?_
    rw [hversion]
    exact nofun
  · refine hwhole.unchanged 3 image.tail none ?_
    rw [hlength]
    exact nofun

end CuckooFilter
