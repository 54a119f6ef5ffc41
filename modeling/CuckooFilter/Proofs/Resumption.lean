import CuckooFilter.Proofs.ExpiringFilter.Alignment
import CuckooFilter.Proofs.ExpiringFilter.Refinement
import CuckooFilter.Proofs.PlainFilter.Refinement
import CuckooFilter.Proofs.Snapshot

/-!
# Filters resumed from their snapshots

A snapshot of any filter is read back from its stored form, and is taken under every configuration with
as many buckets and the same interval: the new filter has the buckets, the count and the ring of the old
one (`PlainFilter.ofSnapshot_snapshot`, `ExpiringFilter.ofSnapshot_snapshot`). From there on the two may
move their entries apart, but they represent the same set or the same memory and cannot be told from
each other (`resume_invisible`).
-/

namespace CuckooFilter

/-- A configuration with as many slots as another one gives a table of. -/
theorem layout_slots {c : Config} (h : c.validate = .ok ()) :
    ({ c with capacity := c.layout.slots } : Config).validate = .ok () ∧
      ({ c with capacity := c.layout.slots } : Config).layout = c.layout :=
  ⟨checkCapacity_slots h, congrArg (Layout.mk c.hash) (bucketCount_slots h)⟩

/-- The sizes of a table that a configuration gives fit the fields of a snapshot. -/
theorem Table.Counted.fits {w v : Nat} {R : Type} {t : Table w v R} {count : Nat} {c : Config}
    (hv : c.validate = .ok ()) (h : t.Counted c.layout count)
    (hwidth : Bucket.imageSize w v < 2 ^ 32) :
    t.capacity < UInt64.size ∧ count < UInt64.size ∧ t.toBytes.length < UInt64.size := by
  have hsize : t.size ≤ 2 ^ 31 := by
    rw [h.size_eq]
    exact bucketCount_le hv
  have hcapacity : t.capacity = t.size * 4 := rfl
  have hcount := h.count_le
  have hbytes : t.size * Bucket.imageSize w v ≤ 2 ^ 31 * 2 ^ 32 :=
    Nat.mul_le_mul hsize hwidth.le
  have hword : UInt64.size = 2 ^ 64 := rfl
  rw [length_toBytes, byteSize]
  exact ⟨by omega, by omega, by omega⟩

namespace PlainFilter

variable {R R' : Type}

/-- Neither filter can be told from the other by requests that none of them refuses for want of
room. -/
def Indistinguishable [WordSource R] [WordSource R'] (f : PlainFilter R) (g : PlainFilter R') : Prop :=
  ∀ requests, (∀ report ∈ trace respond f requests, ¬ report.answer.isFull) →
    (∀ report ∈ trace respond g requests, ¬ report.answer.isFull) →
    trace respond f requests = trace respond g requests

/-- `g` is made of the stored snapshot of `f`. -/
def ResumesAs (f : PlainFilter R) (config : Config) (words : R') (g : PlainFilter R') : Prop :=
  ∃ s, Snapshot.decode f.snapshot.encode = .ok s ∧ (ofSnapshot config words s).1 = .ok g

theorem decode_snapshot {f : PlainFilter R} {config : Config} (hv : config.validate = .ok ())
    (h : f.table.Counted config.layout f.count) :
    Snapshot.decode f.snapshot.encode = .ok f.snapshot := by
  obtain ⟨hcapacity, hcount, hbytes⟩ := h.fits hv (by decide)
  refine Snapshot.decode_encode ?_ rfl
  exact ⟨show formatVersion < UInt32.size by decide, hcapacity, nofun, hcount, nofun, hbytes⟩

theorem ofSnapshot_eq {config : Config} {words : R} {f : PlainFilter R} {s : Snapshot}
    (hf : create config words = .ok f) (hs : (f.restoreSnapshot s).answer = .ok .restored) :
    (ofSnapshot config words s).1 = .ok (f.restoreSnapshot s).state := by
  rw [ofSnapshot, hf]
  dsimp only
  generalize f.restoreSnapshot s = restored at hs ⊢
  obtain ⟨g, answer, events⟩ := restored
  obtain rfl := hs
  rfl

/-- A snapshot of a filter with as many buckets is taken whole. -/
theorem restoreSnapshot_snapshot {f : PlainFilter R} {g : PlainFilter R'}
    (hsize : g.table.size = f.table.size) (hcount : f.count = f.table.occupied) :
    (g.restoreSnapshot f.snapshot).answer = .ok .restored ∧
      (g.restoreSnapshot f.snapshot).state =
        { g with table := { g.table with buckets := f.table.buckets }, count := f.count } := by
  have hshape : f.snapshot.checkShape .plain g.capacity = .ok () :=
    Snapshot.checkShape_eq_ok_iff.2 ⟨rfl, congrArg (· * bucketSize) hsize.symm⟩
  have hrestore := Table.restore_toBytes (by decide : 8 ∣ 16) (by decide : 8 ∣ 0) hsize
  have hanswer := answer_restore g f.count f.table.toBytes (some formatVersion)
  have hstate := state_restore g f.count f.table.toBytes (some formatVersion)
  rw [hrestore] at hanswer hstate
  rw [restoreSnapshot, hshape, hcount]
  exact ⟨congrArg Except.ok hanswer, hstate⟩

/-- What is made of the snapshot of a filter is that filter, but for the words it draws. -/
theorem ofSnapshot_snapshot {f : PlainFilter R} {config config' : Config}
    (h : f.table.Counted config.layout f.count) (hv' : config'.validate = .ok ())
    (hlayout : config'.layout = config.layout) (words : R') :
    (ofSnapshot config' words f.snapshot).1 =
      .ok ⟨config', ⟨f.table.buckets, config'.hash, words⟩, f.count⟩ := by
  obtain ⟨g, hg⟩ := exists_create hv' words
  have hsize : g.table.size = f.table.size := by
    rw [(counted_create hg).size_eq, h.size_eq, hlayout]
  obtain ⟨hanswer, hstate⟩ := restoreSnapshot_snapshot hsize h.count_eq_occupied
  rw [ofSnapshot_eq hg hanswer, hstate]
  rw [create, hv'] at hg
  obtain rfl := Except.ok.inj hg
  rfl

/-- A filter resumed from one that was reached by requests alone cannot be told from it. -/
theorem indistinguishable_of_requests [WordSource R] [WordSource R'] {config : Config}
    (hv : config.validate = .ok ()) {words : R} {f : PlainFilter R}
    (hf : create config words = .ok f) {requests : List (Request Key Unit)} {g : PlainFilter R'}
    (hbuckets : g.table.buckets = ((requests.map .request).foldl execute f).table.buckets)
    (hhash : g.table.hash = config.hash)
    (hcount : g.count = ((requests.map .request).foldl execute f).count) :
    ((requests.map .request).foldl execute f).Indistinguishable g := by
  obtain ⟨f', hf', hempty⟩ := represents_create hv words
  obtain rfl := Except.ok.inj (hf.symm.trans hf')
  obtain ⟨s, hs⟩ := represents_run hempty requests
  have hlayout := congrArg Layout.hash hs.counted.layout_eq
  exact fun future => trace_eq_of_represents hs (hs.congr hbuckets (hhash.trans hlayout.symm) hcount)

end PlainFilter

namespace ExpiringFilter

variable {R R' : Type}

/-- Neither filter can be told from the other by requests that none of them refuses for want of
room. -/
def Indistinguishable [WordSource R] [WordSource R'] (f : ExpiringFilter R) (g : ExpiringFilter R') :
    Prop :=
  ∀ requests, (∀ report ∈ trace respond f requests, ¬ report.answer.isFull) →
    (∀ report ∈ trace respond g requests, ¬ report.answer.isFull) →
    trace respond f requests = trace respond g requests

/-- `g` is made of the stored snapshot of `f`. -/
def ResumesAs (f : ExpiringFilter R) (config : ExpiringConfig) (words : R')
    (g : ExpiringFilter R') : Prop :=
  ∃ s, Snapshot.decode f.snapshot.encode = .ok s ∧ (ofSnapshot config words s).1 = .ok g

theorem decode_snapshot {f : ExpiringFilter R} {config : ExpiringConfig}
    (hv : config.validate = .ok ()) (h : f.table.Counted config.layout f.count)
    (ha : f.Aligned config) : Snapshot.decode f.snapshot.encode = .ok f.snapshot := by
  obtain ⟨hvalid, -, hminutes⟩ := ExpiringConfig.validate_eq_ok.1 hv
  obtain ⟨hcapacity, hcount, hbytes⟩ := h.fits hvalid (by decide)
  have htime := (ringFits_iff.1 ha.ring_fits).2.2
  refine Snapshot.decode_encode ?_ rfl
  refine ⟨show formatVersion < UInt32.size by decide, hcapacity, ?_, hcount, ?_, hbytes⟩
  · intro minutes hm
    obtain rfl := Option.some.inj hm
    rw [ha.config_eq]
    exact Nat.lt_of_le_of_lt hminutes (by decide)
  · intro r hr
    obtain rfl := Option.some.inj hr
    exact Nat.lt_of_le_of_lt (Nat.le_mul_of_pos_right _ (by decide)) htime

theorem ofSnapshot_eq {config : ExpiringConfig} {words : R} {f : ExpiringFilter R} {s : Snapshot}
    (hf : create config words = .ok f) (hs : (f.restoreSnapshot s).answer = .ok .restored) :
    (ofSnapshot config words s).1 = .ok (f.restoreSnapshot s).state := by
  rw [ofSnapshot, hf]
  dsimp only
  generalize f.restoreSnapshot s = restored at hs ⊢
  obtain ⟨g, answer, events⟩ := restored
  obtain rfl := hs
  rfl

theorem checkSnapshot_snapshot {f : ExpiringFilter R} {g : ExpiringFilter R'}
    (hsize : g.table.size = f.table.size)
    (hminutes : g.config.intervalMinutes = f.config.intervalMinutes)
    (hring : ringFits g.intervalSeconds f.ring) : g.checkSnapshot f.snapshot = .ok () := by
  have hshape : f.snapshot.checkShape .expiring g.capacity = .ok () :=
    Snapshot.checkShape_eq_ok_iff.2 ⟨rfl, congrArg (· * bucketSize) hsize.symm⟩
  rw [checkSnapshot, hshape]
  dsimp only
  rw [if_neg fun h => h (congrArg some hminutes.symm)]
  exact if_pos hring

/-- A snapshot of a filter with as many buckets and the same interval is taken whole. -/
theorem restoreSnapshot_snapshot {f : ExpiringFilter R} {g : ExpiringFilter R'}
    (hsize : g.table.size = f.table.size) (hcount : f.count = f.table.occupied)
    (hcheck : g.checkSnapshot f.snapshot = .ok ()) :
    (g.restoreSnapshot f.snapshot).answer = .ok .restored ∧
      (g.restoreSnapshot f.snapshot).state =
        { g with
          table := { g.table with buckets := f.table.buckets }
          count := f.count
          ring := f.ring } := by
  have hrestore := Table.restore_toBytes (by decide : 8 ∣ 32) (by decide : 8 ∣ 8) hsize
  have hanswer : (g.restore f.count f.table.toBytes (some formatVersion)).answer = .restored := by
    rw [answer_restore, hrestore]
  have hstate : (g.restore f.count f.table.toBytes (some formatVersion)).state =
      { g with
        table := { g.table with buckets := f.table.buckets }
        count := f.count
        ring := { g.ring with lru := none } } := by
    rw [state_restore, hrestore, hcount]
    rfl
  rw [answer_restoreSnapshot, state_restoreSnapshot, hcheck]
  refine ⟨congrArg Except.ok hanswer, ?_⟩
  simp only [snapshot, hanswer, hstate, Option.getD_some]

/-- What is made of the snapshot of a filter is that filter, but for the words it draws. -/
theorem ofSnapshot_snapshot {f : ExpiringFilter R} {config config' : ExpiringConfig}
    (h : f.table.Counted config.layout f.count) (ha : f.Aligned config)
    (hv' : config'.validate = .ok ()) (hlayout : config'.layout = config.layout)
    (hminutes : config'.intervalMinutes = config.intervalMinutes) (words : R') :
    (ofSnapshot config' words f.snapshot).1 =
      .ok ⟨config', ⟨f.table.buckets, config'.hash, words⟩, f.count, f.ring⟩ := by
  obtain ⟨g, hg⟩ := exists_create hv' words
  have hsize : g.table.size = f.table.size := by
    rw [(counted_create hg).size_eq, h.size_eq, hlayout]
  have hconfig := (aligned_create hg).config_eq
  have hring : ringFits g.intervalSeconds f.ring := by
    rw [intervalSeconds, hconfig, ExpiringConfig.intervalSeconds, hminutes]
    exact ha.ring_fits
  have hcheck := checkSnapshot_snapshot hsize (by rw [hconfig, ha.config_eq, hminutes]) hring
  obtain ⟨hanswer, hstate⟩ := restoreSnapshot_snapshot hsize h.count_eq_occupied hcheck
  rw [ofSnapshot_eq hg hanswer, hstate]
  rw [create, hv'] at hg
  obtain rfl := Except.ok.inj hg
  rfl

/-- A filter resumed from one that was reached by requests alone cannot be told from it. -/
theorem indistinguishable_of_requests [WordSource R] [WordSource R'] {config : ExpiringConfig}
    (hv : config.validate = .ok ()) {words : R} {f : ExpiringFilter R}
    (hf : create config words = .ok f) {requests : List (Request Key UInt64)} {g : ExpiringFilter R'}
    (hbuckets : g.table.buckets = ((requests.map .request).foldl execute f).table.buckets)
    (hhash : g.table.hash = config.hash)
    (hcount : g.count = ((requests.map .request).foldl execute f).count)
    (hring : g.ring = ((requests.map .request).foldl execute f).ring)
    (hseconds : g.intervalSeconds = config.intervalSeconds) :
    ((requests.map .request).foldl execute f).Indistinguishable g := by
  obtain ⟨f', hf', hempty⟩ := represents_create hv words
  obtain rfl := Except.ok.inj (hf.symm.trans hf')
  obtain ⟨m, hm⟩ := represents_run hempty requests
  have hlayout := congrArg Layout.hash hm.counted.layout_eq
  exact fun future => trace_eq_of_represents hm
    (hm.congr hbuckets (hhash.trans hlayout.symm) hcount hring (hseconds.trans hm.seconds_eq.symm))

end ExpiringFilter

/-- Storing a snapshot of a filter, reading it back and going on from there changes nothing, whatever
commands led to it; and after requests alone, what was resumed answers all further requests as the
filter itself does. The capacity that a snapshot gives is one to resume it under. -/
theorem resume_invisible {R R' : Type} [WordSource R] [WordSource R'] (words : R) (words' : R')
    {plain plain' : Config} (hplain : plain.validate = .ok ()) (hplain' : plain'.validate = .ok ())
    (hlayout : plain'.layout = plain.layout) {expiring expiring' : ExpiringConfig}
    (hexpiring : expiring.validate = .ok ()) (hexpiring' : expiring'.validate = .ok ())
    (hlayout' : expiring'.layout = expiring.layout)
    (hminutes : expiring'.intervalMinutes = expiring.intervalMinutes) :
    (∃ f₀, PlainFilter.create plain words = .ok f₀ ∧ ∀ commands : List (Command Unit),
      let f := commands.foldl PlainFilter.execute f₀
      ({ plain with capacity := f.snapshot.capacity } : Config).validate = .ok () ∧
        ({ plain with capacity := f.snapshot.capacity } : Config).layout = plain.layout ∧
        ∃ g, f.ResumesAs plain' words' g ∧ g.table.buckets = f.table.buckets ∧ g.count = f.count ∧
          ∀ requests : List (Request Key Unit), commands = requests.map .request →
            f.Indistinguishable g) ∧
    ∃ f₀, ExpiringFilter.create expiring words = .ok f₀ ∧ ∀ commands : List (Command UInt64),
      let f := commands.foldl ExpiringFilter.execute f₀
      ({ expiring with capacity := f.snapshot.capacity } : ExpiringConfig).validate = .ok () ∧
        ({ expiring with capacity := f.snapshot.capacity } : ExpiringConfig).layout =
          expiring.layout ∧
        ∃ g, f.ResumesAs expiring' words' g ∧ g.table.buckets = f.table.buckets ∧
          g.count = f.count ∧ g.ring = f.ring ∧
          ∀ requests : List (Request Key UInt64), commands = requests.map .request →
            f.Indistinguishable g := by
  constructor
  · obtain ⟨f₀, hf₀⟩ := PlainFilter.exists_create hplain words
    refine ⟨f₀, hf₀, fun commands => ?_⟩
    have hcounted := PlainFilter.counted_run (PlainFilter.counted_create hf₀) commands
    intro f
    have hslots : f.snapshot.capacity = plain.layout.slots := hcounted.capacity_eq
    rw [hslots]
    refine ⟨(layout_slots hplain).1, (layout_slots hplain).2, _,
      ⟨_, PlainFilter.decode_snapshot hplain hcounted,
        PlainFilter.ofSnapshot_snapshot hcounted hplain' hlayout words'⟩, rfl, rfl, ?_⟩
    rintro requests rfl
    exact PlainFilter.indistinguishable_of_requests hplain hf₀ rfl (congrArg Layout.hash hlayout) rfl
  · obtain ⟨f₀, hf₀⟩ := ExpiringFilter.exists_create hexpiring words
    refine ⟨f₀, hf₀, fun commands => ?_⟩
    have hcounted := ExpiringFilter.counted_run (ExpiringFilter.counted_create hf₀) commands
    have haligned := ExpiringFilter.aligned_run (ExpiringFilter.aligned_create hf₀) hexpiring commands
    intro f
    have hslots : f.snapshot.capacity = expiring.layout.slots := hcounted.capacity_eq
    obtain ⟨hcapacity, hmin, hmax⟩ := ExpiringConfig.validate_eq_ok.1 hexpiring
    have hvalid : ({ expiring with capacity := expiring.layout.slots } : ExpiringConfig).validate =
        .ok () := ExpiringConfig.validate_eq_ok.2 ⟨(layout_slots hcapacity).1, hmin, hmax⟩
    rw [hslots]
    refine ⟨hvalid, (layout_slots hcapacity).2, _,
      ⟨_, ExpiringFilter.decode_snapshot hexpiring hcounted haligned,
        ExpiringFilter.ofSnapshot_snapshot hcounted haligned hexpiring' hlayout' hminutes words'⟩,
      rfl, rfl, rfl, ?_⟩
    rintro requests rfl
    exact ExpiringFilter.indistinguishable_of_requests hexpiring hf₀ rfl
      (congrArg Layout.hash hlayout') rfl rfl (congrArg (· * 60) hminutes)

/-- Filters of eight slots, resumed under configurations that ask for seven. -/
theorem resume_invisible_small :
    (∃ f₀, PlainFilter.create { capacity := 8 } (fun _ => 0 : Nat → UInt64) = .ok f₀ ∧
      ∀ commands : List (Command Unit), let f := commands.foldl PlainFilter.execute f₀
        ({ capacity := f.snapshot.capacity } : Config).validate = .ok () ∧
          ({ capacity := f.snapshot.capacity } : Config).layout = Config.layout { capacity := 8 } ∧
          ∃ g, f.ResumesAs { capacity := 7 } (fun _ => 1 : Nat → UInt64) g ∧
            g.table.buckets = f.table.buckets ∧ g.count = f.count ∧
            ∀ requests : List (Request Key Unit), commands = requests.map .request →
              f.Indistinguishable g) ∧
    ∃ f₀, ExpiringFilter.create { capacity := 8 } (fun _ => 0 : Nat → UInt64) = .ok f₀ ∧
      ∀ commands : List (Command UInt64), let f := commands.foldl ExpiringFilter.execute f₀
        ({ capacity := f.snapshot.capacity } : ExpiringConfig).validate = .ok () ∧
          ({ capacity := f.snapshot.capacity } : ExpiringConfig).layout =
            Config.layout { capacity := 8 } ∧
          ∃ g, f.ResumesAs { capacity := 7 } (fun _ => 1 : Nat → UInt64) g ∧
            g.table.buckets = f.table.buckets ∧ g.count = f.count ∧ g.ring = f.ring ∧
            ∀ requests : List (Request Key UInt64), commands = requests.map .request →
              f.Indistinguishable g := by
  have hlayout : Config.layout { capacity := 7 } = Config.layout { capacity := 8 } :=
    congrArg (Layout.mk Murmur.hash) (by decide : bucketCount 7 = bucketCount 8)
  exact resume_invisible (fun _ => 0 : Nat → UInt64) (fun _ => 1 : Nat → UInt64)
    (show ({ capacity := 8 } : Config).validate = .ok () from rfl)
    (show ({ capacity := 7 } : Config).validate = .ok () from rfl) hlayout
    (show ({ capacity := 8 } : ExpiringConfig).validate = .ok () from rfl)
    (show ({ capacity := 7 } : ExpiringConfig).validate = .ok () from rfl) hlayout rfl

end CuckooFilter
