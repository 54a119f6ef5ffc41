import CuckooFilter.Proofs.ExpiringFilter.Alignment
import CuckooFilter.Proofs.ExpiringFilter.Refinement

/-!
# Delayed runs

A filter does not notice that everything happens whole turns of its ring later. A timestamp that is
`256 * k` intervals later lies in an interval with the same position, and once the ring of a filter
stands as much later too, the filter does the same as before (`Delayable.observe_later`): all that it
compares and counts are differences of times. A new filter does not know how late it is until the
first key is added. What it shows after that is the same in both runs, but for the start of the
current interval (`ExpiringFilter.delay_invisible`).
-/

namespace CuckooFilter

/-- The request with its timestamp `nanos` later. -/
def Request.delay (nanos : Nat) (request : Request Key UInt64) : Request Key UInt64 :=
  request.map id fun timestamp => .ofNat (timestamp.toNat + nanos)

theorem Request.delay_of_time? {request : Request Key UInt64} (h : request.time? = none) (nanos : Nat) :
    request.delay nanos = request := by
  cases request with
  | add key timestamp => cases h
  | query key => rfl
  | delete key => rfl
  | clear => rfl

/-- The report with the start of the current interval `nanos` later. -/
def ExpiringReport.delay (nanos : Nat) (report : ExpiringReport) : ExpiringReport :=
  { report with currentInterval := (report.currentInterval.1 + nanos, report.currentInterval.2) }

/-- How long a ring takes for `k` turns, where an interval takes `seconds`. -/
def turns (k seconds : Nat) : Nat :=
  256 * k * seconds

/-- How long that is in nanoseconds. -/
def turnNanos (k seconds : Nat) : Nat :=
  turns k seconds * nanosPerSecond

theorem start_add_turns (n k seconds : Nat) :
    (n + 256 * k) * seconds = n * seconds + turns k seconds :=
  Nat.add_mul ..

/-- Whole turns later the position is the same. -/
theorem position_add_turns (n k : Nat) : position (n + 256 * k) = position n := by
  rw [← BitVec.toNat_inj, toNat_position, toNat_position, Nat.add_mul_mod_self_left]

namespace ExpiringFilter

variable {R : Type}

/-- The filter with its ring `seconds` later. -/
def later (f : ExpiringFilter R) (seconds : Nat) : ExpiringFilter R :=
  { f with ring := { f.ring with time := f.ring.time + seconds } }

/-- Two operations have the same answer, and the second leaves its filter `d` seconds later. -/
structure EndsLater {α : Type} (d : Nat) (step step' : Step (ExpiringFilter R) α) : Prop where
  answer_eq : step'.answer = step.answer
  state_eq : step'.state = step.state.later d

/-! ## Operations of a filter with a later ring -/

section Later

variable (f : ExpiringFilter R) (d : Nat)

@[simp] theorem table_later : (f.later d).table = f.table := rfl
@[simp] theorem count_later : (f.later d).count = f.count := rfl
@[simp] theorem intervalSeconds_later : (f.later d).intervalSeconds = f.intervalSeconds := rfl
@[simp] theorem interval_later : (f.later d).interval = f.interval := rfl
@[simp] theorem overloaded_later : (f.later d).overloaded = f.overloaded := rfl
@[simp] theorem isNewer_later : (f.later d).ring.isNewer = f.ring.isNewer := rfl
@[simp] theorem distance_later : (f.later d).ring.distance = f.ring.distance := rfl
@[simp] theorem sweepPosition_later (t : Table 32 8 R) :
    sweepPosition (f.later d).ring t = sweepPosition f.ring t := rfl

/-- How many intervals have elapsed is a difference of times. -/
theorem advance_later (time : Nat) (position : Position) :
    ((f.later d).advance (time + d) position).state = (f.advance time position).state.later d := by
  have helapsed : time + d - (f.later d).ring.time = time - f.ring.time :=
    Nat.add_sub_add_right time d f.ring.time
  rw [state_advance, state_advance, helapsed]
  rfl

theorem sweep_later : (f.later d).sweep.state = f.sweep.state.later d := by
  rw [state_sweep, state_sweep, sweepPosition_later, table_later]
  cases sweepPosition f.ring f.table with
  | none => rfl
  | some position => rfl

theorem caughtUp_later (time : Nat) (position : Position) :
    (f.later d).caughtUp (time + d) position = (f.caughtUp time position).later d := by
  have hlater : (f.later d).ring.time < time + d ↔ f.ring.time < time := Nat.add_lt_add_iff_right
  unfold caughtUp
  by_cases h : f.ring.time < time
  · rw [if_pos h, if_pos (hlater.2 h), advance_later]
  · rw [if_neg h, if_neg (mt hlater.1 h)]

theorem age_later (time : Nat) (position : Position) :
    ((f.later d).age (time + d) position).state = (f.age time position).state.later d := by
  rw [age_eq_caughtUp, age_eq_caughtUp, caughtUp_later, overloaded_later, sweep_later]
  split
  · rfl
  · rfl

theorem delete_later (key : Key) :
    (f.later d).delete key = ((f.delete key).1.later d, (f.delete key).2) := by
  rw [delete_eq, delete_eq, table_later]
  cases f.table.find (f.table.locate key.encoding) with
  | none => rfl
  | some place => rfl

variable [WordSource R]

/-- Tags are compared by their recency, in which only the position of the ring counts. -/
theorem store_later (key : Key) (position : Position) :
    EndsLater d (f.store key position) ((f.later d).store key position) := by
  rw [store_eq, store_eq, table_later, isNewer_later, distance_later, count_later]
  cases f.table.find (f.table.locate key.encoding) with
  | some place =>
    by_cases hnewer : f.ring.isNewer position (f.table.slot place.1 place.2).tag
    · simp only [if_pos hnewer]
      exact ⟨rfl, rfl⟩
    · simp only [if_neg hnewer]
      exact ⟨rfl, rfl⟩
  | none =>
    dsimp only
    generalize f.table.place (f.table.locate key.encoding) position _ = placed
    cases placed.answer with
    | error full => exact ⟨rfl, rfl⟩
    | ok placement => exact ⟨rfl, rfl⟩

end Later

/-! ## Adding a key whole turns later -/

section Add

variable {f g : ExpiringFilter R}

theorem interval_add_turns (hpos : 0 < f.intervalSeconds) (timestamp k : Nat) :
    f.interval (timestamp + turnNanos k f.intervalSeconds) =
      f.interval timestamp + 256 * k := by
  rw [interval, interval, turnNanos, turns, Nat.add_mul_div_right _ _ (by decide),
    Nat.add_mul_div_right _ _ hpos]

theorem windowStart_later (f : ExpiringFilter R) (d : Nat) {seconds : Nat}
    (h : 255 * seconds ≤ f.ring.time) :
    (f.later d).ring.windowStart seconds = f.ring.windowStart seconds + d := by
  have hle : seconds * (ringSize - 1) ≤ f.ring.time := by
    rwa [Nat.mul_comm]
  exact Nat.sub_add_comm hle

variable [WordSource R]

/-- A key is added alike to filters that keep its interval, if their aging leads to the same. -/
theorem add_of_age_later (hs : g.intervalSeconds = f.intervalSeconds) (hpos : 0 < f.intervalSeconds)
    (key : Key) (timestamp k : Nat)
    (hkept : ¬ f.interval timestamp * f.intervalSeconds < f.ring.windowStart f.intervalSeconds)
    (hkept' : ¬ f.interval timestamp * f.intervalSeconds + turns k f.intervalSeconds <
      g.ring.windowStart f.intervalSeconds)
    (hage : (g.age (f.interval timestamp * f.intervalSeconds + turns k f.intervalSeconds)
        (position (f.interval timestamp))).state =
      (f.age (f.interval timestamp * f.intervalSeconds)
        (position (f.interval timestamp))).state.later (turns k f.intervalSeconds)) :
    EndsLater (turns k f.intervalSeconds) (f.add key timestamp)
      (g.add key (timestamp + turnNanos k f.intervalSeconds)) := by
  have hinterval : g.interval (timestamp + turnNanos k f.intervalSeconds) =
      f.interval timestamp + 256 * k := by
    rw [← hs] at hpos ⊢
    rw [interval_add_turns hpos, interval, interval, hs]
  have hold : ¬ g.interval (timestamp + turnNanos k f.intervalSeconds) *
      g.intervalSeconds < g.ring.windowStart g.intervalSeconds := by
    rwa [hinterval, hs, start_add_turns]
  obtain ⟨hanswer, hstate⟩ := add_of_kept f key timestamp hkept
  obtain ⟨hanswer', hstate'⟩ := add_of_kept g key _ hold
  rw [hinterval, hs, start_add_turns, position_add_turns, hage] at hanswer' hstate'
  have hstore := store_later
    (f.age (f.interval timestamp * f.intervalSeconds) (position (f.interval timestamp))).state
    (turns k f.intervalSeconds) key (position (f.interval timestamp))
  exact ⟨by rw [hanswer', hstore.answer_eq, hanswer], by rw [hstate', hstore.state_eq, hstate]⟩

/-- Once the window of a filter has its full length, the same keys are too old whole turns later. -/
theorem add_later (hpos : 0 < f.intervalSeconds) (hstart : 255 * f.intervalSeconds ≤ f.ring.time)
    (key : Key) (timestamp k : Nat) :
    EndsLater (turns k f.intervalSeconds) (f.add key timestamp)
      ((f.later (turns k f.intervalSeconds)).add key
        (timestamp + turnNanos k f.intervalSeconds)) := by
  have hwindow := windowStart_later f (turns k f.intervalSeconds) hstart
  by_cases hold : f.interval timestamp * f.intervalSeconds < f.ring.windowStart f.intervalSeconds
  · rw [add_of_expired f key timestamp hold, add_of_expired]
    · exact ⟨rfl, rfl⟩
    · rw [intervalSeconds_later, interval_later, interval_add_turns hpos, hwindow, start_add_turns]
      exact Nat.add_lt_add_right hold _
  · refine add_of_age_later (intervalSeconds_later ..) hpos key timestamp k hold ?_ ?_
    · rw [hwindow]
      exact mt Nat.lt_of_add_lt_add_right hold
    · exact age_later ..

end Add

/-! ## The first key -/

namespace Represents

variable {l : Layout} {seconds : Nat} {f : ExpiringFilter R}

theorem liveTags_eq_nil (h : Represents l seconds f {}) : f.table.liveTags = [] := by
  have hent : f.table.entries = 0 := h.entries_eq
  have htags := Table.snd_entries f.table
  rw [hent, Multiset.map_zero] at htags
  exact (Multiset.coe_eq_zero _).1 htags.symm

/-- A filter that is empty has nothing to forget: the first key takes it to its interval, where it then
is as if it had always been there. -/
theorem age_of_empty (h : Represents l seconds f {}) {n : Nat} (hn : 255 ≤ n) :
    (f.age (n * seconds) (position n)).state = { f with ring := ⟨position n, n * seconds, none⟩ } := by
  have hzero : f.count = 0 := h.count_eq_card
  have hcaught : f.caughtUp (n * seconds) (position n) =
      { f with ring := ⟨position n, n * seconds, none⟩ } := by
    unfold ExpiringFilter.caughtUp
    split
    · have hnone (ring : Ring) : oldestLive ring f.table = none :=
        oldestLive_eq_none.2 h.liveTags_eq_nil
      have hpruned (elapsed : Nat) : f.pruneElapsed elapsed (position n) = (f.table, 0) :=
        if_pos hzero
      rw [state_advance, hpruned]
      dsimp only
      rw [hnone]
      rfl
    · rename_i hlater
      have hle : n ≤ 255 := Nat.not_lt.1 (mt h.later_iff.2 hlater)
      obtain rfl := Nat.le_antisymm hle hn
      have hring : f.ring = ⟨position 255, 255 * seconds, none⟩ := h.ring_eq
      rw [← hring]
  have hover : f.overloaded = false := by
    have hslots : 0 < l.slots := Nat.mul_pos h.counted.size.pos (by decide)
    refine Bool.eq_false_iff.2 fun hover => ?_
    have hload := (overloaded_iff h.counted).1 hover
    omega
  rw [age_eq_caughtUp, hcaught]
  exact if_neg (Bool.eq_false_iff.1 hover)

variable [WordSource R]

theorem add_of_empty (h : Represents l seconds f {}) (key : Key) {timestamp : Nat}
    (hfirst : 255 ≤ f.interval timestamp) (k : Nat) :
    EndsLater (turns k f.intervalSeconds) (f.add key timestamp)
      (f.add key (timestamp + turnNanos k f.intervalSeconds)) := by
  have hs := h.seconds_eq
  have hwindow : f.ring.windowStart f.intervalSeconds = 0 := by
    have hring : f.ring.time = 255 * seconds := congrArg Ring.time h.ring_eq
    rw [Ring.windowStart, hring, hs, Nat.mul_comm]
    exact Nat.sub_self _
  refine add_of_age_later rfl (hs ▸ h.seconds_pos) key timestamp k ?_ ?_ ?_
  · rw [hwindow]
    exact Nat.not_lt_zero _
  · rw [hwindow]
    exact Nat.not_lt_zero _
  · have hage := h.age_of_empty (Nat.le_add_right_of_le hfirst (k := 256 * k))
    rw [position_add_turns, start_add_turns] at hage
    rw [hs, hage, h.age_of_empty hfirst]
    rfl

end Represents

/-! ## Runs -/

section Runs

variable {config : ExpiringConfig} {f : ExpiringFilter R} {k : Nat}

/-- What a filter shows after a request: a report and the image of its table. -/
def observe [WordSource R] (f : ExpiringFilter R) (request : Request Key UInt64) :
    ExpiringFilter R × (ExpiringReport × Bytes) :=
  let (f, report) := f.respond request
  (f, report, f.table.toBytes)

/-- The filter came from a new one, and so did the one that stands `k` turns later. -/
structure Delayable (config : ExpiringConfig) (k : Nat) (f : ExpiringFilter R) : Prop where
  represents : ∃ m, Represents config.layout config.intervalSeconds f m
  aligned : (f.later (turns k config.intervalSeconds)).Aligned config

/-- A delayed request to add a key adds it at the later timestamp, which fits in 64 bits. -/
theorem handle_delay_add [WordSource R] {g : ExpiringFilter R} {d nanos : Nat} {key : Key}
    {timestamp : UInt64} (hmax : timestamp.toNat + nanos < 2 ^ 64)
    (h : EndsLater d (f.add key timestamp.toNat) (g.add key (timestamp.toNat + nanos))) :
    g.handle (Request.delay nanos (.add key timestamp)) =
      ((f.handle (.add key timestamp)).1.later d, (f.handle (.add key timestamp)).2) := by
  have hlater : (UInt64.ofNat (timestamp.toNat + nanos)).toNat = timestamp.toNat + nanos :=
    UInt64.toNat_ofNat_of_lt' hmax
  simp only [Request.delay, Request.map, id_eq, handle, hlater, h.answer_eq, h.state_eq]

namespace Delayable

theorem seconds_eq (h : f.Delayable config k) : f.intervalSeconds = config.intervalSeconds := by
  obtain ⟨m, hm⟩ := h.represents
  exact hm.seconds_eq

/-- As the later ring's time in nanoseconds fits in 64 bits, neither filter shows a smaller one. -/
theorem currentInterval_later (h : f.Delayable config k) :
    (f.later (turns k config.intervalSeconds)).currentInterval =
      (f.currentInterval.1 + turnNanos k config.intervalSeconds, f.currentInterval.2) := by
  have htime : (f.ring.time + turns k config.intervalSeconds) * nanosPerSecond < 2 ^ 64 :=
    (ringFits_iff.1 h.aligned.ring_fits).2.2
  have hle : f.ring.time * nanosPerSecond ≤ 2 ^ 64 - 1 := by
    rw [Nat.add_mul] at htime
    omega
  rw [currentInterval, currentInterval]
  refine Prod.ext ?_ rfl
  show min ((f.ring.time + turns k config.intervalSeconds) * nanosPerSecond) (2 ^ 64 - 1) =
    min (f.ring.time * nanosPerSecond) (2 ^ 64 - 1) + turnNanos k config.intervalSeconds
  rw [Nat.min_eq_left (Nat.le_sub_one_of_lt htime), Nat.min_eq_left hle, Nat.add_mul, turnNanos]

variable [WordSource R] {request : Request Key UInt64}

theorem handle_later (h : f.Delayable config k) (hclear : request ≠ .clear)
    (hmax : ∀ timestamp ∈ request.time?,
      timestamp.toNat + turnNanos k config.intervalSeconds < 2 ^ 64) :
    (f.later (turns k config.intervalSeconds)).handle
        (request.delay (turnNanos k config.intervalSeconds)) =
      ((f.handle request).1.later (turns k config.intervalSeconds), (f.handle request).2) := by
  obtain ⟨m, hm⟩ := h.represents
  have hs := h.seconds_eq
  cases request with
  | add key timestamp =>
    have hpos : 0 < f.intervalSeconds := hs ▸ hm.seconds_pos
    have hstart : 255 * f.intervalSeconds ≤ f.ring.time := by
      rw [hm.ring_eq, hs]
      exact Nat.mul_le_mul_right _ hm.wellFormed.newest_ge
    have hadd := add_later hpos hstart key timestamp.toNat k
    rw [hs] at hadd
    exact handle_delay_add (hmax timestamp rfl) hadd
  | query key => rfl
  | delete key =>
    simp only [Request.delay, Request.map, id_eq, ExpiringFilter.handle, delete_later]
  | clear => exact absurd rfl hclear

end Delayable

variable [WordSource R]

/-- Where a filter is led by a request to where another one is `k` turns later, both show the same, but
for the start of the current interval, and the latter can be delayed. -/
theorem observe_of_handle {g : ExpiringFilter R} {request request' : Request Key UInt64}
    (hv : config.validate = .ok ())
    (hf : ∃ m, Represents config.layout config.intervalSeconds f m) (hg : g.Aligned config)
    (h : g.handle request' =
      ((f.handle request).1.later (turns k config.intervalSeconds), (f.handle request).2)) :
    (f.observe request).1.Delayable config k ∧
      g.observe request' = ((f.observe request).1.later (turns k config.intervalSeconds),
        (f.observe request).2.map (.delay (turnNanos k config.intervalSeconds)) id) := by
  obtain ⟨m, hm⟩ := hf
  obtain ⟨room, -, hrep⟩ := hm.handle request
  have haligned := aligned_execute hg hv (.request request')
  rw [execute, h] at haligned
  have hnext : (f.handle request).1.Delayable config k := ⟨⟨_, hrep⟩, haligned⟩
  refine ⟨hnext, ?_⟩
  rw [observe, observe, respond, respond, h]
  dsimp only
  rw [hnext.currentInterval_later]
  rfl

/-- One step of a filter that stands `k` turns later. -/
theorem Delayable.observe_later (h : f.Delayable config k) (hv : config.validate = .ok ())
    {request : Request Key UInt64} (hclear : request ≠ .clear)
    (hmax : ∀ timestamp ∈ request.time?,
      timestamp.toNat + turnNanos k config.intervalSeconds < 2 ^ 64) :
    (f.observe request).1.Delayable config k ∧
      (f.later (turns k config.intervalSeconds)).observe
          (request.delay (turnNanos k config.intervalSeconds)) =
        ((f.observe request).1.later (turns k config.intervalSeconds),
          (f.observe request).2.map (.delay (turnNanos k config.intervalSeconds)) id) :=
  observe_of_handle hv h.represents h.aligned (h.handle_later hclear hmax)

/-- By induction on the requests, each of which leads both filters on. -/
theorem Delayable.trace_later (h : f.Delayable config k) (hv : config.validate = .ok ())
    {requests : List (Request Key UInt64)} (hclear : .clear ∉ requests)
    (hmax : ∀ request ∈ requests, ∀ timestamp ∈ request.time?,
      timestamp.toNat + turnNanos k config.intervalSeconds < 2 ^ 64) :
    trace observe (f.later (turns k config.intervalSeconds))
        (requests.map (.delay (turnNanos k config.intervalSeconds))) =
      (trace observe f requests).map
        (Prod.map (.delay (turnNanos k config.intervalSeconds)) id) := by
  induction requests generalizing f with
  | nil => rfl
  | cons request requests ih =>
    rw [List.mem_cons, not_or] at hclear
    rw [List.forall_mem_cons] at hmax
    obtain ⟨hnext, hobserve⟩ := h.observe_later hv (Ne.symm hclear.1) hmax.1
    rw [List.map_cons, trace, trace, List.map_cons, hobserve, ih hnext hclear.2 hmax.2]

/-- Before a key was added, nothing changes an empty filter. -/
theorem Represents.state_observe_of_empty {l : Layout} {seconds : Nat} (h : Represents l seconds f {})
    {request : Request Key UInt64} (htime : request.time? = none) (hclear : request ≠ .clear) :
    (f.observe request).1 = f := by
  cases request with
  | add key timestamp => cases htime
  | query key => rfl
  | delete key =>
    obtain ⟨-, hfind⟩ | ⟨hmem, -⟩ := h.find_cases key
    · show (f.delete key).1 = f
      rw [delete_eq, hfind]
    · exact absurd hmem (Finset.notMem_empty _)
  | clear => exact absurd rfl hclear

/-- The first key leads an empty filter to where it leads it whole turns later. -/
theorem Represents.handle_of_empty (h : Represents config.layout config.intervalSeconds f {})
    (key : Key) {timestamp : UInt64} (hfirst : 255 ≤ intervalAt config.intervalSeconds timestamp)
    (hmax : timestamp.toNat + turnNanos k config.intervalSeconds < 2 ^ 64) :
    f.handle (Request.delay (turnNanos k config.intervalSeconds) (.add key timestamp)) =
      ((f.handle (.add key timestamp)).1.later (turns k config.intervalSeconds),
        (f.handle (.add key timestamp)).2) := by
  have hinterval : 255 ≤ f.interval timestamp.toNat := by
    rwa [interval_toNat, h.seconds_eq]
  have hadd := h.add_of_empty key hinterval k
  rw [h.seconds_eq] at hadd
  exact handle_delay_add hmax hadd

/-- By induction on the requests before the first key is added, which leave the filter as it is. -/
theorem Represents.trace_of_empty (h : Represents config.layout config.intervalSeconds f {})
    (haligned : f.Aligned config) (hv : config.validate = .ok ()) (k : Nat)
    {requests : List (Request Key UInt64)} (hclear : .clear ∉ requests)
    (hfirst : ∀ first ∈ requests.findSome? Request.time?,
      255 ≤ intervalAt config.intervalSeconds first)
    (hmax : ∀ request ∈ requests, ∀ timestamp ∈ request.time?,
      timestamp.toNat + turnNanos k config.intervalSeconds < 2 ^ 64) :
    trace observe f (requests.map (.delay (turnNanos k config.intervalSeconds))) =
      (trace observe f requests).take (requests.findIdx (·.time?.isSome)) ++
        ((trace observe f requests).drop (requests.findIdx (·.time?.isSome))).map
          (Prod.map (.delay (turnNanos k config.intervalSeconds)) id) := by
  induction requests with
  | nil => rfl
  | cons request requests ih =>
    rw [List.mem_cons, not_or] at hclear
    rw [List.forall_mem_cons] at hmax
    rw [List.map_cons, trace, trace, List.findIdx_cons]
    cases htime : request.time? with
    | none =>
      rw [List.findSome?_cons, htime] at hfirst
      rw [Request.delay_of_time? htime, h.state_observe_of_empty htime (Ne.symm hclear.1),
        ih hclear.2 hfirst hmax.2]
      rfl
    | some timestamp =>
      rw [List.findSome?_cons, htime] at hfirst
      cases request with
      | add key first =>
        obtain rfl := Option.some.inj htime
        have hhandle := h.handle_of_empty key (hfirst first rfl) (hmax.1 first rfl)
        obtain ⟨hnext, hobserve⟩ := observe_of_handle hv ⟨{}, h⟩ haligned hhandle
        rw [hobserve, hnext.trace_later hv hclear.2 hmax.2]
        rfl
      | query key => cases htime
      | delete key => cases htime
      | clear => cases htime

/-- A run that adds its first key in interval 255 or later, and the same run `k` turns of the ring later,
show the same after every request: before the first key is added without exception, and then but for
the start of the current interval, which is as much later. -/
theorem delay_invisible (hv : config.validate = .ok ()) (words : R) (k : Nat)
    {requests : List (Request Key UInt64)} (hclear : .clear ∉ requests)
    (hfirst : ∀ first ∈ requests.findSome? Request.time?,
      255 ≤ intervalAt config.intervalSeconds first)
    (hmax : ∀ request ∈ requests, ∀ timestamp ∈ request.time?,
      timestamp.toNat + 256 * k * config.intervalSeconds * nanosPerSecond < 2 ^ 64) :
    ∃ f, create config words = .ok f ∧
      let nanos := 256 * k * config.intervalSeconds * nanosPerSecond
      let shown := trace observe f requests
      let idle := requests.findIdx (·.time?.isSome)
      trace observe f (requests.map (.delay nanos)) =
        shown.take idle ++ (shown.drop idle).map (Prod.map (.delay nanos) id) := by
  obtain ⟨f, hf, hempty⟩ := represents_create hv words
  exact ⟨f, hf, hempty.trace_of_empty (aligned_create hf) hv k hclear hfirst hmax⟩

/-- Intervals of a minute, one turn of the ring, and keys that are seen in the intervals 300, 290 and 20;
the last of these is too old in either run. -/
theorem delay_invisible_small :
    let minute (n : Nat) : UInt64 := .ofNat (n * 60 * nanosPerSecond)
    let run (turn : Nat) : List (Request Key UInt64) :=
      [.query (.text "a"), .add (.text "a") (minute (256 * turn + 300)),
        .add (.text "b") (minute (256 * turn + 290)), .add (.text "c") (minute (256 * turn + 20)),
        .delete (.text "a")]
    ∃ f, create { capacity := 8 } (fun _ => 0 : Nat → UInt64) = .ok f ∧
      trace observe f (run 1) = (trace observe f (run 0)).take 1 ++
        ((trace observe f (run 0)).drop 1).map
          (Prod.map (.delay (256 * 60 * nanosPerSecond)) id) := by
  intro minute run
  have hclear : .clear ∉ run 0 := by simp [run]
  have hfirst : ∀ first ∈ (run 0).findSome? Request.time?, 255 ≤ intervalAt 60 first := by
    intro first hmem
    obtain rfl := Option.some.inj hmem
    decide
  have hmax : ∀ request ∈ run 0, ∀ timestamp ∈ request.time?,
      timestamp.toNat + 256 * 1 * 60 * nanosPerSecond < 2 ^ 64 := by
    intro request hrequest timestamp htime
    simp only [run, List.mem_cons, List.not_mem_nil, or_false] at hrequest
    rcases hrequest with rfl | rfl | rfl | rfl | rfl
    · cases htime
    · obtain rfl := Option.some.inj htime
      decide
    · obtain rfl := Option.some.inj htime
      decide
    · obtain rfl := Option.some.inj htime
      decide
    · cases htime
  exact delay_invisible (show ({ capacity := 8 } : ExpiringConfig).validate = .ok () from rfl)
    (fun _ => 0 : Nat → UInt64) 1 hclear hfirst hmax

end Runs

end ExpiringFilter

end CuckooFilter
