import CuckooFilter.Proofs.ExpiringFilter.Aging
import CuckooFilter.Proofs.Refusal

/-!
# The expiring filter is a memory

Whatever keys are hashed by, whatever words are drawn, and in whatever order timestamps come, an
expiring filter answers every request as the memory of the classes that were added to it does
(`ExpiringFilter.trace_eq_memory`). All that the memory has to be told is whether a key is refused, which
it never is if one of its buckets has an empty slot once the filter has aged (`ExpiringFilter.Grants`).
-/

namespace CuckooFilter.ExpiringFilter

variable {R : Type}

def respond [WordSource R] (f : ExpiringFilter R) (request : Request Key UInt64) :
    ExpiringFilter R × ExpiringReport :=
  let (f, answer) := f.handle request
  (f, ⟨answer, f.count, f.currentInterval, f.ring.lru⟩)

theorem not_isFull_of_hasRoom [WordSource R] {f : ExpiringFilter R} {key : Key} {timestamp : UInt64}
    (h : f.HasRoomAt key timestamp.toNat) :
    ¬ (f.respond (.add key timestamp)).2.answer.isFull := by
  intro hfull
  cases hadd : (f.add key timestamp.toNat).answer with
  | ok outcome =>
    simp only [respond, ExpiringFilter.handle, hadd] at hfull
    cases hfull
  | error full => exact (add_of_full hadd).2.2 h

/-- There is room for a key if one of its buckets has an empty slot once the filter has aged. -/
def Grants (f : ExpiringFilter R) : Request Key UInt64 → Bool → Prop
  | .add key timestamp, room => f.HasRoomAt key timestamp.toNat → room
  | .query _, _ | .delete _, _ | .clear, _ => True

namespace Represents

variable {l : Layout} {seconds : Nat} {f : ExpiringFilter R} {m : Memory (EntryClass 32)}

theorem fits (h : Represents l seconds f m) (key : Key) :
    (f.table.locate key.encoding).Fits f.table.layout :=
  h.counted.fits_locate (by decide) _

theorem entryClass_eq (h : Represents l seconds f m) (key : Key) :
    (f.table.locate key.encoding).entryClass = l.classOfKey 32 key := by
  rw [Table.entryClass_locate, h.counted.layout_eq, Layout.classOfKey]

/-- Whether the filter holds the class of a key, and if so where. -/
theorem find_cases (h : Represents l seconds f m) (key : Key) :
    (l.classOfKey 32 key ∉ m.classes ∧ f.table.find (f.table.locate key.encoding) = none) ∨
      l.classOfKey 32 key ∈ m.classes ∧
        ∃ i j, f.table.find (f.table.locate key.encoding) = some (i, j) ∧
          f.table.Holds (l.classOfKey 32 key) i j := by
  have hcases := Table.find_cases h.counted.isTableSize (h.fits key)
  rwa [h.entries_eq, Memory.fst_entries, h.entryClass_eq] at hcases

/-- A place that holds a class has the position of the interval that was last seen in. -/
theorem tag_eq (h : Represents l seconds f m) {c : EntryClass 32} {i : Nat} {j : Fin bucketSize}
    (hold : f.table.Holds c i j) : (f.table.slot i j).tag = position (m.seen c) := by
  have hmem := hold.mem_entries
  rw [h.entries_eq] at hmem
  exact (Memory.mem_entries.1 hmem).2.symm

/-- Another filter with the same buckets, count and ring. -/
theorem congr {R' : Type} {g : ExpiringFilter R'} (h : Represents l seconds f m)
    (hb : g.table.buckets = f.table.buckets) (hh : g.table.hash = f.table.hash)
    (hc : g.count = f.count) (hr : g.ring = f.ring) (hs : g.intervalSeconds = f.intervalSeconds) :
    Represents l seconds g m where
  counted := hc ▸ h.counted.congr hb hh
  seconds_eq := hs.trans h.seconds_eq
  seconds_pos := h.seconds_pos
  start_lt := h.start_lt
  entries_eq := by rw [Table.entries_congr hb hh]; exact h.entries_eq
  ring_eq := hr.trans h.ring_eq
  time_lt := h.time_lt
  wellFormed := h.wellFormed

/-- Another table and other classes, while the ring stays. -/
theorem of_table (h : Represents l seconds f m) {m' : Memory (EntryClass 32)} {t : Table 32 8 R}
    {count : Nat} (hcounted : t.Counted l count) (hent : t.entries = m'.entries)
    (hw : m'.WellFormed) (hnewest : m'.newest = m.newest) (hcursor : m'.cursor = m.cursor) :
    Represents l seconds { f with table := t, count := count } m' where
  counted := hcounted
  seconds_eq := h.seconds_eq
  seconds_pos := h.seconds_pos
  start_lt := h.start_lt
  entries_eq := hent
  ring_eq := by rw [Memory.ring, hnewest, hcursor]; exact h.ring_eq
  time_lt := hnewest ▸ h.time_lt
  wellFormed := hw

theorem query_eq (h : Represents l seconds f m) (key : Key) :
    f.query key = (m.lookup (l.classOfKey 32 key)).map position := by
  rw [query, Memory.lookup]
  obtain ⟨hc, hfind⟩ | ⟨hc, i, j, hfind, hold⟩ := h.find_cases key
  · rw [hfind, if_neg hc]
    rfl
  · rw [hfind, if_pos hc]
    exact congrArg some (h.tag_eq hold)

theorem currentInterval_eq (h : Represents l seconds f m) :
    f.currentInterval = (m.newest * seconds * nanosPerSecond, position m.newest) := by
  have htime := h.time_lt
  rw [currentInterval, h.ring_eq]
  exact Prod.ext (Nat.min_eq_left (Nat.le_sub_one_of_lt htime)) rfl

theorem delete (h : Represents l seconds f m) (key : Key) :
    (f.delete key).2 = decide (l.classOfKey 32 key ∈ m.classes) ∧
      Represents l seconds (f.delete key).1
        { m with classes := m.classes.erase (l.classOfKey 32 key) } := by
  have hcounted := counted_delete h.counted key
  rw [delete_eq] at hcounted ⊢
  obtain ⟨hc, hfind⟩ | ⟨hc, i, j, hfind, hold⟩ := h.find_cases key
  · rw [hfind, Finset.erase_eq_of_notMem hc]
    exact ⟨(decide_eq_false hc).symm, h⟩
  · rw [hfind] at hcounted ⊢
    have herase := hold.cons_entries_erase
    rw [h.tag_eq hold, h.entries_eq, ← Memory.cons_entries_erase hc, Multiset.cons_inj_right]
      at herase
    exact ⟨(decide_eq_true hc).symm, h.of_table hcounted herase (h.wellFormed.erase _) rfl rfl⟩

theorem clear (h : Represents l seconds f m) : Represents l seconds f.clear.state {} where
  counted := h.counted.clear
  seconds_eq := h.seconds_eq
  seconds_pos := h.seconds_pos
  start_lt := h.start_lt
  entries_eq := Table.entries_clear f.table
  ring_eq := congrArg Ring.start h.seconds_eq
  time_lt := h.start_lt
  wellFormed := Memory.wellFormed_empty

section Add

variable [WordSource R]

/-- A class that is remembered is seen again. -/
theorem store_of_mem (h : Represents l seconds f m) {key : Key}
    (hc : l.classOfKey 32 key ∈ m.classes) {n : Nat} (hn : Kept m.newest n) (room : Bool) :
    (f.store key (position n)).answer = (m.store (l.classOfKey 32 key) n room).2 ∧
      Represents l seconds (f.store key (position n)).state
        (m.store (l.classOfKey 32 key) n room).1 := by
  obtain ⟨hnot, -⟩ | ⟨-, i, j, hfind, hold⟩ := h.find_cases key
  · exact absurd hc hnot
  rw [store_eq, hfind, Memory.store, if_pos hc]
  generalize l.classOfKey 32 key = c at hc hold ⊢
  have hk := h.wellFormed.kept c hc
  have hcur : f.ring.current = position m.newest := by rw [h.ring_eq]; rfl
  have hdelta : max n (m.seen c) - min n (m.seen c) = ((n : Int) - m.seen c).natAbs := by omega
  dsimp only
  rw [h.tag_eq hold, Ring.distance_position hcur h.wellFormed.newest_ge hn hk, hdelta,
    Ring.isNewer_position hcur h.wellFormed.newest_ge hn hk]
  by_cases hlater : m.seen c < n
  · rw [if_pos (decide_eq_true hlater), Nat.max_eq_right hlater.le]
    have hset := hold.cons_entries_setTag (position n)
    rw [h.tag_eq hold, h.entries_eq, ← Memory.cons_entries_seen hc, Multiset.cons_inj_right] at hset
    have hupdate := h.wellFormed.update c hn
    rw [Finset.insert_eq_of_mem hc] at hupdate
    exact ⟨rfl, h.of_table (h.counted.setTag hold _) hset hupdate rfl rfl⟩
  · rw [if_neg (fun hd => hlater (of_decide_eq_true hd)), Nat.max_eq_left (Nat.not_lt.1 hlater),
      Function.update_eq_self]
    exact ⟨rfl, h⟩

/-- A class that is new is added or, if the walk gives up, nothing has changed. -/
theorem store_of_notMem (h : Represents l seconds f m) {key : Key}
    (hc : l.classOfKey 32 key ∉ m.classes) {n : Nat} (hn : Kept m.newest n) :
    ∃ room, (f.store key (position n)).answer = (m.store (l.classOfKey 32 key) n room).2 ∧
      Represents l seconds (f.store key (position n)).state
        (m.store (l.classOfKey 32 key) n room).1 := by
  obtain ⟨-, hfind⟩ | ⟨hmem, -⟩ := h.find_cases key
  swap
  · exact absurd hmem hc
  have hcounted := counted_store h.counted key (position n)
  simp only [store_eq, hfind, Memory.store, if_neg hc] at hcounted ⊢
  generalize (fun existing incoming =>
    if f.ring.isNewer incoming existing then incoming else existing) = merge at hcounted ⊢
  have hclasses : f.table.entries.map Prod.fst = m.classes.val := by
    rw [h.entries_eq, Memory.fst_entries]
  obtain ⟨p, hok, hent⟩ | ⟨hfull, hent⟩ := Table.place_cases h.counted.isTableSize (h.fits key)
    (hclasses ▸ m.classes.nodup) (by rw [hclasses, h.entryClass_eq]; exact hc) (position n) merge
  · rw [hok] at hcounted ⊢
    rw [h.entryClass_eq, h.entries_eq, ← Memory.entries_insert hc] at hent
    exact ⟨true, rfl, h.of_table hcounted hent (h.wellFormed.update _ hn) rfl rfl⟩
  · rw [hfull] at hcounted ⊢
    exact ⟨false, rfl, h.of_table hcounted (hent.trans h.entries_eq) h.wellFormed rfl rfl⟩

theorem store (h : Represents l seconds f m) (key : Key) {n : Nat} (hn : Kept m.newest n) :
    ∃ room, (f.store key (position n)).answer = (m.store (l.classOfKey 32 key) n room).2 ∧
      Represents l seconds (f.store key (position n)).state
        (m.store (l.classOfKey 32 key) n room).1 := by
  by_cases hc : l.classOfKey 32 key ∈ m.classes
  · exact ⟨true, h.store_of_mem hc hn true⟩
  · exact h.store_of_notMem hc hn

theorem add (h : Represents l seconds f m) (key : Key) (timestamp : UInt64) :
    ∃ room, (f.add key timestamp.toNat).answer =
        (m.add l.slots (l.classOfKey 32 key) (intervalAt seconds timestamp) room).2 ∧
      Represents l seconds (f.add key timestamp.toNat).state
        (m.add l.slots (l.classOfKey 32 key) (intervalAt seconds timestamp) room).1 := by
  have hn : f.interval timestamp.toNat = intervalAt seconds timestamp := by
    rw [interval_toNat, h.seconds_eq]
  have htime := intervalAt_lt seconds timestamp
  have hadd := add_of_kept f key timestamp.toNat
  have hexpired := add_of_expired f key timestamp.toNat
  rw [hn, h.seconds_eq] at hadd hexpired
  generalize intervalAt seconds timestamp = n at htime hadd hexpired ⊢
  have hwindow : n * seconds < f.ring.windowStart seconds ↔ n < m.newest - 255 := by
    rw [h.ring_eq, Memory.ring, Ring.windowStart, Nat.mul_comm seconds, ← Nat.sub_mul,
      Nat.mul_lt_mul_right h.seconds_pos]
    rfl
  rw [hwindow] at hadd hexpired
  by_cases hold : n < m.newest - 255
  · rw [hexpired hold]
    simp only [Memory.add, if_pos hold]
    exact ⟨true, trivial, h⟩
  · obtain ⟨hanswer, hstate⟩ := hadd hold
    rw [hanswer, hstate]
    simp only [Memory.add, if_neg hold]
    exact (h.age htime).store key (m.kept_age _ hold)

/-- The filter answers a request as the memory does, once that is told whether there is room. -/
theorem handle (h : Represents l seconds f m) (request : Request Key UInt64) :
    ∃ room, (f.handle request).2 = (Memory.handle l.slots m
        (request.map (l.classOfKey 32) (intervalAt seconds), room)).2 ∧
      Represents l seconds (f.handle request).1 (Memory.handle l.slots m
        (request.map (l.classOfKey 32) (intervalAt seconds), room)).1 := by
  cases request with
  | add key timestamp =>
    simp only [ExpiringFilter.handle, Request.map, Memory.handle]
    obtain ⟨room, hanswer, hrep⟩ := h.add key timestamp
    exact ⟨room, congrArg Answer.added hanswer, hrep⟩
  | query key => exact ⟨true, congrArg Answer.found (h.query_eq key), h⟩
  | delete key =>
    obtain ⟨hremoved, hdel⟩ := h.delete key
    exact ⟨true, congrArg Answer.deleted hremoved, hdel⟩
  | clear => exact ⟨true, rfl, h.clear⟩

theorem respond (h : Represents l seconds f m) (request : Request Key UInt64) :
    ∃ room, (f.respond request).2 = (Memory.respond l.slots seconds m
        (request.map (l.classOfKey 32) (intervalAt seconds), room)).2 ∧
      Represents l seconds (f.respond request).1 (Memory.respond l.slots seconds m
        (request.map (l.classOfKey 32) (intervalAt seconds), room)).1 := by
  obtain ⟨room, hanswer, hrep⟩ := h.handle request
  refine ⟨room, ?_, hrep⟩
  rw [ExpiringFilter.respond, Memory.respond]
  dsimp only
  rw [hanswer, hrep.count_eq_card, hrep.currentInterval_eq, hrep.ring_eq]
  rfl

/-- The memory need not be told of a want of room where the filter has some. -/
theorem respond_grants (h : Represents l seconds f m) (request : Request Key UInt64) :
    ∃ room, f.Grants request room ∧ (f.respond request).2 = (Memory.respond l.slots seconds m
        (request.map (l.classOfKey 32) (intervalAt seconds), room)).2 ∧
      Represents l seconds (f.respond request).1 (Memory.respond l.slots seconds m
        (request.map (l.classOfKey 32) (intervalAt seconds), room)).1 := by
  obtain ⟨room, hanswer, hrep⟩ := h.respond request
  cases request with
  | add key timestamp =>
    by_cases hroom : f.HasRoomAt key timestamp.toNat
    · have hok := not_isFull_of_hasRoom hroom
      rw [hanswer] at hok
      rw [Memory.respond_room hok] at hanswer hrep
      exact ⟨true, fun _ => rfl, hanswer, hrep⟩
    · exact ⟨room, fun h => absurd h hroom, hanswer, hrep⟩
  | query key => exact ⟨room, trivial, hanswer, hrep⟩
  | delete key => exact ⟨room, trivial, hanswer, hrep⟩
  | clear => exact ⟨room, trivial, hanswer, hrep⟩

end Add

end Represents

/-! ## Runs -/

/-- A valid configuration gives a filter that remembers nothing. -/
theorem represents_create {config : ExpiringConfig} (hv : config.validate = .ok ()) (words : R) :
    ∃ f, create config words = .ok f ∧
      Represents config.layout config.intervalSeconds f {} := by
  have hcapacity := (ExpiringConfig.validate_eq_ok.1 hv).1
  obtain ⟨hpos, hmax⟩ := ExpiringConfig.intervalSeconds_bounds hv
  have hstart : 255 * config.intervalSeconds * nanosPerSecond < 2 ^ 64 := by
    simp only [nanosPerSecond]
    omega
  refine ⟨_, by rw [create, hv], ?_⟩
  exact {
    counted := .ofSize (isTableSize_bucketCount hcapacity) _ _
    seconds_eq := rfl
    seconds_pos := hpos
    start_lt := hstart
    entries_eq := Table.entries_ofSize ..
    ring_eq := rfl
    time_lt := hstart
    wellFormed := Memory.wellFormed_empty }

theorem represents_run [WordSource R] {l : Layout} {seconds : Nat} {f : ExpiringFilter R}
    {m : Memory (EntryClass 32)} (h : Represents l seconds f m)
    (requests : List (Request Key UInt64)) :
    ∃ m', Represents l seconds ((requests.map .request).foldl execute f) m' := by
  induction requests generalizing f m with
  | nil => exact ⟨m, h⟩
  | cons request requests ih =>
    obtain ⟨room, -, hrep⟩ := h.handle request
    exact ih hrep

/-- Two filters that represent the same memory cannot be told from each other. -/
theorem trace_eq_of_represents {R' : Type} [WordSource R] [WordSource R'] {l : Layout}
    {seconds : Nat} {f : ExpiringFilter R} {g : ExpiringFilter R'} {m : Memory (EntryClass 32)}
    (hf : Represents l seconds f m) (hg : Represents l seconds g m)
    {requests : List (Request Key UInt64)}
    (hroom : ∀ report ∈ trace respond f requests, ¬ report.answer.isFull)
    (hroom' : ∀ report ∈ trace respond g requests, ¬ report.answer.isFull) :
    trace respond f requests = trace respond g requests :=
  trace_eq_trace (Request.map (l.classOfKey 32) (intervalAt seconds))
    (Represents l seconds) (Represents l seconds) (fun report => report.answer.isFull)
    (fun _ _ r h => h.respond r) (fun _ _ r h => h.respond r)
    (fun _ _ _ _ h h' => (Memory.respond_room h).trans (Memory.respond_room h').symm) hf hg
    requests hroom hroom'

/-- A new expiring filter answers every sequence of requests as the memory does that starts out empty
and is told, at each addition, whether there is room. There is, whenever one of the key's buckets has an
empty slot once the filter has aged. -/
theorem trace_eq_memory [WordSource R] {config : ExpiringConfig} (hv : config.validate = .ok ())
    (words : R) (requests : List (Request Key UInt64)) :
    ∃ f, create config words = .ok f ∧ ∃ rooms : List Bool, rooms.length = requests.length ∧
      Along respond Grants f requests rooms ∧
      trace respond f requests =
        trace (Memory.respond config.layout.slots config.intervalSeconds) {}
          ((requests.map (Request.map (config.layout.classOfKey 32)
            (intervalAt config.intervalSeconds))).zip rooms) := by
  obtain ⟨f, hf, hrep⟩ := represents_create hv words
  obtain ⟨rooms, hlen, halong, htrace⟩ := trace_simulates _
    (Represents config.layout config.intervalSeconds) Grants (fun _ _ r h => h.respond_grants r) hrep
    requests
  exact ⟨f, hf, rooms, hlen, halong, htrace⟩

/-- Two buckets, and five keys that may only be in the first, the third of which comes late: there is no
room for the fifth one. Then the first is seen again and the second once more, but as of an interval
that is no longer kept. The answers leave no other choice of rooms, but where none is asked for. -/
theorem trace_eq_memory_small :
    let config : ExpiringConfig :=
      { capacity := 8, hash := fun bytes _ => .ofNat (ofLittleEndian bytes) }
    let key (n : Nat) : Key := .bytes (littleEndian 8 (n <<< 32))
    let minute (n : Nat) := UInt64.ofNat (n * 60 * nanosPerSecond)
    let current (n : Nat) : Nat × Position := (n * 60 * nanosPerSecond, position n)
    let requests : List (Request Key UInt64) :=
      [.add (key 1) (minute 300), .add (key 2) (minute 301), .add (key 3) (minute 290),
        .add (key 4) (minute 301), .add (key 5) (minute 301), .add (key 1) (minute 302),
        .add (key 2) (minute 40), .query (key 3)]
    let reports : List ExpiringReport :=
      [⟨.added (.ok .added), 1, current 300, none⟩,
        ⟨.added (.ok .added), 2, current 301, some 44⟩,
        ⟨.added (.ok .added), 3, current 301, some 44⟩,
        ⟨.added (.ok .added), 4, current 301, some 44⟩,
        ⟨.added (.error ⟨512⟩), 4, current 301, some 44⟩,
        ⟨.added (.ok (.duplicate 2)), 4, current 302, some 34⟩,
        ⟨.added (.ok .expired), 4, current 302, some 34⟩,
        ⟨.found (some 34), 4, current 302, some 34⟩]
    ∃ f, create config (fun _ => 0 : Nat → UInt64) = .ok f ∧
      trace respond f requests = reports ∧
      ∃ room room' room'', let rooms := [true, true, true, true, false, room, room', room'']
        Along respond Grants f requests rooms ∧
        trace respond f requests = trace (Memory.respond config.layout.slots 60) {}
          ((requests.map (Request.map (config.layout.classOfKey 32) (intervalAt 60))).zip rooms) := by
  intro config key minute current requests reports
  obtain ⟨f, hf, rooms, hlen, halong, htrace⟩ := trace_eq_memory (show config.validate = .ok () from rfl)
    (fun _ => 0 : Nat → UInt64) requests
  have hreports : trace respond f requests = reports := by
    cases hf
    decide +kernel
  refine ⟨f, hf, hreports, ?_⟩
  match rooms, hlen with
  | [a, b, c, d, e, room, room', room''], _ =>
    have hrooms : a = true ∧ b = true ∧ c = true ∧ d = true ∧ e = false := by
      rw [hreports] at htrace
      clear halong
      revert a b c d e room room' room''
      decide +kernel
    obtain ⟨rfl, rfl, rfl, rfl, rfl⟩ := hrooms
    exact ⟨room, room', room'', halong, htrace⟩

end CuckooFilter.ExpiringFilter
