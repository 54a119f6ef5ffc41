import CuckooFilter.Proofs.Refusal

/-!
# The plain filter is a set of classes

Whatever keys are hashed by and whatever words are drawn, a plain filter answers every request as the
set of the classes that were added to it does (`PlainFilter.trace_eq_classSet`). Entries may be anywhere in
their buckets: the set is all that is left of the table (`PlainFilter.Represents`), but for whether a key
is refused, which it never is while one of its buckets has an empty slot (`PlainFilter.Grants`).
-/

namespace CuckooFilter

/-- What a caller sees of a plain filter after a request. -/
structure PlainReport where
  answer : Answer Bool Bool
  count : Nat
  deriving DecidableEq

/-! ## Sets of classes -/

namespace ClassSet

variable {α : Type} [DecidableEq α]

/-- A request to a set of classes, given whether there is room for another one. -/
def handle (s : Finset α) : Request α Unit × Bool → Finset α × Answer Bool Bool
  | (.add c _, room) =>
    if c ∈ s then (s, .added (.ok false))
    else if room then (insert c s, .added (.ok true))
    else (s, .added (.error ⟨maxKicks⟩))
  | (.query c, _) => (s, .found (c ∈ s))
  | (.delete c, _) => (s.erase c, .deleted (c ∈ s))
  | (.clear, _) => (∅, .cleared)

def respond (s : Finset α) (input : Request α Unit × Bool) : Finset α × PlainReport :=
  let (s, answer) := handle s input
  (s, ⟨answer, s.card⟩)

/-- Only a refusal tells that there was no room. -/
theorem respond_room {s : Finset α} {request : Request α Unit} {room : Bool}
    (h : ¬ (respond s (request, room)).2.answer.isFull) :
    respond s (request, room) = respond s (request, true) := by
  cases request with
  | add c time =>
    cases room with
    | true => rfl
    | false =>
      simp only [respond, handle] at h ⊢
      by_cases hc : c ∈ s
      · simp only [if_pos hc]
      · simp only [if_neg hc] at h
        exact absurd rfl h
  | query c => rfl
  | delete c => rfl
  | clear => rfl

end ClassSet

namespace PlainFilter

variable {R : Type}

def respond [WordSource R] (f : PlainFilter R) (request : Request Key Unit) :
    PlainFilter R × PlainReport :=
  let (f, answer) := f.handle request
  (f, ⟨answer, f.count⟩)

theorem not_isFull_of_hasRoom [WordSource R] {f : PlainFilter R} {key : Key} (h : f.HasRoom key)
    (time : Unit) : ¬ (f.respond (.add key time)).2.answer.isFull := by
  intro hfull
  cases hadd : (f.add key).answer with
  | ok outcome =>
    simp only [respond, PlainFilter.handle, hadd] at hfull
    cases hfull
  | error full => exact (add_of_full hadd).2.2 h

/-- There is room for a key if one of its buckets has an empty slot. -/
def Grants (f : PlainFilter R) : Request Key Unit → Bool → Prop
  | .add key _, room => f.HasRoom key → room
  | .query _, _ | .delete _, _ | .clear, _ => True

/-- The filter holds each class of `s` once and no other, and has counted them. -/
structure Represents (l : Layout) (f : PlainFilter R) (s : Finset (EntryClass 16)) : Prop where
  counted : f.table.Counted l f.count
  classes : f.table.entries.map Prod.fst = s.val

namespace Represents

variable {l : Layout} {f : PlainFilter R} {s : Finset (EntryClass 16)}

theorem count_eq_card (h : Represents l f s) : f.count = s.card := by
  rw [h.counted.count_eq, ← Multiset.card_map Prod.fst, h.classes, Finset.card]

theorem fits (h : Represents l f s) (key : Key) :
    (f.table.locate key.encoding).Fits f.table.layout :=
  h.counted.fits_locate (by decide) _

theorem entryClass_eq (h : Represents l f s) (key : Key) :
    (f.table.locate key.encoding).entryClass = l.classOfKey 16 key := by
  rw [Table.entryClass_locate, h.counted.layout_eq, Layout.classOfKey]

/-- Whether the filter holds the class of a key, and if so where. -/
theorem find_cases (h : Represents l f s) (key : Key) :
    (l.classOfKey 16 key ∉ s ∧ f.table.find (f.table.locate key.encoding) = none) ∨
      l.classOfKey 16 key ∈ s ∧ ∃ i j, f.table.find (f.table.locate key.encoding) = some (i, j) ∧
        f.table.Holds (l.classOfKey 16 key) i j := by
  have hcases := Table.find_cases h.counted.isTableSize (h.fits key)
  rwa [h.classes, h.entryClass_eq] at hcases

/-- Another filter with the same buckets and the same count. -/
theorem congr {R' : Type} {g : PlainFilter R'} (h : Represents l f s)
    (hb : g.table.buckets = f.table.buckets) (hh : g.table.hash = f.table.hash)
    (hc : g.count = f.count) : Represents l g s where
  counted := hc ▸ h.counted.congr hb hh
  classes := by rw [Table.entries_congr hb hh]; exact h.classes

theorem query_eq (h : Represents l f s) (key : Key) :
    f.query key = decide (l.classOfKey 16 key ∈ s) := by
  rw [query]
  obtain ⟨hc, hfind⟩ | ⟨hc, i, j, hfind, -⟩ := h.find_cases key <;> simp [hfind, hc]

theorem delete (h : Represents l f s) (key : Key) :
    (f.delete key).2 = decide (l.classOfKey 16 key ∈ s) ∧
      Represents l (f.delete key).1 (s.erase (l.classOfKey 16 key)) := by
  have hcounted := counted_delete h.counted key
  rw [delete_eq] at hcounted ⊢
  obtain ⟨hc, hfind⟩ | ⟨hc, i, j, hfind, hold⟩ := h.find_cases key
  · rw [hfind, Finset.erase_eq_of_notMem hc]
    exact ⟨(decide_eq_false hc).symm, h⟩
  · rw [hfind] at hcounted ⊢
    refine ⟨(decide_eq_true hc).symm, hcounted, ?_⟩
    have hmap := congrArg (Multiset.map Prod.fst) hold.cons_entries_erase
    rw [Multiset.map_cons, h.classes] at hmap
    rw [Finset.erase_val, ← hmap, Multiset.erase_cons_head]

theorem clear (h : Represents l f s) : Represents l f.clear.state ∅ where
  counted := h.counted.clear
  classes := congrArg (Multiset.map Prod.fst) (Table.entries_clear f.table)

section Add

variable [WordSource R]

theorem add_of_mem (h : Represents l f s) {key : Key} (hc : l.classOfKey 16 key ∈ s) :
    f.add key = { state := f, answer := .ok false } := by
  obtain ⟨hn, -⟩ | ⟨-, i, j, hfind, -⟩ := h.find_cases key
  · exact absurd hc hn
  · rw [add_eq, hfind]

/-- A class that is not there yet is added or, if the walk gives up, nothing has changed. -/
theorem add_of_notMem (h : Represents l f s) {key : Key} (hc : l.classOfKey 16 key ∉ s) :
    ((f.add key).answer = .ok true ∧
        Represents l (f.add key).state (insert (l.classOfKey 16 key) s)) ∨
      (f.add key).answer = .error ⟨maxKicks⟩ ∧ Represents l (f.add key).state s := by
  obtain ⟨-, hfind⟩ | ⟨hn, -⟩ := h.find_cases key
  swap
  · exact absurd hn hc
  have hcounted := counted_add h.counted key
  have hplace := Table.place_cases h.counted.isTableSize (h.fits key)
    (by rw [h.classes]; exact s.nodup) (by rw [h.classes, h.entryClass_eq]; exact hc) 0
    fun existing _ => existing
  rw [add_eq, hfind] at hcounted ⊢
  dsimp only at hcounted ⊢
  obtain ⟨p, hok, hent⟩ | ⟨hfull, hent⟩ := hplace
  · rw [hok] at hcounted ⊢
    refine .inl ⟨rfl, hcounted, ?_⟩
    rw [hent, Multiset.map_cons, h.classes, h.entryClass_eq, Finset.insert_val_of_notMem hc]
  · rw [hfull] at hcounted ⊢
    exact .inr ⟨rfl, hcounted, (congrArg (Multiset.map Prod.fst) hent).trans h.classes⟩

/-- The filter answers a request as the set does, once that is told whether there is room. -/
theorem handle (h : Represents l f s) (request : Request Key Unit) :
    ∃ room, (f.handle request).2 =
        (ClassSet.handle s (request.map (l.classOfKey 16) id, room)).2 ∧
      Represents l (f.handle request).1
        (ClassSet.handle s (request.map (l.classOfKey 16) id, room)).1 := by
  cases request with
  | add key time =>
    simp only [PlainFilter.handle, Request.map, ClassSet.handle]
    by_cases hc : l.classOfKey 16 key ∈ s
    · refine ⟨true, ?_⟩
      rw [h.add_of_mem hc, if_pos hc]
      exact ⟨rfl, h⟩
    · simp only [if_neg hc]
      obtain ⟨hok, hadd⟩ | ⟨hfull, hsame⟩ := h.add_of_notMem hc
      · exact ⟨true, congrArg Answer.added hok, hadd⟩
      · exact ⟨false, congrArg Answer.added hfull, hsame⟩
  | query key => exact ⟨true, congrArg Answer.found (h.query_eq key), h⟩
  | delete key =>
    obtain ⟨hremoved, hdel⟩ := h.delete key
    exact ⟨true, congrArg Answer.deleted hremoved, hdel⟩
  | clear => exact ⟨true, rfl, h.clear⟩

theorem respond (h : Represents l f s) (request : Request Key Unit) :
    ∃ room, (f.respond request).2 =
        (ClassSet.respond s (request.map (l.classOfKey 16) id, room)).2 ∧
      Represents l (f.respond request).1
        (ClassSet.respond s (request.map (l.classOfKey 16) id, room)).1 := by
  obtain ⟨room, hanswer, hrep⟩ := h.handle request
  exact ⟨room, congrArg₂ PlainReport.mk hanswer hrep.count_eq_card, hrep⟩

/-- The set need not be told of a want of room where the filter has some. -/
theorem respond_grants (h : Represents l f s) (request : Request Key Unit) :
    ∃ room, f.Grants request room ∧ (f.respond request).2 =
        (ClassSet.respond s (request.map (l.classOfKey 16) id, room)).2 ∧
      Represents l (f.respond request).1
        (ClassSet.respond s (request.map (l.classOfKey 16) id, room)).1 := by
  obtain ⟨room, hanswer, hrep⟩ := h.respond request
  cases request with
  | add key time =>
    by_cases hroom : f.HasRoom key
    · have hok := not_isFull_of_hasRoom hroom time
      rw [hanswer] at hok
      rw [ClassSet.respond_room hok] at hanswer hrep
      exact ⟨true, fun _ => rfl, hanswer, hrep⟩
    · exact ⟨room, fun h => absurd h hroom, hanswer, hrep⟩
  | query key => exact ⟨room, trivial, hanswer, hrep⟩
  | delete key => exact ⟨room, trivial, hanswer, hrep⟩
  | clear => exact ⟨room, trivial, hanswer, hrep⟩

end Add

end Represents

/-! ## Runs -/

/-- A valid configuration gives a filter that holds nothing. -/
theorem represents_create {config : Config} (hv : config.validate = .ok ()) (words : R) :
    ∃ f, create config words = .ok f ∧ Represents config.layout f ∅ := by
  refine ⟨_, by rw [create, hv], ?_⟩
  exact {
    counted := .ofSize (isTableSize_bucketCount hv) _ _
    classes := congrArg (Multiset.map Prod.fst) (Table.entries_ofSize ..) }

theorem represents_run [WordSource R] {l : Layout} {f : PlainFilter R} {s : Finset (EntryClass 16)}
    (h : Represents l f s) (requests : List (Request Key Unit)) :
    ∃ s', Represents l ((requests.map .request).foldl execute f) s' := by
  induction requests generalizing f s with
  | nil => exact ⟨s, h⟩
  | cons request requests ih =>
    obtain ⟨room, -, hrep⟩ := h.handle request
    exact ih hrep

/-- Two filters that represent the same set cannot be told from each other. -/
theorem trace_eq_of_represents {R' : Type} [WordSource R] [WordSource R'] {l : Layout}
    {f : PlainFilter R} {g : PlainFilter R'} {s : Finset (EntryClass 16)} (hf : Represents l f s)
    (hg : Represents l g s) {requests : List (Request Key Unit)}
    (hroom : ∀ report ∈ trace respond f requests, ¬ report.answer.isFull)
    (hroom' : ∀ report ∈ trace respond g requests, ¬ report.answer.isFull) :
    trace respond f requests = trace respond g requests :=
  trace_eq_trace (Request.map (l.classOfKey 16) id) (Represents l) (Represents l)
    (fun report => report.answer.isFull) (fun _ _ r h => h.respond r) (fun _ _ r h => h.respond r)
    (fun _ _ _ _ h h' => (ClassSet.respond_room h).trans (ClassSet.respond_room h').symm) hf hg
    requests hroom hroom'

/-- A new plain filter answers every sequence of requests as the set of classes does that starts out
empty and is told, at each addition, whether there is room. There is, whenever one of the key's buckets
has an empty slot. -/
theorem trace_eq_classSet [WordSource R] {config : Config} (hv : config.validate = .ok ()) (words : R)
    (requests : List (Request Key Unit)) :
    ∃ f, create config words = .ok f ∧ ∃ rooms : List Bool, rooms.length = requests.length ∧
      Along respond Grants f requests rooms ∧
      trace respond f requests = trace ClassSet.respond ∅
        ((requests.map (Request.map (config.layout.classOfKey 16) id)).zip rooms) := by
  obtain ⟨f, hf, hrep⟩ := represents_create hv words
  obtain ⟨rooms, hlen, halong, htrace⟩ := trace_simulates _ (Represents config.layout) Grants
    (fun _ _ r h => h.respond_grants r) hrep requests
  exact ⟨f, hf, rooms, hlen, halong, htrace⟩

/-- Two buckets, and five keys that may only be in the first: there is no room for the fifth one until
another is deleted. The answers leave no other choice of rooms, but where none is asked for. -/
theorem trace_eq_classSet_small :
    let config : Config := { capacity := 8, hash := fun bytes _ => .ofNat (ofLittleEndian bytes) }
    let key (n : Nat) : Key := .bytes (littleEndian 8 (n <<< 48))
    let requests : List (Request Key Unit) :=
      [.add (key 1) (), .add (key 2) (), .add (key 3) (), .add (key 4) (), .add (key 5) (),
        .delete (key 2), .add (key 5) (), .query (key 2)]
    let reports : List PlainReport :=
      [⟨.added (.ok true), 1⟩, ⟨.added (.ok true), 2⟩, ⟨.added (.ok true), 3⟩, ⟨.added (.ok true), 4⟩,
        ⟨.added (.error ⟨512⟩), 4⟩, ⟨.deleted true, 3⟩, ⟨.added (.ok true), 4⟩, ⟨.found false, 4⟩]
    ∃ f, create config (fun _ => 0 : Nat → UInt64) = .ok f ∧
      trace respond f requests = reports ∧
      ∃ room room', let rooms := [true, true, true, true, false, room, true, room']
        Along respond Grants f requests rooms ∧
        trace respond f requests = trace ClassSet.respond ∅
          ((requests.map (Request.map (config.layout.classOfKey 16) id)).zip rooms) := by
  intro config key requests reports
  obtain ⟨f, hf, rooms, hlen, halong, htrace⟩ := trace_eq_classSet (show config.validate = .ok () from rfl)
    (fun _ => 0 : Nat → UInt64) requests
  have hreports : trace respond f requests = reports := by
    cases hf
    decide +kernel
  refine ⟨f, hf, hreports, ?_⟩
  match rooms, hlen with
  | [a, b, c, d, e, room, g, room'], _ =>
    have hrooms : a = true ∧ b = true ∧ c = true ∧ d = true ∧ e = false ∧ g = true := by
      rw [hreports] at htrace
      clear halong
      revert a b c d e room g room'
      decide +kernel
    obtain ⟨rfl, rfl, rfl, rfl, rfl, rfl⟩ := hrooms
    exact ⟨room, room', halong, htrace⟩

end PlainFilter

end CuckooFilter
