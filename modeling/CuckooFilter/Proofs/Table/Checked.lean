import CuckooFilter.Proofs.Table.Occupancy

/-!
# Operations of a table that check each step

A machine with words of 64 bits fails where a bucket is asked for that a table does not have, where
bytes are read beyond the end of an image, where a number is divided by zero, and where a result is
negative or too large for a word; it also fails where an assertion does not hold. Each operation named
with a question mark is the one without it, but that gives `none` where such a machine would fail. None
of them does:

* `ofSize?_eq`: a table has a power of two of buckets;
* `locate?_eq`, `find?_eq`, `remove?_eq`: the buckets of a key are buckets of the table;
* `walk?_eq`, `place?_eq`: so are all those that a relocation walk comes to, and those it goes back to,
  where it is left with the entry that was to be placed;
* `restore?_eq`: an image of the right length has the bytes of all slots;
* `Counted.word?_eq`, `Counted.countDown?_eq`: the number of entries is a word, and is not counted down
  from zero.
-/

namespace CuckooFilter

/-! ## Arithmetic -/

section Arithmetic

variable {α : Type}

/-- A result, if a condition holds. -/
def check (p : Prop) [Decidable p] (result : α) : Option α :=
  if p then some result else none

theorem check_eq {p : Prop} [Decidable p] (h : p) (result : α) : check p result = some result :=
  if_pos h

/-- A result that has to fit in a word. -/
def word? (n : Nat) : Option Nat :=
  check (n < 2 ^ 64) n

/-- A difference that must not be negative. -/
def sub? (m n : Nat) : Option Nat :=
  check (n ≤ m) (m - n)

def div? (m n : Nat) : Option Nat :=
  check (0 < n) (m / n)

def mod? (m n : Nat) : Option Nat :=
  check (0 < n) (m % n)

end Arithmetic

/-! ## Images of buckets -/

namespace Bucket

variable {w v : Nat}

/-- The bits stored in the bytes from `start` on, which have to be there. -/
def field? (bits start : Nat) (bytes : Bytes) : Option (BitVec bits) :=
  check (start + bits / 8 ≤ bytes.length)
    (BitVec.ofNat bits (ofLittleEndian ((bytes.drop start).take (bits / 8))))

/-- Slot number `i` of a bucket, from the bucket's image. -/
def slot? (image : Bytes) (i : Fin bucketSize) : Option (Slot w v) := do
  let fingerprint ← field? w (i * (w / 8)) image
  let tag ← field? v (bucketSize * (w / 8) + i * (v / 8)) image
  pure { fingerprint, tag }

def ofBytes? (image : Bytes) : Option (Bucket w v) := do
  let slots ← Vector.ofFnM (slot? image)
  pure { slots }

def readArray? : (count : Nat) → Bytes → Array (Bucket w v) → Option (Array (Bucket w v))
  | 0, _, read => pure read
  | count + 1, bytes, read => do
    let bucket ← ofBytes? (bytes.take (imageSize w v))
    readArray? count (bytes.drop (imageSize w v)) (read.push bucket)

/-- Both fields of a slot are in the bucket's image, the tag after all fingerprints. -/
theorem slot?_eq {image : Bytes} (h : image.length = imageSize w v) (i : Fin bucketSize) :
    slot? image i = some (⟨field w i image, field v i (image.drop (bucketSize * (w / 8)))⟩ :
      Slot w v) := by
  have hfield : ∀ k, i * k + k ≤ bucketSize * k := by
    intro k
    rw [← Nat.succ_mul]
    exact Nat.mul_le_mul_right k i.isLt
  have hfingerprint := hfield (w / 8)
  have htag := hfield (v / 8)
  rw [imageSize, Nat.mul_add] at h
  have hfits : i * (w / 8) + w / 8 ≤ image.length := by omega
  have hfits' : bucketSize * (w / 8) + i * (v / 8) + v / 8 ≤ image.length := by omega
  simp only [slot?, field?, check_eq hfits, check_eq hfits', field, List.drop_drop,
    Option.bind_eq_bind, Option.bind_some, Option.pure_def]

theorem ofBytes?_eq {image : Bytes} (h : image.length = imageSize w v) :
    ofBytes? image = some (ofBytes image : Bucket w v) := by
  have hslots : slot? image = fun i : Fin bucketSize => (pure ⟨field w i image,
      field v i (image.drop (bucketSize * (w / 8)))⟩ : Option (Slot w v)) := funext (slot?_eq h)
  rw [ofBytes?, hslots, Vector.ofFnM_pure]
  rfl

theorem readArray?_eq {count : Nat} {bytes : Bytes} (h : bytes.length = count * imageSize w v)
    (read : Array (Bucket w v)) :
    readArray? count bytes read = some (readArray count bytes read) := by
  induction count generalizing bytes read with
  | zero => rfl
  | succ count ih =>
    rw [Nat.succ_mul] at h
    have htake : (bytes.take (imageSize w v)).length = imageSize w v := by
      rw [List.length_take]
      omega
    have hdrop : (bytes.drop (imageSize w v)).length = count * imageSize w v := by
      rw [List.length_drop]
      omega
    rw [readArray?, ofBytes?_eq htake]
    exact ih hdrop _

end Bucket

namespace Table

variable {w v : Nat} {R : Type} {t : Table w v R}

/-! ## Buckets of a key -/

/-- The number of a bucket that the table has to have. -/
def index? (t : Table w v R) (i : Nat) : Option Nat :=
  check (i < t.size) i

/-- A bucket that the table has to have. -/
def bucket? (t : Table w v R) (i : Nat) : Option (Bucket w v) :=
  check (i < t.size) (t.bucket i)

/-- A slot of a bucket that the table has to have. -/
def slot? (t : Table w v R) (i : Nat) (j : Fin bucketSize) : Option (Slot w v) :=
  check (i < t.size) (t.slot i j)

def alternate? (t : Table w v R) (i : Nat) (f : Fingerprint w) : Option Nat :=
  t.index? (t.alternate i f)

def locate? (t : Table w v R) (key : Bytes) : Option (Candidates w) := do
  let hash := t.hash key hashSeed
  let fingerprint := Fingerprint.ofHash w hash
  let primary ← mod? hash.toNat t.size
  let primary ← t.index? primary
  let secondary ← t.alternate? primary fingerprint
  pure { fingerprint, primary, secondary }

def find? (t : Table w v R) (c : Candidates w) : Option (Option (Nat × Fin bucketSize)) := do
  let primary ← t.bucket? c.primary
  match primary.lookup c.fingerprint with
  | some i => pure (some (c.primary, i))
  | none =>
    let secondary ← t.bucket? c.secondary
    pure ((secondary.lookup c.fingerprint).map fun i => (c.secondary, i))

def remove? (t : Table w v R) (c : Candidates w) : Option (Table w v R × Bool) := do
  let primary ← t.bucket? c.primary
  match primary.erase c.fingerprint with
  | some b => pure (t.setBucket c.primary b, true)
  | none =>
    let secondary ← t.bucket? c.secondary
    match secondary.erase c.fingerprint with
    | some b => pure (t.setBucket c.secondary b, true)
    | none => pure (t, false)

theorem bucket?_eq {i : Nat} (hi : i < t.size) : t.bucket? i = some (t.bucket i) :=
  check_eq hi _

theorem alternate?_eq (ht : IsTableSize t.size) {i : Nat} (hi : i < t.size) (f : Fingerprint w) :
    t.alternate? i f = some (t.alternate i f) :=
  check_eq (alternate_lt ht _ hi) _

theorem locate?_eq (ht : IsTableSize t.size) (key : Bytes) :
    t.locate? key = some (t.locate key) := by
  have hlt := Nat.mod_lt (t.hash key hashSeed).toNat ht.pos
  simp only [locate?, mod?, index?, check_eq ht.pos, check_eq hlt, alternate?_eq ht hlt,
    Option.bind_eq_bind, Option.bind_some]
  rfl

section Candidates

variable {c : Candidates w}

theorem find?_eq (ht : IsTableSize t.size) (hc : c.Fits t.layout) : t.find? c = some (t.find c) := by
  simp only [find?, find, bucket?_eq hc.primary_lt, bucket?_eq (hc.secondary_lt ht),
    Option.bind_eq_bind, Option.bind_some]
  cases (t.bucket c.primary).lookup c.fingerprint <;> rfl

theorem remove?_eq (ht : IsTableSize t.size) (hc : c.Fits t.layout) :
    t.remove? c = some (t.remove c) := by
  simp only [remove?, remove, bucket?_eq hc.primary_lt, bucket?_eq (hc.secondary_lt ht),
    Option.bind_eq_bind, Option.bind_some]
  cases (t.bucket c.primary).erase c.fingerprint with
  | some b => rfl
  | none => cases (t.bucket c.secondary).erase c.fingerprint <;> rfl

end Candidates

/-! ## Walks -/

/-- What is carried in the end when exchanges are undone by `unwind`. -/
def unwound (t : Table w v R) (carried : Slot w v) : List (Nat × Fin bucketSize) → Slot w v
  | [] => carried
  | (bucket, i) :: path =>
    let (carried, t) := t.exchange bucket i carried
    t.unwound carried path

/-- After one move more than those of `path`, the same is carried in the end as after these. -/
theorem unwound_exchange (t : Table w v R) {i : Nat} (hi : i < t.size) (j : Fin bucketSize)
    (s : Slot w v) (path : List (Nat × Fin bucketSize)) :
    (t.setSlot i j s).unwound (t.slot i j) ((i, j) :: path) = t.unwound s path := by
  rw [unwound, exchange, setSlot_setSlot t hi, setSlot_slot, slot_setSlot t hi, if_pos rfl]

theorem unwound_congr (path : List (Nat × Fin bucketSize)) {t t' : Table w v R}
    (h : t.buckets = t'.buckets) (s : Slot w v) : t.unwound s path = t'.unwound s path := by
  induction path generalizing t t' s with
  | nil => rfl
  | cons place path ih =>
    rw [unwound, unwound, exchange, exchange, slot_congr h]
    exact ih (buckets_setSlot_congr h ..) _

def exchange? (t : Table w v R) (i : Nat) (j : Fin bucketSize) (incoming : Slot w v) :
    Option (Slot w v × Table w v R) := do
  let bucket ← t.bucket? i
  pure (bucket.slots.get j, t.setBucket i (bucket.set j incoming))

def unwind? (t : Table w v R) (carried : Slot w v) :
    List (Nat × Fin bucketSize) → Option (Slot w v × Table w v R)
  | [] => pure (carried, t)
  | (i, j) :: path => do
    let (carried, t) ← t.exchange? i j carried
    t.unwind? carried path

theorem exchange?_eq {i : Nat} (hi : i < t.size) (j : Fin bucketSize) (s : Slot w v) :
    t.exchange? i j s = some (t.slot i j, t.setSlot i j s) := by
  rw [exchange?, bucket?_eq hi]
  rfl

theorem unwind?_eq (path : List (Nat × Fin bucketSize)) {t : Table w v R}
    (hpath : ∀ place ∈ path, place.1 < t.size) (s : Slot w v) :
    t.unwind? s path = some (t.unwound s path, t.unwind s path) := by
  induction path generalizing t s with
  | nil => rfl
  | cons place path ih =>
    obtain ⟨hi, hrest⟩ := List.forall_mem_cons.1 hpath
    rw [unwind?, exchange?_eq hi]
    exact ih (by simpa using hrest) _

variable [WordSource R]

/-- The walk of an entry with fingerprint `f`, which has to be what is carried if all is undone. -/
def walk? (f : Fingerprint w) (merge : Tag v → Tag v → Tag v) : (left : Nat) → (t : Table w v R) →
    (index : Nat) → (carried : Slot w v) → (path : List (Nat × Fin bucketSize)) →
    Option (Step (Table w v R) (Except Full (Placement v)))
  | 0, t, _, carried, path => do
    let (carried, back) ← t.unwind? carried path
    check (carried.fingerprint = f)
      { state := back
        answer := .error ⟨path.length⟩
        events := [.full path.length t.size] }
  | left + 1, t, index, carried, path => do
    let j := slotChoice t.draw.1
    let (carried, t) ← t.draw.2.exchange? index j carried
    let path := (index, j) :: path
    let index ← t.alternate? index carried.fingerprint
    let bucket ← t.bucket? index
    match bucket.lookup carried.fingerprint with
    | some twin =>
      let existing := (bucket.slots.get twin).tag
      pure
        { state := t.setTag index twin (merge existing carried.tag)
          answer := .ok (.merged path.length existing carried.tag)
          events := [.merged path.length index] }
    | none =>
      match bucket.insert carried with
      | some b =>
        pure
          { state := t.setBucket index b
            answer := .ok (.relocated path.length)
            events := [.relocated path.length index] }
      | none => walk? f merge left t index carried path

def place? (t : Table w v R) (c : Candidates w) (tag : Tag v) (merge : Tag v → Tag v → Tag v) :
    Option (Step (Table w v R) (Except Full (Placement v))) := do
  let entry : Slot w v := ⟨c.fingerprint, tag⟩
  let primary ← t.bucket? c.primary
  match primary.insert entry with
  | some b => pure { state := t.setBucket c.primary b, answer := .ok .direct }
  | none =>
    let secondary ← t.bucket? c.secondary
    match secondary.insert entry with
    | some b => pure { state := t.setBucket c.secondary b, answer := .ok .direct }
    | none =>
      t.draw.2.walk? c.fingerprint merge maxKicks (if coin t.draw.1 then c.primary else c.secondary)
        entry []

/-- By induction on the moves that are left: a walk is in a bucket of the table, and so are all those
behind it, and if they are undone the fingerprint `f` is carried. -/
theorem walk?_eq (f : Fingerprint w) (merge : Tag v → Tag v → Tag v) (left : Nat) {t : Table w v R}
    (ht : IsTableSize t.size) {i : Nat} (hi : i < t.size) {s : Slot w v}
    {path : List (Nat × Fin bucketSize)} (hpath : ∀ place ∈ path, place.1 < t.size)
    (hback : (t.unwound s path).fingerprint = f) :
    t.walk? f merge left i s path = some (t.walk merge left i s path) := by
  induction left generalizing t i s path with
  | zero =>
    rw [walk?, unwind?_eq path hpath]
    exact check_eq hback _
  | succ left ih =>
    have hi' : i < t.draw.2.size := hi
    rw [walk?, walk_succ, exchange?_eq hi']
    generalize slotChoice t.draw.1 = j
    rw [unwound_congr path (buckets_draw t).symm, ← unwound_exchange t.draw.2 hi' j] at hback
    rw [slot_draw] at hback ⊢
    generalize t.slot i j = out at hback ⊢
    have hsize : (t.draw.2.setSlot i j s).size = t.size := size_setSlot ..
    generalize t.draw.2.setSlot i j s = t' at hsize hback ⊢
    rw [← hsize] at ht hi hpath
    have hnext : t'.alternate i out.fingerprint < t'.size := alternate_lt ht _ hi
    simp only [alternate?_eq ht hi, bucket?_eq hnext, Option.bind_eq_bind, Option.bind_some]
    generalize t'.alternate i out.fingerprint = i' at hnext ⊢
    cases (t'.bucket i').lookup out.fingerprint with
    | some twin => rfl
    | none =>
      cases (t'.bucket i').insert out with
      | some b => rfl
      | none => exact ih ht hnext (List.forall_mem_cons.2 ⟨hi, hpath⟩) hback

theorem place?_eq (ht : IsTableSize t.size) {c : Candidates w} (hc : c.Fits t.layout) (tag : Tag v)
    (merge : Tag v → Tag v → Tag v) : t.place? c tag merge = some (t.place c tag merge) := by
  have hsecondary := hc.secondary_lt ht
  simp only [place?, place_eq, bucket?_eq hc.primary_lt, bucket?_eq hsecondary,
    Option.bind_eq_bind, Option.bind_some]
  cases (t.bucket c.primary).insert ⟨c.fingerprint, tag⟩ with
  | some b => rfl
  | none =>
    cases (t.bucket c.secondary).insert ⟨c.fingerprint, tag⟩ with
    | some b => rfl
    | none =>
      have hstart : (if coin t.draw.1 then c.primary else c.secondary) < t.draw.2.size := by
        split
        · exact hc.primary_lt
        · exact hsecondary
      exact walk?_eq c.fingerprint merge maxKicks (t := t.draw.2) ht hstart (List.forall_mem_nil _) rfl

omit [WordSource R]

/-! ## Whole tables -/

/-- A new table, whose number of buckets has to be a power of two. -/
def ofSize? (buckets : Nat) (hash : HashFunction) (words : R) : Option (Table w v R) :=
  check buckets.isPowerOfTwo (.ofSize buckets hash words)

def capacity? (t : Table w v R) : Option Nat :=
  word? t.capacity

def occupied? (t : Table w v R) : Option Nat :=
  word? t.occupied

def restore? (t : Table w v R) (bytes : Bytes) (version : Option Nat) :
    Option (Step (Table w v R) RestoreStatus) :=
  match version.filter (· != formatVersion) with
  | some version =>
    pure { state := t, answer := .unsupportedVersion version, events := [.unsupportedVersion version] }
  | none => do
    let size ← word? t.byteSize
    if bytes.length = size then
      let buckets ← Bucket.readArray? t.size bytes #[]
      pure { state := { t with buckets }, answer := .restored }
    else
      pure
        { state := t
          answer := .sizeMismatch size bytes.length
          events := [.wrongSize size bytes.length] }

theorem ofSize?_eq {buckets : Nat} (h : IsTableSize buckets) (hash : HashFunction) (words : R) :
    (ofSize? buckets hash words : Option (Table w v R)) = some (.ofSize buckets hash words) := by
  obtain ⟨k, -, hk⟩ := h
  exact check_eq ⟨k, hk⟩ _

theorem capacity?_eq (ht : t.size ≤ 2 ^ 31) : t.capacity? = some t.capacity := by
  refine check_eq (show t.size * 4 < 2 ^ 64 from ?_) _
  omega

theorem occupied?_eq (ht : t.size ≤ 2 ^ 31) : t.occupied? = some t.occupied := by
  have hle : t.occupied ≤ t.size * 4 := occupied_le t
  exact check_eq (by omega) _

theorem occupied?_restore (ht : t.size ≤ 2 ^ 31) (bytes : Bytes) (version : Option Nat) :
    (t.restore bytes version).state.occupied? = some (t.restore bytes version).state.occupied := by
  apply occupied?_eq
  rwa [size_restore]

theorem restore?_eq (ht : t.size ≤ 2 ^ 31) (hw : Bucket.imageSize w v < 2 ^ 33) (bytes : Bytes)
    (version : Option Nat) : t.restore? bytes version = some (t.restore bytes version) := by
  have hbytes : t.byteSize < 2 ^ 64 := by
    have hle : t.byteSize ≤ 2 ^ 31 * Bucket.imageSize w v := Nat.mul_le_mul_right _ ht
    omega
  rw [restore?, restore]
  cases version.filter (· != formatVersion) with
  | some version => rfl
  | none =>
    simp only [word?, check_eq hbytes, load?, Option.bind_eq_bind, Option.bind_some]
    by_cases hlen : bytes.length = t.byteSize
    · rw [if_pos hlen, if_pos hlen, Bucket.readArray?_eq hlen]
      rfl
    · rw [if_neg hlen, if_neg hlen]
      rfl

/-- The number of entries fits in a word. -/
theorem Counted.word?_eq {l : Layout} {count : Nat} (h : t.Counted l count)
    (hl : l.buckets ≤ 2 ^ 31) : word? count = some count := by
  refine check_eq ?_ _
  have hle := h.count_le
  rw [h.capacity_eq] at hle
  have hslots : l.slots ≤ 2 ^ 31 * 4 := Nat.mul_le_mul_right _ hl
  omega

/-- The number of entries once one was removed, if one was. -/
def countDown? (count : Nat) (removed : Bool) : Option Nat :=
  if removed then sub? count 1 else pure count

/-- An entry is only taken from a number that counts it. -/
theorem Counted.countDown?_eq {l : Layout} {count : Nat} (h : t.Counted l count)
    {c : Candidates w} (hc : c.Fits t.layout) :
    countDown? count (t.remove c).2 = some (if (t.remove c).2 then count - 1 else count) := by
  rw [remove_eq]
  cases hfind : t.find c with
  | none => rfl
  | some place => exact check_eq (h.count_pos (holds_of_find h.isTableSize hc hfind)) _

end Table

end CuckooFilter
