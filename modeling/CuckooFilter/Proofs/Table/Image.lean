import CuckooFilter.Proofs.Bytes
import CuckooFilter.Proofs.Table.Entries
import CuckooFilter.Table.Image

/-!
# Images read back

An image is a sequence of blocks of one length, one for each bucket, and each of these begins with the
bytes of its fingerprints. So what is at a place in the image is known from the slots alone:

* `shownFingerprints_toBytes`: the fingerprints that an image shows are those of the slots;
* `load?_toBytes`, `restore_toBytes`: the buckets that are read from an image are those written;
* `toBytes_load?`: the image of what was read is what it was read from;
* `images_faithful`: so images and bucket arrays stand for each other, one for one;
* `restore_cases`: a table that takes an image keeps its layout, and one that refuses it all else.
-/

namespace CuckooFilter

section Blocks

variable {α β : Type} {f : α → List β} {k : Nat}

theorem length_blocks (hf : ∀ a, (f a).length = k) (l : List α) :
    (l.flatMap f).length = l.length * k := by
  induction l with
  | nil => simp
  | cons a l ih =>
    rw [List.flatMap_cons, List.length_append, ih, hf, List.length_cons, Nat.succ_mul, Nat.add_comm]

/-- Blocks of length `k` start `k` apart. -/
theorem drop_flatMap (hf : ∀ a, (f a).length = k) (l : List α) (i : Nat) :
    (l.flatMap f).drop (i * k) = (l.drop i).flatMap f := by
  induction i generalizing l with
  | zero => simp
  | succ i ih =>
    cases l with
    | nil => simp
    | cons a l =>
      rw [List.flatMap_cons, Nat.succ_mul, Nat.add_comm, ← List.drop_drop, ← hf a, List.drop_left,
        hf a, ih, List.drop_succ_cons]

theorem take_drop_flatMap (hf : ∀ a, (f a).length = k) (l : List α) {i : Nat} (hi : i < l.length)
    (rest : List β) : ((l.flatMap f ++ rest).drop (i * k)).take k = f l[i] := by
  have hle : i * k ≤ (l.flatMap f).length := by
    rw [length_blocks hf]
    exact Nat.mul_le_mul_right k (Nat.le_of_lt hi)
  rw [List.drop_append_of_le_length hle, drop_flatMap hf, List.drop_eq_getElem_cons hi,
    List.flatMap_cons, List.append_assoc, List.take_left' (hf _)]

/-- A list of blocks of length `k` is put together of its blocks. -/
theorem flatMap_take_drop (k n : Nat) (l : List β) :
    ((List.range n).flatMap fun i => (l.drop (i * k)).take k) = l.take (n * k) := by
  induction n with
  | zero => simp
  | succ n ih =>
    rw [List.range_succ, List.flatMap_append, ih, List.flatMap_singleton, Nat.succ_mul,
      List.take_add]

end Blocks

namespace Bucket

variable {w v : Nat}

@[simp] theorem length_toBytes (b : Bucket w v) : b.toBytes.length = imageSize w v := by
  rw [toBytes, List.length_append, length_blocks fun s => length_littleEndian _ _,
    length_blocks fun s => length_littleEndian _ _, Vector.length_toList, imageSize, Nat.mul_add]

/-- The field that was written for a slot. -/
theorem field_flatMap {bits : Nat} (h : 8 ∣ bits) (g : Slot w v → BitVec bits)
    (slots : List (Slot w v)) {i : Nat} (hi : i < slots.length) (rest : Bytes) :
    field bits i (slots.flatMap (fun s => littleEndian (bits / 8) (g s).toNat) ++ rest) =
      g slots[i] := by
  rw [field, take_drop_flatMap (fun s => length_littleEndian _ _) slots hi, ofLittleEndian_toNat h,
    BitVec.ofNat_toNat, BitVec.setWidth_eq]

theorem ofBytes_toBytes (hw : 8 ∣ w) (hv : 8 ∣ v) (b : Bucket w v) : ofBytes b.toBytes = b := by
  obtain ⟨slots⟩ := b
  refine congrArg Bucket.mk (Vector.ext fun i hi => ?_)
  have hi' : i < slots.toList.length := by rwa [Vector.length_toList]
  have hdrop : (toBytes ⟨slots⟩).drop (bucketSize * (w / 8)) =
      slots.toList.flatMap fun s => littleEndian (v / 8) s.tag.toNat := by
    refine List.drop_left' ?_
    rw [length_blocks fun s => length_littleEndian _ _, Vector.length_toList]
  rw [Vector.getElem_ofFn, hdrop, toBytes, field_flatMap hw Slot.fingerprint _ hi',
    ← List.append_nil (List.flatMap _ _), field_flatMap hv Slot.tag _ hi']
  simp

/-- The bytes of a field are the bytes it was read from. -/
theorem littleEndian_field {bits : Nat} (h : 8 ∣ bits) {bytes : Bytes} {i : Nat}
    (hi : (i + 1) * (bits / 8) ≤ bytes.length) :
    littleEndian (bits / 8) (field bits i bytes).toNat =
      (bytes.drop (i * (bits / 8))).take (bits / 8) := by
  rw [Nat.succ_mul] at hi
  have hlen : ((bytes.drop (i * (bits / 8))).take (bits / 8)).length = bits / 8 := by
    rw [List.length_take, List.length_drop]
    omega
  have hlt := ofLittleEndian_lt ((bytes.drop (i * (bits / 8))).take (bits / 8))
  have hback := littleEndian_ofLittleEndian ((bytes.drop (i * (bits / 8))).take (bits / 8))
  rw [hlen] at hlt hback
  have hwidth : 256 ^ (bits / 8) = 2 ^ bits := by
    rw [show 256 = 2 ^ 8 from rfl, ← Nat.pow_mul, Nat.mul_div_cancel' h]
  rw [field, BitVec.toNat_ofNat, Nat.mod_eq_of_lt (hwidth ▸ hlt), hback]

/-- The first fields of a byte string are written as the bytes that they fill. -/
theorem flatMap_field {bits : Nat} (h : 8 ∣ bits) {bytes : Bytes} {n : Nat}
    (hle : n * (bits / 8) ≤ bytes.length) :
    ((List.range n).flatMap fun i => littleEndian (bits / 8) (field bits i bytes).toNat) =
      bytes.take (n * (bits / 8)) := by
  have hfields : ∀ i ∈ List.range n, littleEndian (bits / 8) (field bits i bytes).toNat =
      (bytes.drop (i * (bits / 8))).take (bits / 8) := fun i hi =>
    littleEndian_field h ((Nat.mul_le_mul_right _ (List.mem_range.1 hi)).trans hle)
  rw [List.flatMap_congr hfields, flatMap_take_drop]

theorem toBytes_ofBytes (hw : 8 ∣ w) (hv : 8 ∣ v) {bytes : Bytes}
    (hlen : bytes.length = imageSize w v) : (ofBytes bytes : Bucket w v).toBytes = bytes := by
  have hslots (g : Slot w v → Bytes) (f : Nat → Slot w v) :
      (Vector.ofFn (n := bucketSize) fun i => f i).toList.flatMap g =
        (List.range bucketSize).flatMap fun i => g (f i) := by
    rw [Vector.toList_ofFn, List.ofFn_eq_map, List.flatMap_map, ← List.map_coe_finRange_eq_range,
      List.flatMap_map]
  rw [imageSize, Nat.mul_add] at hlen
  have htags : (bytes.drop (bucketSize * (w / 8))).length = bucketSize * (v / 8) := by
    rw [List.length_drop]
    omega
  simp only [ofBytes, toBytes]
  rw [hslots (fun s => littleEndian (w / 8) s.fingerprint.toNat) fun i =>
      ⟨field w i bytes, field v i (bytes.drop (bucketSize * (w / 8)))⟩,
    hslots (fun s => littleEndian (v / 8) s.tag.toNat) fun i =>
      ⟨field w i bytes, field v i (bytes.drop (bucketSize * (w / 8)))⟩,
    flatMap_field hw (hlen ▸ Nat.le_add_right _ _), flatMap_field hv htags.ge, ← htags,
    List.take_length, List.take_append_drop]

@[simp] theorem size_readArray (count : Nat) (bytes : Bytes) (read : Array (Bucket w v)) :
    (readArray count bytes read).size = read.size + count := by
  induction count generalizing bytes read with
  | zero => rfl
  | succ count ih =>
    rw [readArray, ih, Array.size_push]
    omega

theorem readArray_flatMap (hw : 8 ∣ w) (hv : 8 ∣ v) (buckets : List (Bucket w v))
    (read : Array (Bucket w v)) :
    readArray buckets.length (buckets.flatMap toBytes) read = read ++ buckets.toArray := by
  induction buckets generalizing read with
  | nil => simp [readArray]
  | cons b buckets ih =>
    rw [List.length_cons, readArray, List.flatMap_cons, List.take_left' b.length_toBytes,
      List.drop_left' b.length_toBytes, ofBytes_toBytes hw hv, ih]
    simp

theorem flatMap_readArray (hw : 8 ∣ w) (hv : 8 ∣ v) {count : Nat} {bytes : Bytes}
    (hlen : bytes.length = count * imageSize w v) (read : Array (Bucket w v)) :
    (readArray count bytes read).toList.flatMap toBytes = read.toList.flatMap toBytes ++ bytes := by
  induction count generalizing bytes read with
  | zero =>
    rw [Nat.zero_mul] at hlen
    rw [readArray, List.length_eq_zero_iff.1 hlen, List.append_nil]
  | succ count ih =>
    rw [Nat.succ_mul] at hlen
    have hfirst : (bytes.take (imageSize w v)).length = imageSize w v := by
      rw [List.length_take]
      omega
    have hrest : (bytes.drop (imageSize w v)).length = count * imageSize w v := by
      rw [List.length_drop]
      omega
    rw [readArray, ih hrest, Array.toList_push, List.flatMap_append, List.flatMap_singleton,
      toBytes_ofBytes hw hv hfirst, List.append_assoc, List.take_append_drop]

end Bucket

/-! ## Fingerprints in an image -/

/-- The number that an image of `w`-bit fingerprints and `v`-bit tags has at fingerprint `j` of
bucket `i`. -/
def fingerprintAt (w v : Nat) (image : Bytes) (i j : Nat) : Nat :=
  ofLittleEndian ((image.drop (i * Bucket.imageSize w v + j * (w / 8))).take (w / 8))

/-- The fingerprints at all places of an image, bucket by bucket. -/
def shownFingerprints (w v : Nat) (image : Bytes) : List Nat :=
  (List.range (image.length / Bucket.imageSize w v)).flatMap fun i =>
    (List.range bucketSize).map (fingerprintAt w v image i)

namespace Table

variable {w v : Nat} {R R' : Type}

@[simp] theorem length_toBytes (t : Table w v R) : t.toBytes.length = t.byteSize := by
  rw [toBytes, length_blocks Bucket.length_toBytes, byteSize, size, Array.length_toList]

theorem fingerprintAt_toBytes (hw : 8 ∣ w) (t : Table w v R) {i : Nat} (hi : i < t.size)
    (j : Fin bucketSize) :
    fingerprintAt w v t.toBytes i j = (t.slot i j).fingerprint.toNat := by
  have hi : i < t.buckets.toList.length := hi
  have hj : (j : Nat) < (t.bucket i).slots.toList.length := by simp
  have hbucket : t.buckets.toList[i] = t.bucket i := by
    have hi : i < t.buckets.size := hi
    simp [bucket, hi]
  rw [fingerprintAt, ← List.drop_drop, toBytes, drop_flatMap Bucket.length_toBytes,
    List.drop_eq_getElem_cons hi, List.flatMap_cons, hbucket, Bucket.toBytes, List.append_assoc,
    take_drop_flatMap (fun s => length_littleEndian _ _) _ hj, ofLittleEndian_toNat hw]
  rfl

theorem shownFingerprints_toBytes (hw : 8 ∣ w) (hpos : 0 < w) (t : Table w v R) :
    shownFingerprints w v t.toBytes = t.slots.map fun s => s.fingerprint.toNat := by
  have hsize : 0 < Bucket.imageSize w v := by
    have := Nat.div_pos (Nat.le_of_dvd hpos hw) (by decide)
    exact Nat.mul_pos (by decide) (by omega)
  rw [shownFingerprints, length_toBytes, byteSize, Nat.mul_div_cancel _ hsize, slots_eq,
    List.map_flatMap]
  refine List.flatMap_congr fun i hi => ?_
  rw [← List.map_coe_finRange_eq_range, List.map_map, List.map_map]
  exact List.map_congr_left fun j _ => fingerprintAt_toBytes hw t (List.mem_range.1 hi) j

/-! ## Reading images -/

/-- An image is read into any table of as many buckets. -/
theorem load?_toBytes (hw : 8 ∣ w) (hv : 8 ∣ v) {t : Table w v R} {t' : Table w v R'}
    (h : t'.size = t.size) : t'.load? t.toBytes = some { t' with buckets := t.buckets } := by
  have hlen : t.toBytes.length = t'.byteSize := by
    rw [length_toBytes, byteSize, byteSize, h]
  have hread : Bucket.readArray t.size t.toBytes #[] = t.buckets := by
    rw [size, toBytes, ← Array.length_toList, Bucket.readArray_flatMap hw hv]
    simp
  rw [load?, if_pos hlen, h, hread]

/-- The image of a table that took an image is that image. -/
theorem toBytes_load? (hw : 8 ∣ w) (hv : 8 ∣ v) {t t' : Table w v R} {image : Bytes}
    (h : t.load? image = some t') : t'.toBytes = image := by
  obtain ⟨hlen, h⟩ := Option.ite_none_right_eq_some.1 h
  obtain rfl := Option.some.inj h
  rw [toBytes, Bucket.flatMap_readArray hw hv hlen]
  rfl

theorem restore_toBytes (hw : 8 ∣ w) (hv : 8 ∣ v) {t : Table w v R} {t' : Table w v R'}
    (h : t'.size = t.size) : t'.restore t.toBytes (some formatVersion) =
      { state := { t' with buckets := t.buckets }, answer := .restored } := by
  rw [restore, load?_toBytes hw hv h]
  rfl

/-- A table that takes an image keeps its layout, and one that refuses it is as it was. -/
theorem restore_cases (t : Table w v R) (bytes : Bytes) (version : Option Nat) :
    ((t.restore bytes version).answer = .restored ∧
        (t.restore bytes version).state.layout = t.layout) ∨
      (t.restore bytes version).answer ≠ .restored ∧ (t.restore bytes version).state = t := by
  unfold restore
  split
  · exact .inr ⟨by simp, rfl⟩
  · split
    · rename_i t' h
      obtain ⟨-, h⟩ := Option.ite_none_right_eq_some.1 h
      obtain rfl := Option.some.inj h
      exact .inl ⟨rfl, by simp [layout, size]⟩
    · exact .inr ⟨by simp, rfl⟩

theorem size_restore (t : Table w v R) (bytes : Bytes) (version : Option Nat) :
    (t.restore bytes version).state.size = t.size := by
  obtain ⟨-, h⟩ | ⟨-, h⟩ := restore_cases t bytes version
  · exact congrArg Layout.buckets h
  · rw [h]

/-! ## Images and bucket arrays -/

/-- A byte string of the right length is read, and changes nothing but the buckets. -/
theorem load?_of_length {t : Table w v R} {image : Bytes} (hlen : image.length = t.byteSize) :
    ∃ loaded, t.load? image = some loaded ∧ loaded.size = t.size ∧ loaded.hash = t.hash ∧
      loaded.words = t.words :=
  ⟨_, if_pos hlen, by simp [size], rfl, rfl⟩

/-- The images of tables with `n` buckets are the byte strings of their length, each of one bucket
array. -/
theorem bijOn_toBytes (hw : 8 ∣ w) (hv : 8 ∣ v) (n : Nat) (hash : HashFunction) (words : R) :
    Set.BijOn (fun buckets : Array (Bucket w v) => toBytes ⟨buckets, hash, words⟩)
      {buckets | buckets.size = n} {image | image.length = n * Bucket.imageSize w v} := by
  refine ⟨?mapsTo, ?injOn, ?surjOn⟩
  case mapsTo =>
    rintro buckets rfl
    exact length_toBytes ⟨buckets, hash, words⟩
  case injOn =>
    intro buckets hbuckets buckets' hbuckets' himage
    have hsize : buckets.size = buckets'.size := Eq.trans hbuckets hbuckets'.symm
    -- Both images are read into one table, which thereby gets either array of buckets.
    let t : Table w v R := ⟨buckets, hash, words⟩
    let t' : Table w v R := ⟨buckets', hash, words⟩
    have hread : t.load? t.toBytes = some t := load?_toBytes hw hv rfl
    have hread' : t.load? t'.toBytes = some t' := load?_toBytes hw hv hsize
    rw [show t.toBytes = t'.toBytes from himage, hread'] at hread
    exact (congrArg Table.buckets (Option.some.inj hread)).symm
  case surjOn =>
    intro image hlen
    have hempty : image.length = (ofSize n hash words : Table w v R).byteSize := by
      rw [byteSize, ← layout_buckets, layout_ofSize]
      exact hlen
    obtain ⟨⟨buckets, hash', words'⟩, hload, hsize, hhash, hwords⟩ := load?_of_length hempty
    obtain rfl : hash' = hash := hhash
    obtain rfl : words' = words := hwords
    refine ⟨buckets, ?_, toBytes_load? hw hv hload⟩
    rw [← layout_buckets (ofSize n hash' words'), layout_ofSize] at hsize
    exact hsize

/-- A table of `w`-bit fingerprints and `v`-bit tags and its image say the same. The image may be read
into any table with as many buckets. -/
structure ImagesFaithful (w v : Nat) (R R' : Type) : Prop where
  length_eq : ∀ t : Table w v R, t.toBytes.length = t.byteSize
  /-- What is written is read back slot by slot, so that the same is found. -/
  load_image : ∀ (t : Table w v R) (t' : Table w v R'), t'.size = t.size →
    ∃ loaded, t'.load? t.toBytes = some loaded ∧
      (loaded.size = t.size ∧ ∀ i j, loaded.slot i j = t.slot i j) ∧
      loaded.occupied = t.occupied ∧
      (∀ c, loaded.find c = t.find c) ∧
      (t'.hash = t.hash → ∀ key, loaded.find (loaded.locate key) = t.find (t.locate key))
  /-- What is read is written back byte by byte. -/
  image_load : ∀ (t : Table w v R) (image : Bytes), image.length = t.byteSize →
    ∃ loaded, t.load? image = some loaded ∧ loaded.toBytes = image
  bijective : ∀ (n : Nat) (hash : HashFunction) (words : R),
    Set.BijOn (fun buckets : Array (Bucket w v) => toBytes ⟨buckets, hash, words⟩)
      {buckets | buckets.size = n} {image | image.length = n * Bucket.imageSize w v}

/-- Whole bytes of fingerprint and tag, none of them for a tag without bits, are all it takes. -/
theorem images_faithful (hw : 8 ∣ w) (hv : 8 ∣ v) : ImagesFaithful w v R R' where
  length_eq := length_toBytes
  load_image t t' hsize := by
    refine ⟨_, load?_toBytes hw hv hsize, ⟨rfl, fun _ _ => rfl⟩, rfl, fun _ => rfl, ?_⟩
    intro hhash key
    have hlocate : locate { t' with buckets := t.buckets } key = t.locate key := by
      simp only [locate, alternate, size, hhash]
    rw [hlocate]
    rfl
  image_load t image hlen := by
    obtain ⟨loaded, hload, -⟩ := load?_of_length hlen
    exact ⟨loaded, hload, toBytes_load? hw hv hload⟩
  bijective := bijOn_toBytes hw hv

/-- The tables of plain and of expiring filters, and tables of short fingerprints with a byte each. -/
theorem images_faithful_widths :
    ImagesFaithful 16 0 (Nat → UInt64) (Nat → UInt64) ∧
      ImagesFaithful 32 8 (Nat → UInt64) (Nat → UInt64) ∧
      ImagesFaithful 16 8 (Nat → UInt64) (Nat → UInt64) :=
  ⟨images_faithful (by decide) (by decide), images_faithful (by decide) (by decide),
    images_faithful (by decide) (by decide)⟩

end Table

end CuckooFilter
