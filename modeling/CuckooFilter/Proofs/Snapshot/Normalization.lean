import CuckooFilter.Proofs.Snapshot.Truncation

/-!
# The shortest stored form

A reader accepts more than what was stored: a number may stand in more bytes than it needs, and bytes
may follow the image. But what a reader takes for a value is the stored form of that value or longer
(`Spent`), and the value fits its field (`Reader.Normalises`). So `Snapshot.encode` turns whatever was
accepted into the one shortest byte string that is read as the same snapshot
(`Snapshot.decode_normalises`).
-/

namespace CuckooFilter

/-- What was taken off `bs` to leave `rest` is `form`, or longer than `form`. -/
def Spent (form bs rest : Bytes) : Prop :=
  bs = form ++ rest ∨ (form ++ rest).length < bs.length

namespace Spent

variable {form form' bs mid rest : Bytes}

theorem length_le (h : Spent form bs rest) : (form ++ rest).length ≤ bs.length := by
  obtain rfl | hlt := h
  · exact Nat.le_refl _
  · exact Nat.le_of_lt hlt

theorem append (h : Spent form bs mid) (h' : Spent form' mid rest) :
    Spent (form ++ form') bs rest := by
  have hle := h.length_le
  have hle' := h'.length_le
  simp only [Spent, List.length_append] at h h' hle hle' ⊢
  obtain rfl | hlt := h
  · obtain rfl | hlt' := h'
    · exact .inl (List.append_assoc ..).symm
    · right
      rw [List.length_append]
      omega
  · right
    omega

/-- Bytes that were accepted to the last are the form or longer, and so are they with more behind. -/
theorem eq_or_lt (h : Spent form bs rest) : bs = form ∨ form.length < bs.length := by
  simp only [Spent, List.length_append] at h
  obtain rfl | hlt := h
  · cases rest with
    | nil => exact .inl (List.append_nil form)
    | cons b rest =>
      right
      rw [List.length_append, List.length_cons]
      omega
  · right
    omega

end Spent

/-! ## Numbers -/

theorem length_varint (n : Nat) : (varint n).length =
    if n < 251 then 1 else if n < UInt16.size then 3 else if n < UInt32.size then 5 else 9 := by
  unfold varint
  split
  · rfl
  · split
    · simp
    · split <;> simp

/-- A number that is read from two bytes is stored in them, or in none but its marker. -/
theorem varint_of_lt_size16 {n : Nat} (h : n < UInt16.size) :
    varint n = 251 :: littleEndian 2 n ∨ (varint n).length < 3 := by
  by_cases hsmall : n < 251
  · right
    rw [length_varint, if_pos hsmall]
    decide
  · left
    rw [varint, if_neg hsmall, if_pos h]

theorem varint_of_lt_size32 {n : Nat} (h : n < UInt32.size) :
    varint n = 252 :: littleEndian 4 n ∨ (varint n).length < 5 := by
  by_cases hsmall : n < UInt16.size
  · right
    rw [length_varint, if_pos hsmall]
    split <;> decide
  · left
    have h251 : ¬ n < 251 := fun hlt => hsmall (Nat.lt_trans hlt (by decide))
    rw [varint, if_neg h251, if_neg hsmall, if_pos h]

theorem varint_eq_or_lt (n : Nat) :
    varint n = 253 :: littleEndian 8 n ∨ (varint n).length < 9 := by
  by_cases hsmall : n < UInt32.size
  · right
    rw [length_varint, if_pos hsmall]
    split
    · decide
    · split <;> decide
  · left
    have h251 : ¬ n < 251 := fun hlt => hsmall (Nat.lt_trans hlt (by decide))
    have h16 : ¬ n < UInt16.size := fun hlt => hsmall (Nat.lt_trans hlt (by decide))
    rw [varint, if_neg h251, if_neg h16, if_neg hsmall]

/-- A number after the marker of a width at which it may have to be stored. -/
theorem Spent.varint {marker : UInt8} {width n : Nat} (rest : Bytes)
    (h : varint n = marker :: littleEndian width n ∨ (varint n).length < width + 1) :
    Spent (varint n) (marker :: (littleEndian width n ++ rest)) rest := by
  obtain heq | hlt := h
  · left
    rw [heq, List.cons_append]
  · right
    simp only [List.length_append, List.length_cons, length_littleEndian]
    omega

namespace Reader

variable {α β : Type}

/-- What a sequence of two readers accepts, each of them accepts its part of. -/
theorem run_bind_eq_ok {r : Reader α} {f : α → Reader β} {bs rest : Bytes} {b : β} :
    (r >>= f).run bs = .ok (b, rest) ↔
      ∃ a mid, r.run bs = .ok (a, mid) ∧ (f a).run mid = .ok (b, rest) := by
  rw [StateT.run_bind]
  cases hr : r.run bs with
  | error fault => exact iff_of_false nofun (by rintro ⟨a, mid, h, -⟩; cases h)
  | ok found =>
    constructor
    · exact fun h => ⟨found.1, found.2, rfl, h⟩
    · rintro ⟨a, mid, h, hf⟩
      obtain rfl := Except.ok.inj h
      exact hf

theorem run_pure_eq_ok {a b : α} {bs rest : Bytes}
    (h : (Pure.pure a : Reader α).run bs = .ok (b, rest)) : b = a ∧ rest = bs := by
  obtain ⟨rfl, rfl⟩ := Prod.mk.inj (Except.ok.inj h)
  exact ⟨rfl, rfl⟩

/-- The reader takes no fewer bytes for a value than its stored form has, and as many only if they are
the stored form; and the values that it makes fit. -/
def Normalises (r : Reader α) (form : α → Bytes) (fits : α → Prop) : Prop :=
  ∀ {bs a rest}, r.run bs = .ok (a, rest) → fits a ∧ Spent (form a) bs rest

theorem run_byte_eq_ok {bs rest : Bytes} {b : UInt8} (h : byte.run bs = .ok (b, rest)) :
    bs = b :: rest := by
  cases bs with
  | nil => cases h
  | cons _ bs =>
    obtain ⟨rfl, rfl⟩ := Prod.mk.inj (Except.ok.inj h)
    rfl

theorem run_word_eq_ok {width n : Nat} {bs rest : Bytes} (h : (word width).run bs = .ok (n, rest)) :
    n < 256 ^ width ∧ bs = littleEndian width n ++ rest := by
  simp only [word, StateT.run] at h
  split at h
  · cases h
  · rename_i hlong
    obtain ⟨rfl, rfl⟩ := Prod.mk.inj (Except.ok.inj h)
    have hlen : (bs.take width).length = width :=
      Nat.le_antisymm (List.length_take_le ..) (Nat.not_lt.1 hlong)
    have hlt := ofLittleEndian_lt (bs.take width)
    have hfield := littleEndian_ofLittleEndian (bs.take width)
    rw [hlen] at hlt hfield
    exact ⟨hlt, by rw [hfield, List.take_append_drop]⟩

theorem run_bytes_eq_ok {length : Nat} {bs data rest : Bytes}
    (h : (bytes length).run bs = .ok (data, rest)) : length = data.length ∧ bs = data ++ rest := by
  simp only [bytes, StateT.run] at h
  split at h
  · cases h
  · rename_i hlong
    obtain ⟨rfl, rfl⟩ := Prod.mk.inj (Except.ok.inj h)
    exact ⟨(List.length_take_of_le (Nat.not_lt.1 hlong)).symm, (List.take_append_drop ..).symm⟩

namespace Normalises

theorem varint (field : Field) : Normalises (Reader.varint field) CuckooFilter.varint
    fun n => n < UInt64.size ∧ (field = .narrow → n < UInt32.size) := by
  intro bs n rest hrun
  obtain ⟨marker, mid, hbyte, h⟩ := run_bind_eq_ok.1 hrun
  obtain rfl := run_byte_eq_ok hbyte
  split at h
  · rename_i hsmall
    obtain ⟨rfl, rfl⟩ := run_pure_eq_ok h
    have hn : marker.toNat < 251 := UInt8.lt_iff_toNat_lt.1 hsmall
    refine ⟨⟨Nat.lt_trans hn (by decide), fun _ => Nat.lt_trans hn (by decide)⟩, .inl ?_⟩
    rw [CuckooFilter.varint, if_pos hn, UInt8.ofNat_toNat]
    rfl
  · split at h
    · rename_i hmarker
      obtain ⟨hn, rfl⟩ := run_word_eq_ok h
      subst hmarker
      exact ⟨⟨Nat.lt_trans hn (by decide), fun _ => Nat.lt_trans hn (by decide)⟩,
        .varint rest (varint_of_lt_size16 hn)⟩
    · split at h
      · rename_i hmarker
        obtain ⟨hn, rfl⟩ := run_word_eq_ok h
        subst hmarker
        exact ⟨⟨Nat.lt_trans hn (by decide), fun _ => hn⟩, .varint rest (varint_of_lt_size32 hn)⟩
      · split at h
        · rename_i hmarker
          split at h
          · cases h
          · rename_i hwide
            obtain ⟨hn, rfl⟩ := run_word_eq_ok h
            subst hmarker
            exact ⟨⟨hn, fun hnarrow => absurd hnarrow hwide⟩, .varint rest (varint_eq_or_lt n)⟩
        · split at h <;> cases h

theorem option {α : Type} {r : Reader α} {form : α → Bytes} {fits : α → Prop}
    (hr : r.Normalises form fits) :
    (Reader.option r).Normalises (optionBytes form) fun value => ∀ a ∈ value, fits a := by
  intro bs value rest hrun
  obtain ⟨marker, mid, hbyte, h⟩ := run_bind_eq_ok.1 hrun
  obtain rfl := run_byte_eq_ok hbyte
  split at h
  · rename_i hmarker
    obtain ⟨rfl, rfl⟩ := run_pure_eq_ok h
    exact ⟨nofun, .inl (by rw [hmarker]; rfl)⟩
  · split at h
    · rename_i hmarker
      obtain ⟨a, mid', ha, h⟩ := run_bind_eq_ok.1 h
      obtain ⟨rfl, rfl⟩ := run_pure_eq_ok h
      obtain ⟨hfits, hspent⟩ := hr ha
      refine ⟨fun a' ha' => Option.some.inj ha' ▸ hfits, ?_⟩
      have hone : Spent [1] (marker :: mid) mid := .inl (by rw [hmarker]; rfl)
      exact hone.append hspent
    · cases h

theorem position : Reader.position.Normalises positionBytes fun _ => True := by
  intro bs p rest h
  obtain ⟨b, mid, hbyte, h⟩ := run_bind_eq_ok.1 h
  obtain rfl := run_byte_eq_ok hbyte
  obtain ⟨rfl, rfl⟩ := run_pure_eq_ok h
  exact ⟨trivial, .inl rfl⟩

theorem magic : Reader.magic.Normalises (·.toList) fun _ => True := by
  intro bs m rest h
  obtain ⟨b₀, bs₀, h₀, h⟩ := run_bind_eq_ok.1 h
  obtain ⟨b₁, bs₁, h₁, h⟩ := run_bind_eq_ok.1 h
  obtain ⟨b₂, bs₂, h₂, h⟩ := run_bind_eq_ok.1 h
  obtain ⟨b₃, bs₃, h₃, h⟩ := run_bind_eq_ok.1 h
  obtain ⟨rfl, rfl⟩ := run_pure_eq_ok h
  refine ⟨trivial, .inl ?_⟩
  rw [run_byte_eq_ok h₀, run_byte_eq_ok h₁, run_byte_eq_ok h₂, run_byte_eq_ok h₃]
  rfl

theorem kind : Reader.kind.Normalises (fun k => CuckooFilter.varint k.index) fun _ => True := by
  intro bs k rest h
  obtain ⟨index, mid, hindex, h⟩ := run_bind_eq_ok.1 h
  obtain ⟨-, hspent⟩ := varint .narrow hindex
  split at h
  · rename_i hzero
    obtain ⟨rfl, rfl⟩ := run_pure_eq_ok h
    subst hzero
    exact ⟨trivial, hspent⟩
  · split at h
    · rename_i hone
      obtain ⟨rfl, rfl⟩ := run_pure_eq_ok h
      subst hone
      exact ⟨trivial, hspent⟩
    · cases h

theorem ring : Reader.ring.Normalises Ring.encode fun r => r.time < UInt64.size := by
  intro bs r rest h
  obtain ⟨current, bs₁, hcurrent, h⟩ := run_bind_eq_ok.1 h
  obtain ⟨time, bs₂, htime, h⟩ := run_bind_eq_ok.1 h
  obtain ⟨lru, bs₃, hlru, h⟩ := run_bind_eq_ok.1 h
  obtain ⟨rfl, rfl⟩ := run_pure_eq_ok h
  obtain ⟨⟨hfits, -⟩, hspent⟩ := varint .wide htime
  exact ⟨hfits, ((position hcurrent).2.append hspent).append (option position hlru).2⟩

/-- By the fields in their order: each leaves to the next one what it has not spent. -/
theorem snapshot : Reader.snapshot.Normalises Snapshot.encode Snapshot.Fits := by
  intro bs s rest h
  obtain ⟨magic, bs₁, hmagic, h⟩ := run_bind_eq_ok.1 h
  obtain ⟨version, bs₂, hversion, h⟩ := run_bind_eq_ok.1 h
  obtain ⟨kind, bs₃, hkind, h⟩ := run_bind_eq_ok.1 h
  obtain ⟨capacity, bs₄, hcapacity, h⟩ := run_bind_eq_ok.1 h
  obtain ⟨minutes, bs₅, hminutes, h⟩ := run_bind_eq_ok.1 h
  obtain ⟨count, bs₆, hcount, h⟩ := run_bind_eq_ok.1 h
  obtain ⟨ring, bs₇, hring, h⟩ := run_bind_eq_ok.1 h
  obtain ⟨length, bs₈, hlength, h⟩ := run_bind_eq_ok.1 h
  obtain ⟨data, bs₉, hdata, h⟩ := run_bind_eq_ok.1 h
  obtain ⟨rfl, rfl⟩ := run_pure_eq_ok h
  obtain ⟨-, magicSpent⟩ := Normalises.magic hmagic
  obtain ⟨⟨-, versionFits⟩, versionSpent⟩ := varint .narrow hversion
  obtain ⟨-, kindSpent⟩ := Normalises.kind hkind
  obtain ⟨⟨capacityFits, -⟩, capacitySpent⟩ := varint .wide hcapacity
  obtain ⟨minutesFit, minutesSpent⟩ := option (varint .narrow) hminutes
  obtain ⟨⟨countFits, -⟩, countSpent⟩ := varint .wide hcount
  obtain ⟨ringFits, ringSpent⟩ := option Normalises.ring hring
  obtain ⟨⟨lengthFits, -⟩, lengthSpent⟩ := varint .length hlength
  obtain ⟨rfl, hbytes⟩ := run_bytes_eq_ok hdata
  have dataSpent : Spent data bs₈ rest := .inl hbytes
  refine ⟨⟨versionFits rfl, capacityFits, fun m hm => (minutesFit m hm).2 rfl, countFits, ringFits,
    lengthFits⟩, ?_⟩
  exact magicSpent.append <| versionSpent.append <| kindSpent.append <| capacitySpent.append <|
    minutesSpent.append <| countSpent.append <| ringSpent.append <| lengthSpent.append dataSpent

end Normalises

end Reader

namespace Snapshot

theorem run_of_decode {bs : Bytes} {s : Snapshot} (h : decode bs = .ok s) :
    s.magic = snapshotMagic ∧ ∃ rest, Reader.snapshot.run bs = .ok (s, rest) := by
  unfold decode at h
  split at h
  · cases h
  · rename_i found rest hrun
    split at h
    · rename_i hmagic
      obtain rfl := Except.ok.inj h
      exact ⟨hmagic, rest, hrun⟩
    · cases h

/-- What a byte string is read as does not change when bytes are put behind it. -/
theorem decode_append {bs : Bytes} {s : Snapshot} (h : decode bs = .ok s) (more : Bytes) :
    decode (bs ++ more) = .ok s := by
  obtain ⟨hmagic, rest, hrun⟩ := run_of_decode h
  rw [decode, Reader.Incremental.snapshot.extend hrun more]
  exact if_pos hmagic

/-- Of the byte strings that are read as one snapshot, its stored form is the shortest. -/
theorem eq_encode_or_lt_of_decode {bs : Bytes} {s : Snapshot} (h : decode bs = .ok s) :
    bs = s.encode ∨ s.encode.length < bs.length := by
  obtain ⟨-, rest, hrun⟩ := run_of_decode h
  exact (Reader.Normalises.snapshot hrun).2.eq_or_lt

theorem fits_of_decode {bs : Bytes} {s : Snapshot} (h : decode bs = .ok s) : s.Fits := by
  obtain ⟨-, rest, hrun⟩ := run_of_decode h
  exact (Reader.Normalises.snapshot hrun).1

/-- A byte string that is read as a snapshot has the right magic and may be followed by anything. The
stored form of what was read is read as the same snapshot again, so storing it once more changes
nothing; it is no longer than what was read, and shorter than any other byte string that is read as
that snapshot. -/
theorem decode_normalises {bs : Bytes} {s : Snapshot} (h : decode bs = .ok s) :
    s.magic = snapshotMagic ∧ s.Fits ∧ (∀ more, decode (bs ++ more) = .ok s) ∧
      decode s.encode = .ok s ∧ (decode s.encode).map encode = .ok s.encode ∧
      s.encode.length ≤ bs.length ∧
      ∀ other, decode other = .ok s → other = s.encode ∨ s.encode.length < other.length := by
  obtain ⟨hmagic, -⟩ := run_of_decode h
  have hfits := fits_of_decode h
  have hencode := decode_encode hfits hmagic
  refine ⟨hmagic, hfits, decode_append h, hencode, by rw [hencode]; rfl, ?_,
    fun other => eq_encode_or_lt_of_decode⟩
  obtain rfl | hlt := eq_encode_or_lt_of_decode h
  · exact Nat.le_refl _
  · exact Nat.le_of_lt hlt

/-- Numbers of one byte that stand in three and in nine, and two bytes behind the image. -/
theorem decode_normalises_wide :
    let bs : Bytes := [0x43, 0x4b, 0x46, 0, 251, 1, 0, 1, 253, 16, 0, 0, 0, 0, 0, 0, 0, 1, 252, 5, 0, 0, 0,
      251, 3, 0, 1, 7, 251, 60, 0, 1, 2, 3, 1, 0, 255, 9, 9]
    let s : Snapshot := ⟨snapshotMagic, 1, .expiring, 16, some 5, 3, some ⟨7, 60, some 2⟩, [1, 0, 255]⟩
    decode bs = .ok s ∧ s.magic = snapshotMagic ∧ s.Fits ∧ (∀ more, decode (bs ++ more) = .ok s) ∧
      decode s.encode = .ok s ∧ (decode s.encode).map encode = .ok s.encode ∧
      s.encode.length ≤ bs.length ∧
      ∀ other, decode other = .ok s → other = s.encode ∨ s.encode.length < other.length := by
  intro bs s
  have hdecode : decode bs = .ok s := by rfl
  exact ⟨hdecode, decode_normalises hdecode⟩

end Snapshot

end CuckooFilter
