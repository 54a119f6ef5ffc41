import CuckooFilter.Proofs.Bytes
import CuckooFilter.Snapshot.Decoding

/-!
# Reading what was stored

A reader of the stored form of a value takes just that off the front of a byte string
(`Reader.Reads`), whatever follows. So a sequence of fields is read field by field (`Reads.bind`), and
a snapshot whose numbers fit their fields is read back from its stored form
(`Snapshot.decode_encode_append`).
-/

namespace CuckooFilter

namespace Reader

/-- The reader takes `bs` off the front of whatever begins with it, and makes `a` of it. -/
def Reads {α : Type} (r : Reader α) (bs : Bytes) (a : α) : Prop :=
  ∀ rest, r.run (bs ++ rest) = .ok (a, rest)

namespace Reads

variable {α β : Type}

theorem pure (a : α) : Reads (Pure.pure a) [] a :=
  fun _ => rfl

theorem bind {r : Reader α} {f : α → Reader β} {bs bs' : Bytes} {a : α} {b : β}
    (ha : r.Reads bs a) (hb : (f a).Reads bs' b) : (r >>= f).Reads (bs ++ bs') b := by
  intro rest
  rw [List.append_assoc, StateT.run_bind, ha]
  exact hb rest

/-- After the last field nothing more is taken. -/
theorem last {r : Reader α} {f : α → Reader β} {bs : Bytes} {a : α} {b : β} (ha : r.Reads bs a)
    (hb : (f a).Reads [] b) : (r >>= f).Reads bs b := by
  have hbind := bind ha hb
  rwa [List.append_nil] at hbind

theorem byte (b : UInt8) : Reader.byte.Reads [b] b :=
  fun _ => rfl

theorem word (width : Nat) {n : Nat} (h : n < 256 ^ width) :
    (Reader.word width).Reads (littleEndian width n) n := by
  intro rest
  have htake : (littleEndian width n ++ rest).take width = littleEndian width n :=
    List.take_left' (length_littleEndian width n)
  have hdrop : (littleEndian width n ++ rest).drop width = rest :=
    List.drop_left' (length_littleEndian width n)
  simp only [Reader.word, StateT.run, htake, hdrop, length_littleEndian, Nat.lt_irrefl, if_false,
    ofLittleEndian_littleEndian, Nat.mod_eq_of_lt h]

theorem bytes (data : Bytes) : (Reader.bytes data.length).Reads data data := by
  intro rest
  have hlen : ¬ (data ++ rest).length < data.length := by
    rw [List.length_append]
    omega
  simp only [Reader.bytes, StateT.run, if_neg hlen, List.take_left, List.drop_left]

/-- A number that fits 64 bits, and 32 bits if it has a narrow field. -/
theorem varint {field : Field} {n : Nat} (hn : n < UInt64.size)
    (hnarrow : field = .narrow → n < UInt32.size) :
    (Reader.varint field).Reads (CuckooFilter.varint n) n := by
  unfold CuckooFilter.varint
  split
  · rename_i hsmall
    have hmarker : (UInt8.ofNat n).toNat = n := by
      rw [UInt8.toNat_ofNat']
      omega
    have hlt : UInt8.ofNat n < 251 := by
      rw [UInt8.lt_iff_toNat_lt, hmarker]
      exact hsmall
    refine last (byte _) ?_
    simp only [if_pos hlt, hmarker]
    exact pure n
  · split
    · exact bind (byte 251) (word 2 (by omega))
    · split
      · exact bind (byte 252) (word 4 (by omega))
      · rename_i hlarge
        refine bind (byte 253) ?_
        have hwide : field ≠ .narrow := fun hf => hlarge (hnarrow hf)
        show Reads (if field = .narrow then _ else Reader.word 8) _ _
        rw [if_neg hwide]
        exact word 8 (by omega)

theorem option {α : Type} {r : Reader α} {encode : α → Bytes} {value : Option α}
    (h : ∀ a ∈ value, r.Reads (encode a) a) :
    (Reader.option r).Reads (optionBytes encode value) value := by
  cases value with
  | none => exact last (byte 0) (pure none)
  | some a => exact bind (byte 1) (last (h a rfl) (pure _))

theorem position (p : Position) : Reader.position.Reads (positionBytes p) p :=
  last (byte _) (pure p)

theorem magic (m : Vector UInt8 4) : Reader.magic.Reads m.toList m := by
  obtain ⟨⟨b⟩, hb⟩ := m
  match b, hb with
  | [b₀, b₁, b₂, b₃], _ =>
    exact bind (byte b₀) (bind (byte b₁) (bind (byte b₂) (last (byte b₃) (pure _))))

theorem kind (k : FilterKind) : Reader.kind.Reads (CuckooFilter.varint k.index) k := by
  have hindex : k.index < UInt32.size := by cases k <;> decide
  refine last (varint (Nat.lt_trans hindex (by decide)) fun _ => hindex) ?_
  cases k
  · exact pure FilterKind.plain
  · exact pure FilterKind.expiring

theorem ring {r : Ring} (h : r.time < UInt64.size) : Reader.ring.Reads r.encode r := by
  rw [Ring.encode, List.append_assoc]
  exact bind (position _) (bind (varint h nofun) (last (option fun p _ => position p) (pure _)))

theorem snapshot {s : Snapshot} (h : s.Fits) : Reader.snapshot.Reads s.encode s := by
  obtain ⟨hversion, hcapacity, hminutes, hcount, hring, hdata⟩ := h
  have hsize : UInt32.size < UInt64.size := by decide
  refine bind (magic _) (bind (varint ?_ fun _ => hversion) (bind (kind _) (bind (varint hcapacity nofun)
    (bind (option fun minutes hm => varint ?_ fun _ => hminutes minutes hm)
      (bind (varint hcount nofun) (bind (option fun r hr => ring (hring r hr))
        (bind (varint hdata nofun) (last (bytes _) (pure _)))))))))
  · exact Nat.lt_trans hversion hsize
  · exact Nat.lt_trans (hminutes minutes hm) hsize

end Reads

end Reader

namespace Snapshot

/-- The stored form of a snapshot is read back, whatever follows it. -/
theorem decode_encode_append {s : Snapshot} (h : s.Fits) (hmagic : s.magic = snapshotMagic)
    (rest : Bytes) : decode (s.encode ++ rest) = .ok s := by
  rw [decode, Reader.Reads.snapshot h rest]
  exact if_pos hmagic

theorem decode_encode {s : Snapshot} (h : s.Fits) (hmagic : s.magic = snapshotMagic) :
    decode s.encode = .ok s := by
  have hdecode := decode_encode_append h hmagic []
  rwa [List.append_nil] at hdecode

/-- A snapshot has the shape of a filter if kind and capacity are the filter's. -/
theorem checkShape_eq_ok_iff {s : Snapshot} {kind : FilterKind} {capacity : Nat} :
    s.checkShape kind capacity = .ok () ↔ s.kind = kind ∧ s.capacity = capacity := by
  unfold checkShape
  by_cases hkind : s.kind = kind
  · by_cases hcapacity : s.capacity = capacity
    · rw [if_neg fun h => h hkind, if_neg fun h => h hcapacity]
      exact iff_of_true rfl ⟨hkind, hcapacity⟩
    · rw [if_neg fun h => h hkind, if_pos hcapacity]
      exact iff_of_false nofun fun h => hcapacity h.2
  · rw [if_pos hkind]
    exact iff_of_false nofun fun h => hkind h.1

end Snapshot

end CuckooFilter
