import CuckooFilter.Proofs.Snapshot

/-!
# Snapshots cut short

The stored form of a snapshot says by itself where it ends. A reader that has found its value does not
look at what follows, and when bytes that it accepts are cut short, it either has its value already or
runs out of bytes and says how many it is short of (`Reader.Incremental`). Every reader of a field is
of that kind, and sequences and choices of such readers are (`Incremental.bind`), so the stored form of
a snapshot is read back whatever follows it, and no strict prefix of it is taken for a snapshot
(`Snapshot.decode_encode_exactly`).
-/

namespace CuckooFilter

/-- What the reader does with a byte string decides what it does with a longer and with a shorter
one. -/
structure Reader.Incremental {α : Type} (r : Reader α) : Prop where
  /-- What follows the value is left alone. -/
  extend : ∀ {bs a rest}, r.run bs = .ok (a, rest) → ∀ more, r.run (bs ++ more) = .ok (a, rest ++ more)
  /-- Without the last bytes the value is there already, or no more bytes are missing than were cut
  off. -/
  cut : ∀ {bs more a rest}, r.run (bs ++ more) = .ok (a, rest) → (∃ found, r.run bs = .ok found) ∨
    ∃ missing, 0 < missing ∧ missing ≤ more.length ∧ r.run bs = .error (.unexpectedEnd missing)

namespace Reader.Incremental

variable {α β : Type}

theorem pure (a : α) : Incremental (Pure.pure a : Reader α) where
  extend h _ := by
    obtain ⟨rfl, rfl⟩ := Prod.mk.inj (Except.ok.inj h)
    rfl
  cut _ := .inl ⟨_, rfl⟩

/-- A reader that accepts nothing. -/
theorem of_error {r : Reader α} (h : ∀ bs, ∃ fault, r.run bs = .error fault) : Incremental r where
  extend {bs _ _} hok _ := by
    obtain ⟨fault, hfault⟩ := h bs
    cases hok.symm.trans hfault
  cut {bs more _ _} hok := by
    obtain ⟨fault, hfault⟩ := h (bs ++ more)
    cases hok.symm.trans hfault

theorem fail (fault : DecodeFault) : Incremental (Reader.fail fault : Reader α) :=
  of_error fun _ => ⟨fault, rfl⟩

/-- One value after another. If the first reader runs out of bytes the second one is not asked. -/
theorem bind {r : Reader α} {f : α → Reader β} (hr : r.Incremental) (hf : ∀ a, (f a).Incremental) :
    (r >>= f).Incremental where
  extend {bs b rest} h more := by
    rw [StateT.run_bind] at h ⊢
    cases hfirst : r.run bs with
    | error fault =>
      rw [hfirst] at h
      cases h
    | ok found =>
      rw [hfirst] at h
      rw [hr.extend hfirst more]
      exact (hf found.1).extend h more
  cut {bs more b rest} h := by
    rw [StateT.run_bind] at h ⊢
    cases hwhole : r.run (bs ++ more) with
    | error fault =>
      rw [hwhole] at h
      cases h
    | ok whole =>
      rw [hwhole] at h
      obtain ⟨found, hfound⟩ | ⟨missing, hpos, hle, hmissing⟩ := hr.cut hwhole
      · rw [hfound]
        have hleft := hr.extend hfound more
        obtain rfl := Except.ok.inj (hwhole.symm.trans hleft)
        exact (hf found.1).cut h
      · exact .inr ⟨missing, hpos, hle, by rw [hmissing]; rfl⟩

/-- A choice of two readers. -/
theorem ite {p : Prop} [Decidable p] {r r' : Reader α} (h : r.Incremental) (h' : r'.Incremental) :
    (if p then r else r').Incremental := by
  split
  · exact h
  · exact h'

/-- A reader of a fixed number of bytes, which says of too few of them how many it asked for in
vain. -/
theorem of_take {r : Reader α} (length : Nat) (value : Bytes → α) (missing : Bytes → Nat)
    (hrun : ∀ bs, r.run bs = if bs.length < length then .error (.unexpectedEnd (missing bs))
      else .ok (value (bs.take length), bs.drop length))
    (hmissing : ∀ bs, bs.length < length → 0 < missing bs ∧ bs.length + missing bs ≤ length) :
    r.Incremental where
  extend {bs a rest} h more := by
    rw [hrun] at h ⊢
    by_cases hshort : bs.length < length
    · rw [if_pos hshort] at h
      cases h
    · rw [if_neg hshort] at h
      obtain ⟨rfl, rfl⟩ := Prod.mk.inj (Except.ok.inj h)
      have hle := Nat.not_lt.1 hshort
      have hlong : ¬ (bs ++ more).length < length := by
        rw [List.length_append]
        omega
      rw [if_neg hlong, List.take_append_of_le_length hle, List.drop_append_of_le_length hle]
  cut {bs more a rest} h := by
    rw [hrun] at h ⊢
    by_cases hshort : bs.length < length
    · have hlong : ¬ (bs ++ more).length < length := fun hlong => by
        rw [if_pos hlong] at h
        cases h
      rw [List.length_append] at hlong
      obtain ⟨hpos, hle⟩ := hmissing bs hshort
      rw [if_pos hshort]
      exact .inr ⟨missing bs, hpos, by omega, rfl⟩
    · rw [if_neg hshort]
      exact .inl ⟨_, rfl⟩

/-! ## Fields -/

theorem byte : Incremental Reader.byte := by
  refine of_take 1 (fun bs => bs.headD 0) (fun _ => 1) (fun bs => ?_)
    fun bs hshort => ⟨Nat.one_pos, by omega⟩
  cases bs <;> rfl

theorem word (width : Nat) : Incremental (Reader.word width) := by
  refine of_take width ofLittleEndian (fun bs => width - bs.length) (fun bs => ?_)
    fun bs hshort => ⟨by omega, by omega⟩
  show (if (bs.take width).length < width then _ else _) = _
  rw [List.length_take]
  by_cases hshort : bs.length < width
  · have hmin : min width bs.length = bs.length := Nat.min_eq_right (Nat.le_of_lt hshort)
    rw [hmin, if_pos hshort]
  · have hmin : min width bs.length = width := Nat.min_eq_left (Nat.not_lt.1 hshort)
    rw [hmin, if_neg (Nat.lt_irrefl width), if_neg hshort]

theorem bytes (length : Nat) : Incremental (Reader.bytes length) :=
  of_take length id (fun _ => 1) (fun _ => rfl) fun _ hshort => ⟨Nat.one_pos, hshort⟩

theorem varint (field : Field) : Incremental (Reader.varint field) :=
  have hrefuse (found : IntegerWidth) : Incremental (α := Nat) fun rest =>
      .error (.integerWidth (field.expected rest) found) := of_error fun _ => ⟨_, rfl⟩
  bind byte fun _ => ite (pure _) <| ite (word 2) <| ite (word 4) <|
    ite (ite (hrefuse .u64) (word 8)) <| ite (hrefuse .u128) (hrefuse .reserved)

theorem option {r : Reader α} (h : r.Incremental) : (Reader.option r).Incremental :=
  bind byte fun _ => ite (pure none) <| ite (bind h fun a => pure (some a)) (fail _)

theorem position : Incremental Reader.position :=
  bind byte fun b => pure b.toBitVec

theorem magic : Incremental Reader.magic :=
  bind byte fun _ => bind byte fun _ => bind byte fun _ => bind byte fun _ => pure _

theorem kind : Incremental Reader.kind :=
  bind (varint .narrow) fun _ => ite (pure FilterKind.plain) <|
    ite (pure FilterKind.expiring) (fail _)

theorem ring : Incremental Reader.ring :=
  bind position fun _ => bind (varint .wide) fun _ => bind (option position) fun _ => pure _

theorem snapshot : Incremental Reader.snapshot :=
  bind magic fun _ => bind (varint .narrow) fun _ => bind kind fun _ => bind (varint .wide) fun _ =>
    bind (option (varint .narrow)) fun _ => bind (varint .wide) fun _ => bind (option ring) fun _ =>
      bind (varint .length) fun length => bind (bytes length) fun _ => pure _

end Reader.Incremental

namespace Snapshot

theorem run_snapshot_encode {s : Snapshot} (h : s.Fits) :
    Reader.snapshot.run s.encode = .ok (s, []) := by
  have hreads := Reader.Reads.snapshot h []
  rwa [List.append_nil] at hreads

/-- A strict prefix of a stored form ends too early, by no more than what was cut off. -/
theorem decode_of_prefix {s : Snapshot} (h : s.Fits) {bs more : Bytes} (hcut : bs ++ more = s.encode)
    (hmore : more ≠ []) :
    ∃ missing, 0 < missing ∧ missing ≤ more.length ∧ decode bs = .error (.unexpectedEnd missing) := by
  have hwhole := run_snapshot_encode h
  rw [← hcut] at hwhole
  obtain ⟨found, hfound⟩ | ⟨missing, hpos, hle, hmissing⟩ := Reader.Incremental.snapshot.cut hwhole
  · -- The value would have been found with bytes left over, and nothing is left over.
    have hlonger := Reader.Incremental.snapshot.extend hfound more
    have hrest := congrArg Prod.snd (Except.ok.inj (hwhole.symm.trans hlonger))
    exact absurd (List.append_eq_nil_iff.1 hrest.symm).2 hmore
  · exact ⟨missing, hpos, hle, by rw [decode, hmissing]⟩

/-- Whatever follows the stored form of a snapshot, just the snapshot is read, and refused if its magic
is wrong; and bytes that end before the stored form does are refused because they end too early. -/
theorem decode_encode_exactly {s : Snapshot} (h : s.Fits) :
    (∀ rest, (decode (s.encode ++ rest)).mapError DecodeFault.toError =
        if s.magic = snapshotMagic then .ok s
        else .error (.serialization (DecodeFault.wrongMagic s.magic).message)) ∧
      ∀ bs, bs <+: s.encode → bs ≠ s.encode →
        ∃ missing, 0 < missing ∧ bs.length + missing ≤ s.encode.length ∧
          (decode bs).mapError DecodeFault.toError =
            .error (.serialization (DecodeFault.unexpectedEnd missing).message) := by
  constructor
  · intro rest
    by_cases hmagic : s.magic = snapshotMagic
    · rw [decode_encode_append h hmagic rest, if_pos hmagic]
      rfl
    · rw [decode, Reader.Reads.snapshot h rest]
      dsimp only
      rw [if_neg hmagic, if_neg hmagic]
      rfl
  · rintro bs ⟨more, hcut⟩ hne
    have hmore : more ≠ [] := fun hnil => hne (by rw [← hcut, hnil, List.append_nil])
    obtain ⟨missing, hpos, hle, hdecode⟩ := decode_of_prefix h hcut hmore
    refine ⟨missing, hpos, ?_, ?_⟩
    · rw [← hcut, List.length_append]
      omega
    · rw [hdecode]
      rfl

/-- A snapshot of an expiring filter of 1024 slots, with a ring that has a cursor. -/
theorem decode_encode_exactly_small :
    let s : Snapshot :=
      ⟨snapshotMagic, 1, .expiring, 1024, some 5, 3, some ⟨7, 1700000100, some 2⟩, [1, 0, 255]⟩
    s.Fits ∧ (∀ rest, (decode (s.encode ++ rest)).mapError DecodeFault.toError =
        if s.magic = snapshotMagic then .ok s
        else .error (.serialization (DecodeFault.wrongMagic s.magic).message)) ∧
      ∀ bs, bs <+: s.encode → bs ≠ s.encode →
        ∃ missing, 0 < missing ∧ bs.length + missing ≤ s.encode.length ∧
          (decode bs).mapError DecodeFault.toError =
            .error (.serialization (DecodeFault.unexpectedEnd missing).message) := by
  intro s
  have hfits : s.Fits := by
    refine ⟨by decide, by decide, ?_, by decide, ?_, by decide⟩
    · rintro _ ⟨⟩
      decide
    · rintro _ ⟨⟩
      decide
  exact ⟨hfits, decode_encode_exactly hfits⟩

end Snapshot

end CuckooFilter
