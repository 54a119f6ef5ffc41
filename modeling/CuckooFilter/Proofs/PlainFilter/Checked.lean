import CuckooFilter.Proofs.PlainFilter.Occupancy
import CuckooFilter.Proofs.Table.Checked

/-!
# A plain filter that checks each step

Every command does to a filter that checks each step what it does to one that does not
(`PlainFilter.execute?_eq`), and so does every sequence of them (`PlainFilter.run?_eq`).
-/

namespace CuckooFilter.PlainFilter

variable {R : Type}

/-! ## Operations -/

def create? (config : Config) (words : R) : Option (Except ConfigFault (PlainFilter R)) :=
  match config.validate with
  | .error fault => pure (.error fault)
  | .ok () => do
    let table ← Table.ofSize? (bucketCount config.capacity) config.hash words
    pure (.ok { config, table, count := 0 })

def add? [WordSource R] (f : PlainFilter R) (key : Key) :
    Option (Step (PlainFilter R) (Except Full Bool)) := do
  let candidates ← f.table.locate? key.encoding
  match ← f.table.find? candidates with
  | some _ => pure { state := f, answer := .ok false }
  | none =>
    let placed ← f.table.place? candidates 0 fun existing _ => existing
    match placed.answer with
    | .error full => pure ⟨{ f with table := placed.state }, .error full, placed.events⟩
    | .ok placement =>
      let count ← word? (if placement.addsEntry then f.count + 1 else f.count)
      pure ⟨{ f with table := placed.state, count }, .ok true, placed.events⟩

def query? (f : PlainFilter R) (key : Key) : Option Bool := do
  let candidates ← f.table.locate? key.encoding
  let place ← f.table.find? candidates
  pure place.isSome

def delete? (f : PlainFilter R) (key : Key) : Option (PlainFilter R × Bool) := do
  let candidates ← f.table.locate? key.encoding
  let (table, removed) ← f.table.remove? candidates
  let count ← Table.countDown? f.count removed
  pure ({ f with table, count }, removed)

def clear? (f : PlainFilter R) : Option (Step (PlainFilter R) Unit) := do
  let slots ← f.table.capacity?
  pure
    { state := { f with table := f.table.clear, count := 0 }
      answer := ()
      events := [.cleared slots] }

def handle? [WordSource R] (f : PlainFilter R) :
    Request Key Unit → Option (PlainFilter R × Answer Bool Bool)
  | .add key _ => do
    let added ← f.add? key
    pure (added.state, .added added.answer)
  | .query key => do
    let found ← f.query? key
    pure (f, .found found)
  | .delete key => do
    let (f, removed) ← f.delete? key
    pure (f, .deleted removed)
  | .clear => do
    let cleared ← f.clear?
    pure (cleared.state, .cleared)

def restore? (f : PlainFilter R) (claimed : Nat) (bytes : Bytes) (version : Option Nat) :
    Option (Step (PlainFilter R) RestoreStatus) := do
  let restored ← f.table.restore? bytes version
  match restored.answer with
  | .restored =>
    let count ← restored.state.occupied?
    pure
      { state := { f with table := restored.state, count }
        answer := .restored
        events := restored.events ++ if count = claimed then [] else [.recounted claimed count] }
  | status => pure { state := f, answer := status, events := restored.events }

def restoreSnapshot? (f : PlainFilter R) (s : Snapshot) :
    Option (Step (PlainFilter R) (Except Mismatch RestoreStatus)) := do
  let slots ← f.table.capacity?
  match s.checkShape .plain slots with
  | .error mismatch => pure { state := f, answer := .error mismatch }
  | .ok () =>
    let restored ← f.restore? s.count s.data (some s.version)
    pure ⟨restored.state, .ok restored.answer, restored.events⟩

def execute? [WordSource R] (f : PlainFilter R) : Command Unit → Option (PlainFilter R)
  | .request request => do
    let (f, _) ← f.handle? request
    pure f
  | .restore claimed image version => do
    let restored ← f.restore? claimed image version
    pure restored.state
  | .restoreSnapshot snapshot => do
    let restored ← f.restoreSnapshot? snapshot
    pure restored.state

/-! ## None of the checks fails -/

section Checks

variable {l : Layout} {f : PlainFilter R}

theorem create?_eq (config : Config) (words : R) :
    create? config words = some (create config words) := by
  unfold create? create
  cases hv : config.validate with
  | error fault => rfl
  | ok _ =>
    dsimp only
    rw [Table.ofSize?_eq (isTableSize_bucketCount hv)]
    rfl

theorem add?_eq [WordSource R] (h : f.table.Counted l f.count) (hl : l.buckets ≤ 2 ^ 31) (key : Key) :
    f.add? key = some (f.add key) := by
  have hc := h.fits_locate (by decide) key.encoding
  simp only [add?, add_eq, Table.locate?_eq h.isTableSize, Table.find?_eq h.isTableSize hc,
    Table.place?_eq h.isTableSize hc, Option.bind_eq_bind, Option.bind_some]
  cases f.table.find (f.table.locate key.encoding) with
  | some _ => rfl
  | none =>
    cases hanswer :
        (f.table.place (f.table.locate key.encoding) 0 fun existing _ => existing).answer with
    | error full => rfl
    | ok placement =>
      have hplaced := h.place_of_ok hc hanswer
      simp only [hplaced.word?_eq hl, Option.bind_some]
      rfl

theorem query?_eq (h : f.table.Counted l f.count) (key : Key) :
    f.query? key = some (f.query key) := by
  have hc := h.fits_locate (by decide) key.encoding
  simp only [query?, Table.locate?_eq h.isTableSize, Table.find?_eq h.isTableSize hc,
    Option.bind_eq_bind, Option.bind_some]
  rfl

theorem delete?_eq (h : f.table.Counted l f.count) (key : Key) :
    f.delete? key = some (f.delete key) := by
  have hc := h.fits_locate (by decide) key.encoding
  simp only [delete?, delete, Table.locate?_eq h.isTableSize, Table.remove?_eq h.isTableSize hc,
    h.countDown?_eq hc, Option.bind_eq_bind, Option.bind_some]
  rfl

theorem clear?_eq (h : f.table.Counted l f.count) (hl : l.buckets ≤ 2 ^ 31) :
    f.clear? = some f.clear := by
  rw [clear?, Table.capacity?_eq (h.size_eq ▸ hl)]
  rfl

theorem handle?_eq [WordSource R] (h : f.table.Counted l f.count) (hl : l.buckets ≤ 2 ^ 31)
    (request : Request Key Unit) : f.handle? request = some (f.handle request) := by
  cases request with
  | add key time => rw [handle?, add?_eq h hl]; rfl
  | query key => rw [handle?, query?_eq h]; rfl
  | delete key => rw [handle?, delete?_eq h]; rfl
  | clear => rw [handle?, clear?_eq h hl]; rfl

theorem restore?_eq (h : f.table.Counted l f.count) (hl : l.buckets ≤ 2 ^ 31) (claimed : Nat)
    (image : Bytes) (version : Option Nat) :
    f.restore? claimed image version = some (f.restore claimed image version) := by
  have hsize : f.table.size ≤ 2 ^ 31 := h.size_eq ▸ hl
  rw [restore?, restore, Table.restore?_eq hsize (by decide)]
  simp only [Table.occupied?_restore hsize, Option.bind_eq_bind, Option.bind_some]
  cases (f.table.restore image version).answer <;> rfl

theorem restoreSnapshot?_eq (h : f.table.Counted l f.count) (hl : l.buckets ≤ 2 ^ 31)
    (s : Snapshot) : f.restoreSnapshot? s = some (f.restoreSnapshot s) := by
  simp only [restoreSnapshot?, restoreSnapshot, capacity, Table.capacity?_eq (h.size_eq ▸ hl),
    restore?_eq h hl, Option.bind_eq_bind, Option.bind_some]
  cases s.checkShape .plain f.table.capacity <;> rfl

theorem execute?_eq [WordSource R] (h : f.table.Counted l f.count) (hl : l.buckets ≤ 2 ^ 31)
    (command : Command Unit) : f.execute? command = some (f.execute command) := by
  cases command with
  | request request => rw [execute?, handle?_eq h hl]; rfl
  | restore claimed image version => rw [execute?, restore?_eq h hl]; rfl
  | restoreSnapshot snapshot => rw [execute?, restoreSnapshot?_eq h hl]; rfl

/-- By induction on the commands: the count stays exact, so none of the next checks fails. -/
theorem run?_eq [WordSource R] (h : f.table.Counted l f.count) (hl : l.buckets ≤ 2 ^ 31)
    (commands : List (Command Unit)) :
    commands.foldlM execute? f = some (commands.foldl execute f) := by
  induction commands generalizing f with
  | nil => rfl
  | cons command commands ih =>
    rw [List.foldlM_cons, execute?_eq h hl]
    exact ih (counted_execute h command)

end Checks

end CuckooFilter.PlainFilter
