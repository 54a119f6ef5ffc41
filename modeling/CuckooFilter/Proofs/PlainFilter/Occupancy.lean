import CuckooFilter.PlainFilter
import CuckooFilter.Proofs.Request
import CuckooFilter.Proofs.Table.Occupancy

/-!
# The number of entries of a plain filter

What each operation of a plain filter does to its table and its count, and that these agree after
every command (`PlainFilter.counted_execute`), whatever was restored before.
-/

namespace CuckooFilter.PlainFilter

variable {R : Type}

def handle [WordSource R] (f : PlainFilter R) : Request Key Unit → PlainFilter R × Answer Bool Bool
  | .add key _ =>
    let added := f.add key
    (added.state, .added added.answer)
  | .query key => (f, .found (f.query key))
  | .delete key =>
    let (f, removed) := f.delete key
    (f, .deleted removed)
  | .clear => (f.clear.state, .cleared)

def execute [WordSource R] (f : PlainFilter R) : Command Unit → PlainFilter R
  | .request request => (f.handle request).1
  | .restore claimed image version => (f.restore claimed image version).state
  | .restoreSnapshot snapshot => (f.restoreSnapshot snapshot).state

theorem delete_eq (f : PlainFilter R) (key : Key) :
    f.delete key = match f.table.find (f.table.locate key.encoding) with
      | some (i, j) => ({ f with table := f.table.setSlot i j .empty, count := f.count - 1 }, true)
      | none => (f, false) := by
  rw [delete, Table.remove_eq]
  cases f.table.find (f.table.locate key.encoding) <;> rfl

theorem add_eq [WordSource R] (f : PlainFilter R) (key : Key) :
    f.add key = match f.table.find (f.table.locate key.encoding) with
      | some _ => { state := f, answer := .ok false }
      | none =>
        let placed := f.table.place (f.table.locate key.encoding) 0 fun existing _ => existing
        match placed.answer with
        | .error full => ⟨{ f with table := placed.state }, .error full, placed.events⟩
        | .ok placement =>
          ⟨{ f with
              table := placed.state
              count := if placement.addsEntry then f.count + 1 else f.count }, .ok true,
            placed.events⟩ := rfl

theorem answer_restore (f : PlainFilter R) (claimed : Nat) (image : Bytes) (version : Option Nat) :
    (f.restore claimed image version).answer = (f.table.restore image version).answer := by
  rw [restore]
  dsimp only
  cases (f.table.restore image version).answer <;> rfl

theorem state_restore (f : PlainFilter R) (claimed : Nat) (image : Bytes) (version : Option Nat) :
    (f.restore claimed image version).state =
      match (f.table.restore image version).answer with
      | .restored =>
        { f with
          table := (f.table.restore image version).state
          count := (f.table.restore image version).state.occupied }
      | _ => f := by
  rw [restore]
  dsimp only
  cases (f.table.restore image version).answer <;> rfl

section Counted

variable {l : Layout} {f : PlainFilter R}

theorem exists_create {config : Config} (hv : config.validate = .ok ()) (words : R) :
    ∃ f, create config words = .ok f :=
  ⟨_, by rw [create, hv]⟩

theorem counted_create {config : Config} {words : R} (h : create config words = .ok f) :
    f.table.Counted config.layout f.count := by
  unfold create at h
  split at h
  · cases h
  · rename_i hv
    obtain rfl := Except.ok.inj h
    exact .ofSize (isTableSize_bucketCount hv) _ _

theorem counted_add [WordSource R] (h : f.table.Counted l f.count) (key : Key) :
    (f.add key).state.table.Counted l (f.add key).state.count := by
  have hc := h.fits_locate (by decide) key.encoding
  rw [add_eq]
  split
  · exact h
  · dsimp only
    split
    · rename_i hfull
      exact h.place_of_full hc hfull
    · rename_i hok
      exact h.place_of_ok hc hok

theorem counted_delete (h : f.table.Counted l f.count) (key : Key) :
    (f.delete key).1.table.Counted l (f.delete key).1.count := by
  have hc := h.fits_locate (by decide) key.encoding
  rw [delete_eq]
  split
  · rename_i hfind
    exact h.erase (Table.holds_of_find h.isTableSize hc hfind)
  · exact h

theorem counted_restore (h : f.table.Counted l f.count) (claimed : Nat) (image : Bytes)
    (version : Option Nat) : (f.restore claimed image version).state.table.Counted l
      (f.restore claimed image version).state.count := by
  rw [state_restore]
  split
  · rename_i hr
    exact h.restore hr
  · exact h

theorem counted_execute [WordSource R] (h : f.table.Counted l f.count) (command : Command Unit) :
    (f.execute command).table.Counted l (f.execute command).count := by
  cases command with
  | request request =>
    cases request with
    | add key time => exact counted_add h key
    | query key => exact h
    | delete key => exact counted_delete h key
    | clear => exact h.clear
  | restore claimed image version => exact counted_restore h claimed image version
  | restoreSnapshot snapshot =>
    rw [execute, restoreSnapshot]
    split
    · exact h
    · exact counted_restore h _ _ _

theorem counted_run [WordSource R] (h : f.table.Counted l f.count)
    (commands : List (Command Unit)) : (commands.foldl execute f).table.Counted l
      (commands.foldl execute f).count := by
  induction commands generalizing f with
  | nil => exact h
  | cons command commands ih => exact ih (counted_execute h command)

end Counted

end CuckooFilter.PlainFilter
