import Mathlib.Data.List.Nodup
import Xygo.Computation.OrderedMap

/-!
# Rows under locks

A table that several sessions change at once. A session locks rows and keeps the versions it
would commit to itself; a commit makes its versions the rows and a rollback drops them. The
lock table is a map from keys, so a row has one holder at most.

The frame lemmas say what this is for: whatever the other sessions do, the rows a session
holds stay as they were when it locked them, and so do the versions it would commit.
-/

set_option autoImplicit false

namespace Xygo.Computation

/-- The committed rows, and for each locked row its holder and the holder's version. -/
structure LockedRows (ι κ β : Type) where
  rows : OrderedMap κ β
  locks : OrderedMap κ (ι × β)

namespace LockedRows

variable {ι κ β : Type} [DecidableEq κ]

/-- No rows and no locks. -/
def empty : LockedRows ι κ β := ⟨.empty, .empty⟩

/-- Lock rows, with the versions the session would commit. -/
def lock (s : LockedRows ι κ β) (i : ι) (versions : List (κ × β)) : LockedRows ι κ β :=
  { s with locks := versions.foldl (fun locks version => locks.set version.1 (i, version.2)) s.locks }

/-- What a session holds, with its versions. -/
def Holds (s : LockedRows ι κ β) (i : ι) (k : κ) (v : β) : Prop := s.locks.get k = some (i, v)

variable {s t : LockedRows ι κ β} {i j : ι} {k : κ} {v : β}

/-- A row has one holder and one version. -/
theorem Holds.unique {w : β} (h : s.Holds i k v) (h' : s.Holds j k w) : i = j ∧ v = w := by
  simpa using Option.some.inj (h.symm.trans h')

theorem not_holds_empty : ¬ (empty : LockedRows ι κ β).Holds i k v := by
  simp [Holds, empty]

/-- The rows of a session's own locks, after it locked some more. -/
theorem get_lock {versions : List (κ × β)} (nodup : (versions.map Prod.fst).Nodup) (k : κ) :
    (s.lock i versions).locks.get k =
      match versions.find? (fun version => version.1 = k) with
      | some version => some (i, version.2)
      | none => s.locks.get k := by
  unfold lock
  dsimp only
  generalize s.locks = locks
  induction versions generalizing locks with
  | nil => rfl
  | cons version versions ih =>
    obtain ⟨hnew, hrest⟩ := List.nodup_cons.mp nodup
    rw [List.foldl_cons, ih hrest, OrderedMap.get_set, List.find?_cons]
    by_cases hk : version.1 = k
    · have hnone : versions.find? (fun version => version.1 = k) = none := by
        rw [List.find?_eq_none]
        intro other hother heq
        refine hnew ?_
        rw [hk, ← of_decide_eq_true heq]
        exact List.mem_map_of_mem hother
      simp [hk, hnone]
    · simp [hk, Ne.symm hk]

/-- A session that held nothing holds what it locked. -/
theorem holds_lock {versions : List (κ × β)} (nodup : (versions.map Prod.fst).Nodup)
    (none_held : ∀ k v, ¬ s.Holds i k v) :
    (s.lock i versions).Holds i k v ↔ (k, v) ∈ versions := by
  unfold Holds
  rw [get_lock nodup]
  cases hfind : versions.find? (fun version => version.1 = k) with
  | none =>
    rw [List.find?_eq_none] at hfind
    exact iff_of_false (none_held k v) fun hmem => hfind _ hmem (by simp)
  | some version =>
    have hmem := List.mem_of_find?_eq_some hfind
    have hkey : version.1 = k := by simpa using List.find?_some hfind
    constructor
    · intro heq
      obtain rfl : version.2 = v := by simpa using heq
      rw [← hkey]
      exact hmem
    · intro hpair
      have := List.inj_on_of_nodup_map nodup hmem hpair hkey
      simp [this]

/-! ## Frames -/

/-- What a session holds is the same in two states, and so are the rows it holds. -/
structure SameFor (i : ι) (s t : LockedRows ι κ β) : Prop where
  held : ∀ k v, t.Holds i k v ↔ s.Holds i k v
  rows : ∀ k v, s.Holds i k v → t.rows.get k = s.rows.get k

theorem SameFor.refl (i : ι) (s : LockedRows ι κ β) : SameFor i s s :=
  ⟨fun _ _ => Iff.rfl, fun _ _ _ => rfl⟩

theorem SameFor.trans {u : LockedRows ι κ β} (h : SameFor i s t) (h' : SameFor i t u) :
    SameFor i s u where
  held k v := (h'.held k v).trans (h.held k v)
  rows k v hv := (h'.rows k v ((h.held k v).mpr hv)).trans (h.rows k v hv)

/-- Another session locks only rows that nobody holds. -/
theorem sameFor_lock (hne : i ≠ j) {versions : List (κ × β)}
    (nodup : (versions.map Prod.fst).Nodup)
    (unlocked : ∀ version ∈ versions, s.locks.get version.1 = none) :
    SameFor i s (s.lock j versions) where
  held k v := by
    unfold Holds
    rw [get_lock nodup]
    cases hfind : versions.find? (fun version => version.1 = k) with
    | none => rfl
    | some version =>
      have hkey : version.1 = k := by simpa using List.find?_some hfind
      have hnone := unlocked version (List.mem_of_find?_eq_some hfind)
      rw [hkey] at hnone
      simp [hnone, Ne.symm hne]
  rows _ _ _ := rfl

/-- A session that holds nothing is not concerned by a change of the rows alone. -/
theorem sameFor_of_not_holds (h : ∀ k v, ¬ s.Holds i k v) (h' : ∀ k v, ¬ t.Holds i k v) :
    SameFor i s t :=
  ⟨fun k v => iff_of_false (h' k v) (h k v), fun k v hv => absurd hv (h k v)⟩

/-- A new row enters: it is nobody's. -/
theorem sameFor_insert {v : β} (fresh : s.rows.get k = none)
    (present : ∀ k' w, s.Holds i k' w → (s.rows.get k').isSome) :
    SameFor i s { s with rows := s.rows.set k v } where
  held _ _ := Iff.rfl
  rows k' v' hv := by
    have hk : k' ≠ k := by
      rintro rfl
      have := present k' v' hv
      simp [fresh] at this
    simp [hk]

/-! ## Commits and rollbacks -/

variable [DecidableEq ι]

/-- Whether a session may write a row: no other session holds it. -/
def free (s : LockedRows ι κ β) (i : ι) (k : κ) : Bool :=
  match s.locks.get k with
  | some (j, _) => j = i
  | none => true

/-- Drop what a session holds. -/
def rollback (s : LockedRows ι κ β) (i : ι) : LockedRows ι κ β :=
  { s with locks := s.locks.filter fun _ held => held.1 ≠ i }

/-- Make the versions of a session the rows. -/
def commit (s : LockedRows ι κ β) (i : ι) : LockedRows ι κ β where
  rows := s.locks.entries.foldl
    (fun rows held => if held.2.1 = i then rows.set held.1 held.2.2 else rows) s.rows
  locks := (s.rollback i).locks

/-- Write a row in a transaction of its own, which waits while another session holds it. -/
def write (s : LockedRows ι κ β) (i : ι) (k : κ) (v : β) : Option (LockedRows ι κ β) :=
  if s.free i k then some { s with rows := s.rows.set k v } else none

@[simp] theorem get_rollback (s : LockedRows ι κ β) (i : ι) (k : κ) :
    (s.rollback i).locks.get k = (s.locks.get k).filter fun held => held.1 ≠ i := by
  simp [rollback]

/-- A session holds nothing after its rollback. -/
theorem not_holds_rollback : ¬ (s.rollback i).Holds i k v := by
  simp [Holds, Option.filter_eq_some_iff]

/-- A session holds nothing after its commit. -/
theorem not_holds_commit : ¬ (s.commit i).Holds i k v := not_holds_rollback

/-- **What a commit does.** The rows of the session's locks become its versions, the other
rows stay. -/
theorem get_commit (s : LockedRows ι κ β) (i : ι) (k : κ) :
    (s.commit i).rows.get k =
      match s.locks.get k with
      | some (j, v) => if j = i then some v else s.rows.get k
      | none => s.rows.get k := by
  have fold (held : List (κ × (ι × β))) (rows : OrderedMap κ β)
      (nodup : (held.map Prod.fst).Nodup) :
      (held.foldl (fun rows held => if held.2.1 = i then rows.set held.1 held.2.2 else rows)
        rows).get k =
      match (held.find? fun entry => entry.1 = k).map Prod.snd with
      | some (j, v) => if j = i then some v else rows.get k
      | none => rows.get k := by
    induction held generalizing rows with
    | nil => rfl
    | cons entry held ih =>
      obtain ⟨hnew, hrest⟩ := List.nodup_cons.mp nodup
      rw [List.foldl_cons, ih _ hrest, List.find?_cons]
      by_cases hk : entry.1 = k
      · have hnone : held.find? (fun entry => entry.1 = k) = none := by
          rw [List.find?_eq_none]
          intro other hother heq
          refine hnew ?_
          rw [hk, ← of_decide_eq_true heq]
          exact List.mem_map_of_mem hother
        simp only [hnone, hk, decide_true, Option.map_none, Option.map_some]
        split <;> simp
      · have hset : (if entry.2.1 = i then rows.set entry.1 entry.2.2 else rows).get k =
            rows.get k := by
          split
          · simp [Ne.symm hk]
          · rfl
        simp only [hk, hset, decide_false]
  exact fold s.locks.entries s.rows s.locks.nodup

/-- A row a session holds becomes its version. -/
theorem get_commit_of_holds (h : s.Holds i k v) : (s.commit i).rows.get k = some v := by
  have hget : s.locks.get k = some (i, v) := h
  simp [get_commit, hget]

/-- A row a session does not hold is not changed by its commit. -/
theorem get_commit_of_not_holds (h : ∀ v, ¬ s.Holds i k v) :
    (s.commit i).rows.get k = s.rows.get k := by
  rw [get_commit]
  cases hget : s.locks.get k with
  | none => rfl
  | some held =>
    obtain ⟨j, v⟩ := held
    have hne : j ≠ i := by
      rintro rfl
      exact h v hget
    simp [hne]

/-- The rows after a write. -/
theorem write_eq_some (h : s.write i k v = some t) :
    s.free i k = true ∧ t = { s with rows := s.rows.set k v } := by
  unfold write at h
  split at h
  · exact ⟨by assumption, (Option.some.inj h).symm⟩
  · cases h

/-- Another session rolls back. -/
theorem sameFor_rollback (hne : i ≠ j) (s : LockedRows ι κ β) : SameFor i s (s.rollback j) where
  held k v := by
    simp only [Holds, get_rollback, Option.filter_eq_some_iff]
    simp [hne]
  rows _ _ _ := rfl

/-- Another session commits. -/
theorem sameFor_commit (hne : i ≠ j) (s : LockedRows ι κ β) : SameFor i s (s.commit j) where
  held := (sameFor_rollback hne s).held
  rows _ _ hv := get_commit_of_not_holds fun _ hw => hne (hv.unique hw).1

/-- Another session writes a row. -/
theorem sameFor_write (hne : i ≠ j) (h : s.write j k v = some t) : SameFor i s t := by
  obtain ⟨hfree, rfl⟩ := write_eq_some h
  refine ⟨fun _ _ => Iff.rfl, fun k' v' hv => ?_⟩
  have hk : k' ≠ k := by
    rintro rfl
    have hget : s.locks.get k' = some (i, v') := hv
    simp [free, hget, hne] at hfree
  simp [hk]

end LockedRows

end Xygo.Computation
