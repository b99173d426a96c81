import Mathlib.Data.List.Basic
import Mathlib.Logic.Function.Basic

/-! # Files under names

A directory gives names to files, and a file keeps its content under whatever name it has. A
file that was opened is written through its own position, so a rename does not stop a writer.
No file has two names.
-/
namespace FileSystem
variable {N β : Type}

structure Disk (N β : Type) where
  entries : N → Option ℕ
  contents : ℕ → List β
  next : ℕ
  below : ∀ {name n}, entries name = some n → n < next
  single : ∀ {name name' n}, entries name = some n → entries name' = some n → name = name'

/-- The content with a piece written over it at a position; a gap before it is filled. -/
def overwrite (zero : β) (old : List β) (position : ℕ) (piece : List β) : List β :=
  old.take position ++ List.replicate (position - old.length) zero ++ piece ++ old.drop (position + piece.length)

/-- Writing at the end appends. -/
@[simp] theorem overwrite_length (zero : β) (old piece : List β) : overwrite zero old old.length piece = old ++ piece := by
  simp [overwrite]

namespace Disk
variable (disk : Disk N β)

/-- The content under a name. -/
def read (name : N) : Option (List β) := (disk.entries name).map disk.contents

/-- A disk with other contents. -/
def write (n : ℕ) (content : List β) : Disk N β := { disk with contents := Function.update disk.contents n content }

@[simp] theorem write_entries (n : ℕ) (content : List β) (name : N) : (disk.write n content).entries name = disk.entries name := rfl

@[simp] theorem write_contents (n : ℕ) (content : List β) : (disk.write n content).contents n = content := Function.update_self ..

variable {disk} in
/-- A write leaves the files under other names alone. -/
theorem read_write {n : ℕ} {name : N} (h : disk.entries name ≠ some n) (content : List β) :
    (disk.write n content).read name = disk.read name := by
  rw [read, read, write_entries]
  cases hname : disk.entries name with
  | none => rfl
  | some m =>
    have hne : m ≠ n := fun hm => h (hname.trans (congrArg some hm))
    exact congrArg some (Function.update_of_ne hne _ _)

variable [DecidableEq N]

/-- A new empty file under a name that has none. -/
def create (name : N) : Disk N β where
  entries := Function.update disk.entries name (some disk.next)
  contents := Function.update disk.contents disk.next []
  next := disk.next + 1
  below := by
    intro other m hm
    rw [Function.update_apply] at hm
    split at hm
    · cases hm
      exact Nat.lt_succ_self _
    · exact Nat.lt_succ_of_lt (disk.below hm)
  single := by
    intro other other' m hm hm'
    rw [Function.update_apply] at hm hm'
    split at hm <;> split at hm'
    · rename_i h h'
      exact h.trans h'.symm
    · cases hm
      exact absurd (disk.below hm') (Nat.lt_irrefl _)
    · cases hm'
      exact absurd (disk.below hm) (Nat.lt_irrefl _)
    · exact disk.single hm hm'

/-- `open(name, 'w')`: the file under the name without its content, or a new one. -/
def truncate (name : N) : Disk N β × ℕ :=
  match disk.entries name with
  | some n => (disk.write n [], n)
  | none => (disk.create name, disk.next)

/-- The file under one name gets another name, and a file that had that name loses it. -/
def rename (source target : N) : Disk N β where
  entries := fun name => if name = target then disk.entries source else if name = source then none else disk.entries name
  contents := disk.contents
  next := disk.next
  below := by
    intro name m hm
    split at hm
    · exact disk.below hm
    · split at hm
      · cases hm
      · exact disk.below hm
  single := by
    intro name name' m hm hm'
    split at hm <;> split at hm'
    · rename_i h h'
      exact h.trans h'.symm
    · split at hm'
      · cases hm'
      · rename_i hne
        exact absurd (disk.single hm' hm) hne
    · split at hm
      · cases hm
      · rename_i hne
        exact absurd (disk.single hm hm') hne
    · split at hm <;> split at hm'
      · cases hm
      · cases hm
      · cases hm'
      · exact disk.single hm hm'

/-- Opening a name for writing empties its file. -/
theorem truncate_spec (name : N) : (disk.truncate name).1.entries name = some (disk.truncate name).2 ∧
    (disk.truncate name).1.contents (disk.truncate name).2 = [] := by
  rw [truncate]
  cases h : disk.entries name with
  | some n => exact ⟨h, write_contents ..⟩
  | none => exact ⟨Function.update_self .., Function.update_self ..⟩

/-- Opening a name for writing leaves the files under other names alone. -/
theorem read_truncate {name other : N} (hne : other ≠ name) : (disk.truncate name).1.read other = disk.read other := by
  rw [truncate]
  cases h : disk.entries name with
  | some n => exact read_write (fun hother => hne (disk.single hother h)) []
  | none =>
    have hentry : (disk.create name).entries other = disk.entries other := Function.update_of_ne hne _ _
    change (disk.create name).read other = _
    rw [read, read, hentry]
    cases hother : disk.entries other with
    | none => rfl
    | some m => exact congrArg some (Function.update_of_ne (Nat.ne_of_lt (disk.below hother)) _ _)

theorem read_rename (source target : N) : (disk.rename source target).read target = disk.read source := by
  rw [read, read, rename]
  simp

end Disk

end FileSystem
