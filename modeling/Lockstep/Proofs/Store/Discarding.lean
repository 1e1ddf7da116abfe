/-
# Discarding what was written

A writer that is aborted leaves the files of its store as they were.  A store in memory does not
know of the writer at all before it is finished.  In a directory, what was written stands in a file
of its own under a staging name, and only this file is taken away; so all that changes is what can
be found under names that lead there.
-/
import Lockstep.Proofs.Store.Staging
import Lockstep.Store.Faulty

namespace Lockstep

/-- Stores in which a writer that is aborted changes no file but the one that it was writing. -/
class DiscardsApart (σ : Type) [FileStore σ] where
  /-- The names that lead to what a writer has written so far. -/
  Staged (store : σ) (writer : FileStore.Writer σ) (name : String) : Prop
  content?_abort (store : σ) (writer : FileStore.Writer σ) (name : String)
    (apart : ¬ Staged store writer name) :
    FileStore.content? (FileStore.abort store writer) name = FileStore.content? store name

instance : DiscardsApart MemoryStore where
  Staged _ _ _ := False
  content?_abort _ _ _ _ := rfl

instance : DiscardsApart FaultyStore where
  Staged _ _ _ := False
  content?_abort _ _ _ _ := rfl

/-! ## In a directory -/

namespace Disk

variable {disk disk' : Disk} {text : String}

/-- The content behind a text is that of the file at the place that the text leads to. -/
lemma contentAt?_eq (disk : Disk) (text : String) :
    disk.contentAt? text = (disk.place? text).bind disk.content? := by
  unfold contentAt? stat place?
  rcases disk.locate text with e | ⟨path⟩ | ⟨parent, name, _ | _⟩
  · rfl
  · rfl
  all_goals
    rcases there : disk.entry? (parent ++ [name]) with _ | _ | node <;> simp [there, content?]

/-- The text leads to the staging file of a writer. -/
def LeadsToStaging (disk : Disk) (writer : DirectoryWriter) (text : String) : Prop :=
  ∃ path, disk.place? text = some path ∧
    (disk.place? writer.staging = some path ∨ disk.entry? path = some (.file writer.node))

/-- Discarding what was written leaves all content that is not that of the staging file. -/
lemma contentAt?_of_discards {writer : DirectoryWriter} (h : writer.Discards disk disk')
    (apart : ¬ disk.LeadsToStaging writer text) :
    disk'.contentAt? text = disk.contentAt? text := by
  obtain ⟨between, writes, rfl⟩ := h
  obtain ⟨relinks, entries⟩ := relinks_remove between writer.staging
  have places : ∀ text, (between.remove writer.staging).place? text = disk.place? text :=
    (writes.sameTree.trans relinks.sameTree).place?
  rw [contentAt?_eq, contentAt?_eq, places]
  rcases leads : disk.place? text with _ | path
  · rfl
  have elsewhere : disk.place? writer.staging ≠ some path :=
    fun staged => apart ⟨path, leads, .inl staged⟩
  have otherNode : disk.entry? path ≠ some (.file writer.node) :=
    fun same => apart ⟨path, leads, .inr same⟩
  have same : Disk.entry? (between.remove writer.staging) path = between.entry? path := by
    rcases entries path with same | ⟨staged, -⟩
    · exact same
    · rw [writes.sameTree.place?] at staged
      exact absurd staged elsewhere
  exact (content?_of_relinks relinks same).trans (content?_of_writes writes otherNode)

end Disk

instance : DiscardsApart DirectoryStore where
  Staged store writer name := store.disk.LeadsToStaging writer (Name.join store.root name)
  content?_abort store writer _ apart :=
    Disk.contentAt?_of_discards (writer.discards_abort store.disk) apart

end Lockstep
