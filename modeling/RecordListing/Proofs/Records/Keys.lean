import RecordListing.Records.Insertion
import RecordListing.Proofs.Entries
import RecordListing.Proofs.Outcome
import RecordListing.Proofs.Store.Grouping

/-!
# Keys stay distinct

No two rows of an empty database have the same key, and a row is inserted only under a new key
(`insertNew_keysDistinct`).
-/

set_option autoImplicit false

namespace RecordListing

open Outcome

namespace Database

theorem rows_withRows (db : Database) (table other : String) (rows : List Row) :
    (db.withRows table rows).rows other = if other = table then rows else db.rows other := by
  simp only [Database.rows, withRows, lookup_putEntry]
  split <;> rfl

theorem empty_keysDistinct (entity : Entity) : empty.KeysDistinct entity := List.Pairwise.nil

/-- A row that is inserted has a key of its own; other tables stay as they are. -/
theorem insertNew_keysDistinct {db next : Database} {now : Timestamp} {entity other : Entity}
    {values : List (String × Value)} (h : db.insertNew now entity values = .ok next)
    (apart : other = entity ∨ other.table ≠ entity.table) (distinct : db.KeysDistinct other) :
    next.KeysDistinct other := by
  simp only [insertNew, bind_eq_ok_iff] at h
  obtain ⟨row, -, h⟩ := h
  split at h
  · rename_i allowed
    cases h
    rw [KeysDistinct, insert, rows_withRows]
    rcases apart with rfl | ne
    · have fresh : ∀ old ∈ db.rows other.table,
          equalKeys (other.keyOf old) (other.keyOf row) = false := by
        intro old ho
        rw [equalKeys_comm]
        simp only [Bool.and_eq_true, Bool.not_eq_true', List.any_eq_false] at allowed
        simpa [sameKey, equalKeys] using allowed.2 old ho
      rw [if_pos rfl]
      exact List.pairwise_append.2 ⟨distinct, List.pairwise_singleton _ _,
        fun old ho new hn => List.mem_singleton.1 hn ▸ fresh old ho⟩
    · rw [if_neg ne]
      exact distinct
  · cases h

end Database

end RecordListing
