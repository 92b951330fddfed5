import LiteralRows.Catalog
import LiteralRows.Proofs.Text.Doubling
import LiteralRows.Proofs.Watching

/-!
# The query of a lookup

A lookup of tables is a query that is composed from a schema name, and the name may come from
anywhere.  It stands in one slot of a fixed text: between single quotes where the schema is a value
to compare with, between double quotes where it is a name.

Whoever reads the query gets to the slot, reads a text between marks and goes on with the fixed
rest.  `tables_sends_one_slot` says that this reader finds the name as it is stored, whatever
quotes the name holds and wherever they stand, so that no name can end the slot early or change
what stands around it.
-/

namespace LiteralRows

variable {σ κ : Type}

namespace Catalog

/-! ## The slot of a schema name -/

/-- The mark at either end of the slot. -/
def slotMark : Backend → Char
  | .postgres => '\''
  | .sqlite => '"'

theorem toList_schemaSlot (b : Backend) (schema : String) :
    (schemaSlot b schema).toList =
      slotMark b :: (Text.doubling (slotMark b) schema.toList ++ [slotMark b]) := by
  cases b <;> exact String.toList_ofList

/-- The text after the slot does not go on with another mark. -/
theorem head?_tablesAfter_ne (b : Backend) : (tablesAfter b).toList.head? ≠ some (slotMark b) := by
  cases b <;> decide

theorem toList_sql_tables (b : Backend) (schema : String) :
    ((Lookup.tables schema).sql b).toList =
      (tablesBefore b).toList ++ slotMark b ::
        (Text.doubling (slotMark b) schema.toList ++ slotMark b :: (tablesAfter b).toList) := by
  rw [Lookup.sql, String.toList_append, String.toList_append, toList_schemaSlot,
    List.append_assoc, List.cons_append, List.append_assoc, List.singleton_append]

/-- **The slot is read back exactly**: up to the fixed rest, and as the name that was put there. -/
theorem beforeClosing_slot (b : Backend) (schema : String) :
    Text.beforeClosing (slotMark b)
        (Text.doubling (slotMark b) schema.toList ++ slotMark b :: (tablesAfter b).toList) =
      some (schema.toList, (tablesAfter b).toList) :=
  Text.beforeClosing_doubling (head?_tablesAfter_ne b) schema.toList

/-- Different names make different queries. -/
theorem sql_tables_injective (b : Backend) {schema other : String}
    (h : (Lookup.tables schema).sql b = (Lookup.tables other).sql b) : schema = other := by
  have hlist := congrArg String.toList h
  rw [toList_sql_tables, toList_sql_tables, List.append_cancel_left_eq, List.cons.injEq] at hlist
  have hread := congrArg (Text.beforeClosing (slotMark b)) hlist.2
  rw [beforeClosing_slot, beforeClosing_slot, Option.some.injEq, Prod.mk.injEq] at hread
  exact String.toList_inj.mp hread.1

/-- **A lookup of tables sends one fixed text with the stored name in one slot.**  After the text
before the slot and its opening mark, a reader of text between marks stops exactly where the text
after the slot begins, and has read the schema name as the backend stores it.  So two schema names
make the same query only if they are stored alike. -/
theorem tables_sends_one_slot (src : Source σ κ) (schema : String) (w : Watched σ) :
    let b := src.backend
    ∃ sql slot, (tables src schema w).2.sent = w.sent ++ [sql] ∧
      sql.toList = (tablesBefore b).toList ++ slotMark b :: slot ∧
      Text.beforeClosing (slotMark b) slot =
        some ((b.fold schema).toList, (tablesAfter b).toList) ∧
      ∀ (other : String) (v : Watched σ),
        (tables src other v).2.sent = v.sent ++ [sql] ↔ b.fold other = b.fold schema := by
  intro b
  refine ⟨(Lookup.tables (b.fold schema)).sql b, _, Source.sent_materialize _ _ _ _,
    toList_sql_tables b _, beforeClosing_slot b _, fun other v => ?_⟩
  have hsent : (tables src other v).2.sent = v.sent ++ [(Lookup.tables (b.fold other)).sql b] :=
    Source.sent_materialize _ _ _ _
  rw [hsent, List.append_cancel_left_eq, List.cons.injEq]
  constructor
  · rintro ⟨hsql, -⟩
    exact sql_tables_injective b hsql
  · intro hfold
    rw [hfold]
    exact ⟨rfl, rfl⟩

end Catalog
end LiteralRows
