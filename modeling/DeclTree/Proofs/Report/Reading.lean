import DeclTree.Proofs.Json.Record
import DeclTree.Proofs.Outcomes
import DeclTree.Proofs.Report.Order
import DeclTree.Proofs.Text.ByteOrder

/-!
# Reports read back

A report in JSON is read as a record of the number of results and the results themselves, whatever
characters their names have. The results come in the order of their encoded names, which leaves
only one place for each: the order of a report compares code points, and that of encoded bytes is
the same.
-/

namespace DeclTree

namespace Json

/-! ## Numbers -/

theorem numeral_toDigits (n : Nat) : Numeral (Nat.toDigits 10 n) where
  ne_nil := Nat.toDigits_ne_nil
  isDigit c hc := by
    have hdigit := Nat.isDigit_of_mem_toDigits (by decide) (by decide) hc
    simp only [Char.isDigit, Bool.and_eq_true, decide_eq_true_eq] at hdigit
    simp only [Json.isDigit, Bool.and_eq_true, decide_eq_true_eq]
    exact hdigit
  zero hhead := by
    obtain rfl : n = 0 := by
      by_contra hn
      exact head_toDigits_ne_zero (by omega) hhead
    rfl

theorem writable_nat (n : Nat) : Writable (.nat n) := by
  rw [nat, Nat.toString_eq_ofList_toDigits]
  exact .number (numeral_toDigits n)

/-- A number is read back from its digits. -/
theorem nat?_nat (n : Nat) : (nat n).nat? = some n := by
  have hdigits : (Nat.toDigits 10 n).all Char.isDigit = true :=
    List.all_eq_true.mpr fun _ hc => Nat.isDigit_of_mem_toDigits (by decide) (by decide) hc
  rw [nat, nat?, Nat.toString_eq_ofList_toDigits, String.toList_ofList, if_pos hdigits,
    ← Nat.ofDigitChars_eq_foldl, Nat.ofDigitChars_ten_toDigits]

end Json

namespace Entity

/-! ## Results -/

theorem writable_toJson (e : Entity) : Json.Writable e.toJson := by
  refine .fields ?_
  intro m hm
  rcases List.mem_cons.mp hm with rfl | hm
  · exact .text e.name
  · obtain rfl := List.mem_singleton.mp hm
    exact .text e.fullName

theorem ofJson_toJson (e : Entity) : ofJson e.toJson = .ok e := by
  have hnames : ([("name", some (Json.text e.name)),
      ("full_name", some (Json.text e.fullName))].map Prod.fst).Nodup := by simp
  have hrecord : Json.record ["name", "full_name"] e.toJson =
      some [some (.text e.name), some (.text e.fullName)] := Json.record_present hnames
  rw [ofJson, hrecord]
  rfl

/-! ## The order of encoded names -/

/-- The qualified name and the name of an entity in UTF-8. -/
def byteKey (e : Entity) : List Nat ×ₗ List Nat :=
  toLex (Text.utf8Bytes e.fullName, Text.utf8Bytes e.name)

theorem byteKey_le_iff {a b : Entity} : a.byteKey ≤ b.byteKey ↔ a.key ≤ b.key := by
  rw [byteKey, byteKey, key, key, Prod.Lex.toLex_le_toLex, Prod.Lex.toLex_le_toLex,
    Text.strictMono_utf8Bytes.lt_iff_lt, Text.strictMono_utf8Bytes.injective.eq_iff,
    Text.strictMono_utf8Bytes.le_iff_le]

theorem sort_pairwise_byteKey (entities : List Entity) :
    (sort entities).Pairwise fun a b => a.byteKey ≤ b.byteKey :=
  (sort_pairwise entities).imp fun h => byteKey_le_iff.mpr (before_iff.mp h)

/-- There is one way only to put entities in this order. -/
theorem eq_sort_of_byteKey {entities others : List Entity} (hperm : others.Perm entities)
    (hsorted : others.Pairwise fun a b => a.byteKey ≤ b.byteKey) : others = sort entities := by
  refine (hperm.trans (sort_perm entities).symm).eq_of_pairwise ?_ hsorted
    (sort_pairwise_byteKey entities)
  intro a b _ _ hab hba
  exact eq_of_key (le_antisymm (byteKey_le_iff.mp hab) (byteKey_le_iff.mp hba))

end Entity

theorem Report.writable_json (entities : List Entity) : (Report.json entities).Writable := by
  refine .fields ?_
  intro m hm
  rcases List.mem_cons.mp hm with rfl | hm
  · exact Json.writable_nat entities.length
  · obtain rfl := List.mem_singleton.mp hm
    refine .array ?_
    intro item hitem
    obtain ⟨e, -, rfl⟩ := List.mem_map.mp hitem
    exact e.writable_toJson

/-- A report in JSON is read as an object with the number of results and the results and nothing
else. The number is right, and the results are the entities in the one order in which the encoded
names do not go down. -/
theorem report_json_reads_back (entities : List Entity) :
    ∃ count items sorted,
      Json.parse? (report .json entities) =
        some (.object [(some "count", count), (some "results", .array items)]) ∧
      count.nat? = some entities.length ∧
      items.mapM Entity.ofJson = .ok sorted ∧
      sorted.Perm entities ∧
      (sorted.Pairwise fun a b => a.byteKey ≤ b.byteKey) ∧
      ∀ others : List Entity, others.Perm entities →
        (others.Pairwise fun a b => a.byteKey ≤ b.byteKey) → others = sorted := by
  have hperm := Entity.sort_perm entities
  have hread := Json.parse?_pretty (Report.writable_json (Entity.sort entities))
  refine ⟨.nat (Entity.sort entities).length, (Entity.sort entities).map Entity.toJson,
    Entity.sort entities, hread, ?_, mapM_map_eq_pure fun e _ => e.ofJson_toJson, hperm,
    Entity.sort_pairwise_byteKey entities, fun others => Entity.eq_sort_of_byteKey⟩
  rw [Json.nat?_nat, hperm.length_eq]

end DeclTree
