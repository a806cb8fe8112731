import Mathlib.Data.List.Dedup
import Mathlib.Data.List.Perm.Basic

/-!
# Lists with repetitions dropped

Names, labels and references are listed once, where they occur first.
-/

namespace TemplateNav

variable {α : Type} [BEq α] [LawfulBEq α]

theorem nodup_eraseDups (list : List α) : list.eraseDups.Nodup := by
  cases list with
  | nil => exact List.nodup_nil
  | cons first rest =>
    rw [List.eraseDups_cons]
    exact List.nodup_cons.2 ⟨by simp, nodup_eraseDups (rest.filter fun other => !other == first)⟩
termination_by list.length
decreasing_by exact Nat.lt_succ_of_le (List.length_filter_le _ rest)

/-- The two ways to drop repetitions differ only in the order of what is left. -/
theorem eraseDups_perm_dedup [DecidableEq α] (list : List α) :
    list.eraseDups.Perm list.dedup := by
  apply (List.perm_ext_iff_of_nodup (nodup_eraseDups list) (List.nodup_dedup list)).2
  intro item
  rw [List.mem_eraseDups, List.mem_dedup]

/-- A further item counts unless the list has it already. -/
theorem eraseDups_concat [DecidableEq α] (list : List α) (item : α) :
    (list ++ [item]).eraseDups =
      if item ∈ list then list.eraseDups else list.eraseDups ++ [item] := by
  rw [List.eraseDups_append, List.cons_removeAll, List.nil_removeAll]
  by_cases listed : item ∈ list
  · simp [listed]
  · simp [listed, List.eraseDups_cons]

end TemplateNav
