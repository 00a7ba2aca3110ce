import Bookmarks.Proofs.Keyed
import Bookmarks.Store.Rows

/-!
Which nodes of two trees differ (`mem_changed_since`), and the version of a tree, which its nodes do not depend on.
-/
set_option autoImplicit false

namespace Bookmarks

variable {ω : Type} [SiblingOrd ω]

namespace Tree

-- The node was added, removed or modified.
def Differs (before after : Tree ω) (id : String) : Prop :=
  match before.nodes.get? id, after.nodes.get? id with
  | none, none => False
  | some old, some new => new.same old = false
  | _, _ => True

variable {before after : Tree ω} {id : String}

theorem changed_since_ascending (before after : Tree ω) : (after.changedSince before).Pairwise (· < ·) :=
  Keyed.keys_ascending _

theorem mem_changed_since : id ∈ after.changedSince before ↔ Differs before after id := by
  have listed : id ∈ after.changedSince before ↔
      (∃ node, after.nodes.get? id = some node ∧ keeps before.nodes id node = false) ∨
        ∃ node, before.nodes.get? id = some node ∧ after.nodes.contains id = false := by
    simp [changedSince, Keyed.mem_keys_of_list, Keyed.get?_eq_some_iff]
  rw [listed, Differs]
  cases old : before.nodes.get? id with
  | none => cases new : after.nodes.get? id <;> simp [keeps, Keyed.contains, old]
  | some _ => cases new : after.nodes.get? id <;> simp [keeps, Keyed.contains, old, new]

end Tree

theorem Rows.tree_version {rows : Rows ω} {version : String} {tree : Tree ω} (loaded : rows.tree version = .ok tree)
    (other : String) : rows.tree other = .ok { tree with version := other } := by
  unfold Rows.tree at loaded ⊢
  cases made : rows.nodes with
  | error failure =>
      rw [made] at loaded
      cases loaded
  | ok nodes =>
      rw [made] at loaded
      cases loaded
      rfl

end Bookmarks
