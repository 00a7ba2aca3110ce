import Bookmarks.Batch.Check
import Bookmarks.Proofs.Batch.Projection
import Bookmarks.Proofs.Outcome
import Mathlib.Algebra.GroupWithZero.Nat

/-!
Which operations are accepted: the rules of the check as a relation, one case for each operation.
-/
set_option autoImplicit false

namespace Bookmarks

namespace Operation

-- The nodes that the operation names, as what it changes and as new parents.
def names : Operation → List String
  | .addFolder parentId _ _ => [parentId]
  | .addBookmark parentId _ _ _ => [parentId]
  | .renameNode nodeId _ => [nodeId]
  | .moveNode nodeId newParentId _ => [nodeId, newParentId]
  | .deleteNode nodeId _ => [nodeId]
  | .updateBookmark nodeId _ _ => [nodeId]
  | .saveSession parentId _ _ _ => [parentId]

-- How many nodes the operation adds.
def adds : Operation → Nat
  | .addFolder .. => 1
  | .addBookmark .. => 1
  | .saveSession _ _ tabs _ => 1 + tabs.length
  | _ => 0

end Operation

namespace Projection

def IsFolder (p : Projection) (id : String) : Prop := ∃ above, p.nodes.get? id = some ⟨.folder, above⟩

def IndexFits (p : Projection) (parent : String) (index : Option Int) (moving : Option String) : Prop :=
  ∀ position, index = some position → 0 ≤ position ∧ position ≤ p.siblingCount parent moving

variable {p q : Projection} {operation : Operation}

theorem contains_of_folder {id : String} (folder : p.IsFolder id) : p.nodes.contains id = true := by
  obtain ⟨above, found⟩ := folder
  exact Keyed.contains_iff.mpr ⟨_, found⟩

theorem check_parent_ok {parent : String} : p.checkParent parent = .ok () ↔ p.IsFolder parent := by
  unfold checkParent IsFolder
  constructor
  · intro checked
    split at checked
    · rename_i above found
      exact ⟨above, found⟩
    · cases checked
  · rintro ⟨above, found⟩
    rw [found]

theorem check_index_ok {parent : String} {index : Option Int} {moving : Option String} :
    p.checkIndex parent index moving = .ok () ↔ p.IndexFits parent index moving := by
  cases index with
  | none => simp [checkIndex, IndexFits]
  | some position =>
      by_cases outside : position < 0 ∨ (p.siblingCount parent moving : Int) < position
      · simp only [checkIndex, IndexFits, outside, if_true, reduceCtorEq, false_iff]
        intro fits
        have inside := fits position rfl
        omega
      · simp only [checkIndex, IndexFits, outside, if_false, true_iff]
        intro same equal
        cases equal
        omega

theorem check_mutable_ok {nodeId : String} {place : Place} :
    p.checkMutable nodeId = .ok place ↔ p.nodes.get? nodeId = some place ∧ nodeId ≠ rootId := by
  unfold checkMutable
  cases found : p.nodes.get? nodeId with
  | none => simp
  | some other => by_cases isRoot : nodeId = rootId <;> simp [isRoot]

theorem check_url_ok {url : String} : checkUrl url = .ok () ↔ Url.isWebAddress url = true := by
  unfold checkUrl
  by_cases valid : Url.isWebAddress url = true <;> simp [valid]

theorem check_urls_ok {tabs : List Tab} :
    checkUrls tabs = .ok () ↔ ∀ tab ∈ tabs, Url.isWebAddress tab.url = true := by
  unfold checkUrls
  induction tabs with
  | nil => simp [pure, Except.pure]
  | cons tab rest ih =>
      rw [List.forM, bind_eq_ok, List.forall_mem_cons, ← ih, ← check_url_ok]
      constructor
      · rintro ⟨_, first, others⟩
        exact ⟨first, others⟩
      · rintro ⟨first, others⟩
        exact ⟨(), first, others⟩

-- The rules for each operation, and what becomes of the tree.
inductive Accepts (p : Projection) : Operation → Projection → Prop
  | addFolder (parent title : String) (index : Option Int) (folder : p.IsFolder parent)
      (fits : p.IndexFits parent index none) :
      Accepts p (.addFolder parent title index) (p.add parent .folder index).1
  | addBookmark (parent title url : String) (index : Option Int) (folder : p.IsFolder parent)
      (fits : p.IndexFits parent index none) (address : Url.isWebAddress url = true) :
      Accepts p (.addBookmark parent title url index) (p.add parent .bookmark index).1
  | renameNode (id title : String) (place : Place) (found : p.nodes.get? id = some place) (notRoot : id ≠ rootId) :
      Accepts p (.renameNode id title) p
  | moveNode (id parent : String) (index : Option Int) (place : Place) (found : p.nodes.get? id = some place)
      (notRoot : id ≠ rootId) (different : parent ≠ id) (apart : p.isDescendant parent id = false)
      (folder : p.IsFolder parent) (fits : p.IndexFits parent index (some id)) :
      Accepts p (.moveNode id parent index) (p.relink id parent index)
  | deleteNode (id : String) (recursive : Bool) (place : Place) (found : p.nodes.get? id = some place)
      (notRoot : id ≠ rootId) : Accepts p (.deleteNode id recursive) (p.removeSubtree id)
  | updateBookmark (id : String) (title url : Option String) (above : Option String)
      (found : p.nodes.get? id = some ⟨.bookmark, above⟩) (notRoot : id ≠ rootId)
      (address : ∀ text, url = some text → Url.isWebAddress text = true) :
      Accepts p (.updateBookmark id title url) p
  | saveSession (parent title : String) (tabs : List Tab) (index : Option Int) (folder : p.IsFolder parent)
      (fits : p.IndexFits parent index none) (addresses : ∀ tab ∈ tabs, Url.isWebAddress tab.url = true) :
      Accepts p (.saveSession parent title tabs index)
        ((p.add parent .folder index).1.addTabs (p.add parent .folder index).2 tabs)

theorem accepts_of_ok (accepted : p.apply operation = .ok q) : Accepts p operation q := by
  cases operation with
  | addFolder parent title index =>
      obtain ⟨_, folder, rest⟩ := bind_eq_ok.mp accepted
      obtain ⟨_, fits, result⟩ := bind_eq_ok.mp rest
      cases result
      exact .addFolder parent title index (check_parent_ok.mp folder) (check_index_ok.mp fits)
  | addBookmark parent title url index =>
      obtain ⟨_, folder, rest⟩ := bind_eq_ok.mp accepted
      obtain ⟨_, fits, rest⟩ := bind_eq_ok.mp rest
      obtain ⟨_, address, result⟩ := bind_eq_ok.mp rest
      cases result
      exact .addBookmark parent title url index (check_parent_ok.mp folder) (check_index_ok.mp fits)
        (check_url_ok.mp address)
  | renameNode id title =>
      obtain ⟨place, mutable, result⟩ := bind_eq_ok.mp accepted
      cases result
      obtain ⟨found, notRoot⟩ := check_mutable_ok.mp mutable
      exact .renameNode id title place found notRoot
  | moveNode id parent index =>
      obtain ⟨place, mutable, rest⟩ := bind_eq_ok.mp accepted
      obtain ⟨found, notRoot⟩ := check_mutable_ok.mp mutable
      by_cases cycle : parent = id ∨ p.isDescendant parent id = true
      · simp only [if_pos cycle] at rest
        cases rest
      · simp only [if_neg cycle] at rest
        obtain ⟨_, folder, rest⟩ := bind_eq_ok.mp rest
        obtain ⟨_, fits, result⟩ := bind_eq_ok.mp rest
        cases result
        obtain ⟨different, apart⟩ := not_or.mp cycle
        exact .moveNode id parent index place found notRoot different (Bool.eq_false_iff.mpr apart)
          (check_parent_ok.mp folder) (check_index_ok.mp fits)
  | deleteNode id recursive =>
      obtain ⟨place, mutable, result⟩ := bind_eq_ok.mp accepted
      cases result
      obtain ⟨found, notRoot⟩ := check_mutable_ok.mp mutable
      exact .deleteNode id recursive place found notRoot
  | updateBookmark id title url =>
      obtain ⟨place, mutable, rest⟩ := bind_eq_ok.mp accepted
      obtain ⟨found, notRoot⟩ := check_mutable_ok.mp mutable
      obtain ⟨kind, above⟩ := place
      cases kind with
      | folder => cases rest
      | bookmark =>
          cases url with
          | none =>
              cases rest
              exact .updateBookmark id title none above found notRoot (by simp)
          | some text =>
              obtain ⟨_, address, result⟩ := bind_eq_ok.mp rest
              cases result
              refine .updateBookmark id title (some text) above found notRoot ?_
              rintro _ ⟨⟩
              exact check_url_ok.mp address
  | saveSession parent title tabs index =>
      obtain ⟨_, folder, rest⟩ := bind_eq_ok.mp accepted
      obtain ⟨_, fits, rest⟩ := bind_eq_ok.mp rest
      obtain ⟨_, addresses, result⟩ := bind_eq_ok.mp rest
      cases result
      exact .saveSession parent title tabs index (check_parent_ok.mp folder) (check_index_ok.mp fits)
        (check_urls_ok.mp addresses)

theorem pending_add_tabs (p : Projection) (folder : String) (tabs : List Tab) :
    (p.addTabs folder tabs).pending = p.pending + tabs.length := by
  unfold addTabs
  induction tabs generalizing p with
  | nil => rfl
  | cons tab rest ih =>
      rw [List.foldl_cons, ih, pending_add, List.length_cons]
      omega

theorem pending_of_accepts (accepts : Accepts p operation q) : q.pending = p.pending + operation.adds := by
  cases accepts with
  | addFolder parent title index folder fits => exact pending_add p parent .folder index
  | addBookmark parent title url index folder fits address => exact pending_add p parent .bookmark index
  | renameNode id title place found notRoot => rfl
  | moveNode id parent index place found notRoot different apart folder fits =>
      exact pending_relink p id parent index
  | deleteNode id recursive place found notRoot => exact pending_removeSubtree p id
  | updateBookmark id title url above found notRoot address => rfl
  | saveSession parent title tabs index folder fits addresses =>
      rw [pending_add_tabs, pending_add]
      simp only [Operation.adds]
      omega

theorem pending_of_apply_all {index : Nat} {batch : List Operation} (accepted : p.applyAll index batch = .ok q) :
    q.pending = p.pending + (batch.map Operation.adds).sum := by
  induction batch generalizing p index with
  | nil =>
      cases accepted
      simp
  | cons operation rest ih =>
      unfold applyAll at accepted
      split at accepted
      · cases accepted
      · rename_i between applied
        rw [ih accepted, pending_of_accepts (accepts_of_ok applied), List.map_cons,
          List.sum_cons]
        omega

theorem apply_all_append (p : Projection) (index : Nat) (done rest : List Operation) :
    p.applyAll index (done ++ rest) = p.applyAll index done >>= (·.applyAll (index + done.length) rest) := by
  induction done generalizing p index with
  | nil => rfl
  | cons operation others ih =>
      rw [List.cons_append, applyAll, applyAll]
      cases applied : p.apply operation with
      | error violation => rfl
      | ok between =>
          have counted : index + (operation :: others).length = index + 1 + others.length := by
            rw [List.length_cons]
            omega
          rw [counted]
          exact ih between (index + 1)

-- What an accepted operation names is there.
theorem contains_of_accepts (accepts : Accepts p operation q) {id : String} (named : id ∈ operation.names) :
    p.nodes.contains id = true := by
  cases accepts with
  | addFolder parent title index folder fits =>
      rw [List.mem_singleton.mp named]
      exact contains_of_folder folder
  | addBookmark parent title url index folder fits address =>
      rw [List.mem_singleton.mp named]
      exact contains_of_folder folder
  | renameNode node title place found notRoot =>
      rw [List.mem_singleton.mp named]
      exact Keyed.contains_iff.mpr ⟨place, found⟩
  | moveNode node parent index place found notRoot different apart folder fits =>
      rcases List.mem_cons.mp named with here | there
      · rw [here]
        exact Keyed.contains_iff.mpr ⟨place, found⟩
      · rw [List.mem_singleton.mp there]
        exact contains_of_folder folder
  | deleteNode node recursive place found notRoot =>
      rw [List.mem_singleton.mp named]
      exact Keyed.contains_iff.mpr ⟨place, found⟩
  | updateBookmark node title url above found notRoot address =>
      rw [List.mem_singleton.mp named]
      exact Keyed.contains_iff.mpr ⟨_, found⟩
  | saveSession parent title tabs index folder fits addresses =>
      rw [List.mem_singleton.mp named]
      exact contains_of_folder folder

end Projection

end Bookmarks
