import Mathlib.Data.Rat.Defs
import Bookmarks.Proofs.Keyed
import Bookmarks.Proofs.Order.Exact
import Bookmarks.Proofs.Text.LowerCase
import Bookmarks.Tree.Search

/-!
What looking for a text finds. The nodes come in the order of their ids, fewer of them are the first ones, and a
node that contains the text as it is written is among them unless a capital sigma of the text is final at the end
of a word in the one and not in the other.
-/
set_option autoImplicit false

namespace Bookmarks

open Bookmarks.Text (lowerCase Undisturbed)

theorem is_part_iff {part text : List Char} : isPart part text = true ↔ part <:+: text := by
  induction text with
  | nil => simp [isPart]
  | cons c rest ih => rw [isPart, Bool.or_eq_true, ih, List.isPrefixOf_iff_prefix, List.infix_cons_iff]

namespace Tree

variable {ω : Type}

-- A text contains another one when case is disregarded.
def Mentions (query text : String) : Prop := (lowerCase query).toList <:+: (lowerCase text).toList

-- The texts in which a node is looked for.
def Shows (node : Node ω) (text : String) : Prop := text = node.title ∨ node.url = some text

theorem node_mentions_iff {query : String} {node : Node ω} :
    node.mentions (lowerCase query) = true ↔ ∃ text, Shows node text ∧ Mentions query text := by
  have each (text : String) : mentions (lowerCase query) text = true ↔ Mentions query text := is_part_iff
  simp only [Node.mentions, Bool.or_eq_true, Option.any_eq_true, each, Shows]
  grind

-- An empty query is a part of every text, so that nodes are not lost by it.
theorem mem_search_iff {tree : Tree ω} {query : String} {limit : Nat} {node : Node ω}
    (enough : tree.nodes.size ≤ limit) :
    node ∈ tree.search query limit ↔ node ∈ tree.nodes.values ∧ ∃ text, Shows node text ∧ Mentions query text := by
  have all : (tree.nodes.values.filter fun node => (lowerCase query).isEmpty || node.mentions (lowerCase query)).length ≤
      limit := by
    refine Nat.le_trans (List.length_filter_le _ _) ?_
    rwa [Keyed.values, List.length_map]
  rw [search, List.take_of_length_le all, List.mem_filter, Bool.or_eq_true, node_mentions_iff]
  have everywhere : (lowerCase query).isEmpty = true → ∃ text, Shows node text ∧ Mentions query text := by
    intro none
    refine ⟨node.title, Or.inl rfl, ?_⟩
    rw [Mentions, String.isEmpty_iff.mp none]
    exact List.nil_infix
  exact and_congr_right fun _ => ⟨fun found => found.elim everywhere id, Or.inr⟩

variable [SiblingOrd ω]

theorem id_of_get? {version id : String} {nodes : List (Node ω)} {node : Node ω}
    (stored : (ofNodes version nodes).nodes.get? id = some node) : node.id = id := by
  have listed : (id, node) ∈ nodes.map fun node => (node.id, node) := Keyed.mem_of_get?_of_list stored
  obtain ⟨other, _, same⟩ := List.mem_map.mp listed
  obtain ⟨named, rfl⟩ := Prod.mk.inj same
  exact named

theorem nodes_ascending (version : String) (nodes : List (Node ω)) :
    (ofNodes version nodes).nodes.values.Pairwise fun a b => a.id < b.id := by
  rw [Keyed.values, List.pairwise_map]
  have named : ∀ entry ∈ (ofNodes version nodes).nodes.entries, entry.2.id = entry.1 :=
    fun entry member => id_of_get? (Keyed.get?_eq_some_iff.mpr member)
  exact (ofNodes version nodes).nodes.ascending.imp_of_mem fun {a b} here there less => by
    rwa [named a here, named b there]

/-- What is found stands in the ascending order of the ids, and with a lower limit there is less of it at the end only.
With a limit that is no limit a node is found exactly if its title or its url contains the query when case is
disregarded; this is so wherever one of them contains the query as it is written, unless a capital sigma of the query
is final there and not in the query, or the other way round. -/
theorem search_finds_undisturbed (version : String) (nodes : List (Node ω)) (query : String) :
    (∀ limit, ((ofNodes version nodes).search query limit).Pairwise fun a b => a.id < b.id) ∧
    (∀ limit more, limit ≤ more →
      (ofNodes version nodes).search query limit <+: (ofNodes version nodes).search query more) ∧
    ∀ limit, (ofNodes version nodes).nodes.size ≤ limit → ∀ id node, (ofNodes version nodes).get? id = some node →
      (node ∈ (ofNodes version nodes).search query limit ↔ ∃ text, Shows node text ∧ Mentions query text) ∧
      ∀ text before after, Shows node text → text.toList = before ++ query.toList ++ after →
        Undisturbed before query.toList after → node ∈ (ofNodes version nodes).search query limit := by
  refine ⟨?ascending, ?prefixes, ?complete⟩
  case ascending =>
    intro limit
    exact ((nodes_ascending version nodes).filter _).sublist (List.take_sublist _ _)
  case prefixes =>
    intro limit more least
    exact List.take_prefix_take_left least
  case complete =>
    intro limit enough id node stored
    have member : node ∈ (ofNodes version nodes).nodes.values :=
      List.mem_map.mpr ⟨_, Keyed.get?_eq_some_iff.mp stored, rfl⟩
    have found : node ∈ (ofNodes version nodes).search query limit ↔ ∃ text, Shows node text ∧ Mentions query text :=
      (mem_search_iff enough).trans (and_iff_right member)
    refine ⟨found, ?_⟩
    intro text before after shown whole undisturbed
    exact found.mpr ⟨text, shown, Text.lower_case_infix whole undisturbed⟩

def lone (title : String) : Node ℚ := ⟨"x", .folder, title, none, none, 0, 0, 0⟩

theorem lone_stored (title : String) : (ofNodes uninitialized [lone title]).get? "x" = some (lone title) := rfl

theorem search_finds_undisturbed_within_word :
    (ofNodes uninitialized [lone "BAΣAC"]).search "AΣA" 1 <+: (ofNodes uninitialized [lone "BAΣAC"]).search "AΣA" 2 ∧
    lone "BAΣAC" ∈ (ofNodes uninitialized [lone "BAΣAC"]).search "AΣA" 1 := by
  have final_iff (before after : List Char) : Text.isFinal ('A' :: before) ('A' :: after) = Text.isFinal ['A'] ['A'] := by
    simp only [Text.isFinal, Text.meets_cased_cons Text.capital_a_counts]
  have undisturbed : Undisturbed ['B'] ['A', 'Σ', 'A'] ['C'] := by
    intro left right same
    match left, same with
    | [], same => exact absurd (List.cons.inj same).1 (by decide)
    | [_], same =>
        have first := (List.cons.inj same).1
        have later := (List.cons.inj (List.cons.inj same).2).2
        subst first later
        exact final_iff ['B'] ['C']
    | [_, _], same => exact absurd (List.cons.inj (List.cons.inj (List.cons.inj same).2).2).1 (by decide)
    | _ :: _ :: _ :: _, same => simp at same
  have finds := search_finds_undisturbed uninitialized [lone "BAΣAC"] "AΣA"
  refine ⟨finds.2.1 1 2 (Nat.le_succ 1), ?_⟩
  exact (finds.2.2 1 (Nat.le_refl 1) "x" _ (lone_stored _)).2 "BAΣAC" ['B'] ['C'] (Or.inl rfl) rfl undisturbed

-- The sigma is final in the query and not in the title.
theorem search_misses_sigma :
    ¬ ∀ (version : String) (nodes : List (Node ℚ)) (query : String) (limit : Nat),
      (ofNodes version nodes).nodes.size ≤ limit → ∀ id node, (ofNodes version nodes).get? id = some node →
        ∀ text before after, Shows node text → text.toList = before ++ query.toList ++ after →
          node ∈ (ofNodes version nodes).search query limit := by
  intro finds
  have found := finds uninitialized [lone "AΣA"] "AΣ" 1 (Nat.le_refl 1) "x" _ (lone_stored _) "AΣA" [] ['A'] (Or.inl rfl) rfl
  obtain ⟨_, text, shown, mentioned⟩ := (mem_search_iff (Nat.le_refl 1)).mp found
  have meets (rest : List Char) : Text.meetsCased ('A' :: rest) = true :=
    (Text.meets_cased_cons Text.capital_a_counts rest).trans Text.cased_capital_a
  have query : (lowerCase "AΣ").toList = ['a', 'ς'] := by
    rw [lowerCase, String.toList_ofList, show "AΣ".toList = ['A', 'Σ'] from rfl]
    simp [Text.lowerAfter, Text.lowerChar, meets, Text.meets_cased_nil]
  have title : (lowerCase "AΣA").toList = ['a', 'σ', 'a'] := by
    rw [lowerCase, String.toList_ofList, show "AΣA".toList = ['A', 'Σ', 'A'] from rfl]
    simp [Text.lowerAfter, Text.lowerChar, meets]
  rcases shown with rfl | url
  · rw [Mentions, query, show (lone "AΣA").title = "AΣA" from rfl, title] at mentioned
    exact absurd (is_part_iff.mpr mentioned) (by decide)
  · cases url

end Tree

end Bookmarks
