import SuiteScribe.Yaml.Layout

namespace SuiteScribe.Yaml

/-! Trees in nodes. A node shows a tree if it has the same form throughout, without tags and
aliases, and if each text is read as a text and not as a number or anything else. -/

mutual

def Node.shows : Node → Tree → Bool
  | .scalar tag content plain, .text value =>
      tag.isNone && content == value &&
        Scalar.untagged content.toList plain == .text content.toList
  | .sequence tag nodes, .sequence items => tag.isNone && Node.showItems nodes items
  | .mapping tag nodes, .mapping entries => tag.isNone && Node.showEntries nodes entries
  | _, _ => false

def Node.showItems : List Node → List Tree → Bool
  | [], [] => true
  | node :: nodes, item :: items => node.shows item && Node.showItems nodes items
  | _, _ => false

def Node.showEntries : List (Node × Node) → List (String × Tree) → Bool
  | [], [] => true
  | (key, value) :: nodes, (name, item) :: entries =>
      key.shows (.text name) && value.shows item && Node.showEntries nodes entries
  | _, _ => false

end

namespace Node

theorem shows_text {node : Node} {text : String} (h : node.shows (.text text) = true) :
    ∃ plain, node = .scalar none text plain ∧
      Scalar.untagged text.toList plain = .text text.toList := by
  cases node with
  | scalar tag content plain =>
      simp only [shows, Bool.and_eq_true, Option.isNone_iff_eq_none, beq_iff_eq] at h
      obtain ⟨⟨rfl, rfl⟩, htext⟩ := h
      exact ⟨plain, rfl, htext⟩
  | _ => simp [shows] at h

theorem shows_sequence {node : Node} {items : List Tree}
    (h : node.shows (.sequence items) = true) :
    ∃ nodes, node = .sequence none nodes ∧ showItems nodes items = true := by
  cases node with
  | sequence tag nodes =>
      simp only [shows, Bool.and_eq_true, Option.isNone_iff_eq_none] at h
      obtain ⟨rfl, hitems⟩ := h
      exact ⟨nodes, rfl, hitems⟩
  | _ => simp [shows] at h

theorem shows_mapping {node : Node} {entries : List (String × Tree)}
    (h : node.shows (.mapping entries) = true) :
    ∃ nodes, node = .mapping none nodes ∧ showEntries nodes entries = true := by
  cases node with
  | mapping tag nodes =>
      simp only [shows, Bool.and_eq_true, Option.isNone_iff_eq_none] at h
      obtain ⟨rfl, hentries⟩ := h
      exact ⟨nodes, rfl, hentries⟩
  | _ => simp [shows] at h

theorem showItems_cons {nodes : List Node} {item : Tree} {items : List Tree}
    (h : showItems nodes (item :: items) = true) :
    ∃ node rest, nodes = node :: rest ∧ node.shows item = true ∧ showItems rest items = true := by
  cases nodes with
  | nil => cases h
  | cons node rest =>
      rw [showItems, Bool.and_eq_true] at h
      exact ⟨node, rest, rfl, h.1, h.2⟩

theorem showEntries_cons {nodes : List (Node × Node)} {name : String} {item : Tree}
    {entries : List (String × Tree)} (h : showEntries nodes ((name, item) :: entries) = true) :
    ∃ key value rest, nodes = (key, value) :: rest ∧ key.shows (.text name) = true ∧
      value.shows item = true ∧ showEntries rest entries = true := by
  cases nodes with
  | nil => cases h
  | cons node rest =>
      obtain ⟨key, value⟩ := node
      rw [showEntries, Bool.and_eq_true, Bool.and_eq_true] at h
      exact ⟨key, value, rest, rfl, h.1.1, h.1.2, h.2⟩

theorem showItems_nil {nodes : List Node} (h : showItems nodes [] = true) : nodes = [] := by
  cases nodes with
  | nil => rfl
  | cons => cases h

theorem showEntries_nil {nodes : List (Node × Node)} (h : showEntries nodes [] = true) :
    nodes = [] := by
  cases nodes with
  | nil => rfl
  | cons => cases h

end Node

/-! Walks that give a value whatever the document is and however many aliases were followed. -/

def Gives (walk : Walk ε α) (value : α) : Prop :=
  ∀ document count, walk document count = .ok (value, count)

namespace Gives

theorem pure (value : α) : Gives (Pure.pure value : Walk ε α) value :=
  fun _ _ => rfl

theorem bind {walk : Walk ε α} {next : α → Walk ε β} {value : α} {result : β}
    (h : Gives walk value) (hnext : Gives (next value) result) : Gives (walk >>= next) result := by
  intro document count
  change ((walk document count).bind fun read => next read.1 document read.2) = _
  rw [h]
  exact hnext document count

end Gives

/-! The value of a tree, and how deep it nests. -/

namespace Tree

mutual

def value : Tree → Value
  | .text content => .text content
  | .sequence items => .sequence (itemValues items)
  | .mapping entries => .mapping (entryValues entries)

def itemValues : List Tree → List Value
  | [] => []
  | item :: items => item.value :: itemValues items

def entryValues : List (String × Tree) → List (Value × Value)
  | [] => []
  | (name, item) :: entries => (.text name, item.value) :: entryValues entries

end

mutual

def height : Tree → Nat
  | .text _ => 0
  | .sequence items => itemsHeight items + 1
  | .mapping entries => entriesHeight entries + 1

def itemsHeight : List Tree → Nat
  | [] => 0
  | item :: items => max item.height (itemsHeight items)

def entriesHeight : List (String × Tree) → Nat
  | [] => 0
  | (_, item) :: entries => max item.height (entriesHeight entries)

end

end Tree

theorem gives_follow {node : Node} {tree : Tree} (h : node.shows tree = true) (refusal : ε) :
    Gives (Walk.follow refusal node) node := by
  cases node with
  | scalar tag content plain => exact .pure _
  | sequence tag nodes => exact .pure _
  | mapping tag nodes => exact .pure _
  | _ => simp [Node.shows] at h

theorem gives_mapM_cons {read : α → Walk ε β} {first : α} {rest : List α} {value : β}
    {values : List β} (hfirst : Gives (read first) value) (hrest : Gives (rest.mapM read) values) :
    Gives ((first :: rest).mapM read) (value :: values) := by
  rw [List.mapM_cons]
  exact hfirst.bind (hrest.bind (.pure _))

theorem nodeTag_of_shows {node : Node} {tree : Tree} (h : node.shows tree = true) :
    Value.nodeTag node = none := by
  cases tree with
  | text content =>
      obtain ⟨plain, rfl, -⟩ := Node.shows_text h
      rfl
  | sequence items =>
      obtain ⟨nodes, rfl, -⟩ := Node.shows_sequence h
      rfl
  | mapping entries =>
      obtain ⟨nodes, rfl, -⟩ := Node.shows_mapping h
      rfl

theorem gives_level {refusal : ε} {inner : Option (Node → Walk ε Value)} {node : Node} {tree : Tree}
    {value : Value} (h : node.shows tree = true)
    (hcontent : Gives (Value.ofContent refusal inner node) value) :
    Gives (Value.untaggedLevel refusal inner node) value := by
  refine (gives_follow h refusal).bind ?_
  rw [nodeTag_of_shows h]
  exact hcontent

theorem gives_text {refusal : ε} {inner : Option (Node → Walk ε Value)} {node : Node}
    {content : String} (h : node.shows (.text content) = true) :
    Gives (Value.untaggedLevel refusal inner node) (.text content) := by
  refine gives_level h fun document count => ?_
  obtain ⟨plain, rfl, htext⟩ := Node.shows_text h
  have hresolve : Scalar.resolve none content.toList plain = .text content.toList := htext
  rw [Value.ofContent, hresolve]
  simp [Value.ofContent.liftExcept, Value.ofScalar, Except.map]

theorem gives_untagged_text {refusal : ε} {node : Node} {content : String}
    (h : node.shows (.text content) = true) (depth : Nat) :
    Gives (Value.untagged refusal depth node) (.text content) := by
  cases depth with
  | zero => exact gives_text h
  | succ depth => exact gives_text h

/-! By induction on the tree, with as much depth left as it needs. -/

mutual

theorem gives_untagged {refusal : ε} : ∀ (tree : Tree) {node : Node} {depth : Nat},
    node.shows tree = true → tree.height ≤ depth →
      Gives (Value.untagged refusal depth node) tree.value
  | .text content, node, depth, h, _ => gives_untagged_text h depth
  | .sequence items, node, depth + 1, h, hdepth => by
      refine gives_level h ?_
      obtain ⟨nodes, rfl, hitems⟩ := Node.shows_sequence h
      rw [Tree.height, Nat.add_le_add_iff_right] at hdepth
      exact (gives_items items hitems hdepth).bind (.pure _)
  | .mapping entries, node, depth + 1, h, hdepth => by
      refine gives_level h ?_
      obtain ⟨nodes, rfl, hentries⟩ := Node.shows_mapping h
      rw [Tree.height, Nat.add_le_add_iff_right] at hdepth
      exact (gives_entries entries hentries hdepth).bind (.pure _)

theorem gives_items {refusal : ε} : ∀ (items : List Tree) {nodes : List Node} {depth : Nat},
    Node.showItems nodes items = true → Tree.itemsHeight items ≤ depth →
      Gives (nodes.mapM (Value.untagged refusal depth)) (Tree.itemValues items)
  | [], nodes, depth, h, _ => by
      obtain rfl := Node.showItems_nil h
      exact .pure _
  | item :: items, nodes, depth, h, hdepth => by
      obtain ⟨node, rest, rfl, hitem, hrest⟩ := Node.showItems_cons h
      rw [Tree.itemsHeight, Nat.max_le] at hdepth
      exact gives_mapM_cons (gives_untagged item hitem hdepth.1) (gives_items items hrest hdepth.2)

theorem gives_entries {refusal : ε} : ∀ (entries : List (String × Tree))
    {nodes : List (Node × Node)} {depth : Nat},
    Node.showEntries nodes entries = true → Tree.entriesHeight entries ≤ depth →
      Gives (nodes.mapM (Value.readEntry (Value.untagged refusal depth)))
        (Tree.entryValues entries)
  | [], nodes, depth, h, _ => by
      obtain rfl := Node.showEntries_nil h
      exact .pure _
  | (name, item) :: entries, nodes, depth, h, hdepth => by
      obtain ⟨key, value, rest, rfl, hkey, hitem, hrest⟩ := Node.showEntries_cons h
      rw [Tree.entriesHeight, Nat.max_le] at hdepth
      refine gives_mapM_cons ?_ (gives_entries entries hrest hdepth.2)
      exact (gives_untagged_text hkey depth).bind
        ((gives_untagged item hitem hdepth.1).bind (.pure _))

end

end SuiteScribe.Yaml
