import TagIndex.Proofs.Text.Utf8
import TagIndex.Proofs.Tree.Preorder

/-! Where nodes stand in a text: between characters, inside the node above, and one after the
other. -/

namespace TagIndex
open Text

/-- An offset between two characters of a text, or at one of its ends. -/
def Boundary (source : String) (offset : Nat) : Prop :=
  ∃ before, before <+: source.toList ∧ (Utf8.encode before).length = offset

theorem boundary_take (source : String) (k : Nat) :
    Boundary source (Utf8.encode (source.toList.take k)).length :=
  ⟨_, List.take_prefix k _, rfl⟩

theorem toByteArray_toList (source : String) :
    source.toByteArray.data.toList = Utf8.encode source.toList := by
  rw [← String.utf8Encode_toList, List.utf8Encode, List.toList_data_toByteArray, Utf8.encode]

namespace Tree

structure Spans (source : String) (t : Tree) : Prop where
  start : Boundary source t.start.byte
  stop : Boundary source t.label.stop
  forward : t.start.byte ≤ t.label.stop

structure Splits (source : String) (t : Tree) (before text : List Char) : Prop where
  split : before ++ text <+: source.toList
  start : t.start.byte = (Utf8.encode before).length
  stop : t.label.stop = (Utf8.encode before).length + (Utf8.encode text).length

variable {source : String} {t : Tree} {before text : List Char}

theorem Spans.splits (h : t.Spans source) : ∃ before text, t.Splits source before text := by
  obtain ⟨⟨a, ha, start⟩, ⟨b, hb, stop⟩, forward⟩ := h
  obtain ⟨text, rfl⟩ : a <+: b := by
    obtain within | ⟨rest, rfl⟩ := List.prefix_or_prefix_of_prefix ha hb
    · exact within
    · have none : rest = [] := by
        rw [← Utf8.encode_eq_nil_iff, ← List.length_eq_zero_iff]
        simp only [Utf8.encode_append, List.length_append] at start
        omega
      simp [none]
  exact ⟨a, text, hb, start.symm, by simpa using stop.symm⟩

theorem Splits.bytesIn (h : t.Splits source before text) :
    t.bytesIn source = Utf8.encode text := by
  obtain ⟨⟨after, split⟩, start, stop⟩ := h
  rw [Tree.bytesIn, ByteArray.data_extract, Array.toList_extract, toByteArray_toList, ← split]
  change (Utf8.encode _).extract t.start.byte _ = _
  rw [start, stop]
  simp [List.extract_eq_take_drop]

theorem Splits.textIn (h : t.Splits source before text) :
    t.textIn source = .ok (String.ofList text) := by
  rw [Tree.textIn, h.bytesIn, Utf8.decode_eq_ok_iff.2 rfl]
  rfl

theorem Splits.ident (h : t.Splits source before text) :
    t.ident source = .ok ⟨String.ofList text, t.start.row + 1⟩ := by
  simp [Tree.ident, h.textIn]

theorem spans_of_single {length : Nat}
    (single : ∀ k ≤ length, (Utf8.encode (source.toList.take k)).length = k)
    (within : ∀ u ∈ t.preorder, u.start.byte ≤ u.label.stop ∧ u.label.stop ≤ length) :
    ∀ u ∈ t.preorder, u.Spans source := by
  intro u mem
  have boundary : ∀ k ≤ length, Boundary source k := fun k short =>
    single k short ▸ boundary_take source k
  obtain ⟨forward, short⟩ := within u mem
  exact ⟨boundary _ (Nat.le_trans forward short), boundary _ short, forward⟩

structure InOrder (lo hi : Nat) (nodes : List Tree) : Prop where
  within : ∀ n ∈ nodes, lo ≤ n.start.byte ∧ n.label.stop ≤ hi
  apart : nodes.Pairwise fun a b => a.label.stop ≤ b.start.byte

instance (lo hi : Nat) (nodes : List Tree) : Decidable (InOrder lo hi nodes) :=
  decidable_of_iff ((∀ n ∈ nodes, lo ≤ n.start.byte ∧ n.label.stop ≤ hi) ∧
      nodes.Pairwise fun a b => a.label.stop ≤ b.start.byte)
    ⟨fun ⟨within, apart⟩ => ⟨within, apart⟩, fun ⟨within, apart⟩ => ⟨within, apart⟩⟩

/-- At every node, the children lie inside of it and one after the other. -/
def Nested (t : Tree) : Prop :=
  ∀ u ∈ t.preorder, InOrder u.start.byte u.label.stop u.children

instance : DecidablePred Nested := fun t => inferInstanceAs (Decidable (∀ u ∈ t.preorder, _))

/-- At every node, the row is the number of line feeds before it. -/
def RowsCounted (source : String) (t : Tree) : Prop :=
  ∀ u ∈ t.preorder,
    u.start.row = ((Utf8.encode source.toList).take u.start.byte).count lineFeed

instance (source : String) : DecidablePred (RowsCounted source) :=
  fun t => inferInstanceAs (Decidable (∀ u ∈ t.preorder, _))

theorem Nested.child {c : Tree} (h : t.Nested) (mem : c ∈ t.children) : c.Nested :=
  fun u below => h u (mem_preorder_of_child mem below)

theorem Nested.children (h : t.Nested) : InOrder t.start.byte t.label.stop t.children :=
  h t (self_mem_preorder t)

variable {lo hi : Nat} {nodes : List Tree}

theorem InOrder.nil : InOrder lo hi [] := ⟨by simp, .nil⟩

theorem InOrder.sublist {some : List Tree} (h : InOrder lo hi nodes) (sub : some.Sublist nodes) :
    InOrder lo hi some :=
  ⟨fun n mem => h.within n (sub.subset mem), h.apart.sublist sub⟩

theorem InOrder.flatMap {f : Tree → List Tree} (h : InOrder lo hi nodes)
    (inside : ∀ t ∈ nodes, InOrder t.start.byte t.label.stop (f t)) :
    InOrder lo hi (nodes.flatMap f) := by
  constructor
  · intro n mem
    obtain ⟨t, listed, below⟩ := List.mem_flatMap.1 mem
    have outer := h.within t listed
    have inner := (inside t listed).within n below
    omega
  · refine List.pairwise_flatMap.2 ⟨fun t listed => (inside t listed).apart, ?_⟩
    refine h.apart.imp_of_mem fun {a b} ha hb before n hn m hm => ?_
    have first := (inside a ha).within n hn
    have second := (inside b hb).within m hm
    omega

end Tree
end TagIndex
