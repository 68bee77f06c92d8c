import TagIndex.Files.Walk
import TagIndex.Proofs.Text.Order
import Mathlib.Data.List.Basic

/-! What a walk finds: the files that lie below a directory by way of directories alone, each of
them once, in the order of the names on the way to them. -/

namespace TagIndex.Files
open Text

mutual

/-- The files at or below a node, each by the chain of names that leads to it. -/
def Node.chains : Node → List (List String)
  | .file _ => [[]]
  | .link _ => []
  | .directory entries =>
    ((Node.chainsOfEntries entries).mergeSort fun a b => bytesLe a.1 b.1).flatMap
      fun (name, chains) => chains.map (name :: ·)

def Node.chainsOfEntries : List (String × Node) → List (String × List (List String))
  | [] => []
  | (name, child) :: rest => (name, child.chains) :: Node.chainsOfEntries rest

end

namespace Node

@[elab_as_elim]
theorem induction {motive : Node → Prop} (file : ∀ content, motive (.file content))
    (link : ∀ target, motive (.link target))
    (directory : ∀ entries : Entries, (∀ e ∈ entries, motive e.2) → motive (.directory entries))
    (n : Node) : motive n :=
  n.rec (motive_2 := fun entries => ∀ e ∈ entries, motive e.2) (motive_3 := fun e => motive e.2)
    file link directory (by simp) (fun _ _ head tail => List.forall_mem_cons.2 ⟨head, tail⟩)
    fun _ _ child => child

inductive Reaches : Node → List String → Prop
  | file (content : List UInt8) : Reaches (.file content) []
  | entry {entries : Entries} {name : String} {child : Node} {rest : List String}
      (listed : (name, child) ∈ entries) (below : Reaches child rest) :
      Reaches (.directory entries) (name :: rest)

theorem chainsOfEntries_eq_map (entries : Entries) :
    chainsOfEntries entries = entries.map fun e => (e.1, e.2.chains) := by
  induction entries with
  | nil => rfl
  | cons e entries ih => rw [chainsOfEntries, ih, List.map_cons]

theorem listingOfEntries_eq_map (entries : Entries) :
    listingOfEntries entries = entries.map fun e => (e.1, e.2.listing) := by
  induction entries with
  | nil => rfl
  | cons e entries ih => rw [listingOfEntries, ih, List.map_cons]

theorem visitsOfEntries_eq_map (entries : List (String × Listing)) :
    Listing.visitsOfEntries entries = entries.map fun e => (e.1, e.2.visits) := by
  induction entries with
  | nil => rfl
  | cons e entries ih => rw [Listing.visitsOfEntries, ih, List.map_cons]

theorem visits_listing (n : Node) : n.listing.visits = n.chains.map .file := by
  induction n using Node.induction with
  | file content => rfl
  | link target => rfl
  | directory entries ih =>
    let files (e : String × List (List String)) : String × List Visit := (e.1, e.2.map .file)
    have below : Listing.visitsOfEntries (listingOfEntries entries) =
        (chainsOfEntries entries).map files := by
      rw [visitsOfEntries_eq_map, listingOfEntries_eq_map, chainsOfEntries_eq_map, List.map_map,
        List.map_map]
      exact List.map_congr_left fun e listed => Prod.ext rfl (ih e listed)
    have sorted : ((chainsOfEntries entries).map files).mergeSort (fun a b => bytesLe a.1 b.1) =
        ((chainsOfEntries entries).mergeSort fun a b => bytesLe a.1 b.1).map files :=
      (List.map_mergeSort (f := files) fun _ _ _ _ => rfl).symm
    rw [listing, Listing.visits, below, sorted, List.flatMap_map, chains, List.map_flatMap]
    refine List.flatMap_congr fun e _ => ?_
    simp [files, Visit.below]

theorem mem_chains_directory {entries : Entries} {chain : List String} :
    chain ∈ (directory entries).chains ↔
      ∃ e ∈ entries, ∃ rest ∈ e.2.chains, chain = e.1 :: rest := by
  rw [chains, chainsOfEntries_eq_map]
  simp only [List.mem_flatMap, List.mem_mergeSort, List.mem_map]
  constructor
  · rintro ⟨_, ⟨e, listed, rfl⟩, rest, below, rfl⟩
    exact ⟨e, listed, rest, below, rfl⟩
  · rintro ⟨e, listed, rest, below, rfl⟩
    exact ⟨_, ⟨e, listed, rfl⟩, rest, below, rfl⟩

theorem mem_chains_iff {n : Node} {chain : List String} :
    chain ∈ n.chains ↔ n.Reaches chain := by
  induction n using Node.induction generalizing chain with
  | file content =>
    constructor
    · intro mem
      obtain rfl := List.mem_singleton.1 mem
      exact .file content
    · rintro ⟨⟩
      exact List.mem_singleton_self []
  | link target => exact ⟨nofun, nofun⟩
  | directory entries ih =>
    rw [mem_chains_directory]
    constructor
    · rintro ⟨e, listed, rest, below, rfl⟩
      exact .entry listed ((ih e listed).1 below)
    · rintro (_ | ⟨listed, below⟩)
      exact ⟨_, listed, _, (ih _ listed).2 below, rfl⟩

theorem Reaches.isName {n : Node} {chain : List String} (h : n.Reaches chain) (sound : n.Sound) :
    ∀ name ∈ chain, IsName name := by
  induction h with
  | file content => simp
  | entry listed _ ih =>
    cases sound with
    | directory distinct named below =>
      exact List.forall_mem_cons.2 ⟨named _ listed, ih (below _ listed)⟩

/-- Chains are compared name by name, and names by their bytes. -/
def chainKey (chain : List String) : List (List UInt8) :=
  chain.map fun name => Utf8.encode name.toList

theorem pairwise_entries {entries : List (String × List (List String))}
    (distinct : (entries.map (·.1)).Nodup) :
    (entries.mergeSort fun a b => bytesLe a.1 b.1).Pairwise fun a b =>
      Utf8.encode a.1.toList < Utf8.encode b.1.toList := by
  have apart : (entries.mergeSort fun a b => bytesLe a.1 b.1).Pairwise fun a b => a.1 ≠ b.1 :=
    List.pairwise_map.1 (((List.mergeSort_perm _ _).map _).nodup_iff.2 distinct)
  have sorted := pairwise_mergeSort_bytesLe (fun e : String × List (List String) => e.1) entries
  refine (sorted.and apart).imp fun {a b} h => List.not_le.1 fun ge => h.2 ?_
  exact String.toList_injective (Utf8.encode_injective (List.le_antisymm h.1 ge))

theorem pairwise_chains {n : Node} (sound : n.Sound) :
    n.chains.Pairwise fun a b => chainKey a < chainKey b := by
  induction n using Node.induction with
  | file content => exact List.pairwise_singleton _ _
  | link target => exact .nil
  | directory entries ih =>
    cases sound with
    | directory distinct named below =>
      have names : (entries.map fun e => (e.1, e.2.chains)).map (·.1) = entries.map (·.1) := by
        rw [List.map_map]
        rfl
      rw [chains, chainsOfEntries_eq_map, List.pairwise_flatMap]
      constructor
      · intro group mem
        obtain ⟨e, listed, rfl⟩ := List.mem_map.1 (List.mem_mergeSort.1 mem)
        refine List.pairwise_map.2 ((ih e listed (below e listed)).imp fun less => ?_)
        exact List.cons_lt_cons_iff.2 (.inr ⟨rfl, less⟩)
      · refine (pairwise_entries (names ▸ distinct)).imp fun {a b} less x hx y hy => ?_
        obtain ⟨_, -, rfl⟩ := List.mem_map.1 hx
        obtain ⟨_, -, rfl⟩ := List.mem_map.1 hy
        exact List.cons_lt_cons_iff.2 (.inl less)

theorem chains_ext {chains chains' : List (List String)}
    (ascending : chains.Pairwise fun a b => chainKey a < chainKey b)
    (ascending' : chains'.Pairwise fun a b => chainKey a < chainKey b)
    (same : ∀ chain, chain ∈ chains ↔ chain ∈ chains') : chains = chains' := by
  have apart {a b : List String} (less : chainKey a < chainKey b) : a ≠ b := by
    rintro rfl
    exact List.lt_irrefl _ less
  have perm : chains.Perm chains' :=
    (List.perm_ext_iff_of_nodup (ascending.imp apart) (ascending'.imp apart)).2 same
  exact perm.eq_of_pairwise (fun _ _ _ _ less greater => absurd greater (List.lt_asymm less))
    ascending ascending'

end Node

theorem chainText_cons (name : String) {chain : List String} (more : chain ≠ []) :
    chainText (name :: chain) = name ++ "/" ++ chainText chain := by
  obtain ⟨next, chain, rfl⟩ := List.exists_cons_of_ne_nil more
  exact String.intercalate_cons_cons

theorem join_of_not_slash {path : String} (open_end : path.toList.getLast? ≠ some '/')
    (name : String) : join path name = path ++ "/" ++ name := by
  rw [join, if_neg open_end]

theorem getLast?_join {path name : String} (named : IsName name) :
    (join path name).toList.getLast? ≠ some '/' := by
  obtain ⟨nonempty, -, -, -, noSlash, -⟩ := named
  have some_char : name.toList ≠ [] := by simpa using nonempty
  have last : (join path name).toList.getLast? = name.toList.getLast? := by
    unfold join
    split <;>
      simp [List.getLast?_append, List.getLast?_cons, List.getLast?_eq_some_getLast some_char]
  rw [last]
  exact fun ends => noSlash (List.mem_of_getLast? ends)

theorem joinAll_eq_join {chain : List String} (path : String) (more : chain ≠ [])
    (named : ∀ name ∈ chain, IsName name) : joinAll path chain = join path (chainText chain) := by
  induction chain generalizing path with
  | nil => exact absurd rfl more
  | cons name chain ih =>
    obtain ⟨head, tail⟩ := List.forall_mem_cons.1 named
    by_cases last : chain = []
    · subst chain
      rfl
    · change joinAll (join path name) chain = _
      rw [ih _ last tail, join_of_not_slash (getLast?_join head), chainText_cons _ last]
      unfold join
      split <;> simp [String.append_assoc]

end TagIndex.Files
