import TagIndex.Files.Relative
import TagIndex.Proofs.Files.Walk

/-! A path with names joined to it. Its pieces are those of the path and then the names, so what is
left of it below the path are the names again, however the path is spelled. -/

namespace TagIndex.Files

theorem pieces_ne_nil (path : String) : pieces path ≠ [] := by
  simp [pieces]

theorem pieces_append_slash (a b : String) : pieces (a ++ "/" ++ b) = pieces a ++ pieces b := by
  have whole : (a ++ "/" ++ b).toList = a.toList ++ '/' :: b.toList := by simp
  rw [pieces, whole, List.splitOn_append_cons_self, List.map_append]
  rfl

theorem pieces_of_isName {name : String} (named : IsName name) : pieces name = [name] := by
  obtain ⟨-, -, -, -, noSlash, -⟩ := named
  rw [pieces, List.splitOn_eq_singleton noSlash, List.map_singleton, String.ofList_toList]

theorem pieces_chainText {chain : List String} (nonempty : chain ≠ [])
    (named : ∀ name ∈ chain, IsName name) : pieces (chainText chain) = chain := by
  induction chain with
  | nil => exact absurd rfl nonempty
  | cons name chain ih =>
    obtain ⟨first, rest⟩ := List.forall_mem_cons.1 named
    by_cases more : chain = []
    · subst more
      exact pieces_of_isName first
    · rw [chainText_cons name more, pieces_append_slash, pieces_of_isName first, ih more rest]
      rfl

theorem eq_empty_of_pieces {path : String} (h : pieces path = [""]) : path = "" := by
  have split : path.toList.splitOn '/' = [[]] := by
    obtain ⟨piece, single, empty⟩ := List.map_eq_singleton_iff.1 h
    rw [single, String.ofList_eq_empty_iff.1 empty]
  have whole : ['/'].intercalate (path.toList.splitOn '/') = path.toList :=
    List.intercalate_splitOn '/'
  rw [split] at whole
  exact String.toList_eq_nil_iff.1 whole.symm

theorem exists_front (path : String) : ∃ front, (path = front ∨ path = front ++ "/") ∧
    ∀ name, join path name = front ++ "/" ++ name := by
  by_cases ends : path.toList.getLast? = some '/'
  · obtain ⟨front, split⟩ := List.getLast?_eq_some_iff.1 ends
    have whole : path = String.ofList front ++ "/" := by
      apply String.toList_injective
      simp [split]
    refine ⟨String.ofList front, .inr whole, fun name => ?_⟩
    rw [join, if_pos ends, whole]
  · exact ⟨path, .inl rfl, join_of_not_slash ends⟩

def leadingPieces (front : String) : List Piece :=
  match pieces front with
  | [] => []
  | text :: rest => ⟨text, some (if text = "" then "/" else text)⟩ :: rest.map .inner

theorem parsePieces_append_slash (front rest : String) :
    parsePieces (front ++ "/" ++ rest) = leadingPieces front ++ (pieces rest).map .inner := by
  obtain ⟨text, more, split⟩ := List.exists_cons_of_ne_nil (pieces_ne_nil front)
  have goesOn : more ++ pieces rest ≠ [] :=
    List.append_ne_nil_of_right_ne_nil more (pieces_ne_nil rest)
  rw [parsePieces, leadingPieces, pieces_append_slash, split]
  by_cases empty : text = "" <;> simp [Piece.first, empty, goesOn]

theorem components_front {path front : String} (nonempty : path ≠ "")
    (h : path = front ∨ path = front ++ "/") :
    components path = (leadingPieces front).filterMap (·.component) := by
  obtain rfl | rfl := h
  · obtain ⟨text, more, split⟩ := List.exists_cons_of_ne_nil (pieces_ne_nil path)
    have first : (Piece.first text more).component = some (if text = "" then "/" else text) := by
      by_cases empty : text = ""
      · have goesOn : more ≠ [] := by
          rintro rfl
          exact nonempty (eq_empty_of_pieces (empty ▸ split))
        simp [Piece.first, empty, goesOn]
      · simp [Piece.first, empty]
    simp only [components, parsePieces, leadingPieces, split, List.filterMap_cons, first]
  · have slash : front ++ "/" = front ++ "/" ++ "" := (String.append_empty).symm
    rw [components, slash, parsePieces_append_slash, List.filterMap_append]
    simp [pieces, Piece.inner]

theorem piecesAfter_append (front rest : List Piece) :
    piecesAfter (front.filterMap (·.component)) (front ++ rest) =
      some (rest.dropWhile (·.component.isNone)) := by
  induction front with
  | nil => rw [List.filterMap_nil, List.nil_append, piecesAfter]
  | cons p front ih =>
    obtain ⟨text, _ | c⟩ := p
    · rw [List.filterMap_cons_none rfl, List.cons_append]
      cases named : front.filterMap (·.component) with
      | nil =>
        rw [named, piecesAfter] at ih
        rw [piecesAfter, List.dropWhile_cons_of_pos rfl, ih]
      | cons c cs =>
        rw [named] at ih
        rw [piecesAfter]
        exact ih
    · have counted : (⟨text, some c⟩ :: front : List Piece).filterMap (·.component) =
          c :: front.filterMap (·.component) := rfl
      rw [counted, List.cons_append, piecesAfter]
      simpa using ih

theorem dropWhile_kept {ps : List Piece} (kept : ∀ p ∈ ps, p.component.isNone = false) :
    ps.dropWhile (·.component.isNone) = ps := by
  cases ps with
  | nil => rfl
  | cons p ps =>
    have first := kept p List.mem_cons_self
    exact List.dropWhile_cons_of_neg (by simp [first])

/-- What is left of a walked path below its root are the names that were joined to the root. -/
theorem stripPrefix?_join {path : String} {chain : List String} (nonempty : path ≠ "")
    (some_name : chain ≠ []) (named : ∀ name ∈ chain, IsName name) :
    stripPrefix? (join path (chainText chain)) path = some (chainText chain) := by
  obtain ⟨front, spelled, joined⟩ := exists_front path
  have kept : ∀ p ∈ chain.map Piece.inner, p.component.isNone = false := by
    intro p mem
    obtain ⟨name, listed, rfl⟩ := List.mem_map.1 mem
    obtain ⟨notEmpty, notDot, -⟩ := named name listed
    simp [Piece.inner, notEmpty, notDot]
  rw [stripPrefix?, components_front nonempty spelled, joined, parsePieces_append_slash,
    pieces_chainText some_name named, piecesAfter_append, dropWhile_kept kept,
    Option.map_some, dropWhile_kept fun p mem => kept p (List.mem_reverse.1 mem)]
  simp [Piece.inner, Function.comp_def]

theorem stripPrefix?_joinAll {path : String} {chain : List String} (nonempty : path ≠ "")
    (some_name : chain ≠ []) (named : ∀ name ∈ chain, IsName name) :
    stripPrefix? (joinAll path chain) path = some (chainText chain) := by
  rw [joinAll_eq_join path some_name named, stripPrefix?_join nonempty some_name named]

theorem relativePath_joinAll {path : String} {chain : List String} (nonempty : path ≠ "")
    (some_name : chain ≠ []) (named : ∀ name ∈ chain, IsName name) :
    relativePath path (joinAll path chain) = chainText chain := by
  rw [relativePath, stripPrefix?_joinAll nonempty some_name named]
  rfl

end TagIndex.Files
