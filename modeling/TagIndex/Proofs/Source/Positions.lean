import TagIndex.Proofs.Source.Acceptance
import TagIndex.Proofs.Source.Decoding
import TagIndex.Proofs.Text.Offsets

/-! What is reported of a file is reported at a place of the file, and at the place where the fault
is: at the first bad byte, at the first null character, or where the node at fault begins. Lines and
columns of bytes and of nodes are counted in one way, and they tell all offsets of a file apart. -/

namespace TagIndex
open Files Text TagIndex.Tree

inductive Tree.AtFault (source : String) (u : Tree) : Fault → Prop
  | missing (missing : u.label.missing = true) : AtFault source u (.missing u.kind)
  | unexpected (error : u.label.error = true) :
      AtFault source u (.unexpected (snippet ((u.textIn source).toOption.getD "")))
  | beforePackage (other : u.kind ≠ "package_clause") : AtFault source u (.beforePackage u.kind)
  | notDeclaration (other : u.kind ∉ Go.declarationKinds) :
      AtFault source u (.notDeclaration u.kind)
  | noPackageName (unnamed : u.packageNode? = none) : AtFault source u .noPackageName
  | noField (unnamed : u.nameNode? = none) : AtFault source u (.noField "name" u.kind)
  | illegalName {flaw : Utf8.Flaw} (flawed : Utf8.decode (u.bytesIn source) = .error flaw) :
      AtFault source u (.illegalName flaw)

/-- The diagnostic is about a node of the tree and stands where the node begins. -/
def Tree.Blames (source : String) (t : Tree) (d : Diagnostic) : Prop :=
  ∃ u ∈ t.preorder, u.AtFault source d.fault ∧ d.position = u.position

section

variable {source : String} {t c n : Tree} {d : Diagnostic}

theorem blames_self {fault : Fault} (h : t.AtFault source fault) :
    t.Blames source (t.diagnose fault) :=
  ⟨t, self_mem_preorder t, h, rfl⟩

theorem Tree.Blames.of_mem (h : n.Blames source d) (mem : n ∈ t.preorder) : t.Blames source d := by
  obtain ⟨u, below, fault, position⟩ := h
  exact ⟨u, mem_preorder_trans mem below, fault, position⟩

theorem Tree.Blames.of_child (h : c.Blames source d) (child : c ∈ t.children) :
    t.Blames source d :=
  h.of_mem (mem_preorder_of_child child (self_mem_preorder c))

theorem blames_of_ident (h : n.ident source = .error d) : n.Blames source d := by
  unfold ident at h
  split at h
  · cases h
  · rename_i flaw read
    obtain rfl := Except.error.inj h
    exact blames_self (.illegalName (map_eq_error_iff.1 read))

theorem blames_of_fieldIdent (h : t.fieldIdent source "name" = .error d) : t.Blames source d := by
  unfold fieldIdent at h
  split at h
  · rename_i n found
    exact (blames_of_ident h).of_child (List.mem_of_find?_eq_some found)
  · rename_i none_found
    obtain rfl := Except.error.inj h
    exact blames_self (.noField none_found)

theorem blames_of_packageName (h : t.packageName source = .error d) : t.Blames source d := by
  unfold packageName at h
  split at h
  · rename_i n found
    exact (blames_of_ident h).of_child (List.mem_of_mem_filter (List.mem_of_find?_eq_some found))
  · rename_i none_found
    obtain rfl := Except.error.inj h
    exact blames_self (.noPackageName none_found)

theorem blames_of_typeNames (h : t.typeNames source = .error d) : t.Blames source d := by
  induction t using Tree.induction generalizing d with
  | node l cs ih =>
    rw [typeNames_eq_flatten, map_eq_error_iff, mapM_eq_error_iff] at h
    obtain ⟨before, c, after, split, first⟩ := h
    have child : c ∈ cs := by
      change cs = _ at split
      simp [split]
    refine Blames.of_child ?_ child
    have fails := first.fails
    unfold typeNamesAt at fails
    split_ifs at fails
    · exact blames_of_fieldIdent (map_eq_error_iff.1 fails)
    · exact ih c child fails

theorem blames_of_valueNames {spec : String} (h : t.valueNames source spec = .error d) :
    t.Blames source d := by
  rw [valueNames_eq, mapM_eq_error_iff] at h
  obtain ⟨before, n, after, split, first⟩ := h
  have below : n ∈ t.gather (valueSpecNames spec) "_spec_list" := by simp [split]
  exact (blames_of_ident first.fails).of_mem
    (mem_preorder_of_gather (ownsChildren_valueSpecNames spec) below)

theorem blames_of_decl (h : t.decl source = .error d) : t.Blames source d := by
  by_cases listed : t.kind ∈ Go.declarationKinds
  · unfold decl at h
    split_ifs at h
    · exact blames_of_fieldIdent (map_eq_error_iff.1 h)
    · exact blames_of_fieldIdent (map_eq_error_iff.1 h)
    · exact blames_of_typeNames (map_eq_error_iff.1 h)
    · exact blames_of_valueNames (map_eq_error_iff.1 h)
    · exact blames_of_valueNames (map_eq_error_iff.1 h)
    · simp_all [Go.declarationKinds]
  · rw [decl_of_other listed] at h
    obtain rfl := Except.error.inj h
    exact blames_self (.notDeclaration listed)

theorem blames_of_topLevel {ts : List Tree} (h : topLevel source ts = .error d) :
    ts = [] ∧ d = ⟨⟨1, 1⟩, .noPackage⟩ ∨ ∃ t ∈ ts, t.Blames source d := by
  cases ts with
  | nil => exact .inl ⟨rfl, (Except.error.inj h).symm⟩
  | cons t ts =>
    rw [topLevel] at h
    right
    split_ifs at h with clause
    · obtain package | ⟨name, -, rest⟩ := bind_eq_error_iff.1 h
      · exact ⟨t, List.mem_cons_self, blames_of_packageName package⟩
      · obtain failed | ⟨_, -, done⟩ := bind_eq_error_iff.1 rest
        · obtain ⟨before, u, after, rfl, first⟩ := mapM_eq_error_iff.1 failed
          exact ⟨u, by simp, blames_of_decl first.fails⟩
        · cases done
    · obtain rfl := Except.error.inj h
      exact ⟨t, List.mem_cons_self, blames_self (.beforePackage clause)⟩

theorem blames_of_isBad {bad : Tree} (mem : bad ∈ t.preorder) (isBad : bad.isBad = true) :
    t.Blames source (bad.diagnose (bad.fault source)) := by
  refine Blames.of_mem (blames_self ?_) mem
  unfold Tree.fault
  split_ifs with missing
  · exact .missing missing
  · exact .unexpected (((Bool.or_eq_true _ _).mp isBad).resolve_right missing)

end

inductive BeginsAt (parse : String → Tree) (bytes : List UInt8) : Fault → Nat → Prop
  | encoding {offset : Nat} (longest : LongestUtf8 bytes offset) :
      BeginsAt parse bytes .illegalEncoding offset
  | nul {before after : List UInt8} (split : bytes = before ++ 0 :: after) (first : 0 ∉ before) :
      BeginsAt parse bytes .nulCharacter before.length
  | noPackage {source : String} (text : bytes = Utf8.encode source.toList)
      (nothing : (parse source).topLevelNodes = []) : BeginsAt parse bytes .noPackage 0
  | node {source : String} {u : Tree} {fault : Fault} (text : bytes = Utf8.encode source.toList)
      (mem : u ∈ (parse source).preorder) (atFault : u.AtFault source fault) :
      BeginsAt parse bytes fault u.start.byte

structure Tree.Placed (source : String) (t : Tree) : Prop where
  within : ∀ u ∈ t.preorder, u.start.byte ≤ (Utf8.encode source.toList).length
  rows : t.RowsCounted source
  columns : ∀ u ∈ t.preorder, ∃ before line,
    LastLine ((Utf8.encode source.toList).take u.start.byte) before line ∧
      u.start.column = line.length

section

variable {parse : String → Tree} {bytes : List UInt8} {source path : String} {d : Diagnostic}

/-- The fault begins at an offset of the file that has the position of the diagnostic. -/
def Diagnostic.InPlace (parse : String → Tree) (bytes : List UInt8) (d : Diagnostic) : Prop :=
  ∃ offset ≤ bytes.length, BeginsAt parse bytes d.fault offset ∧
    d.position = positionAt bytes offset

theorem Tree.Placed.position {t u : Tree} (h : t.Placed source) (mem : u ∈ t.preorder) :
    u.position = positionAt (Utf8.encode source.toList) u.start.byte := by
  obtain ⟨before, line, last, column⟩ := h.columns u mem
  rw [last.positionAt, Tree.position, h.rows u mem, column]

theorem placed_of_positions {t : Tree} (h : ∀ u ∈ t.preorder,
    u.start.byte ≤ (Utf8.encode source.toList).length ∧
      u.position = positionAt (Utf8.encode source.toList) u.start.byte) : t.Placed source := by
  have counted : ∀ u ∈ t.preorder, ∃ before line,
      LastLine ((Utf8.encode source.toList).take u.start.byte) before line ∧
        u.start.row = ((Utf8.encode source.toList).take u.start.byte).count lineFeed ∧
        u.start.column = line.length := by
    intro u mem
    obtain ⟨before, line, last⟩ :=
      exists_lastLine ((Utf8.encode source.toList).take u.start.byte)
    have position := (h u mem).2.trans last.positionAt
    simp only [Tree.position, Position.mk.injEq, Nat.add_right_cancel_iff] at position
    exact ⟨before, line, last, position⟩
  refine ⟨fun u mem => (h u mem).1, fun u mem => ?_, fun u mem => ?_⟩
  · obtain ⟨-, -, -, row, -⟩ := counted u mem
    exact row
  · obtain ⟨before, line, last, -, column⟩ := counted u mem
    exact ⟨before, line, last, column⟩

theorem inPlace_of_blames (text : bytes = Utf8.encode source.toList)
    (placed : (parse source).Placed source) (h : (parse source).Blames source d) :
    d.InPlace parse bytes := by
  obtain ⟨u, mem, atFault, position⟩ := h
  refine ⟨u.start.byte, text ▸ placed.within u mem, .node text mem atFault, ?_⟩
  rw [position, placed.position mem, text]

theorem inPlace_of_ofTree (text : bytes = Utf8.encode source.toList)
    (placed : (parse source).Placed source)
    (h : SourceFile.ofTree path source (parse source) = .error d) : d.InPlace parse bytes := by
  by_cases nul : 0 ∈ bytes
  · obtain ⟨before, after, split, first⟩ := List.eq_append_cons_of_mem nul
    rw [SourceFile.ofTree, ← text, split, firstNul?_append first, ← split] at h
    obtain rfl := Except.error.inj h
    exact ⟨before.length, by simp [split], .nul split first, rfl⟩
  · rw [SourceFile.ofTree, ← text, firstNul?_eq_none nul] at h
    cases searched : (parse source).firstError? with
    | some bad =>
      rw [searched] at h
      obtain rfl := Except.error.inj h
      obtain ⟨mem, isBad⟩ := bad_of_firstError? searched
      exact inPlace_of_blames text placed (blames_of_isBad mem isBad)
    | none =>
      rw [searched] at h
      obtain failed | ⟨_, -, done⟩ := bind_eq_error_iff.1 h
      · obtain ⟨nothing, rfl⟩ | ⟨t, mem, blamed⟩ := blames_of_topLevel failed
        · exact ⟨0, Nat.zero_le _, .noPackage text nothing, rfl⟩
        · exact inPlace_of_blames text placed
            (blamed.of_child (List.mem_of_mem_filter (List.mem_of_mem_filter mem)))
      · cases done

theorem inPlace_of_read (placed : ∀ source, bytes = Utf8.encode source.toList →
    (parse source).Placed source) (h : SourceFile.read parse path bytes = .error d) :
    d.InPlace parse bytes := by
  obtain failed | ⟨source, text, failed⟩ := bind_eq_error_iff.1 h
  · obtain ⟨text, encoded⟩ | ⟨offset, last⟩ := Utf8.wellFormed_or_lastGood bytes
    · have read : decodeText bytes = .ok (String.ofList text) :=
        decodeText_eq_ok_iff.2 (by rw [String.toList_ofList, encoded])
      rw [read] at failed
      cases failed
    · rw [decodeText_of_lastGood last] at failed
      obtain rfl := Except.error.inj failed
      exact ⟨offset, Nat.le_of_lt last.short, .encoding (longestUtf8_of_lastGood last), rfl⟩
  · have encoded := (decodeText_eq_ok_iff.1 text).symm
    exact inPlace_of_ofTree encoded (placed source encoded) failed

theorem message_parseFailed (path : String) (d : Diagnostic) :
    (Error.parseFailed path d).message =
      "error parsing file " ++ path ++ " - " ++ d.message path := rfl

theorem read_of_scanned_eq_error {files : View} {path' : String}
    (h : scanned parse files path = .error (.parseFailed path' d)) :
    path' = path ∧ ∃ bytes, files.read path = .ok bytes ∧
      SourceFile.read parse path bytes = .error d := by
  simp only [scanned, scanFile, Attempt.result_bind, Attempt.result_ofExcept,
    Attempt.result_note] at h
  cases stands : files.info path with
  | error cause => simp [stands, Except.mapError, bind, Except.bind] at h
  | ok info =>
    cases holds : files.read path with
    | error cause => simp [stands, holds, Except.mapError, bind, Except.bind] at h
    | ok bytes =>
      cases read : SourceFile.read parse path bytes with
      | ok file => simp [stands, holds, read, Except.mapError, bind, Except.bind] at h
      | error d' =>
        obtain ⟨rfl, rfl⟩ : path = path' ∧ d' = d := by
          simpa [stands, holds, read, Except.mapError, bind, Except.bind] using h
        exact ⟨rfl, bytes, rfl, read⟩

end

/-- What is reported of a file that was read names the file twice and gives a line and a column.
There is an offset of the file at which the fault begins such that the line is one more than the
number of line feeds before it, and the column one more than the number of bytes since the last of
them. -/
theorem reported_positions_are_places {parse : String → Tree} {files : View} {path path' : String}
    {d : Diagnostic} (placed : ∀ source, files.read path = .ok (Utf8.encode source.toList) →
      (parse source).Placed source)
    (reported : scanned parse files path = .error (.parseFailed path' d)) :
    ∃ bytes offset before line, files.read path = .ok bytes ∧ offset ≤ bytes.length ∧
      BeginsAt parse bytes d.fault offset ∧ LastLine (bytes.take offset) before line ∧
      (Error.parseFailed path' d).message = "error parsing file " ++ path ++ " - " ++ path ++ ":" ++
        toString (1 + (bytes.take offset).count lineFeed) ++ ":" ++ toString (1 + line.length) ++
        ": " ++ d.fault.message := by
  obtain ⟨rfl, bytes, holds, read⟩ := read_of_scanned_eq_error reported
  obtain ⟨offset, within, begins, position⟩ :=
    inPlace_of_read (fun source text => placed source (text ▸ holds)) read
  obtain ⟨before, line, last⟩ := exists_lastLine (bytes.take offset)
  refine ⟨bytes, offset, before, line, holds, within, begins, last, ?_⟩
  rw [message_parseFailed, Diagnostic.message, position.trans last.positionAt]
  simp only [Nat.add_comm 1, String.append_assoc]

namespace Sample

/-- A statement where a declaration should be, behind a line with two bytes at its end and a comment
with a letter of two bytes. -/
def incrementText : String := "package p\r\n/* é */ x++\n"

def incrementTree : Tree := node "source_file" true none ⟨0, 0, 0⟩ 24 [
  clause,
  .node ⟨"comment", true, none, ⟨11, 1, 0⟩, 19, true, false, false, false⟩ [],
  node "inc_statement" true none ⟨20, 1, 9⟩ 23 [
    node "identifier" true none ⟨20, 1, 9⟩ 21 [],
    node "++" false none ⟨21, 1, 10⟩ 23 []]]

def incrementView : View where
  info _ := .ok ⟨false, 24⟩
  read _ := .ok (Utf8.encode incrementText.toList)
  walk _ := []

theorem placed_increment : incrementTree.Placed incrementText := by
  refine placed_of_positions ?_
  decide

theorem scanned_increment : scanned (fun _ => incrementTree) incrementView "a.go" =
    .error (.parseFailed "a.go" ⟨⟨2, 10⟩, .notDeclaration "inc_statement"⟩) := by
  decide +kernel

end Sample

theorem reported_positions_are_places_sample :
    ∃ bytes offset before line, Sample.incrementView.read "a.go" = .ok bytes ∧
      offset ≤ bytes.length ∧
      BeginsAt (fun _ => Sample.incrementTree) bytes (.notDeclaration "inc_statement") offset ∧
      LastLine (bytes.take offset) before line ∧
      "error parsing file a.go - a.go:2:10: expected declaration, found inc_statement" =
        "error parsing file " ++ "a.go" ++ " - " ++ "a.go" ++ ":" ++
          toString (1 + (bytes.take offset).count lineFeed) ++ ":" ++ toString (1 + line.length) ++
          ": " ++ Fault.message (.notDeclaration "inc_statement") :=
  reported_positions_are_places (fun _ read => by
    obtain rfl : Sample.incrementText = _ :=
      String.toList_injective (Utf8.encode_injective (Except.ok.inj read))
    exact Sample.placed_increment) Sample.scanned_increment

theorem exists_illegalEncoding {bytes : List UInt8} (illFormed : ¬ Utf8.IsUtf8 bytes) :
    ∃ offset, LongestUtf8 bytes offset ∧
      decodeText bytes = .error ⟨positionAt bytes offset, .illegalEncoding⟩ := by
  obtain whole | ⟨offset, last⟩ := Utf8.wellFormed_or_lastGood bytes
  · exact absurd (Utf8.isUtf8_iff_wellFormed.2 whole) illFormed
  · exact ⟨offset, longestUtf8_of_lastGood last, decodeText_of_lastGood last⟩

/-- Positions come in the order of the offsets of a text, so no two offsets have the same. Lines and
columns count from 1, and the column counts from where the line starts, without a line feed between.
A line feed belongs to the line that it ends. On a machine no sum of the counting exceeds a limit
above the length of the text, and no difference falls below zero. So a bad byte and a null character
are found again from what is reported of them. -/
theorem positions_correspond_to_offsets (bytes : List UInt8) :
    (∀ a ≤ bytes.length, ∀ b ≤ bytes.length,
      ((positionAt bytes a).rank < (positionAt bytes b).rank ↔ a < b) ∧
      (positionAt bytes a = positionAt bytes b ↔ a = b)) ∧
    (∀ offset ≤ bytes.length, ∀ p : Position,
      p.Locates bytes offset ↔ p = positionAt bytes offset) ∧
    (∀ offset, bytes[offset]? = some lineFeed →
      positionAt bytes (offset + 1) = ⟨(positionAt bytes offset).line + 1, 1⟩) ∧
    (∀ offset ≤ bytes.length, ∀ limit > bytes.length, countedPosition limit bytes offset =
      (.exact (positionAt bytes offset).line, .exact (positionAt bytes offset).column)) ∧
    (¬ Utf8.IsUtf8 bytes → ∃ position offset, position.Locates bytes offset ∧
      LongestUtf8 bytes offset ∧ decodeText bytes = .error ⟨position, .illegalEncoding⟩) ∧
    (∀ path source tree, bytes = Utf8.encode source.toList → 0 ∈ bytes →
      ∃ position before after, position.Locates bytes before.length ∧
        bytes = before ++ 0 :: after ∧ 0 ∉ before ∧
        SourceFile.ofTree path source tree = .error ⟨position, .nulCharacter⟩) := by
  refine ⟨fun a ha b hb => ⟨(strictMonoOn_rank bytes).lt_iff_lt ha hb, ?_⟩,
    fun offset within p => locates_iff within, fun offset => positionAt_succ_of_lineFeed,
    fun offset within limit room => countedPosition_eq room within, fun illFormed => ?_,
    fun path source tree text nul => ?_⟩
  · refine ⟨fun same => (strictMonoOn_rank bytes).injOn ha hb ?_, fun same => same ▸ rfl⟩
    exact congrArg Position.rank same
  · obtain ⟨offset, longest, refused⟩ := exists_illegalEncoding illFormed
    exact ⟨_, offset, locates_positionAt longest.within, longest, refused⟩
  · obtain ⟨before, after, split, first⟩ := List.eq_append_cons_of_mem nul
    refine ⟨_, before, after, locates_positionAt (by simp [split]), split, first, ?_⟩
    rw [SourceFile.ofTree, ← text, split, firstNul?_append first]

end TagIndex
