import TagIndex.Proofs.Source.Positions

/-! Blank lines in front of a file move its lines down and change nothing else: the same names are
declared in lines that are so much further down, and the same fault is reported so much further
down. -/

namespace TagIndex
open Text

def behindLines (k : Nat) (source : String) : String :=
  String.ofList (List.replicate k '\n' ++ source.toList)

section

variable (k : Nat)

def Place.down (p : Place) : Place := ⟨p.byte + k, p.row + k, p.column⟩

def NodeLabel.down (l : NodeLabel) : NodeLabel :=
  { l with start := l.start.down k, stop := l.stop + k }

mutual

/-- The tree with all its nodes behind blank lines. -/
def Tree.down : Tree → Tree
  | .node l cs => .node (l.down k) (Tree.downAmong cs)

def Tree.downAmong : List Tree → List Tree
  | [] => []
  | t :: ts => t.down :: Tree.downAmong ts

end

def Ident.down (i : Ident) : Ident := { i with line := i.line + k }

def Decl.down : Decl → Decl
  | .function hasReceiver name => .function hasReceiver (name.down k)
  | .imports => .imports
  | .types names => .types (names.map (Ident.down k))
  | .values names => .values (names.map (Ident.down k))

def SourceFile.down (file : SourceFile) : SourceFile :=
  ⟨file.path, file.package.down k, file.decls.map (Decl.down k)⟩

def Diagnostic.down (d : Diagnostic) : Diagnostic :=
  ⟨⟨d.position.line + k, d.position.column⟩, d.fault⟩

end

namespace Text

variable {bytes before line : List UInt8} {k : Nat}

theorem LastLine.behind (h : LastLine bytes before line) (k : Nat) :
    LastLine (List.replicate k lineFeed ++ bytes) (List.replicate k lineFeed ++ before) line := by
  refine ⟨by rw [h.split, List.append_assoc], ?_, h.whole⟩
  obtain rfl | ends := h.start
  · obtain _ | k := k
    · exact .inl rfl
    · exact .inr (by simp [List.replicate_succ'])
  · exact .inr (by simp [List.getLast?_append, ends])

theorem take_behind (k : Nat) (b : UInt8) (bytes : List UInt8) (offset : Nat) :
    (List.replicate k b ++ bytes).take (offset + k) =
      List.replicate k b ++ bytes.take offset := by
  rw [List.take_append, List.length_replicate, Nat.add_sub_cancel, List.take_of_length_le (by simp)]

theorem positionAt_behind (k : Nat) (bytes : List UInt8) (offset : Nat) :
    positionAt (List.replicate k lineFeed ++ bytes) (offset + k) =
      ⟨(positionAt bytes offset).line + k, (positionAt bytes offset).column⟩ := by
  obtain ⟨before, line, last⟩ := exists_lastLine (bytes.take offset)
  have moved : LastLine ((List.replicate k lineFeed ++ bytes).take (offset + k))
      (List.replicate k lineFeed ++ before) line := by
    rw [take_behind]
    exact last.behind k
  rw [moved.positionAt, last.positionAt, take_behind, List.count_append, List.count_replicate_self]
  simp only [Position.mk.injEq, and_true]
  omega

theorem Utf8.encode_replicate (k : Nat) :
    encode (List.replicate k '\n') = List.replicate k lineFeed := by
  induction k with
  | zero => rfl
  | succ k ih =>
    rw [List.replicate_succ, List.replicate_succ, encode_cons, ih]
    rfl

theorem encode_behindLines (k : Nat) (source : String) :
    Utf8.encode (behindLines k source).toList =
      List.replicate k lineFeed ++ Utf8.encode source.toList := by
  rw [behindLines, String.toList_ofList, Utf8.encode_append, Utf8.encode_replicate]

theorem Utf8.StopsAt.behind {rest : List UInt8} {text : List Char} (h : StopsAt bytes text rest)
    (k : Nat) :
    StopsAt (List.replicate k lineFeed ++ bytes) (List.replicate k '\n' ++ text) rest :=
  ⟨by rw [h.split, encode_append, encode_replicate, List.append_assoc], h.stop⟩

end Text

theorem firstNul?_behind (k : Nat) (bytes : List UInt8) :
    firstNul? (List.replicate k lineFeed ++ bytes) = (firstNul? bytes).map (· + k) := by
  have none_before : (List.replicate k lineFeed).findIdx? (· == 0) = none := by
    rw [List.findIdx?_eq_none_iff]
    intro b mem
    rw [List.eq_of_mem_replicate mem]
    decide
  rw [firstNul?, firstNul?, List.findIdx?_append, none_before, List.length_replicate,
    Option.none_or]

section

variable {α β γ : Type} {k : Nat}

/-- A result that is moved, or else a report that is. -/
def moved (k : Nat) (f : α → β) (r : Except Diagnostic α) : Except Diagnostic β :=
  (r.mapError (Diagnostic.down k)).map f

theorem moved_ok (f : α → β) (x : α) : moved k f (.ok x) = .ok (f x) := rfl

theorem moved_error (f : α → β) (d : Diagnostic) : moved k f (.error d) = .error (d.down k) := rfl

theorem moved_bind {f : α → α} {g : β → γ} {h : α → Except Diagnostic β}
    {h' : α → Except Diagnostic γ} (each : ∀ x, h' (f x) = moved k g (h x))
    (r : Except Diagnostic α) : moved k f r >>= h' = moved k g (r >>= h) := by
  cases r with
  | ok x => exact each x
  | error d => rfl

theorem map_moved {f : α → α} {g : β → β} {h : α → β} (each : ∀ x, h (f x) = g (h x))
    (r : Except Diagnostic α) : h <$> moved k f r = moved k g (h <$> r) := by
  cases r with
  | ok x => exact congrArg Except.ok (each x)
  | error d => rfl

theorem mapM_moved {f : β → β} {g : α → α} {h h' : α → Except Diagnostic β} {xs : List α}
    (each : ∀ x ∈ xs, h' (g x) = moved k f (h x)) :
    (xs.map g).mapM h' = moved k (List.map f) (xs.mapM h) := by
  induction xs with
  | nil => rfl
  | cons x xs ih =>
    obtain ⟨first, rest⟩ := List.forall_mem_cons.1 each
    rw [List.map_cons, List.mapM_cons, List.mapM_cons, first, ih rest]
    refine moved_bind (fun y => ?_) _
    exact moved_bind (fun ys => by rfl) _

theorem flatten_mapM_moved {f : β → β} {g : α → α} {h h' : α → Except Diagnostic (List β)}
    {xs : List α} (each : ∀ x ∈ xs, h' (g x) = moved k (List.map f) (h x)) :
    List.flatten <$> (xs.map g).mapM h' =
      moved k (List.map f) (List.flatten <$> xs.mapM h) := by
  rw [mapM_moved each]
  exact map_moved (fun ys => List.map_flatten.symm) _

end

namespace Tree

variable {source : String} {t : Tree} {k : Nat}

theorem downAmong_eq_map (k : Nat) (ts : List Tree) : downAmong k ts = ts.map (down k) := by
  induction ts with
  | nil => rfl
  | cons t ts ih => rw [downAmong, ih, List.map_cons]

theorem children_down (k : Nat) (t : Tree) : (t.down k).children = t.children.map (down k) := by
  obtain ⟨l, cs⟩ := t
  exact downAmong_eq_map k cs

@[simp] theorem label_down (k : Nat) (t : Tree) : (t.down k).label = t.label.down k := by
  cases t
  rfl

@[simp] theorem kind_down (k : Nat) (t : Tree) : (t.down k).kind = t.kind := by
  simp [kind, NodeLabel.down]

@[simp] theorem named_down (k : Nat) (t : Tree) : (t.down k).named = t.named := by
  simp [named, NodeLabel.down]

@[simp] theorem field_down (k : Nat) (t : Tree) : (t.down k).field = t.field := by
  simp [field, NodeLabel.down]

@[simp] theorem kindEnds_down (k : Nat) (t : Tree) (ending : String) :
    (t.down k).kindEnds ending = t.kindEnds ending := by
  simp [kindEnds]

theorem diagnose_down (k : Nat) (t : Tree) (fault : Fault) :
    (t.down k).diagnose fault = (t.diagnose fault).down k := by
  simp [diagnose, position, start, NodeLabel.down, Place.down, Diagnostic.down, Nat.add_right_comm]

@[simp] theorem bytesIn_down (k : Nat) (source : String) (t : Tree) :
    (t.down k).bytesIn (behindLines k source) = t.bytesIn source := by
  simp only [bytesIn, ByteArray.data_extract, Array.toList_extract, toByteArray_toList,
    encode_behindLines, label_down, NodeLabel.down, Place.down, List.extract_eq_take_drop]
  rw [List.drop_append, List.drop_of_length_le (by simp), List.length_replicate,
    Nat.add_sub_cancel, List.nil_append, Nat.add_sub_add_right]

@[simp] theorem textIn_down (k : Nat) (source : String) (t : Tree) :
    (t.down k).textIn (behindLines k source) = t.textIn source := by
  rw [textIn, bytesIn_down, textIn]

@[simp] theorem fault_down (k : Nat) (source : String) (t : Tree) :
    (t.down k).fault (behindLines k source) = t.fault source := by
  simp [Tree.fault, NodeLabel.down]

theorem ident_down (k : Nat) (source : String) (t : Tree) :
    (t.down k).ident (behindLines k source) = moved k (Ident.down k) (t.ident source) := by
  rw [ident, ident, textIn_down]
  cases t.textIn source with
  | ok name =>
    simp [moved_ok, start, NodeLabel.down, Place.down, Ident.down, Nat.add_right_comm]
  | error flaw => exact congrArg Except.error (diagnose_down k t _)

theorem filter_down {p : Tree → Bool} (same : ∀ c, p (c.down k) = p c) (ts : List Tree) :
    (ts.map (down k)).filter p = (ts.filter p).map (down k) := by
  rw [List.filter_map]
  exact congrArg _ (List.filter_congr fun c _ => same c)

theorem find?_down {p : Tree → Bool} (same : ∀ c, p (c.down k) = p c) (ts : List Tree) :
    (ts.map (down k)).find? p = (ts.find? p).map (down k) := by
  rw [← List.head?_filter, filter_down same, List.head?_map, List.head?_filter]

theorem namedChildren_down (k : Nat) (t : Tree) :
    (t.down k).namedChildren = t.namedChildren.map (down k) := by
  rw [namedChildren, children_down, filter_down (named_down k), namedChildren]

theorem fieldIdent_down (k : Nat) (source : String) (t : Tree) (field : String) :
    (t.down k).fieldIdent (behindLines k source) field =
      moved k (Ident.down k) (t.fieldIdent source field) := by
  rw [fieldIdent, fieldIdent, children_down, find?_down fun c => by rw [field_down]]
  cases t.children.find? (·.field == some field) with
  | some name => exact ident_down k source name
  | none => rw [Option.map_none, diagnose_down, kind_down, moved_error]

theorem packageName_down (k : Nat) (source : String) (t : Tree) :
    (t.down k).packageName (behindLines k source) =
      moved k (Ident.down k) (t.packageName source) := by
  rw [packageName, packageName, namedChildren_down, find?_down fun c => by rw [kind_down]]
  cases t.namedChildren.find? (·.kind == "package_identifier") with
  | some name => exact ident_down k source name
  | none => rw [Option.map_none, diagnose_down, moved_error]

theorem listedNames_down (k : Nat) (t : Tree) :
    (t.down k).listedNames = t.listedNames.map (down k) := by
  rw [listedNames, children_down, filter_down fun c => by rw [field_down, named_down],
    listedNames]

theorem typeNames_down (k : Nat) (source : String) (t : Tree) :
    (t.down k).typeNames (behindLines k source) =
      moved k (List.map (Ident.down k)) (t.typeNames source) := by
  induction t using Tree.induction with
  | node l cs ih =>
    rw [typeNames_eq_flatten, typeNames_eq_flatten, children_down]
    refine flatten_mapM_moved fun c child => ?_
    simp only [typeNamesAt, named_down, kind_down, kindEnds_down, fieldIdent_down, ih c child]
    split_ifs
    · rfl
    · exact map_moved (fun _ => by rfl) _
    · rfl
    · rfl

theorem valueNames_down (k : Nat) (source spec : String) (t : Tree) :
    (t.down k).valueNames (behindLines k source) spec =
      moved k (List.map (Ident.down k)) (t.valueNames source spec) := by
  induction t using Tree.induction with
  | node l cs ih =>
    rw [valueNames_eq_flatten, valueNames_eq_flatten, children_down]
    refine flatten_mapM_moved fun c child => ?_
    simp only [valueNamesAt, named_down, kind_down, kindEnds_down, listedNames_down, ih c child]
    split_ifs
    · rfl
    · exact mapM_moved fun n _ => ident_down k source n
    · rfl
    · rfl

theorem decl_down (k : Nat) (source : String) (t : Tree) :
    (t.down k).decl (behindLines k source) = moved k (Decl.down k) (t.decl source) := by
  simp only [decl, kind_down, fieldIdent_down, typeNames_down, valueNames_down, diagnose_down]
  split_ifs
  all_goals first | rfl | exact map_moved (fun _ => by rfl) _

theorem topLevel_down {ts : List Tree} (some_node : ts ≠ []) :
    topLevel (behindLines k source) (ts.map (down k)) =
      moved k (Prod.map (Ident.down k) (List.map (Decl.down k))) (topLevel source ts) := by
  obtain ⟨t, ts, rfl⟩ := List.exists_cons_of_ne_nil some_node
  rw [List.map_cons, topLevel, topLevel, kind_down, packageName_down,
    mapM_moved fun u _ => decl_down k source u, diagnose_down]
  split_ifs
  · refine moved_bind (fun package => ?_) _
    exact moved_bind (fun decls => by rfl) _
  · rfl

theorem firstErrorAmong?_down {ts : List Tree}
    (each : ∀ t ∈ ts, (t.down k).firstError? = t.firstError?.map (down k)) :
    firstErrorAmong? (downAmong k ts) = (firstErrorAmong? ts).map (down k) := by
  induction ts with
  | nil => rfl
  | cons t ts ih =>
    obtain ⟨first, rest⟩ := List.forall_mem_cons.1 each
    rw [downAmong, firstErrorAmong?, firstErrorAmong?, first, ih rest, Option.orElse_eq_or,
      Option.orElse_eq_or, Option.map_or]

theorem firstError?_down (k : Nat) (t : Tree) :
    (t.down k).firstError? = t.firstError?.map (down k) := by
  induction t using Tree.induction with
  | node l cs ih =>
    rw [down, firstError?, firstError?, firstErrorAmong?_down ih]
    change (if l.error || l.missing then _ else if l.hasError then _ else _) = _
    split_ifs <;> rfl

theorem topLevelNodes_down (k : Nat) (t : Tree) :
    (t.down k).topLevelNodes = t.topLevelNodes.map (down k) := by
  rw [topLevelNodes, namedChildren_down, filter_down fun c => by rw [label_down]; rfl,
    topLevelNodes]

end Tree

open TagIndex.Tree

section

variable {k : Nat} {path source : String} {t : Tree}

theorem Tree.Blames.fault_ne {d : Diagnostic} (h : t.Blames source d) : d.fault ≠ .noPackage := by
  obtain ⟨u, -, atFault, -⟩ := h
  intro nothing
  rw [nothing] at atFault
  cases atFault

/-- What comes of a file behind blank lines. A file with nothing in it misses its package clause at
the beginning as before; all else moves. -/
inductive Moves (k : Nat) (r r' : Except Diagnostic SourceFile) : Prop
  | noPackage (before : r = .error ⟨⟨1, 1⟩, .noPackage⟩) (after : r' = r) : Moves k r r'
  | shifted (other : ∀ d, r = .error d → d.fault ≠ .noPackage)
      (after : r' = moved k (SourceFile.down k) r) : Moves k r r'

theorem moves_error {d : Diagnostic} (other : d.fault ≠ .noPackage) :
    Moves k (.error d) (.error (d.down k)) :=
  .shifted (fun _ same => Except.error.inj same ▸ other) rfl

theorem moves_ofTree (k : Nat) (path source : String) (t : Tree) :
    Moves k (SourceFile.ofTree path source t)
      (SourceFile.ofTree path (behindLines k source) (t.down k)) := by
  simp only [SourceFile.ofTree, encode_behindLines, firstNul?_behind, firstError?_down]
  cases firstNul? (Utf8.encode source.toList) with
  | some offset =>
    simp only [Option.map_some, positionAt_behind]
    exact moves_error (d := ⟨positionAt (Utf8.encode source.toList) offset, .nulCharacter⟩) nofun
  | none =>
    cases searched : t.firstError? with
    | some bad =>
      obtain ⟨mem, isBad⟩ := bad_of_firstError? searched
      simp only [Option.map_some, Option.map_none, diagnose_down, fault_down]
      exact moves_error (blames_of_isBad mem isBad).fault_ne
    | none =>
      have nodes := topLevelNodes_down k t
      unfold topLevelNodes at nodes
      simp only [Option.map_none, nodes]
      by_cases nothing : t.topLevelNodes = []
      · unfold topLevelNodes at nothing
        rw [nothing]
        exact .noPackage rfl rfl
      · refine .shifted (fun d failed => ?_) ?_
        · obtain failed | ⟨_, -, done⟩ := bind_eq_error_iff.1 failed
          · obtain ⟨empty, -⟩ | ⟨u, -, blamed⟩ := blames_of_topLevel failed
            · exact absurd empty nothing
            · exact blamed.fault_ne
          · cases done
        · unfold topLevelNodes at nothing
          rw [topLevel_down nothing]
          exact moved_bind (fun found => by rfl) _

theorem decodeText_behind {bytes : List UInt8} (illFormed : ¬ Utf8.IsUtf8 bytes) (k : Nat) :
    ∃ d, decodeText bytes = .error d ∧
      decodeText (List.replicate k lineFeed ++ bytes) = .error (d.down k) := by
  obtain ⟨text, rest, stops⟩ := Utf8.exists_stopsAt bytes
  have more : rest ≠ [] := by
    rintro rfl
    refine illFormed (Utf8.isUtf8_iff_wellFormed.2 ⟨text, ?_⟩)
    rw [stops.split, List.append_nil]
  refine ⟨_, decodeText_of_lastGood (stops.lastGood more), ?_⟩
  rw [decodeText_of_lastGood ((stops.behind k).lastGood more), Utf8.encode_append,
    Utf8.encode_replicate, List.length_append, List.length_replicate, Nat.add_comm k,
    positionAt_behind]
  rfl

end

/-- Blank lines in front of a text and of all the nodes of its tree move the line of every name that
is declared, and of what is reported instead, and nothing else. There is one report that does not
move: a file with nothing in it misses its package clause in the first column of the first line.
Bytes that are no text are refused so much further down as well. -/
theorem blank_lines_only_move_lines (k : Nat) (path source : String) (t : Tree) :
    (∀ file, SourceFile.ofTree path source t = .ok file →
      SourceFile.ofTree path (behindLines k source) (t.down k) = .ok (file.down k)) ∧
    (∀ d, SourceFile.ofTree path source t = .error d → d.fault ≠ .noPackage →
      SourceFile.ofTree path (behindLines k source) (t.down k) = .error (d.down k)) ∧
    (∀ d, SourceFile.ofTree path source t = .error d → d.fault = .noPackage →
      d.position = ⟨1, 1⟩ ∧
      SourceFile.ofTree path (behindLines k source) (t.down k) = .error d) ∧
    ∀ bytes, ¬ Utf8.IsUtf8 bytes → ∃ d, decodeText bytes = .error d ∧
      decodeText (List.replicate k lineFeed ++ bytes) = .error (d.down k) := by
  have moves := moves_ofTree k path source t
  refine ⟨fun file read => ?_, fun d failed other => ?_, fun d failed nothing => ?_,
    fun bytes illFormed => decodeText_behind illFormed k⟩
  · obtain ⟨before, -⟩ | ⟨-, after⟩ := moves
    · cases before.symm.trans read
    · rw [after, read, moved_ok]
  · obtain ⟨before, -⟩ | ⟨-, after⟩ := moves
    · obtain rfl := Except.error.inj (before.symm.trans failed)
      exact absurd rfl other
    · rw [after, failed, moved_error]
  · obtain ⟨before, after⟩ | ⟨other, -⟩ := moves
    · obtain rfl := Except.error.inj (before.symm.trans failed)
      exact ⟨rfl, after.trans failed⟩
    · exact absurd nothing (other d failed)

/-- The fault of the second line is reported two lines further down. -/
example : SourceFile.ofTree "a.go" (behindLines 2 Sample.incrementText)
    (Sample.incrementTree.down 2) = .error ⟨⟨4, 10⟩, .notDeclaration "inc_statement"⟩ := by
  decide +kernel

end TagIndex
